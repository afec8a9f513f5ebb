import RepairDesk.Proofs.Commit

namespace RepairDesk

open Tables

/-- Every table of the store holds at most one row per key. -/
structure Keyed (s : Store) : Prop where
  orders : (s.orders.map (·.id)).Nodup
  coupons : (s.coupons.map (·.id)).Nodup
  paymentMethods : (s.paymentMethods.map (·.id)).Nodup
  reports : (s.reports.map (·.reportId)).Nodup

namespace Keyed

variable {s t : Store}

theorem empty : Keyed Store.empty where
  orders := List.nodup_nil
  coupons := List.nodup_nil
  paymentMethods := List.nodup_nil
  reports := List.nodup_nil

theorem apply (h : Keyed s) {c : Change} (happ : s.apply c = .ok t) : Keyed t := by
  cases c with
  | insertOrder o =>
      obtain ⟨hnew, rfl⟩ := Store.apply_insertOrder.mp happ
      exact { h with orders := nodup_append_row _ h.orders ((find?_eq_none_iff _).mp hnew) }
  | updateOrder o v =>
      obtain ⟨_, rfl⟩ := Store.apply_updateOrder.mp happ
      exact { h with orders := nodup_replaceBy _ h.orders }
  | deleteOrder id v =>
      obtain ⟨_, rfl⟩ := Store.apply_deleteOrder.mp happ
      exact { h with orders := nodup_filter _ h.orders }
  | insertCoupon c =>
      obtain ⟨hnew, _, rfl⟩ := Store.apply_insertCoupon.mp happ
      exact { h with coupons := nodup_append_row _ h.coupons ((find?_eq_none_iff _).mp hnew) }
  | updateCoupon c v =>
      obtain ⟨_, _, rfl⟩ := Store.apply_updateCoupon.mp happ
      exact { h with coupons := nodup_replaceBy _ h.coupons }
  | deleteCoupon id v =>
      obtain ⟨_, rfl⟩ := Store.apply_deleteCoupon.mp happ
      exact { h with coupons := nodup_filter _ h.coupons }
  | insertPaymentMethod m =>
      obtain ⟨hnew, rfl⟩ := Store.apply_insertPaymentMethod.mp happ
      exact { h with
        paymentMethods := nodup_append_row _ h.paymentMethods ((find?_eq_none_iff _).mp hnew) }
  | updatePaymentMethod m v =>
      obtain ⟨_, rfl⟩ := Store.apply_updatePaymentMethod.mp happ
      exact { h with paymentMethods := nodup_replaceBy _ h.paymentMethods }
  | deletePaymentMethod id v =>
      obtain ⟨_, rfl⟩ := Store.apply_deletePaymentMethod.mp happ
      exact { h with paymentMethods := nodup_filter _ h.paymentMethods }
  | insertReport r =>
      obtain ⟨hnew, _, rfl⟩ := Store.apply_insertReport.mp happ
      exact { h with reports := nodup_append_row _ h.reports ((find?_eq_none_iff _).mp hnew) }
  | updateReport r v =>
      obtain ⟨_, _, rfl⟩ := Store.apply_updateReport.mp happ
      exact { h with reports := nodup_replaceBy _ h.reports }
  | deleteReport id v =>
      obtain ⟨_, rfl⟩ := Store.apply_deleteReport.mp happ
      exact { h with reports := nodup_filter _ h.reports }
  | enqueue m =>
      obtain rfl := Store.apply_enqueue.mp happ
      exact { h with }

/-- A commit keeps the keys unique, by induction on the changes it applies. -/
theorem commit (h : Keyed s) {cs : ChangeSet} (hc : s.commit cs = .ok t) : Keyed t := by
  induction cs generalizing s with
  | nil =>
      rw [Store.commit_nil] at hc
      cases hc
      exact h
  | cons c cs ih =>
      obtain ⟨u, happ, hrest⟩ := Store.commit_cons_eq_ok.mp hc
      exact ih (h.apply happ) hrest

theorem findOrder?_eq_some (h : Keyed s) {o : RepairOrder} (ho : o ∈ s.orders) :
    s.findOrder? o.id = some o :=
  find?_eq_some_of_mem _ h.orders ho

theorem findCoupon?_eq_some (h : Keyed s) {c : Coupon} (hc : c ∈ s.coupons) :
    s.findCoupon? c.id = some c :=
  find?_eq_some_of_mem _ h.coupons hc

theorem findPaymentMethod?_eq_some (h : Keyed s) {m : PaymentMethod}
    (hm : m ∈ s.paymentMethods) : s.findPaymentMethod? m.id = some m :=
  find?_eq_some_of_mem _ h.paymentMethods hm

theorem findReport?_eq_some (h : Keyed s) {r : TechnicianReport} (hr : r ∈ s.reports) :
    s.findReport? r.reportId = some r :=
  find?_eq_some_of_mem _ h.reports hr

end Keyed

namespace Store

variable {s : Store}

theorem mem_of_findOrder? {x : Uuid} {o : RepairOrder} (h : s.findOrder? x = some o) :
    o ∈ s.orders ∧ o.id = x :=
  (key_eq_of_find?_eq_some _ h).symm

theorem mem_of_findCoupon? {x : Uuid} {c : Coupon} (h : s.findCoupon? x = some c) :
    c ∈ s.coupons ∧ c.id = x :=
  (key_eq_of_find?_eq_some _ h).symm

theorem mem_of_findPaymentMethod? {x : Uuid} {m : PaymentMethod}
    (h : s.findPaymentMethod? x = some m) : m ∈ s.paymentMethods ∧ m.id = x :=
  (key_eq_of_find?_eq_some _ h).symm

theorem mem_of_findReport? {x : Uuid} {r : TechnicianReport} (h : s.findReport? x = some r) :
    r ∈ s.reports ∧ r.reportId = x :=
  (key_eq_of_find?_eq_some _ h).symm

theorem hasActiveReport_eq_true {x : Uuid} :
    s.hasActiveReport x = true ↔ ∃ r ∈ s.reports, r.repairOrderId = x ∧ r.status ≠ .rejected := by
  simp [hasActiveReport]

theorem hasActiveReport_eq_false {x : Uuid} :
    s.hasActiveReport x = false ↔ ∀ r ∈ s.reports, r.repairOrderId = x → r.status = .rejected := by
  simp [hasActiveReport]

end Store

end RepairDesk
