import RepairDesk.Proofs.Keys

namespace RepairDesk

open Store

namespace Tables

section NoClash

variable {α : Type} (key : α → Uuid) (clash : α → α → Prop)

/-- Rows that clash share a key; with one row per key, no two rows of the table clash. -/
def NoClash (rows : List α) : Prop :=
  ∀ a ∈ rows, ∀ b ∈ rows, clash a b → key a = key b

def ClearOf (rows : List α) (row : α) : Prop :=
  ∀ q ∈ rows, key q ≠ key row → ¬ clash q row

variable {key clash} {rows : List α} {row : α}

theorem NoClash.append (h : NoClash key clash rows) (hclear : ClearOf key clash rows row)
    (hsymm : ∀ a b, clash a b → clash b a) : NoClash key clash (rows ++ [row]) := by
  have hsrc : ∀ q ∈ rows ++ [row], q ∈ rows ∨ q = row := by
    intro q hq
    simpa using hq
  intro a ha b hb hab
  rcases hsrc a ha with hkept | rfl <;> rcases hsrc b hb with hkept' | rfl
  · exact h a hkept b hkept' hab
  · by_contra hne
    exact hclear a hkept hne hab
  · by_contra hne
    exact hclear b hkept' (Ne.symm hne) (hsymm _ _ hab)
  · rfl

theorem NoClash.replaceBy (h : NoClash key clash rows) (hclear : ClearOf key clash rows row)
    (hsymm : ∀ a b, clash a b → clash b a) : NoClash key clash (Store.replaceBy key row rows) := by
  -- a row of the result is a kept row under another key, or the written row
  have hsrc : ∀ q ∈ Store.replaceBy key row rows, (q ∈ rows ∧ key q ≠ key row) ∨ q = row := by
    intro q hq
    rcases (mem_replaceBy key).mp hq with hkept | ⟨rfl, -⟩
    · exact .inl hkept
    · exact .inr rfl
  intro a ha b hb hab
  rcases hsrc a ha with ⟨hkept, hka⟩ | rfl <;> rcases hsrc b hb with ⟨hkept', hkb⟩ | rfl
  · exact h a hkept b hkept' hab
  · exact absurd hab (hclear a hkept hka)
  · exact absurd (hsymm _ _ hab) (hclear b hkept' hkb)
  · rfl

theorem NoClash.filter (h : NoClash key clash rows) (p : α → Bool) :
    NoClash key clash (rows.filter p) := by
  intro a ha b hb hab
  exact h a (List.mem_filter.mp ha).1 b (List.mem_filter.mp hb).1 hab

theorem NoClash.countP_le_one (h : NoClash key clash rows) (hkeys : (rows.map key).Nodup)
    {p : α → Bool} (hp : ∀ a ∈ rows, ∀ b ∈ rows, p a → p b → clash a b) :
    rows.countP p ≤ 1 := by
  rw [List.countP_eq_length_filter]
  have hnodup := ((List.filter_sublist (p := p)).map key).nodup hkeys
  match hl : rows.filter p with
  | [] => simp
  | [_] => simp
  | a :: b :: rest =>
      -- two holders clash, so they share a key, which unique keys forbid
      have ha : a ∈ rows.filter p := by simp [hl]
      have hb : b ∈ rows.filter p := by simp [hl]
      rw [List.mem_filter] at ha hb
      have hsame := h a ha.1 b hb.1 (hp a ha.1 b hb.1 ha.2 hb.2)
      rw [hl] at hnodup
      simp only [List.map_cons, List.nodup_cons, List.mem_cons, not_or] at hnodup
      exact absurd hsame hnodup.1.1

end NoClash

end Tables

open Tables

def TechnicianReport.Rivals (r q : TechnicianReport) : Prop :=
  r.repairOrderId = q.repairOrderId ∧ r.status ≠ .rejected ∧ q.status ≠ .rejected

theorem TechnicianReport.Rivals.symm {r q : TechnicianReport} (h : r.Rivals q) : q.Rivals r :=
  ⟨h.1.symm, h.2.2, h.2.1⟩

/-- The rules every commit keeps: one row per key, no two coupons with one code, and at most one
report per order that is not rejected. -/
structure Store.WellFormed (s : Store) : Prop where
  keyed : Keyed s
  /-- Coupons with one code are one coupon. -/
  codes : NoClash (·.id) (fun a b : Coupon => a.code = b.code) s.coupons
  /-- Two reports of one order that are both not rejected are one report. -/
  single : NoClash (·.reportId) TechnicianReport.Rivals s.reports

namespace Store

variable {s t : Store}

theorem clearOf_of_checkCouponCode {c : Coupon} (h : s.checkCouponCode c = .ok ()) :
    ClearOf (·.id) (fun a b : Coupon => a.code = b.code) s.coupons c :=
  checkCouponCode_eq_ok.mp h

theorem clearOf_of_checkSingleActiveReport {r : TechnicianReport}
    (h : s.checkSingleActiveReport r = .ok ()) :
    ClearOf (·.reportId) TechnicianReport.Rivals s.reports r := by
  intro q hq hne ⟨hsame, hqlive, hrlive⟩
  rcases checkSingleActiveReport_eq_ok.mp h with hrejected | hclear
  · exact hrlive hrejected
  · exact hqlive (hclear q hq hne hsame)

namespace WellFormed

theorem empty : Store.empty.WellFormed where
  keyed := Keyed.empty
  codes := by simp [NoClash, Store.empty]
  single := by simp [NoClash, Store.empty]

theorem apply (h : s.WellFormed) {c : Change} (happ : s.apply c = .ok t) : t.WellFormed := by
  have hkeyed := h.keyed.apply happ
  have hcodes : ∀ a b : Coupon, a.code = b.code → b.code = a.code := fun _ _ => Eq.symm
  have hrivals : ∀ a b : TechnicianReport, a.Rivals b → b.Rivals a := fun _ _ => .symm
  cases c with
  | insertOrder o =>
      obtain ⟨-, rfl⟩ := apply_insertOrder.mp happ
      exact ⟨hkeyed, h.codes, h.single⟩
  | updateOrder o v =>
      obtain ⟨-, rfl⟩ := apply_updateOrder.mp happ
      exact ⟨hkeyed, h.codes, h.single⟩
  | deleteOrder id v =>
      obtain ⟨-, rfl⟩ := apply_deleteOrder.mp happ
      exact ⟨hkeyed, h.codes, h.single⟩
  | insertCoupon c =>
      obtain ⟨-, hcheck, rfl⟩ := apply_insertCoupon.mp happ
      exact ⟨hkeyed, h.codes.append (clearOf_of_checkCouponCode hcheck) hcodes, h.single⟩
  | updateCoupon c v =>
      obtain ⟨-, hcheck, rfl⟩ := apply_updateCoupon.mp happ
      exact ⟨hkeyed, h.codes.replaceBy (clearOf_of_checkCouponCode hcheck) hcodes, h.single⟩
  | deleteCoupon id v =>
      obtain ⟨-, rfl⟩ := apply_deleteCoupon.mp happ
      exact ⟨hkeyed, h.codes.filter _, h.single⟩
  | insertPaymentMethod m =>
      obtain ⟨-, rfl⟩ := apply_insertPaymentMethod.mp happ
      exact ⟨hkeyed, h.codes, h.single⟩
  | updatePaymentMethod m v =>
      obtain ⟨-, rfl⟩ := apply_updatePaymentMethod.mp happ
      exact ⟨hkeyed, h.codes, h.single⟩
  | deletePaymentMethod id v =>
      obtain ⟨-, rfl⟩ := apply_deletePaymentMethod.mp happ
      exact ⟨hkeyed, h.codes, h.single⟩
  | insertReport r =>
      obtain ⟨-, hcheck, rfl⟩ := apply_insertReport.mp happ
      exact ⟨hkeyed, h.codes, h.single.append (clearOf_of_checkSingleActiveReport hcheck) hrivals⟩
  | updateReport r v =>
      obtain ⟨-, hcheck, rfl⟩ := apply_updateReport.mp happ
      exact ⟨hkeyed, h.codes,
        h.single.replaceBy (clearOf_of_checkSingleActiveReport hcheck) hrivals⟩
  | deleteReport id v =>
      obtain ⟨-, rfl⟩ := apply_deleteReport.mp happ
      exact ⟨hkeyed, h.codes, h.single.filter _⟩
  | enqueue m =>
      obtain rfl := apply_enqueue.mp happ
      exact ⟨hkeyed, h.codes, h.single⟩

theorem commit (h : s.WellFormed) {cs : ChangeSet} (hc : s.commit cs = .ok t) : t.WellFormed := by
  induction cs generalizing s with
  | nil =>
      rw [commit_nil, Except.ok.injEq] at hc
      subst hc
      exact h
  | cons c cs ih =>
      obtain ⟨u, happ, hrest⟩ := commit_cons_eq_ok.mp hc
      exact ih (h.apply happ) hrest

theorem findCouponByCode?_eq_some (h : s.WellFormed) {code : String} {c : Coupon} :
    s.findCouponByCode? code = some c ↔ c ∈ s.coupons ∧ c.code = code := by
  constructor
  · intro hfound
    exact ⟨List.mem_of_find?_eq_some hfound, by simpa using List.find?_some hfound⟩
  · rintro ⟨hc, rfl⟩
    obtain ⟨q, hq⟩ : ∃ q, s.findCouponByCode? c.code = some q :=
      Option.isSome_iff_exists.mp (List.find?_isSome.mpr ⟨c, hc, by simp⟩)
    have hqmem : q ∈ s.coupons := List.mem_of_find?_eq_some hq
    have hqcode : q.code = c.code := by simpa using List.find?_some hq
    rw [hq, eq_of_key_eq _ h.keyed.coupons hqmem hc (h.codes q hqmem c hc hqcode)]

theorem hasActiveReport_iff (h : s.WellFormed) {x : Uuid} :
    s.hasActiveReport x = true ↔
      s.reports.countP (fun r => r.repairOrderId == x && r.status != .rejected) = 1 := by
  have hle : s.reports.countP (fun r => r.repairOrderId == x && r.status != .rejected) ≤ 1 := by
    refine h.single.countP_le_one h.keyed.reports fun a _ b _ ha hb => ?_
    simp only [Bool.and_eq_true, beq_iff_eq, bne_iff_ne, ne_eq] at ha hb
    exact ⟨ha.1.trans hb.1.symm, ha.2, hb.2⟩
  rw [hasActiveReport, List.any_eq_true, ← List.countP_pos_iff]
  omega

end WellFormed

end Store

/-- Whatever a change set holds, raw rows included, committing it to a store that keeps its
rules leaves a store that keeps them: one row per key, every row found under its own key, no two
coupons with one code, so that the coupon found by a code is the one with that code, and at most
one report per order that is not rejected, so that an order has an active report exactly when it
has one such report. -/
theorem commit_preserves_store_rules {s t : Store} {cs : ChangeSet} (hs : s.WellFormed)
    (hc : s.commit cs = .ok t) :
    t.WellFormed ∧
      (∀ o ∈ t.orders, t.findOrder? o.id = some o) ∧
      (∀ c ∈ t.coupons, t.findCoupon? c.id = some c) ∧
      (∀ m ∈ t.paymentMethods, t.findPaymentMethod? m.id = some m) ∧
      (∀ r ∈ t.reports, t.findReport? r.reportId = some r) ∧
      (∀ code c, t.findCouponByCode? code = some c ↔ c ∈ t.coupons ∧ c.code = code) ∧
      ∀ x, t.hasActiveReport x = true ↔
        t.reports.countP (fun r => r.repairOrderId == x && r.status != .rejected) = 1 := by
  have ht : t.WellFormed := hs.commit hc
  exact ⟨ht, fun _ => ht.keyed.findOrder?_eq_some, fun _ => ht.keyed.findCoupon?_eq_some,
    fun _ => ht.keyed.findPaymentMethod?_eq_some, fun _ => ht.keyed.findReport?_eq_some,
    fun _ _ => ht.findCouponByCode?_eq_some, fun _ => ht.hasActiveReport_iff⟩

/-- A raw change set that adds a coupon and renames it commits to the empty store, which keeps
the rules. -/
theorem renamed_coupon_keeps_store_rules :
    let spring : Coupon := ⟨Uuid.ofNat 1, "SPRING10", 500, 3, 0, none, 0, ⟨0, 0⟩, ⟨0, 0⟩⟩
    let cs : ChangeSet :=
      [.insertCoupon spring, .updateCoupon { spring with code := "SUMMER10", version := 1 } 0]
    ∃ t, Store.empty.WellFormed ∧ Store.empty.commit cs = .ok t ∧
      t.WellFormed ∧
      (∀ o ∈ t.orders, t.findOrder? o.id = some o) ∧
      (∀ c ∈ t.coupons, t.findCoupon? c.id = some c) ∧
      (∀ m ∈ t.paymentMethods, t.findPaymentMethod? m.id = some m) ∧
      (∀ r ∈ t.reports, t.findReport? r.reportId = some r) ∧
      (∀ code c, t.findCouponByCode? code = some c ↔ c ∈ t.coupons ∧ c.code = code) ∧
      ∀ x, t.hasActiveReport x = true ↔
        t.reports.countP (fun r => r.repairOrderId == x && r.status != .rejected) = 1 := by
  intro spring cs
  exact ⟨_, .empty, rfl, commit_preserves_store_rules .empty (rfl : Store.empty.commit cs = _)⟩

end RepairDesk
