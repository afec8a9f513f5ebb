import RepairDesk.Workshop
import RepairDesk.Store.Row
import RepairDesk.Proofs.Tables

/-! Committing a change set, change by change, and performing an operation. -/

namespace RepairDesk

open Tables

section Outcomes

variable {ε α β : Type}

theorem bind_eq_ok {x : Except ε α} {f : α → Except ε β} {b : β} :
    (x >>= f) = .ok b ↔ ∃ a, x = .ok a ∧ f a = .ok b := by
  cases x <;> simp [bind, Except.bind]

theorem map_eq_ok {x : Except ε α} {f : α → β} {b : β} :
    (f <$> x) = .ok b ↔ ∃ a, x = .ok a ∧ f a = b := by
  cases x <;> simp [Functor.map, Except.map]

theorem pure_eq_ok {a b : α} : (pure a : Except ε α) = .ok b ↔ a = b := by
  simp [pure, Except.pure]

theorem exists_unit_iff {p : Unit → Prop} : (∃ u, p u) ↔ p () :=
  ⟨fun ⟨(), h⟩ => h, fun h => ⟨(), h⟩⟩

theorem ite_bind_eq_ok {c : Prop} [Decidable c] {x : Except ε Unit} {k : Except ε β} {b : β} :
    (if c then x >>= (fun _ => k) else k) = .ok b ↔ (c → x = .ok ()) ∧ k = .ok b := by
  by_cases hc : c
  · simp only [hc, ite_true, bind_eq_ok, exists_unit_iff, forall_const]
  · simp only [hc, ite_false, false_implies, true_and]

theorem lift_refusal_eq_ok {x : Except WorkflowError α} {a : α} :
    (liftM x : Except Failure α) = .ok a ↔ x = .ok a := by
  cases x <;> simp [liftM, monadLift, MonadLift.monadLift, Except.mapError]

theorem lift_overflow_eq_ok {x : Except Numeric.Overflow α} {a : α} :
    (liftM x : Except Failure α) = .ok a ↔ x = .ok a := by
  cases x <;> simp [liftM, monadLift, MonadLift.monadLift, Except.mapError]

theorem bind_eq_error {x : Except ε α} {f : α → Except ε β} {e : ε} :
    (x >>= f) = .error e ↔ x = .error e ∨ ∃ a, x = .ok a ∧ f a = .error e := by
  cases x <;> simp [bind, Except.bind]

theorem map_eq_error {x : Except ε α} {f : α → β} {e : ε} :
    (f <$> x) = .error e ↔ x = .error e := by
  cases x <;> simp [Functor.map, Except.map]

theorem lift_refusal_eq_error {x : Except WorkflowError α} {f : Failure} :
    (liftM x : Except Failure α) = .error f ↔ ∃ e, x = .error e ∧ f = .refused e := by
  cases x <;> simp [liftM, monadLift, MonadLift.monadLift, Except.mapError, eq_comm]

theorem lift_overflow_eq_error {x : Except Numeric.Overflow α} {f : Failure} :
    (liftM x : Except Failure α) = .error f ↔ ∃ e, x = .error e ∧ f = .overflow e := by
  cases x <;> simp [liftM, monadLift, MonadLift.monadLift, Except.mapError, eq_comm]

end Outcomes

def Row.version : Row → Int
  | .order o => o.version
  | .coupon c => c.version
  | .paymentMethod m => m.version
  | .report r => r.version

namespace Change

def target : Change → Option (Entity × Uuid)
  | .insertOrder o | .updateOrder o _ => some (.repairOrder, o.id)
  | .deleteOrder id _ => some (.repairOrder, id)
  | .insertCoupon c | .updateCoupon c _ => some (.coupon, c.id)
  | .deleteCoupon id _ => some (.coupon, id)
  | .insertPaymentMethod m | .updatePaymentMethod m _ => some (.paymentMethod, m.id)
  | .deletePaymentMethod id _ => some (.paymentMethod, id)
  | .insertReport r | .updateReport r _ => some (.technicianReport, r.reportId)
  | .deleteReport id _ => some (.technicianReport, id)
  | .enqueue _ => none

def written : Change → Option Row
  | .insertOrder o | .updateOrder o _ => some (.order o)
  | .insertCoupon c | .updateCoupon c _ => some (.coupon c)
  | .insertPaymentMethod m | .updatePaymentMethod m _ => some (.paymentMethod m)
  | .insertReport r | .updateReport r _ => some (.report r)
  | _ => none

def expects : Change → Option (Entity × Uuid × Int)
  | .updateOrder o v => some (.repairOrder, o.id, v)
  | .deleteOrder id v => some (.repairOrder, id, v)
  | .updateCoupon c v => some (.coupon, c.id, v)
  | .deleteCoupon id v => some (.coupon, id, v)
  | .updatePaymentMethod m v => some (.paymentMethod, m.id, v)
  | .deletePaymentMethod id v => some (.paymentMethod, id, v)
  | .updateReport r v => some (.technicianReport, r.reportId, v)
  | .deleteReport id v => some (.technicianReport, id, v)
  | _ => none

end Change

namespace Store

variable {s t : Store}

@[simp] theorem findRow?_repairOrder (s : Store) (x : Uuid) :
    s.findRow? .repairOrder x = (s.findOrder? x).map .order := rfl

@[simp] theorem findRow?_coupon (s : Store) (x : Uuid) :
    s.findRow? .coupon x = (s.findCoupon? x).map .coupon := rfl

@[simp] theorem findRow?_paymentMethod (s : Store) (x : Uuid) :
    s.findRow? .paymentMethod x = (s.findPaymentMethod? x).map .paymentMethod := rfl

@[simp] theorem findRow?_technicianReport (s : Store) (x : Uuid) :
    s.findRow? .technicianReport x = (s.findReport? x).map .report := rfl

theorem checkVersion_eq_ok {entity : Entity} {id : Uuid} {current : Option Int} {expected : Int}
    {u : Unit} : checkVersion entity id current expected = .ok u ↔ current = some expected := by
  unfold checkVersion
  split <;> simp_all

theorem checkCouponCode_eq_ok {c : Coupon} {u : Unit} :
    s.checkCouponCode c = .ok u ↔ ∀ other ∈ s.coupons, other.id ≠ c.id → other.code ≠ c.code := by
  unfold checkCouponCode
  split
  · rename_i htaken
    simp only [List.any_eq_true, Bool.and_eq_true, bne_iff_ne, beq_iff_eq] at htaken
    obtain ⟨other, hother, hid, hcode⟩ := htaken
    simp only [reduceCtorEq, false_iff, not_forall]
    exact ⟨other, hother, hid, not_not.mpr hcode⟩
  · rename_i hfree
    simp only [List.any_eq_true, Bool.and_eq_true, bne_iff_ne, beq_iff_eq, not_exists,
      not_and] at hfree
    simpa using hfree

theorem checkSingleActiveReport_eq_ok {r : TechnicianReport} {u : Unit} :
    s.checkSingleActiveReport r = .ok u ↔
      r.status = .rejected ∨ ∀ other ∈ s.reports, other.reportId ≠ r.reportId →
        other.repairOrderId = r.repairOrderId → other.status = .rejected := by
  unfold checkSingleActiveReport
  split
  · rename_i hrejected
    simp only [beq_iff_eq] at hrejected
    simp [hrejected]
  · rename_i hlive
    simp only [beq_iff_eq] at hlive
    split
    · rename_i hclash
      simp only [List.any_eq_true, Bool.and_eq_true, bne_iff_ne, beq_iff_eq] at hclash
      obtain ⟨other, hother, ⟨hid, horder⟩, hstatus⟩ := hclash
      simp only [reduceCtorEq, false_iff, not_or, not_forall]
      exact ⟨hlive, other, hother, hid, horder, hstatus⟩
    · rename_i hclear
      simp only [List.any_eq_true, Bool.and_eq_true, bne_iff_ne, beq_iff_eq, not_exists,
        not_and] at hclear
      simp only [true_iff]
      right
      intro other hother hid horder
      by_contra hstatus
      exact hclear other hother ⟨hid, horder⟩ hstatus

/-! ### One change -/

@[simp] theorem apply_insertOrder {o : RepairOrder} :
    s.apply (.insertOrder o) = .ok t ↔
      s.findOrder? o.id = none ∧ t = { s with orders := s.orders ++ [o] } := by
  cases hfound : s.findOrder? o.id with
  | none => simpa [apply, hfound] using eq_comm
  | some _ => simp [apply, hfound]

@[simp] theorem apply_updateOrder {o : RepairOrder} {v : Int} :
    s.apply (.updateOrder o v) = .ok t ↔
      (s.findOrder? o.id).map (·.version) = some v ∧
        t = { s with orders := replaceBy (·.id) o s.orders } := by
  simp only [apply, bind_eq_ok, checkVersion_eq_ok, pure_eq_ok, exists_const]
  exact and_congr_right fun _ => eq_comm

@[simp] theorem apply_deleteOrder {id : Uuid} {v : Int} :
    s.apply (.deleteOrder id v) = .ok t ↔
      (s.findOrder? id).map (·.version) = some v ∧
        t = { s with orders := s.orders.filter (·.id != id) } := by
  simp only [apply, bind_eq_ok, checkVersion_eq_ok, pure_eq_ok, exists_const]
  exact and_congr_right fun _ => eq_comm

@[simp] theorem apply_insertCoupon {c : Coupon} :
    s.apply (.insertCoupon c) = .ok t ↔
      s.findCoupon? c.id = none ∧ s.checkCouponCode c = .ok () ∧
        t = { s with coupons := s.coupons ++ [c] } := by
  cases hfound : s.findCoupon? c.id with
  | none =>
      simp only [apply, hfound, Option.isSome_none, Bool.false_eq_true, ite_false, bind_eq_ok,
        pure_eq_ok, exists_unit_iff, true_and]
      exact and_congr_right fun _ => eq_comm
  | some _ => simp [apply, hfound, throw, throwThe, MonadExceptOf.throw, bind, Except.bind]

@[simp] theorem apply_updateCoupon {c : Coupon} {v : Int} :
    s.apply (.updateCoupon c v) = .ok t ↔
      (s.findCoupon? c.id).map (·.version) = some v ∧ s.checkCouponCode c = .ok () ∧
        t = { s with coupons := replaceBy (·.id) c s.coupons } := by
  simp only [apply, bind_eq_ok, checkVersion_eq_ok, pure_eq_ok, exists_unit_iff]
  exact and_congr_right fun _ => and_congr_right fun _ => eq_comm

@[simp] theorem apply_deleteCoupon {id : Uuid} {v : Int} :
    s.apply (.deleteCoupon id v) = .ok t ↔
      (s.findCoupon? id).map (·.version) = some v ∧
        t = { s with coupons := s.coupons.filter (·.id != id) } := by
  simp only [apply, bind_eq_ok, checkVersion_eq_ok, pure_eq_ok, exists_const]
  exact and_congr_right fun _ => eq_comm

@[simp] theorem apply_insertPaymentMethod {m : PaymentMethod} :
    s.apply (.insertPaymentMethod m) = .ok t ↔
      s.findPaymentMethod? m.id = none ∧
        t = { s with paymentMethods := s.paymentMethods ++ [m] } := by
  cases hfound : s.findPaymentMethod? m.id with
  | none => simpa [apply, hfound] using eq_comm
  | some _ => simp [apply, hfound]

@[simp] theorem apply_updatePaymentMethod {m : PaymentMethod} {v : Int} :
    s.apply (.updatePaymentMethod m v) = .ok t ↔
      (s.findPaymentMethod? m.id).map (·.version) = some v ∧
        t = { s with paymentMethods := replaceBy (·.id) m s.paymentMethods } := by
  simp only [apply, bind_eq_ok, checkVersion_eq_ok, pure_eq_ok, exists_const]
  exact and_congr_right fun _ => eq_comm

@[simp] theorem apply_deletePaymentMethod {id : Uuid} {v : Int} :
    s.apply (.deletePaymentMethod id v) = .ok t ↔
      (s.findPaymentMethod? id).map (·.version) = some v ∧
        t = { s with paymentMethods := s.paymentMethods.filter (·.id != id) } := by
  simp only [apply, bind_eq_ok, checkVersion_eq_ok, pure_eq_ok, exists_const]
  exact and_congr_right fun _ => eq_comm

@[simp] theorem apply_insertReport {r : TechnicianReport} :
    s.apply (.insertReport r) = .ok t ↔
      s.findReport? r.reportId = none ∧ s.checkSingleActiveReport r = .ok () ∧
        t = { s with reports := s.reports ++ [r] } := by
  cases hfound : s.findReport? r.reportId with
  | none =>
      simp only [apply, hfound, Option.isSome_none, Bool.false_eq_true, ite_false, bind_eq_ok,
        pure_eq_ok, exists_unit_iff, true_and]
      exact and_congr_right fun _ => eq_comm
  | some _ => simp [apply, hfound, throw, throwThe, MonadExceptOf.throw, bind, Except.bind]

@[simp] theorem apply_updateReport {r : TechnicianReport} {v : Int} :
    s.apply (.updateReport r v) = .ok t ↔
      (s.findReport? r.reportId).map (·.version) = some v ∧ s.checkSingleActiveReport r = .ok () ∧
        t = { s with reports := replaceBy (·.reportId) r s.reports } := by
  simp only [apply, bind_eq_ok, checkVersion_eq_ok, pure_eq_ok, exists_unit_iff]
  exact and_congr_right fun _ => and_congr_right fun _ => eq_comm

@[simp] theorem apply_deleteReport {id : Uuid} {v : Int} :
    s.apply (.deleteReport id v) = .ok t ↔
      (s.findReport? id).map (·.version) = some v ∧
        t = { s with reports := s.reports.filter (·.reportId != id) } := by
  simp only [apply, bind_eq_ok, checkVersion_eq_ok, pure_eq_ok, exists_const]
  exact and_congr_right fun _ => eq_comm

@[simp] theorem apply_enqueue {m : OutboxMessage} :
    s.apply (.enqueue m) = .ok t ↔ t = { s with outbox := s.outbox ++ [m] } := by
  simpa [apply] using eq_comm

theorem version_eq_of_apply {c : Change} (h : s.apply c = .ok t) {e : Entity} {x : Uuid}
    {v : Int} (hc : c.expects = some (e, x, v)) : (s.findRow? e x).map Row.version = some v := by
  cases c <;> simp only [Change.expects, reduceCtorEq, Option.some.injEq, Prod.mk.injEq] at hc <;>
    obtain ⟨rfl, rfl, rfl⟩ := hc <;>
    simp only [apply_updateOrder, apply_deleteOrder, apply_updateCoupon, apply_deleteCoupon,
      apply_updatePaymentMethod, apply_deletePaymentMethod, apply_updateReport,
      apply_deleteReport] at h <;>
    simpa [Option.map_map, Function.comp_def, Row.version] using h.1

theorem findRow?_apply {c : Change} (h : s.apply c = .ok t) (e : Entity) (x : Uuid) :
    t.findRow? e x = if c.target = some (e, x) then c.written else s.findRow? e x := by
  cases c with
  | insertOrder o =>
      obtain ⟨hnew, rfl⟩ := apply_insertOrder.mp h
      cases e <;> simp [Change.target, Change.written, findOrder?, findCoupon?, findPaymentMethod?,
          findReport?, find?_append_row_eq _ hnew]
      split <;> simp
  | updateOrder o v =>
      obtain ⟨hv, rfl⟩ := apply_updateOrder.mp h
      have hfound : (s.findOrder? o.id).isSome := by
        cases hf : s.findOrder? o.id <;> simp_all
      cases e <;> simp [Change.target, Change.written, findOrder?, findCoupon?, findPaymentMethod?,
          findReport?, find?_replaceBy_eq _ hfound]
      split <;> simp
  | deleteOrder id v =>
      obtain ⟨-, rfl⟩ := apply_deleteOrder.mp h
      cases e <;> simp only [findRow?, findOrder?, findCoupon?, findPaymentMethod?, findReport?,
        find?_filter_key_ne] <;> simp [Change.target, Change.written]
      split <;> simp
  | insertCoupon c =>
      obtain ⟨hnew, -, rfl⟩ := apply_insertCoupon.mp h
      cases e <;> simp [Change.target, Change.written, findOrder?, findCoupon?, findPaymentMethod?,
          findReport?, find?_append_row_eq _ hnew]
      split <;> simp
  | updateCoupon c v =>
      obtain ⟨hv, -, rfl⟩ := apply_updateCoupon.mp h
      have hfound : (s.findCoupon? c.id).isSome := by
        cases hf : s.findCoupon? c.id <;> simp_all
      cases e <;> simp [Change.target, Change.written, findOrder?, findCoupon?, findPaymentMethod?,
          findReport?, find?_replaceBy_eq _ hfound]
      split <;> simp
  | deleteCoupon id v =>
      obtain ⟨-, rfl⟩ := apply_deleteCoupon.mp h
      cases e <;> simp only [findRow?, findOrder?, findCoupon?, findPaymentMethod?, findReport?,
        find?_filter_key_ne] <;> simp [Change.target, Change.written]
      split <;> simp
  | insertPaymentMethod m =>
      obtain ⟨hnew, rfl⟩ := apply_insertPaymentMethod.mp h
      cases e <;>
        simp [Change.target, Change.written, findOrder?, findCoupon?, findPaymentMethod?,
          findReport?, find?_append_row_eq _ hnew]
      split <;> simp
  | updatePaymentMethod m v =>
      obtain ⟨hv, rfl⟩ := apply_updatePaymentMethod.mp h
      have hfound : (s.findPaymentMethod? m.id).isSome := by
        cases hf : s.findPaymentMethod? m.id <;> simp_all
      cases e <;>
        simp [Change.target, Change.written, findOrder?, findCoupon?, findPaymentMethod?,
          findReport?, find?_replaceBy_eq _ hfound]
      split <;> simp
  | deletePaymentMethod id v =>
      obtain ⟨-, rfl⟩ := apply_deletePaymentMethod.mp h
      cases e <;> simp only [findRow?, findOrder?, findCoupon?, findPaymentMethod?, findReport?,
        find?_filter_key_ne] <;> simp [Change.target, Change.written]
      split <;> simp
  | insertReport r =>
      obtain ⟨hnew, -, rfl⟩ := apply_insertReport.mp h
      cases e <;> simp [Change.target, Change.written, findOrder?, findCoupon?, findPaymentMethod?,
          findReport?, find?_append_row_eq _ hnew]
      split <;> simp
  | updateReport r v =>
      obtain ⟨hv, -, rfl⟩ := apply_updateReport.mp h
      have hfound : (s.findReport? r.reportId).isSome := by
        cases hf : s.findReport? r.reportId <;> simp_all
      cases e <;> simp [Change.target, Change.written, findOrder?, findCoupon?, findPaymentMethod?,
          findReport?, find?_replaceBy_eq _ hfound]
      split <;> simp
  | deleteReport id v =>
      obtain ⟨-, rfl⟩ := apply_deleteReport.mp h
      cases e <;> simp only [findRow?, findOrder?, findCoupon?, findPaymentMethod?, findReport?,
        find?_filter_key_ne] <;> simp [Change.target, Change.written]
      split <;> simp
  | enqueue m =>
      obtain rfl := apply_enqueue.mp h
      cases e <;> rfl

theorem findRow?_apply_of_target_ne {c : Change} (h : s.apply c = .ok t) {e : Entity} {x : Uuid}
    (hx : c.target ≠ some (e, x)) : t.findRow? e x = s.findRow? e x := by
  rw [findRow?_apply h, if_neg hx]

/-! ### A change set -/

theorem commit_cons_eq_ok {c : Change} {cs : ChangeSet} :
    s.commit (c :: cs) = .ok t ↔ ∃ u, s.apply c = .ok u ∧ u.commit cs = .ok t := by
  rw [commit_cons]
  cases s.apply c <;> simp [Except.bind]

theorem commit_singleton_eq_ok {c : Change} : s.commit [c] = .ok t ↔ s.apply c = .ok t := by
  rw [commit_cons_eq_ok]
  constructor
  · rintro ⟨u, hu, hrest⟩
    rw [commit_nil, Except.ok.injEq] at hrest
    rwa [← hrest]
  · intro h
    exact ⟨t, h, rfl⟩

theorem commit_append_eq_ok {cs₁ cs₂ : ChangeSet} :
    s.commit (cs₁ ++ cs₂) = .ok t ↔ ∃ u, s.commit cs₁ = .ok u ∧ u.commit cs₂ = .ok t := by
  rw [commit_append]
  cases s.commit cs₁ <;> simp [Except.bind]

/-- A commit is refused exactly when some change is refused after every change before it
applied; the answer is that change's refusal. -/
theorem commit_eq_error_iff {cs : ChangeSet} {e : StoreError} :
    s.commit cs = .error e ↔
      ∃ pre c post u, cs = pre ++ c :: post ∧ s.commit pre = .ok u ∧ u.apply c = .error e := by
  induction cs generalizing s with
  | nil => simp
  | cons c cs ih =>
      rw [commit_cons]
      cases happly : s.apply c with
      | error e' =>
          simp only [Except.bind, Except.error.injEq]
          constructor
          · rintro rfl
            exact ⟨[], c, cs, s, rfl, rfl, happly⟩
          · rintro ⟨pre, c', post, u, hsplit, hpre, hfail⟩
            cases pre with
            | nil =>
                obtain ⟨rfl, rfl⟩ := List.cons.inj hsplit
                simp only [commit_nil, Except.ok.injEq] at hpre
                subst hpre
                rw [happly] at hfail
                exact Except.error.inj hfail
            | cons c'' pre =>
                obtain ⟨rfl, -⟩ := List.cons.inj hsplit
                simp [commit_cons, happly, Except.bind] at hpre
      | ok s' =>
          simp only [Except.bind]
          rw [ih]
          constructor
          · rintro ⟨pre, c', post, u, rfl, hpre, hfail⟩
            exact ⟨c :: pre, c', post, u, rfl, by simp [commit_cons, happly, Except.bind, hpre],
              hfail⟩
          · rintro ⟨pre, c', post, u, hsplit, hpre, hfail⟩
            cases pre with
            | nil =>
                obtain ⟨rfl, rfl⟩ := List.cons.inj hsplit
                simp only [commit_nil, Except.ok.injEq] at hpre
                subst hpre
                rw [happly] at hfail
                cases hfail
            | cons c'' pre =>
                obtain ⟨rfl, rfl⟩ := List.cons.inj hsplit
                simp only [commit_cons, happly, Except.bind] at hpre
                exact ⟨pre, c', post, u, rfl, hpre, hfail⟩

end Store

namespace Workshop

section Outcome

variable {α : Type} {w w' : Workshop} {today : Date} {op : Operation α}

/-- An answer is given only once the plan is committed: it is the plan's answer with the plan's
audit entries, and the workshop has moved on to the committed store. -/
theorem perform_eq_ok {a : α} {entries : List AuditEntry} :
    w.perform today op = (.ok (a, entries), w') ↔
      ∃ p t, op (w.context today) w.store = .ok p ∧ w.store.commit p.changes = .ok t ∧
        p.answer = a ∧ p.audit = entries ∧ w' = w.advance t := by
  unfold perform
  cases hop : op (w.context today) w.store with
  | error f => simp
  | ok p =>
      cases hcommit : w.store.commit p.changes with
      | error e => simp [hcommit]
      | ok t => simp [hcommit, eq_comm, and_assoc]

/-- A refusal leaves the workshop as it was; it is the operation's own, or the refusal of the
commit of its plan. -/
theorem perform_eq_error {f : Failure} :
    w.perform today op = (.error f, w') ↔ w' = w ∧
      (op (w.context today) w.store = .error f ∨
        ∃ p e, op (w.context today) w.store = .ok p ∧ w.store.commit p.changes = .error e ∧
          f = .refused e.toWorkflow) := by
  unfold perform
  cases hop : op (w.context today) w.store with
  | error f' => simp [eq_comm, and_comm]
  | ok p =>
      cases hcommit : w.store.commit p.changes with
      | error e => simp [hcommit, eq_comm, and_comm]
      | ok t => simp [hcommit]

end Outcome

/-- Performing an operation is all or nothing. Either it refuses before planning and the
workshop stays as it was; or every planned change applies in order, the store becomes their
left fold and the workshop moves on; or some change is refused after all before it applied, the
operation answers with that refusal, and the workshop, its store, outbox and delivered count
included, stays exactly as it was. Whatever the store, an update or a deletion applies only to a
stored row at the version it names. -/
theorem perform_all_or_nothing {α : Type} (w : Workshop) (today : Date) (op : Operation α) :
    ((∃ f, op (w.context today) w.store = .error f ∧ w.perform today op = (.error f, w)) ∨
      (∃ p t, op (w.context today) w.store = .ok p ∧
        p.changes.foldlM Store.apply w.store = .ok t ∧
        w.perform today op = (.ok (p.answer, p.audit), w.advance t)) ∨
      (∃ p pre c post t e, op (w.context today) w.store = .ok p ∧ p.changes = pre ++ c :: post ∧
        pre.foldlM Store.apply w.store = .ok t ∧ t.apply c = .error e ∧
        w.perform today op = (.error (.refused e.toWorkflow), w))) ∧
    ∀ (s t : Store) (c : Change) (e : Entity) (x : Uuid) (v : Int),
      s.apply c = .ok t → c.expects = some (e, x, v) →
        (s.findRow? e x).map Row.version = some v := by
  refine ⟨?_, fun s t c e x v happly hexpects => Store.version_eq_of_apply happly hexpects⟩
  cases hplan : op (w.context today) w.store with
  | error f => exact .inl ⟨f, rfl, by simp [perform, hplan]⟩
  | ok p =>
      cases hcommit : w.store.commit p.changes with
      | ok t => exact .inr (.inl ⟨p, t, rfl, hcommit, by simp [perform, hplan, hcommit]⟩)
      | error e =>
          -- the refused change is the first one whose prefix applied
          obtain ⟨pre, c, post, u, hsplit, hpre, hfail⟩ := Store.commit_eq_error_iff.mp hcommit
          have hperform : w.perform today op = (.error (.refused e.toWorkflow), w) := by
            simp [perform, hplan, hcommit]
          exact .inr (.inr ⟨p, pre, c, post, u, e, rfl, hsplit, hpre, hfail, hperform⟩)

end Workshop

end RepairDesk
