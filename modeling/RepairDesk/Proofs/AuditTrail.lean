import RepairDesk.Proofs.Service
import RepairDesk.Proofs.Keys

namespace RepairDesk

/-- A computation all of whose results are `good`. -/
def Except.Yields {ε α : Type} (good : α → Prop) (x : Except ε α) : Prop :=
  ∀ a, x = .ok a → good a

section Yields

variable {ε α β : Type} {good : β → Prop}

@[simp] theorem Except.yields_pure {b : β} : Except.Yields good (pure b : Except ε β) ↔ good b := by
  simp [Except.Yields, pure, Except.pure]

@[simp] theorem Except.yields_throw {e : ε} : Except.Yields good (throw e : Except ε β) := by
  simp [throw, throwThe, MonadExceptOf.throw, Except.Yields]

@[simp] theorem Except.yields_bind {x : Except ε α} {f : α → Except ε β} :
    Except.Yields good (x >>= f) ↔ ∀ a, x = .ok a → Except.Yields good (f a) := by
  cases x <;> simp [Except.Yields, bind, Except.bind]

@[simp] theorem Except.yields_map {x : Except ε α} {f : α → β} :
    Except.Yields good (f <$> x) ↔ Except.Yields (fun a => good (f a)) x := by
  cases x <;> simp [Except.Yields, Functor.map, Except.map]

@[simp] theorem Except.yields_true {x : Except ε α} : Except.Yields (fun _ => True) x := by
  simp [Except.Yields]

@[simp] theorem Except.yields_ite {c : Prop} [Decidable c] {x y : Except ε β} :
    Except.Yields good (if c then x else y) ↔
      (c → Except.Yields good x) ∧ (¬ c → Except.Yields good y) := by
  by_cases hc : c <;> simp [hc]

end Yields

/-! ### Operations that record nothing -/

section Unaudited

open RepairDesk.Except

variable (actor : Actor) (ctx : Context) (s : Store) {id : Uuid}

abbrev Plan.Unaudited {α : Type} (p : Plan α) : Prop := p.audit = []

namespace TechnicianReport

theorem listByStatus_unaudited {st : ReportStatus} :
    Yields Plan.Unaudited (listByStatus actor st ctx s) := by
  unfold listByStatus
  split <;> simp [Plan.answering]

theorem get_unaudited : Yields Plan.Unaudited (get actor id ctx s) := by
  simp only [get, yields_bind]
  intro r _
  split <;> simp [Plan.answering]

theorem incomingOrders_unaudited : Yields Plan.Unaudited (incomingOrders actor ctx s) := by
  simp [incomingOrders, Plan.answering]

end TechnicianReport

namespace RepairOrder

theorem create_unaudited {req : OrderRequest} : Yields Plan.Unaudited (create actor req ctx s) := by
  unfold create
  split <;> simp

theorem update_unaudited {d : OrderDetails} : Yields Plan.Unaudited (update actor id d ctx s) := by
  unfold update
  split <;> simp

theorem delete_unaudited : Yields Plan.Unaudited (delete actor id ctx s) := by
  simp only [delete, yields_bind]
  intro o _
  split <;> simp

theorem get_unaudited : Yields Plan.Unaudited (get actor id ctx s) := by
  simp [get, Plan.answering]

theorem listOwn_unaudited : Yields Plan.Unaudited (listOwn actor ctx s) := by
  simp [listOwn, Plan.answering]

end RepairOrder

namespace Coupon

theorem create_unaudited {r : CouponRequest} : Yields Plan.Unaudited (create actor r ctx s) := by
  simp [create]

theorem update_unaudited {r : CouponRequest} : Yields Plan.Unaudited (update actor id r ctx s) := by
  simp [update]

theorem delete_unaudited : Yields Plan.Unaudited (delete actor id ctx s) := by
  simp [delete]

theorem get_unaudited : Yields Plan.Unaudited (get actor id ctx s) := by
  simp [get, Plan.answering]

theorem list_unaudited : Yields Plan.Unaudited (list actor ctx s) := by
  simp [list, Plan.answering]

end Coupon

namespace PaymentMethod

theorem create_unaudited {r : PaymentMethodRequest} :
    Yields Plan.Unaudited (create actor r ctx s) := by
  simp [create]

theorem update_unaudited {r : PaymentMethodRequest} :
    Yields Plan.Unaudited (update actor id r ctx s) := by
  simp [update]

theorem delete_unaudited : Yields Plan.Unaudited (delete actor id ctx s) := by
  simp [delete]

theorem get_unaudited : Yields Plan.Unaudited (get actor id ctx s) := by
  simp [get, Plan.answering]

theorem list_unaudited : Yields Plan.Unaudited (list actor ctx s) := by
  simp [list, Plan.answering]

end PaymentMethod

end Unaudited

/-! ### The entry each report operation records -/

namespace TechnicianReport

variable {actor : Actor} {ctx : Context} {s : Store} {id : Uuid}

theorem apply_reportId {r r' : TechnicianReport} {a : ReportAction} {now : Instant}
    (h : r.apply a now = .ok r') : r'.reportId = r.reportId := by
  obtain ⟨_, _, _, rfl⟩ := apply_eq_ok.mp h
  rfl

theorem audited_eq {action : AuditAction} {r : TechnicianReport} (h : r.reportId = id) :
    audited action r actor = [⟨action, id, actor.id⟩] := by
  rw [audited, h]

theorem createDraft_audit {req : DraftRequest} {p : Plan TechnicianReport}
    (h : createDraft actor req ctx s = .ok p) :
    p.audit = [⟨.createDraft, ctx.freshId, actor.id⟩] := by
  obtain ⟨-, o, -, -, -, -, -, -, rfl⟩ := createDraft_eq_ok h
  rfl

theorem updateDraft_audit {f : DraftFields} {p : Plan TechnicianReport}
    (h : updateDraft actor id f ctx s = .ok p) : p.audit = [⟨.updateDraft, id, actor.id⟩] := by
  obtain ⟨-, r, hfound, -, -, -, -, rfl⟩ := updateDraft_eq_ok h
  exact audited_eq (Store.mem_of_findReport? hfound).2

theorem deleteDraft_audit {p : Plan Unit} (h : deleteDraft actor id ctx s = .ok p) :
    p.audit = [⟨.deleteDraft, id, actor.id⟩] := by
  obtain ⟨-, r, hfound, -, -, rfl⟩ := deleteDraft_eq_ok h
  exact audited_eq (Store.mem_of_findReport? hfound).2

theorem submit_audit {p : Plan TechnicianReport} (h : submit actor id ctx s = .ok p) :
    p.audit = [⟨.submitDraft, id, actor.id⟩] := by
  obtain ⟨-, r, r', hfound, -, hmove, -, rfl⟩ := submit_eq_ok h
  exact audited_eq ((apply_reportId hmove).trans (Store.mem_of_findReport? hfound).2)

theorem decide_audit {action : ReportAction} {p : Plan TechnicianReport}
    (h : decide action actor id ctx s = .ok p) :
    p.audit = [⟨if action = .reject then .rejectSubmission else .acceptSubmission, id,
      actor.id⟩] := by
  obtain ⟨-, r, o, r', hfound, -, -, hmove, -, rfl⟩ := decide_eq_ok h
  exact audited_eq ((apply_reportId hmove).trans (Store.mem_of_findReport? hfound).2)

theorem startWork_audit {p : Plan TechnicianReport} (h : startWork actor id ctx s = .ok p) :
    p.audit = [⟨.startWork, id, actor.id⟩] := by
  obtain ⟨-, r, o, r', o', hfound, -, -, hmove, -, -, -, rfl⟩ := startWork_eq_ok h
  exact audited_eq ((apply_reportId hmove).trans (Store.mem_of_findReport? hfound).2)

theorem completeWork_audit {p : Plan TechnicianReport} (h : completeWork actor id ctx s = .ok p) :
    p.audit = [⟨.completeWork, id, actor.id⟩] := by
  obtain ⟨-, r, o, r', o', hfound, -, -, hmove, -, -, -, rfl⟩ := completeWork_eq_ok h
  exact audited_eq ((apply_reportId hmove).trans (Store.mem_of_findReport? hfound).2)

end TechnicianReport

namespace Command

/-- The entries a command records once performed: one for each report operation that changes
the store, naming the action, the report and the caller; none for any other operation. -/
def auditTrail : Command → Context → List AuditEntry
  | createDraft a _, ctx => [⟨.createDraft, ctx.freshId, a.id⟩]
  | updateDraft a id _, _ => [⟨.updateDraft, id, a.id⟩]
  | deleteDraft a id, _ => [⟨.deleteDraft, id, a.id⟩]
  | submitDraft a id, _ => [⟨.submitDraft, id, a.id⟩]
  | acceptSubmission a id, _ => [⟨.acceptSubmission, id, a.id⟩]
  | rejectSubmission a id, _ => [⟨.rejectSubmission, id, a.id⟩]
  | startWork a id, _ => [⟨.startWork, id, a.id⟩]
  | completeWork a id, _ => [⟨.completeWork, id, a.id⟩]
  | _, _ => []

/-- Every plan of a command records the command's audit trail. -/
theorem audit_eq_auditTrail {c : Command} {ctx : Context} {s : Store} {p : Plan c.Answer}
    (h : c.operation ctx s = .ok p) : p.audit = c.auditTrail ctx := by
  cases c with
  | createDraft => exact TechnicianReport.createDraft_audit h
  | updateDraft => exact TechnicianReport.updateDraft_audit h
  -- deleting a draft reads no context, so the context is named
  | deleteDraft => exact @TechnicianReport.deleteDraft_audit _ ctx _ _ _ h
  | submitDraft => exact TechnicianReport.submit_audit h
  | acceptSubmission => exact TechnicianReport.decide_audit h
  | rejectSubmission => exact TechnicianReport.decide_audit h
  | startWork => exact TechnicianReport.startWork_audit h
  | completeWork => exact TechnicianReport.completeWork_audit h
  | listReports a => exact TechnicianReport.listByStatus_unaudited a ctx s p h
  | getReport a => exact TechnicianReport.get_unaudited a ctx s p h
  | incomingOrders a => exact TechnicianReport.incomingOrders_unaudited a ctx s p h
  | createOrder a => exact RepairOrder.create_unaudited a ctx s p h
  | updateOrder a => exact RepairOrder.update_unaudited a ctx s p h
  | deleteOrder a => exact RepairOrder.delete_unaudited a ctx s p h
  | getOrder a => exact RepairOrder.get_unaudited a ctx s p h
  | listOrders a => exact RepairOrder.listOwn_unaudited a ctx s p h
  | createCoupon a => exact Coupon.create_unaudited a ctx s p h
  | updateCoupon a => exact Coupon.update_unaudited a ctx s p h
  | deleteCoupon a => exact Coupon.delete_unaudited a ctx s p h
  | getCoupon a => exact Coupon.get_unaudited a ctx s p h
  | listCoupons a => exact Coupon.list_unaudited a ctx s p h
  | createPaymentMethod a => exact PaymentMethod.create_unaudited a ctx s p h
  | updatePaymentMethod a => exact PaymentMethod.update_unaudited a ctx s p h
  | deletePaymentMethod a => exact PaymentMethod.delete_unaudited a ctx s p h
  | getPaymentMethod a => exact PaymentMethod.get_unaudited a ctx s p h
  | listPaymentMethods a => exact PaymentMethod.list_unaudited a ctx s p h

end Command

/-- A refused command leaves the workshop, its store, outbox and delivered count included, as it
was, and records nothing. A command answers only after its plan is committed, and then records
exactly its audit trail: one entry naming the action, the report and the caller when it is a
report operation that changes the store, none otherwise. -/
theorem perform_audits_once (w : Workshop) (today : Date) (c : Command) :
    (∀ f w', w.perform today c.operation = (.error f, w') → w' = w) ∧
    ∀ a entries w', w.perform today c.operation = (.ok (a, entries), w') →
      entries = c.auditTrail (w.context today) ∧
      ∃ p t, c.operation (w.context today) w.store = .ok p ∧
        w.store.commit p.changes = .ok t ∧ w' = w.advance t := by
  refine ⟨fun f w' h => (Workshop.perform_eq_error.mp h).1, fun a entries w' h => ?_⟩
  obtain ⟨p, t, hop, hcommit, -, rfl, rfl⟩ := Workshop.perform_eq_ok.mp h
  exact ⟨Command.audit_eq_auditTrail hop, p, t, hop, hcommit, rfl⟩

end RepairDesk
