import RepairDesk.Proofs.Pricing

/-! The service as a state machine over its commands. -/

namespace RepairDesk

/-- The operations of the service: the report workflow, the orders, and the coupon and payment
method catalogues, reads included. -/
inductive Command where
  | createDraft (actor : Actor) (req : DraftRequest)
  | updateDraft (actor : Actor) (id : Uuid) (fields : DraftFields)
  | deleteDraft (actor : Actor) (id : Uuid)
  | submitDraft (actor : Actor) (id : Uuid)
  | acceptSubmission (actor : Actor) (id : Uuid)
  | rejectSubmission (actor : Actor) (id : Uuid)
  | startWork (actor : Actor) (id : Uuid)
  | completeWork (actor : Actor) (id : Uuid)
  | listReports (actor : Actor) (status : ReportStatus)
  | getReport (actor : Actor) (id : Uuid)
  | incomingOrders (actor : Actor)
  | createOrder (actor : Actor) (req : OrderRequest)
  | updateOrder (actor : Actor) (id : Uuid) (details : OrderDetails)
  | deleteOrder (actor : Actor) (id : Uuid)
  | getOrder (actor : Actor) (id : Uuid)
  | listOrders (actor : Actor)
  | createCoupon (actor : Actor) (req : CouponRequest)
  | updateCoupon (actor : Actor) (id : Uuid) (req : CouponRequest)
  | deleteCoupon (actor : Actor) (id : Uuid)
  | getCoupon (actor : Actor) (id : Uuid)
  | listCoupons (actor : Actor)
  | createPaymentMethod (actor : Actor) (req : PaymentMethodRequest)
  | updatePaymentMethod (actor : Actor) (id : Uuid) (req : PaymentMethodRequest)
  | deletePaymentMethod (actor : Actor) (id : Uuid)
  | getPaymentMethod (actor : Actor) (id : Uuid)
  | listPaymentMethods (actor : Actor)

def staged {α : Type} (op : Operation α) (ctx : Context) (s : Store) :
    Except Failure ChangeSet :=
  Plan.changes <$> op ctx s

theorem staged_eq_ok {α : Type} {op : Operation α} {ctx : Context} {s : Store}
    {cs : ChangeSet} : staged op ctx s = .ok cs ↔ ∃ p, op ctx s = .ok p ∧ p.changes = cs :=
  map_eq_ok

namespace Command

def plan : Command → Context → Store → Except Failure ChangeSet
  | createDraft a req => staged (TechnicianReport.createDraft a req)
  | updateDraft a id f => staged (TechnicianReport.updateDraft a id f)
  | deleteDraft a id => staged (TechnicianReport.deleteDraft a id)
  | submitDraft a id => staged (TechnicianReport.submit a id)
  | acceptSubmission a id => staged (TechnicianReport.accept a id)
  | rejectSubmission a id => staged (TechnicianReport.reject a id)
  | startWork a id => staged (TechnicianReport.startWork a id)
  | completeWork a id => staged (TechnicianReport.completeWork a id)
  | listReports a st => staged (TechnicianReport.listByStatus a st)
  | getReport a id => staged (TechnicianReport.get a id)
  | incomingOrders a => staged (TechnicianReport.incomingOrders a)
  | createOrder a req => staged (RepairOrder.create a req)
  | updateOrder a id d => staged (RepairOrder.update a id d)
  | deleteOrder a id => staged (RepairOrder.delete a id)
  | getOrder a id => staged (RepairOrder.get a id)
  | listOrders a => staged (RepairOrder.listOwn a)
  | createCoupon a req => staged (Coupon.create a req)
  | updateCoupon a id req => staged (Coupon.update a id req)
  | deleteCoupon a id => staged (Coupon.delete a id)
  | getCoupon a id => staged (Coupon.get a id)
  | listCoupons a => staged (Coupon.list a)
  | createPaymentMethod a req => staged (PaymentMethod.create a req)
  | updatePaymentMethod a id req => staged (PaymentMethod.update a id req)
  | deletePaymentMethod a id => staged (PaymentMethod.delete a id)
  | getPaymentMethod a id => staged (PaymentMethod.get a id)
  | listPaymentMethods a => staged (PaymentMethod.list a)

def Answer : Command → Type
  | createDraft .. | updateDraft .. | submitDraft .. | acceptSubmission .. | rejectSubmission ..
  | startWork .. | completeWork .. => TechnicianReport
  | deleteDraft .. | deleteOrder .. | deleteCoupon .. | deletePaymentMethod .. => Unit
  | listReports .. => List ReportView
  | getReport .. => ReportView
  | incomingOrders .. | listOrders .. => List RepairOrder
  | createOrder .. | updateOrder .. | getOrder .. => RepairOrder
  | createCoupon .. | updateCoupon .. | getCoupon .. => Coupon
  | listCoupons .. => List Coupon
  | createPaymentMethod .. | updatePaymentMethod .. | getPaymentMethod .. => PaymentMethod
  | listPaymentMethods .. => List PaymentMethod

def operation : (c : Command) → Operation c.Answer
  | createDraft a req => TechnicianReport.createDraft a req
  | updateDraft a id f => TechnicianReport.updateDraft a id f
  | deleteDraft a id => TechnicianReport.deleteDraft a id
  | submitDraft a id => TechnicianReport.submit a id
  | acceptSubmission a id => TechnicianReport.accept a id
  | rejectSubmission a id => TechnicianReport.reject a id
  | startWork a id => TechnicianReport.startWork a id
  | completeWork a id => TechnicianReport.completeWork a id
  | listReports a st => TechnicianReport.listByStatus a st
  | getReport a id => TechnicianReport.get a id
  | incomingOrders a => TechnicianReport.incomingOrders a
  | createOrder a req => RepairOrder.create a req
  | updateOrder a id d => RepairOrder.update a id d
  | deleteOrder a id => RepairOrder.delete a id
  | getOrder a id => RepairOrder.get a id
  | listOrders a => RepairOrder.listOwn a
  | createCoupon a req => Coupon.create a req
  | updateCoupon a id req => Coupon.update a id req
  | deleteCoupon a id => Coupon.delete a id
  | getCoupon a id => Coupon.get a id
  | listCoupons a => Coupon.list a
  | createPaymentMethod a req => PaymentMethod.create a req
  | updatePaymentMethod a id req => PaymentMethod.update a id req
  | deletePaymentMethod a id => PaymentMethod.delete a id
  | getPaymentMethod a id => PaymentMethod.get a id
  | listPaymentMethods a => PaymentMethod.list a

theorem plan_eq_staged (c : Command) : c.plan = staged c.operation := by
  cases c <;> rfl

def run (c : Command) (ctx : Context) (s : Store) : Store :=
  match c.plan ctx s with
  | .ok cs =>
    match s.commit cs with
    | .ok t => t
    | .error _ => s
  | .error _ => s

theorem run_cases (c : Command) (ctx : Context) (s : Store) :
    c.run ctx s = s ∨ ∃ cs, c.plan ctx s = .ok cs ∧ s.commit cs = .ok (c.run ctx s) := by
  cases hplan : c.plan ctx s with
  | error f => exact .inl (by simp only [run, hplan])
  | ok cs =>
      cases hcommit : s.commit cs with
      | error e => exact .inl (by simp only [run, hplan, hcommit])
      | ok t => exact .inr ⟨cs, rfl, by simp only [run, hplan, hcommit]⟩

def readsOnly : Command → Bool
  | listReports .. | getReport .. | incomingOrders .. | getOrder .. | listOrders ..
  | getCoupon .. | listCoupons .. | getPaymentMethod .. | listPaymentMethods .. => true
  | _ => false

theorem plan_eq_nil_of_readsOnly {c : Command} {ctx : Context} {s : Store} {cs : ChangeSet}
    (hread : c.readsOnly = true) (h : c.plan ctx s = .ok cs) : cs = [] := by
  cases c <;> simp only [readsOnly, Bool.false_eq_true] at hread <;>
    obtain ⟨p, hp, rfl⟩ := staged_eq_ok.mp h
  case listReports actor st =>
    unfold TechnicianReport.listByStatus at hp
    cases hrole : actor.role <;> simp only [hrole, bind_eq_ok, ite_bind_eq_ok, pure_eq_ok] at hp
    case customer =>
      obtain ⟨_, _, _, rfl⟩ := hp
      rfl
    all_goals rw [← hp]; rfl
  case getReport actor id =>
    unfold TechnicianReport.get at hp
    simp only [bind_eq_ok] at hp
    obtain ⟨r, _, hp⟩ := hp
    cases hrole : actor.role <;> simp only [hrole, bind_eq_ok, ite_bind_eq_ok, pure_eq_ok] at hp
    case customer =>
      obtain ⟨_, _, _, _, _, _, rfl⟩ := hp
      rfl
    case technician =>
      obtain ⟨_, _, rfl⟩ := hp
      rfl
    case admin =>
      rw [← hp]
      rfl
  case incomingOrders actor =>
    simp only [TechnicianReport.incomingOrders, bind_eq_ok, pure_eq_ok] at hp
    obtain ⟨_, _, rfl⟩ := hp
    rfl
  case getOrder actor id =>
    simp only [RepairOrder.get, bind_eq_ok, ite_bind_eq_ok, pure_eq_ok] at hp
    obtain ⟨_, _, _, rfl⟩ := hp
    rfl
  case listOrders actor =>
    simp only [RepairOrder.listOwn, bind_eq_ok, pure_eq_ok] at hp
    obtain ⟨_, _, rfl⟩ := hp
    rfl
  case getCoupon actor id =>
    simp only [Coupon.get, bind_eq_ok, pure_eq_ok] at hp
    obtain ⟨_, _, _, _, rfl⟩ := hp
    rfl
  case getPaymentMethod actor id =>
    simp only [PaymentMethod.get, bind_eq_ok, pure_eq_ok] at hp
    obtain ⟨_, _, rfl⟩ := hp
    rfl
  case listCoupons actor =>
    simp only [Coupon.list, pure_eq_ok] at hp
    rw [← hp]
    rfl
  case listPaymentMethods actor =>
    simp only [PaymentMethod.list, pure_eq_ok] at hp
    rw [← hp]
    rfl

end Command

/-- The stores the service reaches from the empty store. -/
inductive Reachable : Store → Prop where
  | empty : Reachable Store.empty
  | step {s : Store} (c : Command) (ctx : Context) : Reachable s → Reachable (c.run ctx s)

def Command.runAll (steps : List (Command × Context)) (s : Store) : Store :=
  steps.foldl (fun s step => step.1.run step.2 s) s

theorem Reachable.of_runAll {s : Store} (hs : Reachable s) (steps : List (Command × Context)) :
    Reachable (Command.runAll steps s) := by
  induction steps generalizing s with
  | nil => exact hs
  | cons step steps ih => exact ih (.step step.1 step.2 hs)

end RepairDesk
