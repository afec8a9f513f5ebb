import RepairDesk.Proofs.Service

namespace RepairDesk

open Numeric

def Actor.Is (a : Actor) (role : Role) (id : Uuid) : Prop := a.role = role ∧ a.id = id

namespace Store

def AssignedOrder (s : Store) (a : Actor) (id : Uuid) : Prop :=
  ∃ o, s.findOrder? id = some o ∧ a.Is .technician o.technicianId

def PlacedOrder (s : Store) (a : Actor) (id : Uuid) : Prop :=
  ∃ o, s.findOrder? id = some o ∧ a.Is .customer o.customerId

def WroteReport (s : Store) (a : Actor) (id : Uuid) : Prop :=
  ∃ r, s.findReport? id = some r ∧ a.Is .technician r.technicianId

end Store

namespace Command

/-- Whom each command serves, judged on the store it reads. -/
def Entitled : Command → Store → Prop
  | createDraft a req, s => s.AssignedOrder a req.repairOrderId
  | updateDraft a id _, s | deleteDraft a id, s | submitDraft a id, s | startWork a id, s
  | completeWork a id, s => s.WroteReport a id
  | acceptSubmission a id, s | rejectSubmission a id, s =>
    ∃ r, s.findReport? id = some r ∧ s.PlacedOrder a r.repairOrderId
  | getReport a id, s =>
    ∃ r, s.findReport? id = some r ∧
      (a.role = .admin ∨ a.Is .technician r.technicianId ∨
        r.status ≠ .draft ∧ s.PlacedOrder a r.repairOrderId)
  | incomingOrders a, _ => a.role = .technician
  | createOrder a _, _ | listOrders a, _ => a.role = .customer
  | updateOrder a id _, s | deleteOrder a id, s => s.PlacedOrder a id
  | getOrder a id, s =>
    ∃ o, s.findOrder? id = some o ∧
      (a.role = .admin ∨ a.Is .customer o.customerId ∨ a.Is .technician o.technicianId)
  | createCoupon a _, _ | updateCoupon a _ _, _ | deleteCoupon a _, _ | getCoupon a _, _
  | createPaymentMethod a _, _ | updatePaymentMethod a _ _, _
  | deletePaymentMethod a _, _ => a.role = .admin
  | listReports .., _ | listCoupons _, _ | getPaymentMethod .., _ | listPaymentMethods _, _ => True

/-- What a listing may show its caller: technicians their own reports, customers the reports
past the draft stage on their own orders, and each caller only their own orders. -/
def Shows : (c : Command) → Store → c.Answer → Prop
  | listReports a st, s => fun (views : List ReportView) => ∀ v ∈ views, v.status = st ∧
      (a.role = .technician → v.technicianId = a.id) ∧
      (a.role = .customer → v.status ≠ .draft ∧ s.PlacedOrder a v.repairOrderId)
  | incomingOrders a, _ => fun (orders : List RepairOrder) => ∀ o ∈ orders, o.technicianId = a.id
  | listOrders a, _ => fun (orders : List RepairOrder) => ∀ o ∈ orders, o.customerId = a.id
  | _, _ => fun _ => True

end Command

section Traversal

variable {ε α β : Type}

theorem mem_of_filterMapM_eq_ok {f : α → Except ε (Option β)} {l : List α} {ys : List β}
    (h : l.filterMapM f = .ok ys) {y : β} (hy : y ∈ ys) : ∃ x ∈ l, f x = .ok (some y) := by
  induction l generalizing ys with
  | nil =>
      rw [List.filterMapM_nil, pure_eq_ok] at h
      subst h
      cases hy
  | cons x xs ih =>
      rw [List.filterMapM_cons, bind_eq_ok] at h
      obtain ⟨b, hfx, h⟩ := h
      cases b with
      | none =>
          obtain ⟨x', hx', hf⟩ := ih h hy
          exact ⟨x', List.mem_cons_of_mem x hx', hf⟩
      | some b =>
          obtain ⟨rest, hrest, hys⟩ := bind_eq_ok.mp h
          rw [pure_eq_ok] at hys
          subst hys
          rcases List.mem_cons.mp hy with rfl | hy
          · exact ⟨x, List.mem_cons_self, hfx⟩
          · obtain ⟨x', hx', hf⟩ := ih hrest hy
            exact ⟨x', List.mem_cons_of_mem x hx', hf⟩

end Traversal

theorem ReportView.withDiscount_eq_ok {v v' : ReportView} {d : Int}
    (h : v.withDiscount d = .ok v') : ∃ cost, v' = { v with estimatedCost := cost } := by
  unfold ReportView.withDiscount at h
  split at h
  · rw [Except.ok.injEq] at h
    exact ⟨v.estimatedCost, by rw [← h]⟩
  · obtain ⟨net, -, h⟩ := bind_eq_ok.mp h
    exact ⟨some net, (pure_eq_ok.mp h).symm⟩

namespace TechnicianReport

variable {a : Actor} {ctx : Context} {s : Store}

theorem customerView_eq_ok {o : RepairOrder} {r : TechnicianReport} {v : ReportView}
    (h : customerView s o r = .ok v) :
    v.repairOrderId = r.repairOrderId ∧ v.technicianId = r.technicianId ∧ v.status = r.status := by
  obtain ⟨cost, rfl⟩ := ReportView.withDiscount_eq_ok h
  exact ⟨rfl, rfl, rfl⟩

theorem get_eq_ok {id : Uuid} {p : Plan ReportView} (h : get a id ctx s = .ok p) :
    ∃ r, s.findReport? id = some r ∧
      (a.role = .admin ∨ a.Is .technician r.technicianId ∨
        r.status ≠ .draft ∧ s.PlacedOrder a r.repairOrderId) := by
  simp only [get, load, bind_eq_ok, lift_refusal_eq_ok, found_eq_ok] at h
  obtain ⟨r, hfound, h⟩ := h
  refine ⟨r, hfound, ?_⟩
  cases hrole : a.role <;> simp only [hrole] at h
  case admin => exact .inl rfl
  case technician =>
    simp only [ensureOwner, bind_eq_ok, lift_refusal_eq_ok] at h
    obtain ⟨_, howner, -⟩ := h
    split at howner
    · rename_i hown
      exact .inr (.inl ⟨hrole, hown.symm⟩)
    · simp [forbidden] at howner
  case customer =>
    simp only [RepairOrder.load, bind_eq_ok, lift_refusal_eq_ok, found_eq_ok, ite_bind_eq_ok,
      forbidden, reduceCtorEq, imp_false, Decidable.not_not, Bool.not_eq_true'] at h
    obtain ⟨o, ho, hmine, hvisible, -⟩ := h
    refine .inr (.inr ⟨fun hdraft => ?_, o, ho, hrole, hmine.symm⟩)
    rw [hdraft] at hvisible
    exact hvisible rfl

/-- Every report a listing shows has the stage asked for and is the caller's to see. -/
theorem listByStatus_shows {st : ReportStatus} {p : Plan (List ReportView)}
    (h : listByStatus a st ctx s = .ok p) :
    (Command.listReports a st).Shows s p.answer := by
  intro v hv
  unfold listByStatus at h
  cases hrole : a.role <;> simp only [hrole, pure_eq_ok] at h
  case technician =>
    subst h
    obtain ⟨r, hr, rfl⟩ := List.mem_map.mp hv
    simp only [Store.reportsOfTechnician, Store.byLastUpdate, List.mem_mergeSort, List.mem_filter,
      Bool.and_eq_true, beq_iff_eq] at hr
    exact ⟨hr.2.2, fun _ => hr.2.1, by simp⟩
  case admin =>
    subst h
    obtain ⟨r, hr, rfl⟩ := List.mem_map.mp hv
    simp only [Store.reportsWithStatus, Store.byLastUpdate, List.mem_mergeSort, List.mem_filter,
      beq_iff_eq] at hr
    exact ⟨hr.2, by simp, by simp⟩
  case customer =>
    simp only [ite_bind_eq_ok, invalid, lift_refusal_eq_ok, reduceCtorEq, imp_false,
      bind_eq_ok, pure_eq_ok] at h
    obtain ⟨hvisible, views, hviews, rfl⟩ := h
    rw [customerViews_eq_filterMapM] at hviews
    obtain ⟨r, hr, hf⟩ := mem_of_filterMapM_eq_ok hviews hv
    simp only [Store.reportsOfCustomer, Store.byLastUpdate, List.mem_mergeSort, List.mem_filter,
      Bool.and_eq_true, beq_iff_eq, Option.any_eq_true] at hr
    obtain ⟨-, hst, o, ho, hmine⟩ := hr
    -- the view was made from some order of the caller, and keeps the report's fields
    unfold freshView at hf
    split at hf
    · obtain ⟨v', hv', hsome⟩ := bind_eq_ok.mp hf
      rw [pure_eq_ok, Option.some_inj] at hsome
      subst hsome
      obtain ⟨horder, -, hstatus⟩ := customerView_eq_ok (lift_overflow_eq_ok.mp hv')
      refine ⟨hstatus.trans hst, by simp, fun _ => ?_⟩
      refine ⟨fun hdraft => ?_, o, horder ▸ ho, hrole, hmine.symm⟩
      rw [← hst, ← hstatus, hdraft] at hvisible
      exact hvisible rfl
    · cases pure_eq_ok.mp hf

theorem incomingOrders_eq_ok {p : Plan (List RepairOrder)} (h : incomingOrders a ctx s = .ok p) :
    a.role = .technician ∧ ∀ o ∈ p.answer, o.technicianId = a.id := by
  simp only [incomingOrders, requireTechnician, bind_eq_ok, lift_refusal_eq_ok,
    requireRole_eq_ok, exists_unit_iff, pure_eq_ok] at h
  obtain ⟨hrole, rfl⟩ := h
  refine ⟨hrole, fun o ho => ?_⟩
  simp only [Plan.answering, List.mem_filter, Store.ordersOfTechnician, Store.byCreation,
    List.mem_mergeSort, beq_iff_eq] at ho
  exact ho.1.2

end TechnicianReport

namespace RepairOrder

variable {a : Actor} {ctx : Context} {s : Store}

theorem get_eq_ok {id : Uuid} {p : Plan RepairOrder} (h : get a id ctx s = .ok p) :
    ∃ o, s.findOrder? id = some o ∧
      (a.role = .admin ∨ a.Is .customer o.customerId ∨ a.Is .technician o.technicianId) := by
  simp only [get, load, bind_eq_ok, lift_refusal_eq_ok, found_eq_ok, ite_bind_eq_ok, throw,
    throwThe, MonadExceptOf.throw, reduceCtorEq, imp_false, Bool.not_eq_true',
    Bool.not_eq_false] at h
  obtain ⟨o, ho, hvisible, -⟩ := h
  refine ⟨o, ho, ?_⟩
  unfold isVisibleTo at hvisible
  cases hrole : a.role <;> simp only [hrole, beq_iff_eq] at hvisible
  · exact .inr (.inl ⟨hrole, hvisible.symm⟩)
  · exact .inr (.inr ⟨hrole, hvisible.symm⟩)
  · exact .inl rfl

theorem listOwn_eq_ok {p : Plan (List RepairOrder)} (h : listOwn a ctx s = .ok p) :
    a.role = .customer ∧ ∀ o ∈ p.answer, o.customerId = a.id := by
  simp only [listOwn, requireCustomer, bind_eq_ok, lift_refusal_eq_ok, requireRole_eq_ok,
    exists_unit_iff, pure_eq_ok] at h
  obtain ⟨hrole, rfl⟩ := h
  refine ⟨hrole, fun o ho => ?_⟩
  simp only [Plan.answering, Store.ordersOfCustomer, Store.byCreation, List.mem_mergeSort,
    List.mem_filter, beq_iff_eq] at ho
  exact ho.2

end RepairOrder

theorem Coupon.get_eq_ok {a : Actor} {id : Uuid} {ctx : Context} {s : Store} {p : Plan Coupon}
    (h : Coupon.get a id ctx s = .ok p) : a.role = .admin := by
  simp only [Coupon.get, Coupon.requireAdmin, bind_eq_ok, lift_refusal_eq_ok, requireRole_eq_ok,
    exists_unit_iff] at h
  exact h.1

/-- Whatever the store and the arguments, an operation that returns a plan serves a caller
entitled to its command, and its answer shows that caller only what is theirs to see. -/
theorem operation_serves_entitled (c : Command) (ctx : Context) (s : Store) (p : Plan c.Answer)
    (h : c.operation ctx s = .ok p) : c.Entitled s ∧ c.Shows s p.answer := by
  cases c
  case createDraft a req =>
    obtain ⟨hrole, o, ho, htech, -⟩ := TechnicianReport.createDraft_eq_ok h
    exact ⟨⟨o, ho, hrole, htech.symm⟩, trivial⟩
  case updateDraft a id f =>
    obtain ⟨hrole, r, hr, howner, -⟩ := TechnicianReport.updateDraft_eq_ok h
    exact ⟨⟨r, hr, hrole, howner.symm⟩, trivial⟩
  case deleteDraft a id =>
    obtain ⟨hrole, r, hr, howner, -⟩ := @TechnicianReport.deleteDraft_eq_ok a ctx s id p h
    exact ⟨⟨r, hr, hrole, howner.symm⟩, trivial⟩
  case submitDraft a id =>
    obtain ⟨hrole, r, -, hr, howner, -⟩ := TechnicianReport.submit_eq_ok h
    exact ⟨⟨r, hr, hrole, howner.symm⟩, trivial⟩
  case acceptSubmission a id =>
    obtain ⟨hrole, r, o, -, hr, ho, hmine, -⟩ := TechnicianReport.decide_eq_ok h
    exact ⟨⟨r, hr, o, ho, hrole, hmine.symm⟩, trivial⟩
  case rejectSubmission a id =>
    obtain ⟨hrole, r, o, -, hr, ho, hmine, -⟩ := TechnicianReport.decide_eq_ok h
    exact ⟨⟨r, hr, o, ho, hrole, hmine.symm⟩, trivial⟩
  case startWork a id =>
    obtain ⟨hrole, r, -, -, -, hr, howner, -⟩ := TechnicianReport.startWork_eq_ok h
    exact ⟨⟨r, hr, hrole, howner.symm⟩, trivial⟩
  case completeWork a id =>
    obtain ⟨hrole, r, -, -, -, hr, howner, -⟩ := TechnicianReport.completeWork_eq_ok h
    exact ⟨⟨r, hr, hrole, howner.symm⟩, trivial⟩
  case listReports a st => exact ⟨trivial, @TechnicianReport.listByStatus_shows a ctx s st p h⟩
  case getReport a id => exact ⟨@TechnicianReport.get_eq_ok a ctx s id p h, trivial⟩
  case incomingOrders a => exact @TechnicianReport.incomingOrders_eq_ok a ctx s p h
  case createOrder a req => exact ⟨(RepairOrder.create_eq_ok h).1, trivial⟩
  case updateOrder a id d =>
    obtain ⟨o, hload, -⟩ := RepairOrder.update_eq_ok h
    obtain ⟨hrole, ho, hmine, -⟩ := RepairOrder.loadEditable_eq_ok.mp hload
    exact ⟨⟨o, ho, hrole, hmine.symm⟩, trivial⟩
  case deleteOrder a id =>
    obtain ⟨o, hload, -⟩ := RepairOrder.delete_eq_ok h
    obtain ⟨hrole, ho, hmine, -⟩ := RepairOrder.loadEditable_eq_ok.mp hload
    exact ⟨⟨o, ho, hrole, hmine.symm⟩, trivial⟩
  case getOrder a id => exact ⟨@RepairOrder.get_eq_ok a ctx s id p h, trivial⟩
  case listOrders a => exact @RepairOrder.listOwn_eq_ok a ctx s p h
  case createCoupon a req => exact ⟨(Coupon.create_eq_ok h).1, trivial⟩
  case updateCoupon a id req => exact ⟨(Coupon.update_eq_ok h).1, trivial⟩
  case deleteCoupon a id => exact ⟨(@Coupon.delete_eq_ok a id ctx s p h).1, trivial⟩
  case getCoupon a id => exact ⟨@Coupon.get_eq_ok a id ctx s p h, trivial⟩
  case createPaymentMethod a req => exact ⟨(@PaymentMethod.create_eq_ok a ctx s req p h).1, trivial⟩
  case updatePaymentMethod a id req => exact ⟨(PaymentMethod.update_eq_ok h).1, trivial⟩
  case deletePaymentMethod a id => exact ⟨(@PaymentMethod.delete_eq_ok a ctx s id p h).1, trivial⟩
  case listCoupons a => exact ⟨trivial, trivial⟩
  case getPaymentMethod a id => exact ⟨trivial, trivial⟩
  case listPaymentMethods a => exact ⟨trivial, trivial⟩

/-- The technician an order is assigned to reads it. -/
theorem technician_reads_assigned_order :
    let order : RepairOrder :=
      ⟨Uuid.ofNat 1, Uuid.ofNat 2, Uuid.ofNat 3, .pendingConfirmation, "Kettle", "Dented",
        "Does not heat", ⟨2026, 3, 1⟩, Uuid.ofNat 4, none, 0, ⟨0, 0⟩, ⟨0, 0⟩⟩
    let s : Store := { orders := [order] }
    let c := Command.getOrder ⟨Uuid.ofNat 3, .technician⟩ order.id
    let ctx : Context := ⟨⟨2026, 1, 1⟩, ⟨0, 0⟩, Uuid.ofNat 9⟩
    ∃ p, c.operation ctx s = .ok p ∧ c.Entitled s ∧ c.Shows s p.answer := by
  intro order s c ctx
  have h : c.operation ctx s = .ok (Plan.answering order) := rfl
  exact ⟨_, h, operation_serves_entitled c ctx s _ h⟩

end RepairDesk
