import RepairDesk.Proofs.Service
import RepairDesk.Proofs.Workflow
import RepairDesk.Proofs.Booking
import RepairDesk.Proofs.Catalogue

/-! The invariants of the stores the service reaches. -/

namespace RepairDesk

open Tables Store

namespace Command

variable {s₀ s₁ s₂ : Store} {ctx : Context}

theorem commit_consistent {c : Command} {cs : ChangeSet} (h₀ : Consistent s₀)
    (h₁ : Consistent s₁) (hev : Evolves s₀ s₁) (hplan : c.plan ctx s₀ = .ok cs)
    (hc : s₁.commit cs = .ok s₂) : Consistent s₂ ∧ KeepsActivity s₁ s₂ := by
  cases hread : c.readsOnly
  · cases c <;> simp only [readsOnly, Bool.true_eq_false] at hread <;>
      obtain ⟨p, hp, rfl⟩ := staged_eq_ok.mp hplan
    case createDraft => exact createDraft_commit h₁ hev hp hc
    case updateDraft => exact updateDraft_commit h₁ hev hp hc
    case deleteDraft => exact deleteDraft_commit h₁ hev hp hc
    case submitDraft => exact submit_commit h₁ hev hp hc
    case acceptSubmission => exact decide_commit h₁ hev (.inl rfl) hp hc
    case rejectSubmission => exact decide_commit h₁ hev (.inr rfl) hp hc
    case startWork => exact startWork_commit h₁ hev hp hc
    case completeWork => exact completeWork_commit h₁ hev hp hc
    case createOrder => exact create_commit h₀ h₁ hev hp hc
    case updateOrder => exact update_commit h₀ h₁ hev hp hc
    case deleteOrder => exact delete_commit h₀ h₁ hev hp hc
    case createCoupon => exact Coupon.create_commit h₁ hp hc
    case updateCoupon => exact Coupon.update_commit h₁ hev hp hc
    case deleteCoupon => exact Coupon.delete_commit h₁ hev hp hc
    case createPaymentMethod => exact PaymentMethod.create_commit h₁ hp hc
    case updatePaymentMethod => exact PaymentMethod.update_commit h₁ hp hc
    case deletePaymentMethod => exact PaymentMethod.delete_commit h₁ hp hc
  · rw [plan_eq_nil_of_readsOnly hread hplan, commit_nil, Except.ok.injEq] at hc
    subst hc
    exact ⟨h₁, KeepsActivity.of_reports_eq rfl⟩

theorem run_consistent (c : Command) (ctx : Context) {s : Store} (h : Consistent s) :
    Consistent (c.run ctx s) := by
  rcases c.run_cases ctx s with hkeep | ⟨cs, hplan, hc⟩
  · rw [hkeep]
    exact h
  · exact (commit_consistent h h (Evolves.refl s) hplan hc).1

end Command

/-- Every reachable store is consistent, by induction on the commands that reach it. -/
theorem Reachable.consistent {s : Store} (hs : Reachable s) : Consistent s := by
  induction hs with
  | empty => exact Consistent.empty
  | step c ctx _ ih => exact c.run_consistent ctx ih

theorem Consistent.order_stage {s : Store} (h : Consistent s) {id : Uuid} {r : TechnicianReport}
    {o : RepairOrder} (hr : s.findReport? id = some r) (ho : s.findOrder? r.repairOrderId = some o)
    (hactive : r.status ≠ .rejected) : o.status = r.status.orderStage := by
  obtain ⟨hrmem, -⟩ := mem_of_findReport? hr
  obtain ⟨homem, hoid⟩ := mem_of_findOrder? ho
  exact h.lifecycle.mirrors r hrmem hactive o homem hoid

namespace TechnicianReport

variable {s : Store} {actor : Actor} {id : Uuid} {ctx : Context} {step : OrderStep} {x : Uuid}
  {st : OrderStatus}

theorem startWork_ne_orderState (h : Consistent s) :
    startWork actor id ctx s ≠ .error (.refused (.orderState step x st)) := by
  intro herr
  -- the report is approved, so its order is still pending and can move on
  obtain ⟨r, o, next, hr, ho, hnext, hstuck⟩ := startWork_eq_orderState herr
  have happroved : r.status = .approved := (ReportStatus.next?_startWork hnext).1
  have hstage := h.order_stage hr ho (by simp [happroved])
  rw [hstage, happroved] at hstuck
  exact absurd hstuck (by decide)

theorem completeWork_ne_orderState (h : Consistent s) :
    completeWork actor id ctx s ≠ .error (.refused (.orderState step x st)) := by
  intro herr
  -- the report is in progress, so its order is too and can move on
  obtain ⟨r, o, next, hr, ho, hnext, hstuck⟩ := completeWork_eq_orderState herr
  have hworking : r.status = .inProgress := (ReportStatus.next?_complete hnext).1
  have hstage := h.order_stage hr ho (by simp [hworking])
  rw [hstage, hworking] at hstuck
  exact absurd hstuck (by decide)

end TechnicianReport

/-- How orders follow their reports, as the service's callers see it: an order has at most one
active report, which is assigned to the order's technician; the order is in progress or
completed exactly when that report is, and pending confirmation exactly when it has none or that
report has not started. -/
structure OrdersFollowReports (s : Store) : Prop where
  one_active : ∀ x, s.reports.countP (fun r => r.repairOrderId == x && r.status != .rejected) ≤ 1
  assigned : ∀ r ∈ s.reports, r.status ≠ .rejected →
    ∃ o, s.findOrder? r.repairOrderId = some o ∧ o.technicianId = r.technicianId
  in_progress : ∀ o ∈ s.orders,
    o.status = .inProgress ↔ ∃ r ∈ s.reports, r.repairOrderId = o.id ∧ r.status = .inProgress
  completed : ∀ o ∈ s.orders,
    o.status = .completed ↔ ∃ r ∈ s.reports, r.repairOrderId = o.id ∧ r.status = .completed
  pending : ∀ o ∈ s.orders, o.status = .pendingConfirmation ↔
    (∀ r ∈ s.reports, r.repairOrderId = o.id → r.status = .rejected) ∨
    ∃ r ∈ s.reports, r.repairOrderId = o.id ∧
      (r.status = .draft ∨ r.status = .submitted ∨ r.status = .approved)

/-- Coupon usage as the service's callers see it: a coupon's usage count is the number of orders
using it and stays within its limit, and an order's coupon is stored. -/
structure CouponsCounted (s : Store) : Prop where
  counted : ∀ c ∈ s.coupons, c.usageCount = (s.orders.countP (·.couponId == some c.id) : Int)
  nonneg : ∀ c ∈ s.coupons, 0 ≤ c.usageCount
  bounded : ∀ c ∈ s.coupons, c.usageCount ≤ c.maxUsage
  stored : ∀ o ∈ s.orders, ∀ x, o.couponId = some x → ∃ c, s.findCoupon? x = some c

namespace Consistent

variable {s : Store}

theorem ordersFollowReports (h : Consistent s) : OrdersFollowReports s where
  one_active := h.lifecycle.countP_active_le_one h.keyed.reports
  assigned := by
    intro r hr hactive
    obtain ⟨o, ho, hid, htech⟩ := h.lifecycle.assigned r hr hactive
    refine ⟨o, ?_, htech⟩
    rw [← hid]
    exact h.keyed.findOrder?_eq_some ho
  in_progress o ho := h.lifecycle.stage_iff ho (.inl rfl)
  completed o ho := h.lifecycle.stage_iff ho (.inr rfl)
  pending o ho := h.lifecycle.pending_iff ho

theorem couponsCounted (h : Consistent s) : CouponsCounted s where
  counted := h.ledger.counted
  nonneg _ hc := h.ledger.usageCount_nonneg hc
  bounded := h.ledger.bounded
  stored := by
    intro o ho x hx
    obtain ⟨c, hc, rfl⟩ := h.ledger.attached o ho x hx
    exact ⟨c, h.keyed.findCoupon?_eq_some hc⟩

theorem usageCount_pos (h : Consistent s) {o : RepairOrder} (ho : o ∈ s.orders) {x : Uuid}
    (hx : o.couponId = some x) {c : Coupon} (hc : s.findCoupon? x = some c) :
    0 < c.usageCount := by
  obtain ⟨hcmem, rfl⟩ := mem_of_findCoupon? hc
  rw [h.ledger.counted c hcmem]
  exact Int.natCast_pos.mpr (uses_pos ho hx)

end Consistent

/-- However commands run from the empty store, orders follow their reports; so starting or
completing work is never refused for the order's stage. -/
theorem order_stage_follows_reports (steps : List (Command × Context)) :
    let s := Command.runAll steps Store.empty
    OrdersFollowReports s ∧
    ∀ actor id ctx step x st,
      TechnicianReport.startWork actor id ctx s ≠ .error (.refused (.orderState step x st)) ∧
      TechnicianReport.completeWork actor id ctx s ≠ .error (.refused (.orderState step x st)) := by
  intro s
  have h : Consistent s := (Reachable.empty.of_runAll steps).consistent
  refine ⟨h.ordersFollowReports, fun actor id ctx step x st => ?_⟩
  exact ⟨TechnicianReport.startWork_ne_orderState h,
    TechnicianReport.completeWork_ne_orderState h⟩

/-- However commands run from the empty store, coupon usage is counted right; so giving back the
use of an order's coupon never needs the floor at zero. -/
theorem coupon_usage_matches_orders (steps : List (Command × Context)) :
    let s := Command.runAll steps Store.empty
    CouponsCounted s ∧
    ∀ o ∈ s.orders, ∀ x c, o.couponId = some x → s.findCoupon? x = some c →
      max (c.usageCount - 1) 0 = c.usageCount - 1 := by
  intro s
  have h : Consistent s := (Reachable.empty.of_runAll steps).consistent
  refine ⟨h.couponsCounted, fun o ho x c hx hc => ?_⟩
  have hpos : 0 < c.usageCount := h.usageCount_pos ho hx hc
  omega

end RepairDesk
