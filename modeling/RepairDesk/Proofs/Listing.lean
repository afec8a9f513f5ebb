import RepairDesk.Proofs.Access
import RepairDesk.Proofs.Keys

/-! A customer's listing of reports, read report by report. -/

namespace RepairDesk

open Numeric Tables

namespace TechnicianReport

/-- A report as its order's customer is meant to see it: the cost less the discount of the
order's coupon, never below zero. -/
def netView (s : Store) (o : RepairOrder) (r : TechnicianReport) : ReportView :=
  { r.view with
    estimatedCost := r.estimatedCost.map (fun cost => max (cost - couponDiscount s o.couponId) 0) }

/-- The report's cost less its order's discount fits a signed 64-bit word. -/
def NetFits (s : Store) (o : RepairOrder) (r : TechnicianReport) : Prop :=
  ∀ cost ∈ r.estimatedCost, fitsWord 64 (cost - couponDiscount s o.couponId)

instance (s : Store) (o : RepairOrder) (r : TechnicianReport) : Decidable (NetFits s o r) :=
  inferInstanceAs (Decidable (∀ cost ∈ r.estimatedCost, _))

variable {s : Store} {o : RepairOrder} {r : TechnicianReport}

theorem couponDiscount_eq (x : Option Uuid) :
    couponDiscount s x = ((x.bind s.findCoupon?).map (·.discountAmount)).getD 0 := by
  cases hx : x.bind s.findCoupon? <;> simp [couponDiscount, hx]

theorem customerView_of_netFits (h : NetFits s o r) : customerView s o r = .ok (netView s o r) := by
  unfold customerView ReportView.withDiscount
  cases hcost : r.estimatedCost with
  | none => simp [view, netView, hcost]
  | some cost =>
      have hfit := h cost (by simp [hcost])
      simp [view, netView, hcost, discountedCost, subWord_eq_ok hfit, bind, Except.bind, pure,
        Except.pure]

theorem customerView_of_not_netFits (h : ¬ NetFits s o r) : customerView s o r = .error .sub := by
  obtain ⟨cost, hcost, hfit⟩ : ∃ cost ∈ r.estimatedCost,
      ¬ fitsWord 64 (cost - couponDiscount s o.couponId) := by
    simpa [NetFits] using h
  rw [Option.mem_def] at hcost
  simp [customerView, ReportView.withDiscount, view, hcost, discountedCost, subWord, hfit, bind,
    Except.bind]

end TechnicianReport

namespace Store

variable {s : Store} {x : Uuid} {st : ReportStatus}

theorem mem_reportsOfCustomer {r : TechnicianReport} :
    r ∈ s.reportsOfCustomer x st ↔ r ∈ s.reports ∧ r.status = st ∧
      ∃ o, s.findOrder? r.repairOrderId = some o ∧ o.customerId = x := by
  simp [reportsOfCustomer, byLastUpdate, Option.any_eq_true]

theorem reportsOfCustomer_sorted :
    (s.reportsOfCustomer x st).Pairwise fun r q => r.lastUpdatedAt ≤ q.lastUpdatedAt := by
  -- the order by last change is total and transitive, so the merge sort leaves it sorted
  have h : (byLastUpdate (s.reports.filter fun r => r.status == st &&
      (s.findOrder? r.repairOrderId).any (·.customerId == x))).Pairwise
        fun r q => decide (r.lastUpdatedAt ≤ q.lastUpdatedAt) :=
    List.pairwise_mergeSort
      (fun _ _ _ h₁ h₂ => by simpa using Instant.le_trans (by simpa using h₁) (by simpa using h₂))
      (fun r q => by simpa using Instant.le_total r.lastUpdatedAt q.lastUpdatedAt) _
  simpa [reportsOfCustomer] using h

theorem find?_ordersOfCustomer (hk : Keyed s) {o : RepairOrder} (ho : s.findOrder? x = some o)
    {c : Uuid} (hmine : o.customerId = c) :
    (s.ordersOfCustomer c).find? (fun q => q.id == x) = some o := by
  obtain ⟨homem, rfl⟩ := mem_of_findOrder? ho
  have hnodup : ((s.ordersOfCustomer c).map (·.id)).Nodup :=
    ((List.mergeSort_perm _ _).map _).nodup_iff.mpr (nodup_filter _ hk.orders)
  refine find?_eq_some_of_mem (fun q : RepairOrder => q.id) hnodup ?_
  simp [ordersOfCustomer, byCreation, homem, hmine]

end Store

section Traversal

variable {ε α β : Type}

theorem filterMapM_eq_mapM {f : α → Except ε (Option β)} {g : α → Except ε β} {l : List α}
    (h : ∀ x ∈ l, f x = some <$> g x) : l.filterMapM f = l.mapM g := by
  induction l with
  | nil => rfl
  | cons x xs ih =>
      rw [List.filterMapM_cons, List.mapM_cons, h x List.mem_cons_self,
        ih fun y hy => h y (List.mem_cons_of_mem x hy)]
      cases g x <;> rfl

theorem mapM_eq_ok_of_forall {g : α → Except ε β} {l : List α}
    (h : ∀ x ∈ l, ∃ y, g x = .ok y) : ∃ ys, l.mapM g = .ok ys := by
  induction l with
  | nil => exact ⟨[], rfl⟩
  | cons x xs ih =>
      obtain ⟨y, hy⟩ := h x List.mem_cons_self
      obtain ⟨ys, hys⟩ := ih fun z hz => h z (List.mem_cons_of_mem x hz)
      exact ⟨y :: ys, by rw [List.mapM_cons, hy, hys]; rfl⟩

theorem answer_map_bind_answering (x : Except ε α) :
    Plan.answer <$> (x >>= fun v => pure (Plan.answering v)) = x := by
  cases x <;> rfl

end Traversal

namespace TechnicianReport

variable {a : Actor} {ctx : Context} {s : Store} {st : ReportStatus}

theorem get_of_own (hk : Keyed s) (hrole : a.role = .customer) {r : TechnicianReport}
    (hr : r ∈ s.reports) (hvisible : r.status ≠ .draft) {o : RepairOrder}
    (ho : s.findOrder? r.repairOrderId = some o) (hmine : o.customerId = a.id) :
    get a r.reportId ctx s = Plan.answering <$> liftM (customerView s o r) := by
  have hcan : r.status.customerCanSee = true := by
    cases hst : r.status <;> simp_all [ReportStatus.customerCanSee]
  simp only [get, load, hk.findReport?_eq_some hr, found, hrole, RepairOrder.load, ho, hmine,
    hcan, ne_eq, not_true_eq_false, ite_false, Bool.not_true, Bool.false_eq_true, liftM,
    monadLift, MonadLift.monadLift, Except.mapError, bind, Except.bind]
  cases customerView s o r <;> rfl

/-- The listing of a stage past the draft stage, for a customer, is the traversal of the single
reads of the reports it lists. -/
theorem listByStatus_answer (hk : Keyed s) (hrole : a.role = .customer) (hst : st ≠ .draft) :
    Plan.answer <$> listByStatus a st ctx s =
      (s.reportsOfCustomer a.id st).mapM fun r => Plan.answer <$> get a r.reportId ctx s := by
  have hcan : st.customerCanSee = true := by
    cases st <;> simp_all [ReportStatus.customerCanSee]
  simp only [listByStatus, hrole, hcan, Bool.not_true, Bool.false_eq_true, ite_false]
  rw [answer_map_bind_answering, customerViews_eq_filterMapM]
  -- every listed report has its order among the customer's orders, and is read the same way
  refine filterMapM_eq_mapM fun r hr => ?_
  obtain ⟨hmem, hstatus, o, ho, hmine⟩ := Store.mem_reportsOfCustomer.mp hr
  rw [freshView, Store.find?_ordersOfCustomer hk ho hmine,
    get_of_own hk hrole hmem (hstatus ▸ hst) ho hmine]
  dsimp only
  cases customerView s o r <;> rfl

theorem listByStatus_draft (hrole : a.role = .customer) :
    listByStatus a .draft ctx s =
      .error (.refused (.validation "Only report above Draft can be seen by Customer")) := by
  simp only [listByStatus, hrole]
  rfl

theorem listByStatus_writes_nothing {p : Plan (List ReportView)}
    (h : listByStatus a st ctx s = .ok p) : p.changes = [] ∧ p.audit = [] := by
  unfold listByStatus at h
  cases hrole : a.role <;> simp only [hrole, pure_eq_ok] at h
  case customer =>
    simp only [ite_bind_eq_ok, bind_eq_ok, pure_eq_ok] at h
    obtain ⟨-, _, -, rfl⟩ := h
    exact ⟨rfl, rfl⟩
  all_goals
    subst h
    exact ⟨rfl, rfl⟩

end TechnicianReport

/-- In every store with unique keys, a customer's listing of a stage past the draft stage reads
as the single reads of the reports it lists, in order and with the same failure if any: the
reports of that stage on the customer's stored orders, by their last change. Each read shows the
report's cost less its order's coupon discount, never below zero, and fails only when that net
cost overflows; so the listing answers whenever no net cost overflows. The listing writes
nothing, and a customer's listing of drafts is refused. The discounts the listing remembers
within the call change no view: from any memo of the store's discounts, the remaining reports
are priced as each would be on its own. -/
theorem customer_listing_reads_each_report (s : Store) (hk : Keyed s) (a : Actor)
    (hrole : a.role = .customer) (st : ReportStatus) (ctx : Context) :
    (st = .draft → TechnicianReport.listByStatus a st ctx s =
      .error (.refused (.validation "Only report above Draft can be seen by Customer"))) ∧
    (st ≠ .draft →
      Plan.answer <$> TechnicianReport.listByStatus a st ctx s =
        (s.reportsOfCustomer a.id st).mapM
          (fun r => Plan.answer <$> TechnicianReport.get a r.reportId ctx s) ∧
      (∀ p, TechnicianReport.listByStatus a st ctx s = .ok p → p.changes = []) ∧
      (∀ r, r ∈ s.reportsOfCustomer a.id st ↔ r ∈ s.reports ∧ r.status = st ∧
        ∃ o, s.findOrder? r.repairOrderId = some o ∧ o.customerId = a.id) ∧
      (s.reportsOfCustomer a.id st).Pairwise (fun r q => r.lastUpdatedAt ≤ q.lastUpdatedAt) ∧
      (∀ r ∈ s.reportsOfCustomer a.id st, ∀ o, s.findOrder? r.repairOrderId = some o →
        (TechnicianReport.NetFits s o r →
          TechnicianReport.get a r.reportId ctx s =
            .ok (Plan.answering (TechnicianReport.netView s o r))) ∧
        (¬ TechnicianReport.NetFits s o r →
          TechnicianReport.get a r.reportId ctx s = .error (.overflow .sub))) ∧
      ((∀ r ∈ s.reportsOfCustomer a.id st, ∀ o, s.findOrder? r.repairOrderId = some o →
          TechnicianReport.NetFits s o r) →
        ∃ p, TechnicianReport.listByStatus a st ctx s = .ok p)) ∧
    (∀ memo, TechnicianReport.MemoSound s memo → ∀ rs,
      TechnicianReport.priceReports s (s.ordersOfCustomer a.id) rs memo =
        rs.filterMapM (TechnicianReport.freshView s (s.ordersOfCustomer a.id))) := by
  refine ⟨fun hdraft => hdraft ▸ TechnicianReport.listByStatus_draft hrole, fun hst => ?_,
    fun memo hmemo rs => TechnicianReport.priceReports_eq_filterMapM rs hmemo⟩
  have hanswer := @TechnicianReport.listByStatus_answer a ctx s st hk hrole hst
  -- each listed report is read as its own order prices it
  have hread : ∀ r ∈ s.reportsOfCustomer a.id st, ∀ o, s.findOrder? r.repairOrderId = some o →
      TechnicianReport.get a r.reportId ctx s =
        Plan.answering <$> liftM (TechnicianReport.customerView s o r) := by
    intro r hr o ho
    obtain ⟨hmem, hstatus, o', ho', hmine⟩ := Store.mem_reportsOfCustomer.mp hr
    rw [ho, Option.some_inj] at ho'
    subst ho'
    exact TechnicianReport.get_of_own hk hrole hmem (hstatus ▸ hst) ho hmine
  refine ⟨hanswer, fun p hp => (TechnicianReport.listByStatus_writes_nothing hp).1,
    fun r => Store.mem_reportsOfCustomer, Store.reportsOfCustomer_sorted,
    fun r hr o ho => ⟨fun hfit => ?_, fun hfit => ?_⟩, fun hfit => ?_⟩
  · rw [hread r hr o ho, TechnicianReport.customerView_of_netFits hfit]
    rfl
  · rw [hread r hr o ho, TechnicianReport.customerView_of_not_netFits hfit]
    rfl
  · -- every single read answers, so the traversal does, and with it the listing
    have hall : ∀ r ∈ s.reportsOfCustomer a.id st,
        ∃ v, Plan.answer <$> TechnicianReport.get a r.reportId ctx s = .ok v := by
      intro r hr
      obtain ⟨-, -, o, ho, -⟩ := Store.mem_reportsOfCustomer.mp hr
      rw [hread r hr o ho, TechnicianReport.customerView_of_netFits (hfit r hr o ho)]
      exact ⟨_, rfl⟩
    obtain ⟨views, hviews⟩ := mapM_eq_ok_of_forall hall
    rw [hviews] at hanswer
    obtain ⟨p, hp, -⟩ := map_eq_ok.mp hanswer
    exact ⟨p, hp⟩

/-- A customer with three orders, two sharing a coupon and one whose coupon was deleted, lists
their submitted reports net of those discounts; another customer's report and a report whose order
is gone are left out. -/
theorem customer_lists_reports_net_of_shared_coupon :
    let coupon : Coupon := ⟨Uuid.ofNat 5, "SAVE10K", 10000, 5, 2, none, 0, ⟨0, 0⟩, ⟨0, 0⟩⟩
    let order (id customer : Nat) (couponId : Uuid) : RepairOrder :=
      ⟨Uuid.ofNat id, Uuid.ofNat customer, Uuid.ofNat 3, .inProgress, "Espresso machine",
        "Leaks from the group head", "Water pools under the machine", ⟨2026, 3, 1⟩, Uuid.ofNat 4,
        some couponId, 0, ⟨0, 0⟩, ⟨0, 0⟩⟩
    let report (id orderId : Nat) (cost : Int) (at_ : Int) : TechnicianReport :=
      ⟨Uuid.ofNat id, Uuid.ofNat orderId, Uuid.ofNat 3, some "Worn group gasket",
        some "Replace gasket", some cost, some 5400, .submitted, 1, ⟨at_, 0⟩⟩
    let s : Store :=
      { orders := [order 1 2 coupon.id, order 11 2 coupon.id, order 12 2 (Uuid.ofNat 13),
          order 14 7 coupon.id],
        coupons := [coupon],
        reports := [report 6 1 150000 0, report 16 11 5000 1, report 17 12 80000 2,
          report 18 14 90000 3, report 19 20 70000 4] }
    let a : Actor := ⟨Uuid.ofNat 2, .customer⟩
    let ctx : Context := ⟨⟨2026, 1, 1⟩, ⟨0, 0⟩, Uuid.ofNat 9⟩
    Keyed s ∧ a.role = .customer ∧
      Plan.answer <$> TechnicianReport.listByStatus a .submitted ctx s =
        .ok [{ (report 6 1 150000 0).view with estimatedCost := some 140000 },
          { (report 16 11 5000 1).view with estimatedCost := some 0 },
          (report 17 12 80000 2).view] := by
  intro coupon order report s a ctx
  have hk : Keyed s := ⟨by decide, by decide, by decide, by decide⟩
  have hlisted : s.reportsOfCustomer a.id .submitted =
      [report 6 1 150000 0, report 16 11 5000 1, report 17 12 80000 2] := by
    -- the reports listed are already in order of their last change
    unfold Store.reportsOfCustomer Store.byLastUpdate
    rw [List.mergeSort_of_pairwise (by decide)]
    decide
  refine ⟨hk, rfl, ?_⟩
  rw [((customer_listing_reads_each_report s hk a rfl .submitted ctx).2.1 (by decide)).1,
    hlisted]
  decide

/-- A report whose cost is the least signed 64-bit word, on an order whose coupon discounts
10000: its net cost does not fit a word, so neither the read nor the listing answers. -/
theorem customer_listing_overflows_net_cost :
    let coupon : Coupon := ⟨Uuid.ofNat 5, "SAVE10K", 10000, 5, 1, none, 0, ⟨0, 0⟩, ⟨0, 0⟩⟩
    let order : RepairOrder :=
      ⟨Uuid.ofNat 1, Uuid.ofNat 2, Uuid.ofNat 3, .inProgress, "Espresso machine",
        "Leaks from the group head", "Water pools under the machine", ⟨2026, 3, 1⟩, Uuid.ofNat 4,
        some coupon.id, 0, ⟨0, 0⟩, ⟨0, 0⟩⟩
    let report : TechnicianReport :=
      ⟨Uuid.ofNat 6, order.id, Uuid.ofNat 3, some "Worn group gasket", some "Replace gasket",
        some (wordMin 64), some 5400, .submitted, 1, ⟨0, 0⟩⟩
    let s : Store := { orders := [order], coupons := [coupon], reports := [report] }
    let a : Actor := ⟨Uuid.ofNat 2, .customer⟩
    let ctx : Context := ⟨⟨2026, 1, 1⟩, ⟨0, 0⟩, Uuid.ofNat 9⟩
    Keyed s ∧ TechnicianReport.get a report.reportId ctx s = .error (.overflow .sub) ∧
      TechnicianReport.listByStatus a .submitted ctx s = .error (.overflow .sub) := by
  intro coupon order report s a ctx
  have hk : Keyed s := ⟨by decide, by decide, by decide, by decide⟩
  have hget : TechnicianReport.get a report.reportId ctx s = .error (.overflow .sub) := rfl
  have hlisted : s.reportsOfCustomer a.id .submitted = [report] := by
    simp [s, report, order, a, Store.reportsOfCustomer, Store.byLastUpdate, Store.findOrder?]
  have hanswer := @TechnicianReport.listByStatus_answer a ctx s .submitted hk rfl (by decide)
  rw [hlisted, List.mapM_cons, hget] at hanswer
  exact ⟨hk, hget, map_eq_error.mp hanswer⟩

end RepairDesk
