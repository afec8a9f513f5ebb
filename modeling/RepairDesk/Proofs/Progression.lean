import RepairDesk.Proofs.Completion
import RepairDesk.Proofs.MethodReferences

namespace RepairDesk

open Tables Store

namespace Tables

section Forward

variable {α : Type} (key : α → Uuid)

/-- How a table moves, key by key: a row kept under its key is related by `keeps` to the row
before, a row under a key that was free satisfies `enters`, and a row that leaves satisfied
`leaves`. -/
structure Forward (keeps : α → α → Prop) (enters leaves : α → Prop) (rows rows' : List α) :
    Prop where
  kept : ∀ x r r', rows.find? (fun q => key q == x) = some r →
    rows'.find? (fun q => key q == x) = some r' → keeps r r'
  entered : ∀ x r', rows.find? (fun q => key q == x) = none →
    rows'.find? (fun q => key q == x) = some r' → enters r'
  left : ∀ x r, rows.find? (fun q => key q == x) = some r →
    rows'.find? (fun q => key q == x) = none → leaves r

variable {key} {keeps : α → α → Prop} {enters leaves : α → Prop} {rows : List α}

namespace Forward

variable (hrefl : ∀ r, keeps r r)
include hrefl

theorem refl : Forward key keeps enters leaves rows rows where
  kept x r r' h h' := by
    rw [h, Option.some_inj] at h'
    exact h' ▸ hrefl r
  entered x r' h h' := by
    rw [h] at h'
    cases h'
  left x r h h' := by
    rw [h] at h'
    cases h'

theorem replaceBy {row : α}
    (hrow : ∀ r, rows.find? (fun q => key q == key row) = some r → keeps r row) :
    Forward key keeps enters leaves rows (Store.replaceBy key row rows) where
  kept x r r' h h' := by
    rw [find?_replaceBy, h, Option.map_some, Option.some_inj] at h'
    by_cases hkey : key r = key row
    · have hx : key r = x := (key_eq_of_find?_eq_some key h).1
      rw [hkey] at hx
      subst hx
      simp only [hkey, beq_self_eq_true, ite_true] at h'
      exact h' ▸ hrow r h
    · simp only [hkey, beq_iff_eq, ite_false] at h'
      exact h' ▸ hrefl r
  entered x r' h h' := by
    rw [find?_replaceBy, h, Option.map_none] at h'
    cases h'
  left x r h h' := by
    rw [find?_replaceBy, h, Option.map_some] at h'
    cases h'

theorem append {row : α} (hrow : enters row) :
    Forward key keeps enters leaves rows (rows ++ [row]) where
  kept x r r' h h' := by
    rw [List.find?_append, h, Option.some_or, Option.some_inj] at h'
    exact h' ▸ hrefl r
  entered x r' h h' := by
    rw [List.find?_append, h, Option.none_or] at h'
    rw [List.mem_singleton.mp (List.mem_of_find?_eq_some h')]
    exact hrow
  left x r h h' := by
    rw [List.find?_append, h, Option.some_or] at h'
    cases h'

theorem filter {y : Uuid}
    (hy : ∀ r, rows.find? (fun q => key q == y) = some r → leaves r) :
    Forward key keeps enters leaves rows (rows.filter fun q => key q != y) where
  kept x r r' h h' := by
    rw [find?_filter_key_ne] at h'
    split at h'
    · cases h'
    · rw [h, Option.some_inj] at h'
      exact h' ▸ hrefl r
  entered x r' h h' := by
    rw [find?_filter_key_ne] at h'
    split at h'
    · cases h'
    · rw [h] at h'
      cases h'
  left x r h h' := by
    rw [find?_filter_key_ne] at h'
    split at h'
    · rename_i hyx
      subst hyx
      exact hy r h
    · rw [h] at h'
      cases h'

end Forward

end Forward

end Tables

/-! ### What a step may do to a row -/

namespace RepairOrder

structure Follows (moves : Bool) (o o' : RepairOrder) : Prop where
  customerId : o'.customerId = o.customerId
  technicianId : o'.technicianId = o.technicianId
  createdAt : o'.createdAt = o.createdAt
  rank_le : o.status.rank ≤ o'.status.rank
  stays : moves = false → o'.status = o.status

theorem Follows.refl (moves : Bool) (o : RepairOrder) : o.Follows moves o :=
  ⟨rfl, rfl, rfl, Nat.le_refl _, fun _ => rfl⟩

end RepairOrder

namespace TechnicianReport

structure Follows (r r' : TechnicianReport) : Prop where
  reportId : r'.reportId = r.reportId
  repairOrderId : r'.repairOrderId = r.repairOrderId
  technicianId : r'.technicianId = r.technicianId
  status : r'.status = r.status ∨ ∃ a, r.status.next? a = some r'.status
  fields : r.status ≠ .draft → r'.diagnosis = r.diagnosis ∧ r'.actionPlan = r.actionPlan ∧
    r'.estimatedCost = r.estimatedCost ∧ r'.estimatedTimeSeconds = r.estimatedTimeSeconds

theorem Follows.refl (r : TechnicianReport) : r.Follows r :=
  ⟨rfl, rfl, rfl, .inl rfl, fun _ => ⟨rfl, rfl, rfl, rfl⟩⟩

end TechnicianReport

/-- What one step does to the stored orders and reports, key by key. An order enters awaiting
confirmation and leaves only so, with no active report; a report enters and leaves only as a
draft. `moves` says whether the step may move the stage of an order. -/
structure Store.Forward (moves : Bool) (s t : Store) : Prop where
  orders : Tables.Forward (·.id) (RepairOrder.Follows moves) (·.status = .pendingConfirmation)
    (fun o => o.status = .pendingConfirmation ∧ s.hasActiveReport o.id = false) s.orders t.orders
  reports : Tables.Forward (·.reportId) TechnicianReport.Follows (·.status = .draft)
    (·.status = .draft) s.reports t.reports

def Command.movesOrders : Command → Bool
  | .startWork .. | .completeWork .. => true
  | _ => false

/-! ### The tables a commit leaves -/

namespace Store

variable {s t : Store}

theorem orders_of_commit {cs : ChangeSet} (h : s.commit cs = .ok t) :
    t.orders = cs.foldl (fun os c => c.editOrders os) s.orders := by
  induction cs generalizing s with
  | nil =>
      rw [commit_nil, Except.ok.injEq] at h
      rw [h]
      rfl
  | cons c cs ih =>
      obtain ⟨u, happ, hrest⟩ := commit_cons_eq_ok.mp h
      rw [ih hrest, (tables_of_apply happ).1]
      rfl

theorem foldl_editOrders_of_coupons {cs : ChangeSet} (h : ∀ c ∈ cs, ∃ w v, c = .updateCoupon w v)
    (os : List RepairOrder) : cs.foldl (fun os c => c.editOrders os) os = os := by
  induction cs with
  | nil => rfl
  | cons c cs ih =>
      obtain ⟨w, v, rfl⟩ := h c List.mem_cons_self
      exact ih fun c hc => h c (List.mem_cons_of_mem _ hc)

theorem find?_order_of_findOrder? {x : Uuid} {o : RepairOrder} (h : s.findOrder? x = some o)
    {q : RepairOrder} (hq : s.orders.find? (fun p => p.id == o.id) = some q) : q = o := by
  rw [(mem_of_findOrder? h).2] at hq
  exact Option.some_inj.mp (hq.symm.trans h)

theorem find?_report_of_findReport? {x : Uuid} {r : TechnicianReport}
    (h : s.findReport? x = some r) {q : TechnicianReport}
    (hq : s.reports.find? (fun p => p.reportId == r.reportId) = some q) : q = r := by
  rw [(mem_of_findReport? h).2] at hq
  exact Option.some_inj.mp (hq.symm.trans h)

end Store

namespace Store.Forward

variable {moves : Bool} {s t : Store}

theorem of_tables_eq (ho : t.orders = s.orders) (hr : t.reports = s.reports) :
    s.Forward moves t := by
  refine ⟨?_, ?_⟩
  · rw [ho]
    exact Tables.Forward.refl (RepairOrder.Follows.refl moves)
  · rw [hr]
    exact Tables.Forward.refl TechnicianReport.Follows.refl

end Store.Forward

/-! ### Each operation -/

namespace TechnicianReport

variable {actor : Actor} {ctx : Context} {s t : Store} {id : Uuid}

theorem follows_of_apply {r r' : TechnicianReport} {a : ReportAction} {now : Instant}
    (h : r.apply a now = .ok r') : r.Follows { r' with version := r'.version + 1 } := by
  obtain ⟨next, hnext, -, rfl⟩ := apply_eq_ok.mp h
  exact ⟨rfl, rfl, rfl, .inr ⟨a, hnext⟩, fun _ => ⟨rfl, rfl, rfl, rfl⟩⟩

theorem move_forward {r r' : TechnicianReport} (hfound : s.findReport? id = some r)
    {a : ReportAction} (hmove : r.apply a ctx.now = .ok r') :
    Tables.Forward (·.reportId) Follows (·.status = .draft) (·.status = .draft) s.reports
      (Store.replaceBy (·.reportId) { r' with version := r'.version + 1 } s.reports) := by
  obtain ⟨next, -, -, rfl⟩ := apply_eq_ok.mp hmove
  refine Tables.Forward.replaceBy Follows.refl fun q hq => ?_
  rw [Store.find?_report_of_findReport? hfound hq]
  exact follows_of_apply hmove

theorem createDraft_forward {req : DraftRequest} {p : Plan TechnicianReport}
    (hp : createDraft actor req ctx s = .ok p) (ht : s.commit p.changes = .ok t) :
    s.Forward false t := by
  obtain ⟨-, o, hfound, -, -, -, -, -, rfl⟩ := createDraft_eq_ok hp
  refine ⟨?_, ?_⟩
  · -- the order is rewritten only to raise its version
    rw [orders_of_commit ht]
    refine Tables.Forward.replaceBy (RepairOrder.Follows.refl false) fun q hq => ?_
    rw [Store.find?_order_of_findOrder? hfound hq]
    exact ⟨rfl, rfl, rfl, Nat.le_refl _, fun _ => rfl⟩
  · rw [reports_of_commit ht]
    exact Tables.Forward.append Follows.refl rfl

theorem updateDraft_forward {f : DraftFields} {p : Plan TechnicianReport}
    (hp : updateDraft actor id f ctx s = .ok p) (ht : s.commit p.changes = .ok t) :
    s.Forward false t := by
  obtain ⟨-, r, hfound, -, hdraft, -, -, rfl⟩ := updateDraft_eq_ok hp
  refine ⟨?_, ?_⟩
  · rw [orders_of_commit ht]
    exact Tables.Forward.refl (RepairOrder.Follows.refl false)
  · rw [reports_of_commit ht]
    refine Tables.Forward.replaceBy Follows.refl fun q hq => ?_
    rw [Store.find?_report_of_findReport? hfound hq]
    -- a draft may have its fields rewritten
    exact ⟨rfl, rfl, rfl, .inl rfl, fun hnot => absurd hdraft hnot⟩

theorem deleteDraft_forward {p : Plan Unit} (hp : deleteDraft actor id ctx s = .ok p)
    (ht : s.commit p.changes = .ok t) : s.Forward false t := by
  obtain ⟨-, r, hfound, -, hdraft, rfl⟩ := deleteDraft_eq_ok hp
  refine ⟨?_, ?_⟩
  · rw [orders_of_commit ht]
    exact Tables.Forward.refl (RepairOrder.Follows.refl false)
  · rw [reports_of_commit ht]
    refine Tables.Forward.filter Follows.refl fun q hq => ?_
    rw [Store.find?_report_of_findReport? hfound hq]
    exact hdraft

theorem submit_forward {p : Plan TechnicianReport} (hp : submit actor id ctx s = .ok p)
    (ht : s.commit p.changes = .ok t) : s.Forward false t := by
  obtain ⟨-, r, r', hfound, -, hmove, -, rfl⟩ := submit_eq_ok hp
  refine ⟨?_, ?_⟩
  · rw [orders_of_commit ht]
    exact Tables.Forward.refl (RepairOrder.Follows.refl false)
  · rw [reports_of_commit ht]
    exact move_forward hfound hmove

theorem decide_forward {action : ReportAction} {p : Plan TechnicianReport}
    (hp : decide action actor id ctx s = .ok p) (ht : s.commit p.changes = .ok t) :
    s.Forward false t := by
  obtain ⟨-, r, -, r', hfound, -, -, hmove, -, rfl⟩ := decide_eq_ok hp
  refine ⟨?_, ?_⟩
  · rw [orders_of_commit ht]
    exact Tables.Forward.refl (RepairOrder.Follows.refl false)
  · rw [reports_of_commit ht]
    exact move_forward hfound hmove

theorem advance_forward {leaves : RepairOrder → Prop} {x : Uuid} {o o' : RepairOrder}
    (hfound : s.findOrder? x = some o) {next : OrderStatus} (hadvance : o.advance next = .ok o')
    (now : Instant) :
    Tables.Forward (·.id) (RepairOrder.Follows true) (·.status = .pendingConfirmation) leaves
      s.orders (Store.replaceBy (·.id) { o' with version := o'.version + 1, updatedAt := now }
        s.orders) := by
  obtain ⟨hforward, rfl⟩ := RepairOrder.advance_eq_ok.mp hadvance
  refine Tables.Forward.replaceBy (RepairOrder.Follows.refl true) fun q hq => ?_
  rw [Store.find?_order_of_findOrder? hfound hq]
  -- the order moves to a later stage, which starting or completing work may do
  have hrank : o.status.rank < next.rank := by
    simpa [OrderStatus.canAdvanceTo] using hforward
  exact ⟨rfl, rfl, rfl, Nat.le_of_lt hrank, fun h => absurd h (by decide)⟩

theorem startWork_forward {p : Plan TechnicianReport} (hp : startWork actor id ctx s = .ok p)
    (ht : s.commit p.changes = .ok t) : s.Forward true t := by
  obtain ⟨-, r, o, r', o', hfound, -, horder, hmove, hadvance, -, -, rfl⟩ := startWork_eq_ok hp
  refine ⟨?_, ?_⟩
  · rw [orders_of_commit ht]
    exact advance_forward horder hadvance ctx.now
  · rw [reports_of_commit ht]
    exact move_forward hfound hmove

theorem completeWork_forward {p : Plan TechnicianReport} (hp : completeWork actor id ctx s = .ok p)
    (ht : s.commit p.changes = .ok t) : s.Forward true t := by
  obtain ⟨-, r, o, r', o', hfound, -, horder, hmove, hadvance, -, -, rfl⟩ := completeWork_eq_ok hp
  refine ⟨?_, ?_⟩
  · rw [orders_of_commit ht]
    exact advance_forward horder hadvance ctx.now
  · rw [reports_of_commit ht]
    exact move_forward hfound hmove

end TechnicianReport

namespace RepairOrder

variable {actor : Actor} {ctx : Context} {s t : Store} {id : Uuid}

theorem create_forward {req : OrderRequest} {p : Plan RepairOrder}
    (hp : create actor req ctx s = .ok p) (ht : s.commit p.changes = .ok t) :
    s.Forward false t := by
  obtain ⟨-, -, -, cs, couponId, hcoupon, hchanges, hanswer⟩ := create_eq_ok hp
  have hcoupons : ∀ c ∈ cs, ∃ w v, c = .updateCoupon w v := by
    rcases hcoupon with ⟨-, rfl, -⟩ | ⟨code, c, c', -, -, hstage, -⟩
    · simp
    · obtain ⟨rfl, -, -⟩ := Coupon.stageApply_changes hstage
      simp
  refine ⟨?_, ?_⟩
  · rw [orders_of_commit ht, hchanges, List.foldl_append, foldl_editOrders_of_coupons hcoupons]
    refine Tables.Forward.append (RepairOrder.Follows.refl false) ?_
    rw [hanswer]
    rfl
  · rw [reports_of_commit_off (create_offReports hp) ht]
    exact Tables.Forward.refl TechnicianReport.Follows.refl

theorem update_forward {d : OrderDetails} {p : Plan RepairOrder}
    (hp : update actor id d ctx s = .ok p) (ht : s.commit p.changes = .ok t) :
    s.Forward false t := by
  obtain ⟨o, hload, -, -, requested, cs, couponId, -, hchange, -, hchanges, hanswer⟩ :=
    update_eq_ok hp
  obtain ⟨-, hfound, -, -, -⟩ := loadEditable_eq_ok.mp hload
  refine ⟨?_, ?_⟩
  · rw [orders_of_commit ht, hchanges, List.foldl_append,
      foldl_editOrders_of_coupons (stageCouponChange_coupons hchange)]
    refine Tables.Forward.replaceBy (RepairOrder.Follows.refl false) fun q hq => ?_
    rw [hanswer] at hq
    rw [Store.find?_order_of_findOrder? hfound hq, hanswer]
    exact ⟨rfl, rfl, rfl, Nat.le_refl _, fun _ => rfl⟩
  · rw [reports_of_commit_off (update_offReports hp) ht]
    exact Tables.Forward.refl TechnicianReport.Follows.refl

theorem delete_forward {p : Plan Unit} (hp : delete actor id ctx s = .ok p)
    (ht : s.commit p.changes = .ok t) : s.Forward false t := by
  obtain ⟨o, hload, hcases⟩ := delete_eq_ok hp
  obtain ⟨-, hfound, -, hpending, hidle⟩ := loadEditable_eq_ok.mp hload
  obtain ⟨cs, hcoupons, hchanges⟩ : ∃ cs : ChangeSet, (∀ c ∈ cs, ∃ w v, c = .updateCoupon w v) ∧
      p.changes = cs ++ [.deleteOrder o.id o.version] := by
    rcases hcases with ⟨-, hchanges⟩ | ⟨c, cs, c', -, hstage, hchanges⟩
    · exact ⟨[], by simp, hchanges⟩
    · obtain ⟨rfl, -, -⟩ := Coupon.stageRelease_changes hstage
      exact ⟨_, by simp, hchanges⟩
  refine ⟨?_, ?_⟩
  · rw [orders_of_commit ht, hchanges, List.foldl_append, foldl_editOrders_of_coupons hcoupons]
    refine Tables.Forward.filter (RepairOrder.Follows.refl false) fun q hq => ?_
    rw [Store.find?_order_of_findOrder? hfound hq]
    exact ⟨hpending, hidle⟩
  · rw [reports_of_commit_off (delete_offReports hp) ht]
    exact Tables.Forward.refl TechnicianReport.Follows.refl

end RepairOrder

/-! The catalogues write neither orders nor reports. -/

section Catalogues

variable {actor : Actor} {ctx : Context} {s t : Store} {id : Uuid}

theorem Coupon.create_forward {req : CouponRequest} {p : Plan Coupon}
    (hp : create actor req ctx s = .ok p) (ht : s.commit p.changes = .ok t) :
    s.Forward false t := by
  obtain ⟨-, -, -, hchanges, -⟩ := create_eq_ok hp
  refine .of_tables_eq ?_ (reports_of_commit_off (create_offReports hp) ht)
  rw [orders_of_commit ht, hchanges]
  rfl

theorem Coupon.update_forward {req : CouponRequest} {p : Plan Coupon}
    (hp : update actor id req ctx s = .ok p) (ht : s.commit p.changes = .ok t) :
    s.Forward false t := by
  obtain ⟨-, -, c, -, -, -, -, hchanges, -⟩ := update_eq_ok hp
  refine .of_tables_eq ?_ (reports_of_commit_off (update_offReports hp) ht)
  rw [orders_of_commit ht, hchanges]
  rfl

theorem Coupon.delete_forward {p : Plan Unit} (hp : delete actor id ctx s = .ok p)
    (ht : s.commit p.changes = .ok t) : s.Forward false t := by
  obtain ⟨-, c, -, -, hchanges⟩ := delete_eq_ok hp
  refine .of_tables_eq ?_ (reports_of_commit_off (delete_offReports hp) ht)
  rw [orders_of_commit ht, hchanges]
  rfl

theorem PaymentMethod.create_forward {req : PaymentMethodRequest} {p : Plan PaymentMethod}
    (hp : create actor req ctx s = .ok p) (ht : s.commit p.changes = .ok t) :
    s.Forward false t := by
  obtain ⟨-, -, hchanges, -⟩ := create_eq_ok hp
  refine .of_tables_eq ?_ (reports_of_commit_off (create_offReports hp) ht)
  rw [orders_of_commit ht, hchanges]
  rfl

theorem PaymentMethod.update_forward {req : PaymentMethodRequest} {p : Plan PaymentMethod}
    (hp : update actor id req ctx s = .ok p) (ht : s.commit p.changes = .ok t) :
    s.Forward false t := by
  obtain ⟨-, -, m, -, -, hchanges, -⟩ := update_eq_ok hp
  refine .of_tables_eq ?_ (reports_of_commit_off (update_offReports hp) ht)
  rw [orders_of_commit ht, hchanges]
  rfl

theorem PaymentMethod.delete_forward {p : Plan Unit} (hp : delete actor id ctx s = .ok p)
    (ht : s.commit p.changes = .ok t) : s.Forward false t := by
  obtain ⟨-, m, -, -, hchanges⟩ := delete_eq_ok hp
  refine .of_tables_eq ?_ (reports_of_commit_off (delete_offReports hp) ht)
  rw [orders_of_commit ht, hchanges]
  rfl

end Catalogues

/-- A committed plan moves the store forward; only starting and completing work move an
order's stage. -/
theorem Command.commit_forward {c : Command} {ctx : Context} {s t : Store} {cs : ChangeSet}
    (hplan : c.plan ctx s = .ok cs) (ht : s.commit cs = .ok t) : s.Forward c.movesOrders t := by
  cases hread : c.readsOnly
  · cases c <;> simp only [readsOnly, Bool.true_eq_false] at hread <;>
      obtain ⟨p, hp, rfl⟩ := staged_eq_ok.mp hplan
    case createDraft => exact TechnicianReport.createDraft_forward hp ht
    case updateDraft => exact TechnicianReport.updateDraft_forward hp ht
    case deleteDraft => exact TechnicianReport.deleteDraft_forward hp ht
    case submitDraft => exact TechnicianReport.submit_forward hp ht
    case acceptSubmission => exact TechnicianReport.decide_forward hp ht
    case rejectSubmission => exact TechnicianReport.decide_forward hp ht
    case startWork => exact TechnicianReport.startWork_forward hp ht
    case completeWork => exact TechnicianReport.completeWork_forward hp ht
    case createOrder => exact RepairOrder.create_forward hp ht
    case updateOrder => exact RepairOrder.update_forward hp ht
    case deleteOrder => exact RepairOrder.delete_forward hp ht
    case createCoupon => exact Coupon.create_forward hp ht
    case updateCoupon => exact Coupon.update_forward hp ht
    case deleteCoupon => exact Coupon.delete_forward hp ht
    case createPaymentMethod => exact PaymentMethod.create_forward hp ht
    case updatePaymentMethod => exact PaymentMethod.update_forward hp ht
    case deletePaymentMethod => exact PaymentMethod.delete_forward hp ht
  · rw [plan_eq_nil_of_readsOnly hread hplan, commit_nil, Except.ok.injEq] at ht
    subst ht
    exact .of_tables_eq rfl rfl

theorem Command.run_forward (c : Command) (ctx : Context) (s : Store) :
    s.Forward c.movesOrders (c.run ctx s) := by
  rcases c.run_cases ctx s with hkeep | ⟨cs, hplan, hc⟩
  · rw [hkeep]
    exact .of_tables_eq rfl rfl
  · exact c.commit_forward hplan hc

/-! ### Along a run -/

namespace ReportStatus

def rank : ReportStatus → Nat
  | .draft => 0
  | .submitted => 1
  | .approved => 2
  | .inProgress => 3
  | .completed => 4
  | .rejected => 5

theorem rank_lt_of_next? {st next : ReportStatus} {a : ReportAction}
    (h : st.next? a = some next) : st.rank < next.rank := by
  cases st <;> cases a <;> simp [next?] at h <;> subst h <;> decide

theorem rank_injective : Function.Injective rank := by
  intro a b h
  cases a <;> cases b <;> simp_all [rank]

end ReportStatus

theorem OrderStatus.rank_injective : Function.Injective OrderStatus.rank := by
  intro a b h
  cases a <;> cases b <;> simp_all [OrderStatus.rank]

theorem TechnicianReport.Follows.rank_le {r r' : TechnicianReport} (h : r.Follows r') :
    r.status.rank ≤ r'.status.rank := by
  rcases h.status with hsame | ⟨a, hnext⟩
  · exact Nat.le_of_eq (congrArg ReportStatus.rank hsame.symm)
  · exact Nat.le_of_lt (ReportStatus.rank_lt_of_next? hnext)

theorem Tables.Forward.rank_le {α : Type} {key : α → Uuid} {keeps : α → α → Prop}
    {enters leaves : α → Prop} {rows rows' : List α}
    (h : Forward key keeps enters leaves rows rows') (f : α → Nat)
    (hkeeps : ∀ r r', keeps r r' → f r ≤ f r') (hleaves : ∀ r, leaves r → f r = 0) (x : Uuid) :
    ((rows.find? (fun q => key q == x)).map f).getD 0 ≤
      ((rows'.find? (fun q => key q == x)).map f).getD 0 := by
  cases hr : rows.find? (fun q => key q == x) with
  | none => simp
  | some r =>
      cases hr' : rows'.find? (fun q => key q == x) with
      | none => simp [hleaves r (h.left x r hr hr')]
      | some r' => simpa using hkeeps r r' (h.kept x r r' hr hr')

namespace Store

def reportRank (s : Store) (x : Uuid) : Nat :=
  ((s.findReport? x).map (·.status.rank)).getD 0

def orderRank (s : Store) (x : Uuid) : Nat :=
  ((s.findOrder? x).map (·.status.rank)).getD 0

theorem Forward.reportRank_le {moves : Bool} {s t : Store} (h : s.Forward moves t) (x : Uuid) :
    s.reportRank x ≤ t.reportRank x :=
  h.reports.rank_le (·.status.rank) (fun _ _ hr => hr.rank_le)
    (fun r hdraft => by simp [hdraft, ReportStatus.rank]) x

theorem Forward.orderRank_le {moves : Bool} {s t : Store} (h : s.Forward moves t) (x : Uuid) :
    s.orderRank x ≤ t.orderRank x :=
  h.orders.rank_le (·.status.rank) (fun _ _ ho => ho.rank_le)
    (fun o hleave => by simp [hleave.1, OrderStatus.rank]) x

end Store

namespace Command

theorem runAll_append (xs ys : List (Command × Context)) (s : Store) :
    runAll (xs ++ ys) s = runAll ys (runAll xs s) :=
  List.foldl_append ..

theorem rank_le_runAll (steps : List (Command × Context)) (s : Store) (x : Uuid) :
    s.reportRank x ≤ (runAll steps s).reportRank x ∧ s.orderRank x ≤ (runAll steps s).orderRank x := by
  induction steps generalizing s with
  | nil => exact ⟨Nat.le_refl _, Nat.le_refl _⟩
  | cons step steps ih =>
      have hstep := step.1.run_forward step.2 s
      obtain ⟨hreports, horders⟩ := ih (step.1.run step.2 s)
      exact ⟨Nat.le_trans (hstep.reportRank_le x) hreports,
        Nat.le_trans (hstep.orderRank_le x) horders⟩

theorem rank_le_take (steps : List (Command × Context)) (s : Store) {i j : Nat} (hij : i ≤ j)
    (x : Uuid) :
    (runAll (steps.take i) s).reportRank x ≤ (runAll (steps.take j) s).reportRank x ∧
      (runAll (steps.take i) s).orderRank x ≤ (runAll (steps.take j) s).orderRank x := by
  have hsplit : steps.take j = steps.take i ++ (steps.take j).drop i := by
    conv => lhs; rw [← List.take_append_drop i (steps.take j)]
    rw [List.take_take, Nat.min_eq_left hij]
  rw [hsplit, runAll_append]
  exact rank_le_runAll _ _ x

end Command

section Returns

variable {steps : List (Command × Context)} {i j k : Nat} {x : Uuid}

theorem report_stage_between (hij : i ≤ j) (hjk : j ≤ k) {r r' r'' : TechnicianReport}
    (hi : (Command.runAll (steps.take i) Store.empty).findReport? x = some r)
    (hj : (Command.runAll (steps.take j) Store.empty).findReport? x = some r')
    (hk : (Command.runAll (steps.take k) Store.empty).findReport? x = some r'')
    (hback : r''.status = r.status) : r'.status = r.status := by
  have hup : r.status.rank ≤ r'.status.rank := by
    simpa [reportRank, hi, hj] using (Command.rank_le_take steps Store.empty hij x).1
  have hdown : r'.status.rank ≤ r''.status.rank := by
    simpa [reportRank, hj, hk] using (Command.rank_le_take steps Store.empty hjk x).1
  rw [hback] at hdown
  exact ReportStatus.rank_injective (Nat.le_antisymm hdown hup)

theorem order_stage_between (hij : i ≤ j) (hjk : j ≤ k) {o o' o'' : RepairOrder}
    (hi : (Command.runAll (steps.take i) Store.empty).findOrder? x = some o)
    (hj : (Command.runAll (steps.take j) Store.empty).findOrder? x = some o')
    (hk : (Command.runAll (steps.take k) Store.empty).findOrder? x = some o'')
    (hback : o''.status = o.status) : o'.status = o.status := by
  have hup : o.status.rank ≤ o'.status.rank := by
    simpa [orderRank, hi, hj] using (Command.rank_le_take steps Store.empty hij x).2
  have hdown : o'.status.rank ≤ o''.status.rank := by
    simpa [orderRank, hj, hk] using (Command.rank_le_take steps Store.empty hjk x).2
  rw [hback] at hdown
  exact OrderStatus.rank_injective (Nat.le_antisymm hdown hup)

end Returns

/-- Every step of a run from the empty store moves the stored orders and reports forward: an
order kept keeps its customer, technician and creation, and its stage moves only forward and
only by starting or completing work; a report kept keeps its identifiers and technician, moves
at most one step of the stage table, and has its fields rewritten only as a draft; a report
leaves only as a draft, an order only awaiting confirmation with no active report, and both
enter at the first stage. So along the run neither an order nor a report returns to a stage it
has left: a stage held at two points is held at every point between where the row is stored. -/
theorem stages_only_move_forward (steps : List (Command × Context)) (c : Command)
    (ctx : Context) :
    let state (n : Nat) := Command.runAll (steps.take n) Store.empty
    let s := Command.runAll steps Store.empty
    s.Forward c.movesOrders (c.run ctx s) ∧
    ∀ i j k x, i ≤ j → j ≤ k →
      (∀ r r' r'', (state i).findReport? x = some r → (state j).findReport? x = some r' →
        (state k).findReport? x = some r'' → r''.status = r.status → r'.status = r.status) ∧
      (∀ o o' o'', (state i).findOrder? x = some o → (state j).findOrder? x = some o' →
        (state k).findOrder? x = some o'' → o''.status = o.status → o'.status = o.status) := by
  intro state s
  refine ⟨c.run_forward ctx s, fun i j k x hij hjk => ⟨?_, ?_⟩⟩
  · intro r r' r'' hi hj hk hback
    exact report_stage_between hij hjk hi hj hk hback
  · intro o o' o'' hi hj hk hback
    exact order_stage_between hij hjk hi hj hk hback

end RepairDesk
