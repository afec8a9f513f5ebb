import RepairDesk.Proofs.Acceptance

namespace RepairDesk

/-- A computation none of whose failures is `bad`. -/
def Except.Avoids {ε α : Type} (bad : ε → Prop) (x : Except ε α) : Prop :=
  ∀ e, x = .error e → ¬ bad e

section Avoids

variable {ε α β : Type} {bad : ε → Prop}

@[simp] theorem Except.avoids_ok {a : α} : Except.Avoids bad (.ok a : Except ε α) := by
  simp [Except.Avoids]

@[simp] theorem Except.avoids_pure {a : α} : Except.Avoids bad (pure a : Except ε α) := by
  simp [Except.Avoids, pure, Except.pure]

@[simp] theorem Except.avoids_error {e : ε} :
    Except.Avoids bad (.error e : Except ε α) ↔ ¬ bad e := by
  simp [Except.Avoids]

@[simp] theorem Except.avoids_throw {e : ε} :
    Except.Avoids bad (throw e : Except ε α) ↔ ¬ bad e := by
  simp [throw, throwThe, MonadExceptOf.throw, Except.Avoids]

@[simp] theorem Except.avoids_bind {x : Except ε α} {f : α → Except ε β} :
    Except.Avoids bad (x >>= f) ↔
      Except.Avoids bad x ∧ ∀ a, x = .ok a → Except.Avoids bad (f a) := by
  cases x <;> simp [Except.Avoids, bind, Except.bind]

@[simp] theorem Except.avoids_map {x : Except ε α} {f : α → β} :
    Except.Avoids bad (f <$> x) ↔ Except.Avoids bad x := by
  cases x <;> simp [Except.Avoids, Functor.map, Except.map]

@[simp] theorem Except.avoids_ite {c : Prop} [Decidable c] {x y : Except ε α} :
    Except.Avoids bad (if c then x else y) ↔
      (c → Except.Avoids bad x) ∧ (¬ c → Except.Avoids bad y) := by
  by_cases hc : c <;> simp [hc]

theorem Except.avoids_filterMapM {f : α → Except ε (Option β)} {l : List α}
    (h : ∀ a ∈ l, Except.Avoids bad (f a)) : Except.Avoids bad (l.filterMapM f) := by
  induction l with
  | nil => simp
  | cons a l ih =>
      have hrest : Except.Avoids bad (l.filterMapM f) :=
        ih fun x hx => h x (List.mem_cons_of_mem a hx)
      rw [List.filterMapM_cons, Except.avoids_bind]
      refine ⟨h a List.mem_cons_self, fun b _ => ?_⟩
      cases b <;> simp [hrest]

end Avoids

/-- A customer's views avoid a failure when each listed report, priced against any order, does. -/
theorem TechnicianReport.avoids_customerViews {bad : Failure → Prop} {s : Store} {c : Uuid}
    {st : ReportStatus}
    (h : ∀ r ∈ s.reportsOfCustomer c st, ∀ o,
      Except.Avoids bad (liftM (TechnicianReport.customerView s o r) : Except Failure ReportView)) :
    Except.Avoids bad (TechnicianReport.customerViews s c st) := by
  rw [TechnicianReport.customerViews_eq_filterMapM]
  refine Except.avoids_filterMapM fun r hr => ?_
  unfold TechnicianReport.freshView
  split
  · exact Except.avoids_bind.mpr ⟨h r hr _, fun _ _ => by simp⟩
  · simp

@[simp] def WorkflowError.IsConflict : WorkflowError → Prop
  | .concurrencyConflict _ _ => True
  | _ => False

@[simp] def Failure.IsConflict : Failure → Prop
  | .refused e => e.IsConflict
  | .overflow _ => False

section Lifts

variable {α : Type}

@[simp] theorem Except.avoids_lift_refusal {w : Except WorkflowError α} :
    Except.Avoids Failure.IsConflict (liftM w : Except Failure α) ↔
      Except.Avoids WorkflowError.IsConflict w := by
  cases w with
  | ok => simp [liftM, monadLift, MonadLift.monadLift, Except.mapError]
  | error e => cases e <;> simp [liftM, monadLift, MonadLift.monadLift, Except.mapError]

@[simp] theorem Except.avoids_lift_overflow {w : Except Numeric.Overflow α} :
    Except.Avoids Failure.IsConflict (liftM w : Except Failure α) := by
  cases w <;> simp [Except.Avoids, liftM, monadLift, MonadLift.monadLift, Except.mapError]

end Lifts

/-! ### The checks operations are built from -/

section Checks

open RepairDesk.Except

variable {s : Store} {actor : Actor}

@[simp] theorem avoids_found {α : Type} {e : Entity} {key : String} {row : Option α} :
    Avoids WorkflowError.IsConflict (found e key row) := by
  cases row <;> simp [found]

@[simp] theorem avoids_invalid {α : Type} {m : String} :
    Avoids WorkflowError.IsConflict (invalid m : Except WorkflowError α) := by
  simp [invalid]

@[simp] theorem avoids_forbidden {α : Type} {m : String} :
    Avoids WorkflowError.IsConflict (forbidden m : Except WorkflowError α) := by
  simp [forbidden]

@[simp] theorem avoids_requireRole {role : Role} {what : String} :
    Avoids WorkflowError.IsConflict (requireRole role what actor) := by
  simp [requireRole]

@[simp] theorem avoids_requireText {field value : String} {max : Nat} :
    Avoids WorkflowError.IsConflict (requireText field value max) := by
  simp [requireText]

@[simp] theorem ReportStatus.avoids_ensureModifiable {st : ReportStatus} {a : ReportAction} :
    Avoids WorkflowError.IsConflict (st.ensureModifiable a) := by
  simp [ReportStatus.ensureModifiable]

@[simp] theorem TechnicianReport.avoids_apply {r : TechnicianReport} {a : ReportAction}
    {now : Instant} : Avoids WorkflowError.IsConflict (r.apply a now) := by
  simp only [TechnicianReport.apply, avoids_bind, avoids_pure]
  refine ⟨?_, fun _ _ => ⟨?_, fun _ _ => trivial⟩⟩
  · unfold ReportStatus.advance
    split <;> simp
  -- the checks of each action are nested conditionals; opening them all at once loops
  · cases a <;> simp only [TechnicianReport.checkFor, TechnicianReport.checkSubmission,
      TechnicianReport.checkWorkStart, avoids_ite, avoids_error, avoids_ok,
      WorkflowError.IsConflict] <;> simp

@[simp] theorem RepairOrder.avoids_advance {o : RepairOrder} {next : OrderStatus} :
    Avoids WorkflowError.IsConflict (o.advance next) := by
  simp [RepairOrder.advance]

@[simp] theorem TechnicianReport.avoids_loadOwned {id : Uuid} :
    Avoids WorkflowError.IsConflict (TechnicianReport.loadOwned s actor id) := by
  simp [TechnicianReport.loadOwned, TechnicianReport.requireTechnician, TechnicianReport.load,
    TechnicianReport.ensureOwner]

@[simp] theorem Coupon.avoids_stageApply {cs : ChangeSet} {c : Coupon} {today : Date}
    {now : Instant} : Avoids Failure.IsConflict (Coupon.stageApply cs c today now) := by
  simp [Coupon.stageApply]

@[simp] theorem Coupon.avoids_stageRelease {cs : ChangeSet} {c : Coupon} {now : Instant} :
    Avoids Failure.IsConflict (Coupon.stageRelease cs c now) := by
  simp [Coupon.stageRelease]

@[simp] theorem Coupon.avoids_ensureCodeFree {code : String} {except : Option Uuid} :
    Avoids WorkflowError.IsConflict (Coupon.ensureCodeFree s code except) := by
  unfold Coupon.ensureCodeFree
  split <;> simp

@[simp] theorem RepairOrder.avoids_loadEditable {id : Uuid} :
    Avoids WorkflowError.IsConflict (RepairOrder.loadEditable s actor id) := by
  simp [RepairOrder.loadEditable, RepairOrder.requireCustomer, RepairOrder.load]

@[simp] theorem RepairOrder.avoids_stageCouponChange {today : Date} {now : Instant}
    {current : Option Uuid} {requested : Option Coupon} :
    Avoids Failure.IsConflict (RepairOrder.stageCouponChange s today now current requested) := by
  unfold RepairOrder.stageCouponChange
  repeat' split
  all_goals simp [Coupon.stageSwap]

end Checks

/-! ### Operations -/

section Operations

open RepairDesk.Except

variable (actor : Actor) (ctx : Context) (s : Store) {id : Uuid}

namespace TechnicianReport

theorem createDraft_avoids_conflict {req : DraftRequest} :
    Avoids Failure.IsConflict (createDraft actor req ctx s) := by
  simp [createDraft, requireTechnician, RepairOrder.load, DraftFields.validate]

theorem updateDraft_avoids_conflict {f : DraftFields} :
    Avoids Failure.IsConflict (updateDraft actor id f ctx s) := by
  simp [updateDraft, DraftFields.validate]

theorem deleteDraft_avoids_conflict : Avoids Failure.IsConflict (deleteDraft actor id ctx s) := by
  simp [deleteDraft]

theorem submit_avoids_conflict : Avoids Failure.IsConflict (submit actor id ctx s) := by
  simp [submit]

theorem decide_avoids_conflict {a : ReportAction} :
    Avoids Failure.IsConflict (decide a actor id ctx s) := by
  simp [decide, requireCustomer, load, RepairOrder.load]

theorem startWork_avoids_conflict : Avoids Failure.IsConflict (startWork actor id ctx s) := by
  simp [startWork, RepairOrder.load]

theorem completeWork_avoids_conflict :
    Avoids Failure.IsConflict (completeWork actor id ctx s) := by
  simp [completeWork, RepairOrder.load]

theorem listByStatus_avoids_conflict {st : ReportStatus} :
    Avoids Failure.IsConflict (listByStatus actor st ctx s) := by
  unfold listByStatus
  split
  case h_2 =>
    simp only [avoids_bind, avoids_ite]
    refine ⟨fun _ => by simp [lift_refusal_eq_ok, invalid], fun _ => ⟨?_, fun _ _ => by simp⟩⟩
    -- a customer's reports are read one by one, each through its order's discount
    exact avoids_customerViews fun _ _ _ => by simp
  all_goals simp

theorem get_avoids_conflict : Avoids Failure.IsConflict (get actor id ctx s) := by
  simp only [get, avoids_bind]
  refine ⟨by simp [load], fun r _ => ?_⟩
  split <;> simp [ensureOwner, RepairOrder.load, customerView]

theorem incomingOrders_avoids_conflict :
    Avoids Failure.IsConflict (incomingOrders actor ctx s) := by
  simp [incomingOrders, requireTechnician]

end TechnicianReport

namespace RepairOrder

theorem create_avoids_conflict {req : OrderRequest} :
    Avoids Failure.IsConflict (create actor req ctx s) := by
  unfold create
  split <;> simp [requireCustomer, OrderDetails.validate, ensurePaymentMethod, loadCouponByCode]

theorem update_avoids_conflict {d : OrderDetails} :
    Avoids Failure.IsConflict (update actor id d ctx s) := by
  unfold update
  split <;> simp [OrderDetails.validate, ensurePaymentMethod, loadCouponByCode]

theorem delete_avoids_conflict : Avoids Failure.IsConflict (delete actor id ctx s) := by
  unfold delete
  simp only [avoids_bind]
  refine ⟨by simp, fun o _ => ?_⟩
  split <;> simp

theorem get_avoids_conflict : Avoids Failure.IsConflict (get actor id ctx s) := by
  simp [get, load]

theorem listOwn_avoids_conflict : Avoids Failure.IsConflict (listOwn actor ctx s) := by
  simp [listOwn, requireCustomer]

end RepairOrder

namespace Coupon

theorem create_avoids_conflict {r : CouponRequest} :
    Avoids Failure.IsConflict (create actor r ctx s) := by
  simp [create, requireAdmin, CouponRequest.validate]

theorem update_avoids_conflict {r : CouponRequest} :
    Avoids Failure.IsConflict (update actor id r ctx s) := by
  simp [update, requireAdmin, CouponRequest.validate, load]

theorem delete_avoids_conflict : Avoids Failure.IsConflict (delete actor id ctx s) := by
  simp [delete, requireAdmin, load]

theorem get_avoids_conflict : Avoids Failure.IsConflict (get actor id ctx s) := by
  simp [get, requireAdmin, load]

theorem list_avoids_conflict : Avoids Failure.IsConflict (list actor ctx s) := by
  simp [list]

end Coupon

namespace PaymentMethod

theorem create_avoids_conflict {r : PaymentMethodRequest} :
    Avoids Failure.IsConflict (create actor r ctx s) := by
  simp [create, requireAdmin, PaymentMethodRequest.validate]

theorem update_avoids_conflict {r : PaymentMethodRequest} :
    Avoids Failure.IsConflict (update actor id r ctx s) := by
  simp [update, requireAdmin, PaymentMethodRequest.validate, load]

theorem delete_avoids_conflict : Avoids Failure.IsConflict (delete actor id ctx s) := by
  simp [delete, requireAdmin, load]

theorem get_avoids_conflict : Avoids Failure.IsConflict (get actor id ctx s) := by
  simp [get, load]

theorem list_avoids_conflict : Avoids Failure.IsConflict (list actor ctx s) := by
  simp [list]

end PaymentMethod

/-- No operation refuses with a concurrency conflict of its own. -/
theorem Command.operation_avoids_conflict (c : Command) (ctx : Context) (s : Store) :
    Avoids Failure.IsConflict (c.operation ctx s) := by
  cases c with
  | createDraft a => exact TechnicianReport.createDraft_avoids_conflict a ctx s
  | updateDraft a => exact TechnicianReport.updateDraft_avoids_conflict a ctx s
  | deleteDraft a => exact TechnicianReport.deleteDraft_avoids_conflict a ctx s
  | submitDraft a => exact TechnicianReport.submit_avoids_conflict a ctx s
  | acceptSubmission a => exact TechnicianReport.decide_avoids_conflict a ctx s
  | rejectSubmission a => exact TechnicianReport.decide_avoids_conflict a ctx s
  | startWork a => exact TechnicianReport.startWork_avoids_conflict a ctx s
  | completeWork a => exact TechnicianReport.completeWork_avoids_conflict a ctx s
  | listReports a => exact TechnicianReport.listByStatus_avoids_conflict a ctx s
  | getReport a => exact TechnicianReport.get_avoids_conflict a ctx s
  | incomingOrders a => exact TechnicianReport.incomingOrders_avoids_conflict a ctx s
  | createOrder a => exact RepairOrder.create_avoids_conflict a ctx s
  | updateOrder a => exact RepairOrder.update_avoids_conflict a ctx s
  | deleteOrder a => exact RepairOrder.delete_avoids_conflict a ctx s
  | getOrder a => exact RepairOrder.get_avoids_conflict a ctx s
  | listOrders a => exact RepairOrder.listOwn_avoids_conflict a ctx s
  | createCoupon a => exact Coupon.create_avoids_conflict a ctx s
  | updateCoupon a => exact Coupon.update_avoids_conflict a ctx s
  | deleteCoupon a => exact Coupon.delete_avoids_conflict a ctx s
  | getCoupon a => exact Coupon.get_avoids_conflict a ctx s
  | listCoupons a => exact Coupon.list_avoids_conflict a ctx s
  | createPaymentMethod a => exact PaymentMethod.create_avoids_conflict a ctx s
  | updatePaymentMethod a => exact PaymentMethod.update_avoids_conflict a ctx s
  | deletePaymentMethod a => exact PaymentMethod.delete_avoids_conflict a ctx s
  | getPaymentMethod a => exact PaymentMethod.get_avoids_conflict a ctx s
  | listPaymentMethods a => exact PaymentMethod.list_avoids_conflict a ctx s

end Operations

/-! ### Sequential runs -/

theorem Command.commit_operation_ok {s : Store} (hs : Reachable s) {c : Command} {ctx : Context}
    (hfresh : s.Unused ctx.freshId) {p : Plan c.Answer} (hop : c.operation ctx s = .ok p) :
    ∃ t, s.commit p.changes = .ok t := by
  have hplan : c.plan ctx s = .ok p.changes := by
    rw [plan_eq_staged, staged, hop]
    rfl
  exact (c.plan_accepted hs hfresh hplan).2.2.2.2

/-- In a workshop whose store the service reached by running operations one after another, an
operation drawing an unused identifier stages a plan whose commit is accepted: no row is written
twice, every update and deletion names the version stored, every coupon written has a free code
and every report written leaves its order one live report. So the operation is never refused
with a concurrency conflict, and every refusal, an invalid input included, is the operation's
own and never the commit's. -/
theorem sequential_commits_succeed {w : Workshop} (hw : Reachable w.store) (today : Date)
    (c : Command) (hfresh : w.store.Unused (w.context today).freshId) :
    (∀ cs, c.plan (w.context today) w.store = .ok cs →
      (cs.filterMap Change.target).Nodup ∧
      (∀ ch ∈ cs, ∀ e x v, ch.expects = some (e, x, v) →
        (w.store.findRow? e x).map Row.version = some v) ∧
      (∀ ch ∈ cs, ∀ q, ch.written = some (.coupon q) → w.store.checkCouponCode q = .ok ()) ∧
      (∀ ch ∈ cs, ∀ r, ch.written = some (.report r) →
        w.store.checkSingleActiveReport r = .ok ()) ∧
      ∃ t, w.store.commit cs = .ok t) ∧
    ∀ f w', w.perform today c.operation = (.error f, w') →
      c.operation (w.context today) w.store = .error f ∧ ¬ f.IsConflict := by
  refine ⟨fun cs hplan => c.plan_accepted hw hfresh hplan, fun f w' hperform => ?_⟩
  obtain ⟨-, hown | ⟨p, e, hop, hcommit, -⟩⟩ := Workshop.perform_eq_error.mp hperform
  · exact ⟨hown, c.operation_avoids_conflict _ _ f hown⟩
  · -- the commit of an accepted plan is never refused
    obtain ⟨t, hok⟩ := Command.commit_operation_ok hw hfresh hop
    rw [hok] at hcommit
    cases hcommit

/-- After a payment method, two coupons and an order on the first coupon are committed, the
customer moving the order to the second coupon stages three writes, the two coupons and the
order, and their commit is accepted. -/
theorem moving_an_order_to_another_coupon_commits :
    let today : Date := ⟨2026, 1, 1⟩
    let admin : Actor := ⟨Uuid.ofNat 7, .admin⟩
    let customer : Actor := ⟨Uuid.ofNat 2, .customer⟩
    let at_ (k : Nat) : Context := ⟨today, ⟨k, 0⟩, Uuid.sequential 1 k⟩
    let details (code : String) : OrderDetails :=
      ⟨"Espresso machine", "Used", "Leaks from the group head", ⟨2026, 3, 1⟩,
        Uuid.sequential 1 1, some code⟩
    let steps : List (Command × Context) :=
      [(.createPaymentMethod admin ⟨"Card", .bankTransfer, "Bank", "1234567890", "Ada"⟩, at_ 1),
       (.createCoupon admin ⟨"SPRING10", 500, 3, none⟩, at_ 2),
       (.createCoupon admin ⟨"SUMMER20", 800, 3, none⟩, at_ 3),
       (.createOrder customer ⟨Uuid.ofNat 3, details "SPRING10"⟩, at_ 4)]
    let w : Workshop := { store := Command.runAll steps Store.empty, issued := 4 }
    let c := Command.updateOrder customer (Uuid.sequential 1 4) (details "SUMMER20")
    Reachable w.store ∧ w.store.Unused (w.context today).freshId ∧
      (c.plan (w.context today) w.store).toOption.map List.length = some 3 ∧
      ∀ cs, c.plan (w.context today) w.store = .ok cs →
        (cs.filterMap Change.target).Nodup ∧
        (∀ ch ∈ cs, ∀ e x v, ch.expects = some (e, x, v) →
          (w.store.findRow? e x).map Row.version = some v) ∧
        ∃ t, w.store.commit cs = .ok t := by
  intro today admin customer at_ details steps w c
  have hw : Reachable w.store := by
    simp only [w]
    exact Reachable.of_runAll .empty steps
  have hfresh : w.store.Unused (w.context today).freshId := by
    intro e
    cases e <;> decide +kernel
  have hplan : (c.plan (w.context today) w.store).toOption.map List.length = some 3 := by
    decide +kernel
  refine ⟨hw, hfresh, hplan, fun cs hcs => ?_⟩
  obtain ⟨hnodup, hexpects, -, -, hcommit⟩ :=
    (sequential_commits_succeed (w := w) hw today c hfresh).1 cs hcs
  exact ⟨hnodup, hexpects, hcommit⟩

end RepairDesk
