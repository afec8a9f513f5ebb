import RepairDesk.Proofs.Interleaving

namespace RepairDesk

open Tables Store

def Store.methodIds (s : Store) : List Uuid := s.paymentMethods.map (·.id)

/-- Every stored order names a stored payment method. -/
def Store.MethodsResolve (s : Store) : Prop :=
  ∀ o ∈ s.orders, o.paymentMethodId ∈ s.methodIds

instance (s : Store) : Decidable s.MethodsResolve :=
  inferInstanceAs (Decidable (∀ o ∈ s.orders, _))

namespace Change

def editOrders : Change → List RepairOrder → List RepairOrder
  | .insertOrder o, os => os ++ [o]
  | .updateOrder o _, os => replaceBy (·.id) o os
  | .deleteOrder id _, os => os.filter (·.id != id)
  | _, os => os

def editMethods : Change → List PaymentMethod → List PaymentMethod
  | .insertPaymentMethod m, ms => ms ++ [m]
  | .updatePaymentMethod m _, ms => replaceBy (·.id) m ms
  | .deletePaymentMethod id _, ms => ms.filter (·.id != id)
  | _, ms => ms

def namedMethod? : Change → Option Uuid
  | .insertOrder o | .updateOrder o _ => some o.paymentMethodId
  | _ => none

def droppedMethod? : Change → Option Uuid
  | .deletePaymentMethod id _ => some id
  | _ => none

theorem mem_editOrders {c : Change} {os : List RepairOrder} {o : RepairOrder}
    (h : o ∈ c.editOrders os) : o ∈ os ∨ c.namedMethod? = some o.paymentMethodId := by
  cases c <;> simp only [editOrders, namedMethod?] at h ⊢
  case insertOrder w =>
    rcases List.mem_append.mp h with hold | hnew
    · exact .inl hold
    · rw [List.mem_singleton.mp hnew]
      exact .inr rfl
  case updateOrder w v =>
    rcases (mem_replaceBy _).mp h with ⟨hold, -⟩ | ⟨rfl, -⟩
    · exact .inl hold
    · exact .inr rfl
  case deleteOrder x v => exact .inl (List.mem_of_mem_filter h)
  all_goals exact .inl h

theorem mem_editMethods {c : Change} {ms : List PaymentMethod} {x : Uuid}
    (h : x ∈ ms.map (·.id)) :
    x ∈ (c.editMethods ms).map (·.id) ∨ c.droppedMethod? = some x := by
  cases c <;> simp only [editMethods, droppedMethod?]
  case insertPaymentMethod m =>
    rw [List.map_append]
    exact .inl (List.mem_append_left _ h)
  case updatePaymentMethod m v => exact .inl (by rw [map_key_replaceBy]; exact h)
  case deletePaymentMethod y v =>
    by_cases hy : y = x
    · exact .inr (by rw [hy])
    · obtain ⟨m, hm, rfl⟩ := List.mem_map.mp h
      exact .inl (List.mem_map_of_mem (List.mem_filter.mpr ⟨hm, by simpa using Ne.symm hy⟩))
  all_goals exact .inl h

end Change

namespace Store

variable {s t : Store}

theorem tables_of_apply {c : Change} (h : s.apply c = .ok t) :
    t.orders = c.editOrders s.orders ∧ t.paymentMethods = c.editMethods s.paymentMethods := by
  cases c with
  | insertOrder o => obtain ⟨-, rfl⟩ := apply_insertOrder.mp h; exact ⟨rfl, rfl⟩
  | updateOrder o v => obtain ⟨-, rfl⟩ := apply_updateOrder.mp h; exact ⟨rfl, rfl⟩
  | deleteOrder id v => obtain ⟨-, rfl⟩ := apply_deleteOrder.mp h; exact ⟨rfl, rfl⟩
  | insertCoupon c => obtain ⟨-, -, rfl⟩ := apply_insertCoupon.mp h; exact ⟨rfl, rfl⟩
  | updateCoupon c v => obtain ⟨-, -, rfl⟩ := apply_updateCoupon.mp h; exact ⟨rfl, rfl⟩
  | deleteCoupon id v => obtain ⟨-, rfl⟩ := apply_deleteCoupon.mp h; exact ⟨rfl, rfl⟩
  | insertPaymentMethod m =>
      obtain ⟨-, rfl⟩ := apply_insertPaymentMethod.mp h
      exact ⟨rfl, rfl⟩
  | updatePaymentMethod m v =>
      obtain ⟨-, rfl⟩ := apply_updatePaymentMethod.mp h
      exact ⟨rfl, rfl⟩
  | deletePaymentMethod id v =>
      obtain ⟨-, rfl⟩ := apply_deletePaymentMethod.mp h
      exact ⟨rfl, rfl⟩
  | insertReport r => obtain ⟨-, -, rfl⟩ := apply_insertReport.mp h; exact ⟨rfl, rfl⟩
  | updateReport r v => obtain ⟨-, -, rfl⟩ := apply_updateReport.mp h; exact ⟨rfl, rfl⟩
  | deleteReport id v => obtain ⟨-, rfl⟩ := apply_deleteReport.mp h; exact ⟨rfl, rfl⟩
  | enqueue m => obtain rfl := apply_enqueue.mp h; exact ⟨rfl, rfl⟩

theorem methodsResolve_empty : Store.empty.MethodsResolve := by
  simp [MethodsResolve, Store.empty]

theorem mem_methodIds {x : Uuid} (h : (s.findPaymentMethod? x).isSome) : x ∈ s.methodIds := by
  obtain ⟨m, hm⟩ := Option.isSome_iff_exists.mp h
  obtain ⟨hmem, rfl⟩ := mem_of_findPaymentMethod? hm
  exact List.mem_map_of_mem hmem

theorem MethodsResolve.method_mem (hs : s.MethodsResolve) {x : Uuid} {o : RepairOrder}
    (ho : s.findOrder? x = some o) : o.paymentMethodId ∈ s.methodIds :=
  hs o (mem_of_findOrder? ho).1

end Store

/-- A change set that keeps every order's payment method stored when it commits to `s`: each
order it writes names a method stored in `s` that none of its changes deletes, and each method it
deletes is named by no order of `s`. -/
structure ChangeSet.KeepsMethods (s : Store) (cs : ChangeSet) : Prop where
  named : ∀ c ∈ cs, ∀ x, c.namedMethod? = some x →
    x ∈ s.methodIds ∧ ∀ c' ∈ cs, c'.droppedMethod? ≠ some x
  dropped : ∀ c ∈ cs, ∀ x, c.droppedMethod? = some x →
    ∀ o ∈ s.orders, o.paymentMethodId ≠ x

namespace ChangeSet.KeepsMethods

variable {s t u : Store} {c : Change} {cs : ChangeSet}

theorem of_named (hnamed : ∀ c ∈ cs, ∀ x, c.namedMethod? = some x → x ∈ s.methodIds)
    (hkeep : ∀ c ∈ cs, c.droppedMethod? = none) : KeepsMethods s cs where
  named c hc x hx := ⟨hnamed c hc x hx, fun c' hc' => by simp [hkeep c' hc']⟩
  dropped c hc x hx := by simp [hkeep c hc] at hx

theorem of_quiet (h : ∀ c ∈ cs, c.namedMethod? = none ∧ c.droppedMethod? = none) :
    KeepsMethods s cs :=
  of_named (fun c hc x hx => by simp [(h c hc).1] at hx) fun c hc => (h c hc).2

theorem apply (hs : s.MethodsResolve) (hk : KeepsMethods s (c :: cs)) (h : s.apply c = .ok u) :
    u.MethodsResolve ∧ KeepsMethods u cs := by
  obtain ⟨horders, hmethods⟩ := Store.tables_of_apply h
  -- a method some change of the set names survives `c`, which does not delete it
  have hnamed : ∀ c' ∈ c :: cs, ∀ x, c'.namedMethod? = some x → x ∈ u.methodIds := by
    intro c' hc' x hx
    obtain ⟨hstored, hnodrop⟩ := hk.named c' hc' x hx
    rcases Change.mem_editMethods (c := c) hstored with hu | hdrop
    · rw [Store.methodIds, hmethods]
      exact hu
    · exact absurd hdrop (hnodrop c List.mem_cons_self)
  have hfrom : ∀ o ∈ u.orders, o ∈ s.orders ∨ c.namedMethod? = some o.paymentMethodId := by
    intro o ho
    rw [horders] at ho
    exact Change.mem_editOrders ho
  refine ⟨fun o ho => ?_, ⟨fun c' hc' x hx => ⟨hnamed c' (List.mem_cons_of_mem c hc') x hx,
    fun c'' hc'' => (hk.named c' (List.mem_cons_of_mem c hc') x hx).2 c''
      (List.mem_cons_of_mem c hc'')⟩, fun c' hc' x hx o ho => ?_⟩⟩
  · rcases hfrom o ho with hold | hnew
    · -- an order stored before names a method that `c` may not delete
      rcases Change.mem_editMethods (c := c) (hs o hold) with hu | hdrop
      · rw [Store.methodIds, hmethods]
        exact hu
      · exact absurd rfl (hk.dropped c List.mem_cons_self _ hdrop o hold)
    · exact hnamed c List.mem_cons_self _ hnew
  · rcases hfrom o ho with hold | hnew
    · exact hk.dropped c' (List.mem_cons_of_mem c hc') x hx o hold
    · rintro rfl
      exact (hk.named c List.mem_cons_self _ hnew).2 c' (List.mem_cons_of_mem c hc') hx

theorem commit (hs : s.MethodsResolve) (hk : KeepsMethods s cs) (h : s.commit cs = .ok t) :
    t.MethodsResolve := by
  induction cs generalizing s with
  | nil =>
      rw [commit_nil, Except.ok.injEq] at h
      exact h ▸ hs
  | cons c cs ih =>
      obtain ⟨u, happly, hrest⟩ := commit_cons_eq_ok.mp h
      obtain ⟨hu, hku⟩ := hk.apply hs happly
      exact ih hu hku hrest

end ChangeSet.KeepsMethods

/-! ### What each operation stages -/

open ChangeSet

section Operations

variable {actor : Actor} {ctx : Context} {s : Store}

theorem quiet_of_coupons {cs : ChangeSet} (h : ∀ c ∈ cs, ∃ w v, c = .updateCoupon w v) :
    ∀ c ∈ cs, c.namedMethod? = none ∧ c.droppedMethod? = none := by
  intro c hc
  obtain ⟨w, v, rfl⟩ := h c hc
  exact ⟨rfl, rfl⟩

namespace TechnicianReport

theorem createDraft_keepsMethods (hs : s.MethodsResolve) {req : DraftRequest}
    {p : Plan TechnicianReport} (h : createDraft actor req ctx s = .ok p) :
    p.changes.KeepsMethods s := by
  obtain ⟨-, o, hfound, -, -, -, -, -, rfl⟩ := createDraft_eq_ok h
  refine .of_named (fun c hc x hx => ?_) (by simp [Change.droppedMethod?])
  -- the draft's order is written back with its own method
  rcases List.mem_pair.mp hc with rfl | rfl
  · obtain rfl := Option.some_inj.mp hx
    exact hs.method_mem (o := o) hfound
  · cases hx

theorem updateDraft_keepsMethods {id : Uuid} {f : DraftFields} {p : Plan TechnicianReport}
    (h : updateDraft actor id f ctx s = .ok p) : p.changes.KeepsMethods s := by
  obtain ⟨-, r, -, -, -, -, -, rfl⟩ := updateDraft_eq_ok h
  exact .of_quiet (by simp [Change.namedMethod?, Change.droppedMethod?])

theorem deleteDraft_keepsMethods {id : Uuid} {p : Plan Unit}
    (h : deleteDraft actor id ctx s = .ok p) : p.changes.KeepsMethods s := by
  obtain ⟨-, r, -, -, -, rfl⟩ := deleteDraft_eq_ok h
  exact .of_quiet (by simp [Change.namedMethod?, Change.droppedMethod?])

theorem submit_keepsMethods {id : Uuid} {p : Plan TechnicianReport}
    (h : submit actor id ctx s = .ok p) : p.changes.KeepsMethods s := by
  obtain ⟨-, r, r', -, -, -, -, rfl⟩ := submit_eq_ok h
  exact .of_quiet (by simp [Change.namedMethod?, Change.droppedMethod?])

theorem decide_keepsMethods {action : ReportAction} {id : Uuid} {p : Plan TechnicianReport}
    (h : decide action actor id ctx s = .ok p) : p.changes.KeepsMethods s := by
  obtain ⟨-, r, o, r', -, -, -, -, -, rfl⟩ := decide_eq_ok h
  exact .of_quiet (by simp [Change.namedMethod?, Change.droppedMethod?])

theorem work_keepsMethods (hs : s.MethodsResolve) {x : Uuid} {next : OrderStatus}
    {o o' : RepairOrder} {cs : ChangeSet} (hfound : s.findOrder? x = some o)
    (hadvance : o.advance next = .ok o')
    (hnamed : ∀ c ∈ cs, ∀ y, c.namedMethod? = some y → y = o'.paymentMethodId)
    (hkeep : ∀ c ∈ cs, c.droppedMethod? = none) : cs.KeepsMethods s := by
  obtain ⟨-, rfl⟩ := RepairOrder.advance_eq_ok.mp hadvance
  refine .of_named (fun c hc y hy => ?_) hkeep
  rw [hnamed c hc y hy]
  exact hs.method_mem (o := o) hfound

theorem startWork_keepsMethods (hs : s.MethodsResolve) {id : Uuid} {p : Plan TechnicianReport}
    (h : startWork actor id ctx s = .ok p) : p.changes.KeepsMethods s := by
  obtain ⟨-, r, o, r', o', -, -, hfound, -, hadvance, -, -, rfl⟩ := startWork_eq_ok h
  exact work_keepsMethods hs hfound hadvance (by simp [Change.namedMethod?])
    (by simp [Change.droppedMethod?])

theorem completeWork_keepsMethods (hs : s.MethodsResolve) {id : Uuid}
    {p : Plan TechnicianReport} (h : completeWork actor id ctx s = .ok p) :
    p.changes.KeepsMethods s := by
  obtain ⟨-, r, o, r', o', -, -, hfound, -, hadvance, -, -, rfl⟩ := completeWork_eq_ok h
  exact work_keepsMethods hs hfound hadvance (by simp [Change.namedMethod?])
    (by simp [Change.droppedMethod?])

end TechnicianReport

namespace RepairOrder

theorem create_keepsMethods {req : OrderRequest} {p : Plan RepairOrder}
    (h : create actor req ctx s = .ok p) : p.changes.KeepsMethods s := by
  obtain ⟨-, -, hpay, cs, couponId, hcoupon, hchanges, hanswer⟩ := create_eq_ok h
  have hcoupons : ∀ c ∈ cs, ∃ w v, c = .updateCoupon w v := by
    rcases hcoupon with ⟨-, rfl, -⟩ | ⟨code, c, c', -, -, hstage, -⟩
    · simp
    · obtain ⟨rfl, -, -⟩ := Coupon.stageApply_changes hstage
      simp
  have hquiet := quiet_of_coupons hcoupons
  rw [hchanges]
  refine .of_named (fun c hc x hx => ?_) fun c hc => ?_
  · rcases List.mem_append.mp hc with hc | hc
    · simp [(hquiet c hc).1] at hx
    · rw [List.mem_singleton.mp hc, Change.namedMethod?, Option.some_inj] at hx
      rw [← hx, hanswer]
      exact Store.mem_methodIds hpay
  · rcases List.mem_append.mp hc with hc | hc
    · exact (hquiet c hc).2
    · rw [List.mem_singleton.mp hc]
      rfl

theorem update_keepsMethods (hs : s.MethodsResolve) {id : Uuid} {d : OrderDetails}
    {p : Plan RepairOrder} (h : update actor id d ctx s = .ok p) : p.changes.KeepsMethods s := by
  obtain ⟨o, hload, -, hpay, requested, cs, couponId, -, hchange, -, hchanges, hanswer⟩ :=
    update_eq_ok h
  obtain ⟨-, hfound, -, -, -⟩ := loadEditable_eq_ok.mp hload
  have hquiet := quiet_of_coupons (stageCouponChange_coupons hchange)
  rw [hchanges]
  refine .of_named (fun c hc x hx => ?_) fun c hc => ?_
  · rcases List.mem_append.mp hc with hc | hc
    · simp [(hquiet c hc).1] at hx
    · rw [List.mem_singleton.mp hc, Change.namedMethod?, Option.some_inj] at hx
      have hmethod : p.answer.paymentMethodId = d.paymentMethodId := by
        rw [hanswer]
        rfl
      rw [← hx, hmethod]
      by_cases hsame : d.paymentMethodId = o.paymentMethodId
      · rw [hsame]
        exact hs.method_mem (o := o) hfound
      · exact Store.mem_methodIds (hpay hsame)
  · rcases List.mem_append.mp hc with hc | hc
    · exact (hquiet c hc).2
    · rw [List.mem_singleton.mp hc]
      rfl

theorem delete_keepsMethods {id : Uuid} {p : Plan Unit} (h : delete actor id ctx s = .ok p) :
    p.changes.KeepsMethods s := by
  obtain ⟨o, -, ⟨-, hchanges⟩ | ⟨c, cs, c', -, hstage, hchanges⟩⟩ := delete_eq_ok h <;>
    rw [hchanges]
  · exact .of_quiet (by simp [Change.namedMethod?, Change.droppedMethod?])
  · obtain ⟨rfl, -, -⟩ := Coupon.stageRelease_changes hstage
    exact .of_quiet (by simp [Change.namedMethod?, Change.droppedMethod?])

end RepairOrder

theorem Coupon.create_keepsMethods {req : CouponRequest} {p : Plan Coupon}
    (h : Coupon.create actor req ctx s = .ok p) : p.changes.KeepsMethods s := by
  obtain ⟨-, -, -, hchanges, -⟩ := Coupon.create_eq_ok h
  rw [hchanges]
  exact .of_quiet (by simp [Change.namedMethod?, Change.droppedMethod?])

theorem Coupon.update_keepsMethods {id : Uuid} {req : CouponRequest} {p : Plan Coupon}
    (h : Coupon.update actor id req ctx s = .ok p) : p.changes.KeepsMethods s := by
  obtain ⟨-, -, c, -, -, -, -, hchanges, -⟩ := Coupon.update_eq_ok h
  rw [hchanges]
  exact .of_quiet (by simp [Change.namedMethod?, Change.droppedMethod?])

theorem Coupon.delete_keepsMethods {id : Uuid} {p : Plan Unit}
    (h : Coupon.delete actor id ctx s = .ok p) : p.changes.KeepsMethods s := by
  obtain ⟨-, c, -, -, hchanges⟩ := Coupon.delete_eq_ok h
  rw [hchanges]
  exact .of_quiet (by simp [Change.namedMethod?, Change.droppedMethod?])

namespace PaymentMethod

theorem create_keepsMethods {req : PaymentMethodRequest} {p : Plan PaymentMethod}
    (h : create actor req ctx s = .ok p) : p.changes.KeepsMethods s := by
  obtain ⟨-, -, hchanges, -⟩ := create_eq_ok h
  rw [hchanges]
  exact .of_quiet (by simp [Change.namedMethod?, Change.droppedMethod?])

theorem update_keepsMethods {id : Uuid} {req : PaymentMethodRequest} {p : Plan PaymentMethod}
    (h : update actor id req ctx s = .ok p) : p.changes.KeepsMethods s := by
  obtain ⟨-, -, m, -, -, hchanges, -⟩ := update_eq_ok h
  rw [hchanges]
  exact .of_quiet (by simp [Change.namedMethod?, Change.droppedMethod?])

theorem delete_keepsMethods {id : Uuid} {p : Plan Unit} (h : delete actor id ctx s = .ok p) :
    p.changes.KeepsMethods s := by
  obtain ⟨-, m, -, hunused, hchanges⟩ := delete_eq_ok h
  rw [hchanges]
  refine ⟨fun c hc x hx => ?_, fun c hc x hx o ho => ?_⟩
  · rw [List.mem_singleton.mp hc] at hx
    cases hx
  · rw [List.mem_singleton.mp hc, Change.droppedMethod?, Option.some_inj] at hx
    subst hx
    intro hnamed
    simp only [paymentMethodInUse, List.any_eq_false, beq_iff_eq] at hunused
    exact hunused o ho hnamed

end PaymentMethod

end Operations

namespace Command

variable {s : Store}

theorem plan_keepsMethods {c : Command} {ctx : Context} {cs : ChangeSet} (hs : s.MethodsResolve)
    (hplan : c.plan ctx s = .ok cs) : cs.KeepsMethods s := by
  cases hread : c.readsOnly
  · cases c <;> simp only [readsOnly, Bool.true_eq_false] at hread <;>
      obtain ⟨p, hp, rfl⟩ := staged_eq_ok.mp hplan
    case createDraft => exact TechnicianReport.createDraft_keepsMethods hs hp
    case updateDraft => exact TechnicianReport.updateDraft_keepsMethods hp
    case deleteDraft => exact TechnicianReport.deleteDraft_keepsMethods hp
    case submitDraft => exact TechnicianReport.submit_keepsMethods hp
    case acceptSubmission => exact TechnicianReport.decide_keepsMethods hp
    case rejectSubmission => exact TechnicianReport.decide_keepsMethods hp
    case startWork => exact TechnicianReport.startWork_keepsMethods hs hp
    case completeWork => exact TechnicianReport.completeWork_keepsMethods hs hp
    case createOrder => exact RepairOrder.create_keepsMethods hp
    case updateOrder => exact RepairOrder.update_keepsMethods hs hp
    case deleteOrder => exact RepairOrder.delete_keepsMethods hp
    case createCoupon => exact Coupon.create_keepsMethods hp
    case updateCoupon => exact Coupon.update_keepsMethods hp
    case deleteCoupon => exact Coupon.delete_keepsMethods hp
    case createPaymentMethod => exact PaymentMethod.create_keepsMethods hp
    case updatePaymentMethod => exact PaymentMethod.update_keepsMethods hp
    case deletePaymentMethod => exact PaymentMethod.delete_keepsMethods hp
  · rw [plan_eq_nil_of_readsOnly hread hplan]
    exact .of_quiet (by simp)

theorem run_methodsResolve (c : Command) (ctx : Context) (hs : s.MethodsResolve) :
    (c.run ctx s).MethodsResolve := by
  rcases c.run_cases ctx s with hkeep | ⟨cs, hplan, hc⟩
  · rw [hkeep]
    exact hs
  · exact (plan_keepsMethods hs hplan).commit hs hc

end Command

/-- Every reachable store resolves its orders' methods, by induction on the commands that reach
it. -/
theorem Reachable.methodsResolve {s : Store} (hs : Reachable s) : s.MethodsResolve := by
  induction hs with
  | empty => exact Store.methodsResolve_empty
  | step c ctx _ ih => exact c.run_methodsResolve ctx ih

/-- Run one after another from the empty store, in any contexts, the operations never leave an
order naming a payment method that is not stored. -/
theorem sequential_runs_keep_order_methods (steps : List (Command × Context)) :
    ∀ o ∈ (Command.runAll steps Store.empty).orders,
      ∃ m ∈ (Command.runAll steps Store.empty).paymentMethods, m.id = o.paymentMethodId := by
  intro o ho
  exact List.mem_map.mp ((Reachable.empty.of_runAll steps).methodsResolve o ho)

/-- A sequential run that creates a payment method and then books an order naming it: the order
is stored, and so is its method. -/
theorem booked_order_keeps_its_method :
    let admin : Actor := ⟨Uuid.ofNat 1, .admin⟩
    let customer : Actor := ⟨Uuid.ofNat 2, .customer⟩
    let method : PaymentMethodRequest :=
      ⟨"Workshop account", .bankTransfer, "Bank Central Asia", "8800123456", "Repair Co"⟩
    let booking : OrderRequest :=
      ⟨Uuid.ofNat 3, ⟨"Espresso machine", "Leaks from the group head",
        "Water pools under the machine", ⟨2026, 3, 1⟩, Uuid.ofNat 10, none⟩⟩
    let moment (fresh : Nat) : Context := ⟨⟨2026, 1, 1⟩, ⟨0, 0⟩, Uuid.ofNat fresh⟩
    let steps : List (Command × Context) :=
      [(.createPaymentMethod admin method, moment 10), (.createOrder customer booking, moment 12)]
    ∃ o ∈ (Command.runAll steps Store.empty).orders,
      ∃ m ∈ (Command.runAll steps Store.empty).paymentMethods, m.id = o.paymentMethodId := by
  intro admin customer method booking moment steps
  have hbooked : (Command.runAll steps Store.empty).orders ≠ [] := by decide +kernel
  obtain ⟨o, ho⟩ := List.exists_mem_of_ne_nil _ hbooked
  exact ⟨o, ho, sequential_runs_keep_order_methods steps o ho⟩

/-- A concurrent run from the empty store: a method is created; its deletion reads the store
while no order names it; a booking naming it reads and commits; then the deletion commits. The
booked order is left naming a method that is no longer stored. -/
theorem deletion_racing_booking_orphans_order :
    let admin : Actor := ⟨Uuid.ofNat 1, .admin⟩
    let customer : Actor := ⟨Uuid.ofNat 2, .customer⟩
    let method : PaymentMethodRequest :=
      ⟨"Workshop account", .bankTransfer, "Bank Central Asia", "8800123456", "Repair Co"⟩
    let booking : OrderRequest :=
      ⟨Uuid.ofNat 3, ⟨"Espresso machine", "Leaks from the group head",
        "Water pools under the machine", ⟨2026, 3, 1⟩, Uuid.ofNat 10, none⟩⟩
    let moment (fresh : Nat) : Context := ⟨⟨2026, 1, 1⟩, ⟨0, 0⟩, Uuid.ofNat fresh⟩
    let events : List Event :=
      [.begin (.createPaymentMethod admin method) (moment 10), .commit 0,
        .begin (.deletePaymentMethod admin (Uuid.ofNat 10)) (moment 11),
        .begin (.createOrder customer booking) (moment 12), .commit 1, .commit 0]
    ¬ (Interleaving.run ⟨Store.empty, []⟩ events).store.MethodsResolve := by
  decide +kernel

end RepairDesk
