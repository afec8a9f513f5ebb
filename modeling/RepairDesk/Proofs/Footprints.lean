import RepairDesk.Proofs.Staging

/-! What a committed operation writes: its own rows, each the stored one a version up, and
nothing else. -/

namespace RepairDesk

open Tables

namespace Row

def key : Row → Uuid
  | .order o => o.id
  | .coupon c => c.id
  | .paymentMethod m => m.id
  | .report r => r.reportId

end Row

namespace Store

def put (s : Store) : Row → Store
  | .order o => { s with orders := replaceBy (·.id) o s.orders }
  | .coupon c => { s with coupons := replaceBy (·.id) c s.coupons }
  | .paymentMethod m => { s with paymentMethods := replaceBy (·.id) m s.paymentMethods }
  | .report r => { s with reports := replaceBy (·.reportId) r s.reports }

def add (s : Store) : Row → Store
  | .order o => { s with orders := s.orders ++ [o] }
  | .coupon c => { s with coupons := s.coupons ++ [c] }
  | .paymentMethod m => { s with paymentMethods := s.paymentMethods ++ [m] }
  | .report r => { s with reports := s.reports ++ [r] }

def erase (s : Store) : Entity → Uuid → Store
  | .repairOrder, x => { s with orders := s.orders.filter (·.id != x) }
  | .coupon, x => { s with coupons := s.coupons.filter (·.id != x) }
  | .paymentMethod, x => { s with paymentMethods := s.paymentMethods.filter (·.id != x) }
  | .technicianReport, x => { s with reports := s.reports.filter (·.reportId != x) }

def Holds (s : Store) (r : Row) : Prop :=
  s.findRow? r.entity r.key = some r

/-- A row rewrites the row stored under its key, one version up. -/
def Raises (s : Store) (r : Row) : Prop :=
  ∃ r₀, s.findRow? r.entity r.key = some r₀ ∧ r.version = r₀.version + 1

/-- A coupon of the store with its usage count moved: one version up and stamped with the
moment, everything else kept. -/
def Recounts (s : Store) (now : Instant) (c : Coupon) : Prop :=
  ∃ c₀ ∈ s.coupons,
    c = { c₀ with usageCount := c.usageCount, version := c₀.version + 1, updatedAt := now }

variable {s t : Store}

theorem findRow?_put_of_entity_ne {r : Row} {e : Entity} (hne : r.entity ≠ e) (x : Uuid) :
    (s.put r).findRow? e x = s.findRow? e x := by
  cases r <;> cases e <;> simp only [Row.entity, ne_eq, not_true_eq_false] at hne <;> rfl

theorem raises_put_iff {r r' : Row} (hne : r'.entity ≠ r.entity) :
    (s.put r').Raises r ↔ s.Raises r := by
  simp only [Raises, findRow?_put_of_entity_ne hne]

theorem holds_of_apply {c : Change} (h : s.apply c = .ok t) {r : Row}
    (htarget : c.target = some (r.entity, r.key)) (hwritten : c.written = some r) :
    t.Holds r := by
  rw [Holds, findRow?_apply h, if_pos htarget, hwritten]

theorem Holds.apply {r : Row} (hr : s.Holds r) {c : Change} (h : s.apply c = .ok t)
    (htarget : c.target ≠ some (r.entity, r.key)) : t.Holds r := by
  rw [Holds, findRow?_apply_of_target_ne h htarget]
  exact hr

theorem rewrites_of_apply {c : Change} {r : Row} {v : Int} (h : s.apply c = .ok t)
    (hexpects : c.expects = some (r.entity, r.key, v)) (hwritten : c.written = some r)
    (hversion : r.version = v + 1) : s.Raises r ∧ t = s.put r ∧ t.Holds r := by
  obtain ⟨r₀, hfound, hread⟩ := Option.map_eq_some_iff.mp (version_eq_of_apply h hexpects)
  refine ⟨⟨r₀, hfound, hread ▸ hversion⟩, ?_,
    holds_of_apply h (Change.target_of_expects hexpects) hwritten⟩
  -- only the four updates both expect a version and write a row
  cases c <;>
    simp only [Change.written, Change.expects, reduceCtorEq, Option.some.injEq]
      at hwritten hexpects <;>
    subst hwritten
  case updateOrder => exact (apply_updateOrder.mp h).2
  case updateCoupon => exact (apply_updateCoupon.mp h).2.2
  case updatePaymentMethod => exact (apply_updatePaymentMethod.mp h).2
  case updateReport => exact (apply_updateReport.mp h).2.2

theorem adds_of_apply {c : Change} {r : Row} (h : s.apply c = .ok t)
    (hexpects : c.expects = none) (hwritten : c.written = some r) : t = s.add r ∧ t.Holds r := by
  -- only the four insertions write a row without expecting a version
  cases c <;>
    simp only [Change.written, Change.expects, reduceCtorEq, Option.some.injEq]
      at hwritten hexpects <;>
    subst hwritten
  case insertOrder => exact ⟨(apply_insertOrder.mp h).2, holds_of_apply h rfl rfl⟩
  case insertCoupon => exact ⟨(apply_insertCoupon.mp h).2.2, holds_of_apply h rfl rfl⟩
  case insertPaymentMethod => exact ⟨(apply_insertPaymentMethod.mp h).2, holds_of_apply h rfl rfl⟩
  case insertReport => exact ⟨(apply_insertReport.mp h).2.2, holds_of_apply h rfl rfl⟩

theorem erases_of_apply {c : Change} {e : Entity} {x : Uuid} {v : Int} (h : s.apply c = .ok t)
    (hexpects : c.expects = some (e, x, v)) (hwritten : c.written = none) :
    (s.findRow? e x).isSome ∧ t = s.erase e x := by
  refine ⟨?_, ?_⟩
  · obtain ⟨r₀, hfound, -⟩ := Option.map_eq_some_iff.mp (version_eq_of_apply h hexpects)
    rw [hfound]
    rfl
  -- only the four deletions expect a version and write no row
  cases c <;>
    simp only [Change.written, Change.expects, reduceCtorEq, Option.some.injEq, Prod.mk.injEq]
      at hwritten hexpects <;>
    obtain ⟨rfl, rfl, rfl⟩ := hexpects
  case deleteOrder => exact (apply_deleteOrder.mp h).2
  case deleteCoupon => exact (apply_deleteCoupon.mp h).2
  case deletePaymentMethod => exact (apply_deletePaymentMethod.mp h).2
  case deleteReport => exact (apply_deleteReport.mp h).2

theorem rewrites_of_commit {c : Change} {r : Row} {v : Int} (h : s.commit [c] = .ok t)
    (hexpects : c.expects = some (r.entity, r.key, v)) (hwritten : c.written = some r)
    (hversion : r.version = v + 1) : s.Raises r ∧ t = s.put r ∧ t.Holds r :=
  rewrites_of_apply (commit_singleton_eq_ok.mp h) hexpects hwritten hversion

end Store

def Operation.Commits {α : Type} (op : Operation α) (ctx : Context) (s : Store) (a : α)
    (t : Store) : Prop :=
  ∃ p, op ctx s = .ok p ∧ s.commit p.changes = .ok t ∧ p.answer = a

namespace Command

/-- What a command that commits does to the store it read, and what it answers. Drafting a
report adds it and stamps its order one version up; editing, submitting and deciding on a report
rewrite that report; starting work rewrites the report and its order, completing work also
enqueues one event; booking adds the order and takes a use of the requested coupon; changing an
order rewrites it and recounts the uses of at most two coupons, its coupon before and after;
deleting an order erases it and recounts at most its coupon; the catalogue operations touch
their own row. Every answer is the row now stored under its key, and a read changes nothing. -/
def Writes (ctx : Context) (s t : Store) : (c : Command) → c.Answer → Prop
  | createDraft _ req, r =>
      ∃ o, s.findOrder? req.repairOrderId = some o ∧ r.repairOrderId = o.id ∧
        r.reportId = ctx.freshId ∧
        t = (s.put (.order { o with version := o.version + 1, updatedAt := ctx.now })).add
          (.report r) ∧
        t.Holds (.report r)
  | updateDraft _ id _, r | submitDraft _ id, r | acceptSubmission _ id, r
  | rejectSubmission _ id, r =>
      r.reportId = id ∧ s.Raises (.report r) ∧ t = s.put (.report r) ∧ t.Holds (.report r)
  | deleteDraft _ id, _ => (s.findReport? id).isSome ∧ t = s.erase .technicianReport id
  | startWork _ id, r =>
      r.reportId = id ∧ s.Raises (.report r) ∧
        ∃ o, o.id = r.repairOrderId ∧ s.Raises (.order o) ∧
          t = (s.put (.report r)).put (.order o) ∧ t.Holds (.report r)
  | completeWork _ id, r =>
      r.reportId = id ∧ s.Raises (.report r) ∧
        ∃ o m, o.id = r.repairOrderId ∧ s.Raises (.order o) ∧ m.event.repairOrderId = o.id ∧
          t = { (s.put (.report r)).put (.order o) with outbox := s.outbox ++ [m] } ∧
          t.Holds (.report r)
  | createOrder _ req, o =>
      o.id = ctx.freshId ∧ t.Holds (.order o) ∧
        ((req.details.couponCode = none ∧ o.couponId = none ∧ t = s.add (.order o)) ∨
          ∃ code c, req.details.couponCode = some code ∧
            s.findCouponByCode? (Text.trimBlank code) = some c ∧ o.couponId = some c.id ∧
            t = (s.put (.coupon
              { c with usageCount := c.usageCount + 1, version := c.version + 1,
                       updatedAt := ctx.now })).add (.order o))
  | updateOrder _ id _, o =>
      ∃ o₀, s.findOrder? id = some o₀ ∧ o.id = id ∧ o.version = o₀.version + 1 ∧
        t.Holds (.order o) ∧
        ∃ cs : List Coupon, cs.length ≤ 2 ∧
          (∀ c ∈ cs, s.Recounts ctx.now c ∧
            (some c.id = o₀.couponId ∨ some c.id = o.couponId)) ∧
          t = (cs.foldl (fun u c => u.put (.coupon c)) s).put (.order o)
  | deleteOrder _ id, _ =>
      ∃ o, s.findOrder? id = some o ∧
        (t = s.erase .repairOrder id ∨
          ∃ c, o.couponId = some c.id ∧ s.Recounts ctx.now c ∧
            t = (s.put (.coupon c)).erase .repairOrder id)
  | createCoupon _ _, c => c.id = ctx.freshId ∧ t = s.add (.coupon c) ∧ t.Holds (.coupon c)
  | updateCoupon _ id _, c =>
      c.id = id ∧ s.Raises (.coupon c) ∧ t = s.put (.coupon c) ∧ t.Holds (.coupon c)
  | deleteCoupon _ id, _ => (s.findCoupon? id).isSome ∧ t = s.erase .coupon id
  | createPaymentMethod _ _, m =>
      m.id = ctx.freshId ∧ t = s.add (.paymentMethod m) ∧ t.Holds (.paymentMethod m)
  | updatePaymentMethod _ id _, m =>
      m.id = id ∧ s.Raises (.paymentMethod m) ∧ t = s.put (.paymentMethod m) ∧
        t.Holds (.paymentMethod m)
  | deletePaymentMethod _ id, _ =>
      (s.findPaymentMethod? id).isSome ∧ t = s.erase .paymentMethod id
  | listReports .., _ | getReport .., _ | incomingOrders .., _ | getOrder .., _
  | listOrders .., _ | getCoupon .., _ | listCoupons .., _ | getPaymentMethod .., _
  | listPaymentMethods .., _ => t = s

end Command

section Footprints

variable {ctx : Context} {s t : Store} {actor : Actor} {id : Uuid}

open Store

namespace TechnicianReport

theorem rewrites_read {r₀ r : TechnicianReport} (hfound : s.findReport? id = some r₀)
    (hcommit : s.commit [.updateReport r r₀.version] = .ok t)
    (hkey : r.reportId = r₀.reportId) (hversion : r.version = r₀.version + 1) :
    r.reportId = id ∧ s.Raises (.report r) ∧ t = s.put (.report r) ∧ t.Holds (.report r) :=
  ⟨hkey.trans (mem_of_findReport? hfound).2,
    rewrites_of_commit hcommit rfl rfl hversion⟩

theorem createDraft_writes {req : DraftRequest} {r : TechnicianReport}
    (h : (createDraft actor req).Commits ctx s r t) :
    ∃ o, s.findOrder? req.repairOrderId = some o ∧ r.repairOrderId = o.id ∧
      r.reportId = ctx.freshId ∧
      t = (s.put (.order { o with version := o.version + 1, updatedAt := ctx.now })).add
        (.report r) ∧
      t.Holds (.report r) := by
  obtain ⟨p, hp, hcommit, rfl⟩ := h
  obtain ⟨-, o, hfound, -, -, -, -, -, rfl⟩ := createDraft_eq_ok hp
  obtain ⟨u, horder, hinsert⟩ := commit_cons_eq_ok.mp hcommit
  obtain ⟨-, rfl, -⟩ := rewrites_of_apply horder rfl rfl rfl
  obtain ⟨rfl, hholds⟩ := adds_of_apply (commit_singleton_eq_ok.mp hinsert) rfl rfl
  exact ⟨o, hfound, rfl, rfl, rfl, hholds⟩

theorem updateDraft_writes {f : DraftFields} {r : TechnicianReport}
    (h : (updateDraft actor id f).Commits ctx s r t) :
    r.reportId = id ∧ s.Raises (.report r) ∧ t = s.put (.report r) ∧ t.Holds (.report r) := by
  obtain ⟨p, hp, hcommit, rfl⟩ := h
  obtain ⟨-, r₀, hfound, -, -, -, -, rfl⟩ := updateDraft_eq_ok hp
  exact rewrites_read hfound hcommit rfl rfl

theorem deleteDraft_writes {u : Unit} (h : (deleteDraft actor id).Commits ctx s u t) :
    (s.findReport? id).isSome ∧ t = s.erase .technicianReport id := by
  obtain ⟨p, hp, hcommit, -⟩ := h
  obtain ⟨-, r, hfound, -, -, rfl⟩ := deleteDraft_eq_ok hp
  rw [(mem_of_findReport? hfound).2] at hcommit
  simpa using erases_of_apply (commit_singleton_eq_ok.mp hcommit) rfl rfl

theorem submit_writes {r : TechnicianReport} (h : (submit actor id).Commits ctx s r t) :
    r.reportId = id ∧ s.Raises (.report r) ∧ t = s.put (.report r) ∧ t.Holds (.report r) := by
  obtain ⟨p, hp, hcommit, rfl⟩ := h
  obtain ⟨-, r₀, r', hfound, -, hmove, -, rfl⟩ := submit_eq_ok hp
  obtain ⟨next, -, -, rfl⟩ := TechnicianReport.apply_eq_ok.mp hmove
  exact rewrites_read hfound hcommit rfl rfl

theorem decide_writes {action : ReportAction} {r : TechnicianReport}
    (h : (decide action actor id).Commits ctx s r t) :
    r.reportId = id ∧ s.Raises (.report r) ∧ t = s.put (.report r) ∧ t.Holds (.report r) := by
  obtain ⟨p, hp, hcommit, rfl⟩ := h
  obtain ⟨-, r₀, o, r', hfound, -, -, hmove, -, rfl⟩ := decide_eq_ok hp
  obtain ⟨next, -, -, rfl⟩ := TechnicianReport.apply_eq_ok.mp hmove
  exact rewrites_read hfound hcommit rfl rfl

theorem work_moves {r₀ r : TechnicianReport} {o₀ o : RepairOrder}
    (hfound : s.findReport? id = some r₀) (horder : s.findOrder? r₀.repairOrderId = some o₀)
    (hcommit : s.commit [.updateReport r r₀.version, .updateOrder o o₀.version] = .ok t)
    (hkey : r.reportId = r₀.reportId) (hversion : r.version = r₀.version + 1)
    (hrefers : r.repairOrderId = r₀.repairOrderId) (hid : o.id = o₀.id)
    (hversion' : o.version = o₀.version + 1) :
    r.reportId = id ∧ s.Raises (.report r) ∧ o.id = r.repairOrderId ∧ s.Raises (.order o) ∧
      t = (s.put (.report r)).put (.order o) ∧ t.Holds (.report r) := by
  obtain ⟨u, hreport, hrest⟩ := commit_cons_eq_ok.mp hcommit
  obtain ⟨hraised, rfl, hholds⟩ :=
    rewrites_of_apply hreport rfl rfl hversion
  have happly := commit_singleton_eq_ok.mp hrest
  obtain ⟨hraised', rfl, -⟩ := rewrites_of_apply happly rfl rfl hversion'
  refine ⟨hkey.trans (mem_of_findReport? hfound).2, hraised, ?_,
    (raises_put_iff (by simp [Row.entity])).mp hraised', rfl,
    hholds.apply happly (by simp [Change.target, Row.entity])⟩
  rw [hid, hrefers, (mem_of_findOrder? horder).2]

theorem startWork_writes {r : TechnicianReport} (h : (startWork actor id).Commits ctx s r t) :
    r.reportId = id ∧ s.Raises (.report r) ∧
      ∃ o, o.id = r.repairOrderId ∧ s.Raises (.order o) ∧
        t = (s.put (.report r)).put (.order o) ∧ t.Holds (.report r) := by
  obtain ⟨p, hp, hcommit, rfl⟩ := h
  obtain ⟨-, r₀, o₀, r', o', hfound, -, horder, hmove, hadvance, -, -, rfl⟩ :=
    startWork_eq_ok hp
  obtain ⟨next, -, -, rfl⟩ := TechnicianReport.apply_eq_ok.mp hmove
  obtain ⟨-, rfl⟩ := RepairOrder.advance_eq_ok.mp hadvance
  obtain ⟨hkey, hraised, hrefers, hraised', ht, hholds⟩ :=
    work_moves hfound horder hcommit rfl rfl rfl rfl rfl
  exact ⟨hkey, hraised, _, hrefers, hraised', ht, hholds⟩

theorem completeWork_writes {r : TechnicianReport}
    (h : (completeWork actor id).Commits ctx s r t) :
    r.reportId = id ∧ s.Raises (.report r) ∧
      ∃ o m, o.id = r.repairOrderId ∧ s.Raises (.order o) ∧ m.event.repairOrderId = o.id ∧
        t = { ((s.put (.report r)).put (.order o)) with outbox := s.outbox ++ [m] } ∧
        t.Holds (.report r) := by
  obtain ⟨p, hp, hcommit, rfl⟩ := h
  obtain ⟨-, r₀, o₀, r', o', hfound, -, horder, hmove, hadvance, -, -, rfl⟩ :=
    completeWork_eq_ok hp
  obtain ⟨next, -, -, rfl⟩ := TechnicianReport.apply_eq_ok.mp hmove
  obtain ⟨-, rfl⟩ := RepairOrder.advance_eq_ok.mp hadvance
  -- the two rewrites commit first, then the event is enqueued
  rw [show ∀ a b c : Change, [a, b, c] = [a, b] ++ [c] from fun _ _ _ => rfl] at hcommit
  obtain ⟨u, hmoves, henqueue⟩ := commit_append_eq_ok.mp hcommit
  obtain ⟨hkey, hraised, hrefers, hraised', rfl, hholds⟩ :=
    work_moves hfound horder hmoves rfl rfl rfl rfl rfl
  have happly := commit_singleton_eq_ok.mp henqueue
  obtain rfl := apply_enqueue.mp happly
  exact ⟨hkey, hraised, _, _, hrefers, hraised', rfl, rfl,
    hholds.apply happly (by simp [Change.target])⟩

end TechnicianReport

namespace RepairOrder

theorem create_writes {req : OrderRequest} {o : RepairOrder}
    (h : (create actor req).Commits ctx s o t) :
    o.id = ctx.freshId ∧ t.Holds (.order o) ∧
      ((req.details.couponCode = none ∧ o.couponId = none ∧ t = s.add (.order o)) ∨
        ∃ code c, req.details.couponCode = some code ∧
          s.findCouponByCode? (Text.trimBlank code) = some c ∧ o.couponId = some c.id ∧
          t = (s.put (.coupon
            { c with usageCount := c.usageCount + 1, version := c.version + 1,
                     updatedAt := ctx.now })).add (.order o)) := by
  obtain ⟨p, hp, hcommit, rfl⟩ := h
  obtain ⟨-, -, -, cs, couponId, hcoupon, hchanges, hanswer⟩ := create_eq_ok hp
  rw [hchanges] at hcommit
  obtain ⟨u, hcoupons, hinsert⟩ := commit_append_eq_ok.mp hcommit
  obtain ⟨rfl, hholds⟩ := adds_of_apply (commit_singleton_eq_ok.mp hinsert) rfl rfl
  refine ⟨by rw [hanswer]; rfl, hholds, ?_⟩
  rcases hcoupon with ⟨hnone, rfl, rfl⟩ | ⟨code, c, c', hcode, hfound, hstage, rfl⟩
  · rw [commit_nil, Except.ok.injEq] at hcoupons
    subst hcoupons
    exact .inl ⟨hnone, by rw [hanswer]; rfl, rfl⟩
  · obtain ⟨-, -, -, -, rfl, rfl⟩ := Coupon.stageApply_eq_ok.mp hstage
    obtain ⟨-, rfl, -⟩ := rewrites_of_commit hcoupons rfl rfl rfl
    exact .inr ⟨code, c, hcode, hfound, by rw [hanswer]; rfl, rfl⟩

theorem Coupon.recounts_of_stageApply {cs₀ cs : ChangeSet} {c c' : Coupon} {today : Date}
    {now : Instant} (hc : c ∈ s.coupons)
    (h : Coupon.stageApply cs₀ c today now = .ok (cs, c')) :
    s.Recounts now c' := by
  obtain ⟨-, -, -, -, rfl, -⟩ := Coupon.stageApply_eq_ok.mp h
  exact ⟨c, hc, rfl⟩

theorem Coupon.recounts_of_stageRelease {cs₀ cs : ChangeSet} {c c' : Coupon} {now : Instant}
    (hc : c ∈ s.coupons) (h : Coupon.stageRelease cs₀ c now = .ok (cs, c')) :
    s.Recounts now c' := by
  obtain ⟨-, -, rfl, -⟩ := Coupon.stageRelease_eq_ok.mp h
  exact ⟨c, hc, rfl⟩

theorem stageCouponChange_writes {today : Date} {now : Instant} {current : Option Uuid}
    {requested : Option Coupon} {cs : ChangeSet} {couponId : Option Uuid} {u : Store}
    (h : stageCouponChange s today now current requested = .ok (cs, couponId))
    (hrequested : ∀ c, requested = some c → c ∈ s.coupons) (hcommit : s.commit cs = .ok u) :
    ∃ moved : List Coupon, moved.length ≤ 2 ∧
      (∀ c ∈ moved, s.Recounts now c ∧ (some c.id = current ∨ some c.id = couponId)) ∧
      u = moved.foldl (fun u c => u.put (.coupon c)) s := by
  have hnone : cs = [] → u = s := by
    rintro rfl
    rw [commit_nil, Except.ok.injEq] at hcommit
    exact hcommit.symm
  rcases stageCouponChange_eq_ok h with ⟨-, -, hcs, -⟩ | ⟨new, -, -, hcs, -⟩ |
    ⟨new, new', hnew, -, hstage, rfl⟩ |
    ⟨x, new, old, new', old', rfl, hnew, -, hold, hswap, rfl⟩ |
    ⟨x, rfl, -, -, ⟨-, hcs⟩ | ⟨old, old', hold, hstage⟩⟩
  case inl | inr.inl | inr.inr.inr.inr.inl =>
    exact ⟨[], by simp, by simp, hnone hcs⟩
  case inr.inr.inl =>
    -- a use of the requested coupon only
    obtain ⟨rfl, hid, hversion⟩ := Coupon.stageApply_changes hstage
    obtain ⟨-, rfl, -⟩ := rewrites_of_commit hcommit rfl rfl hversion
    have hrecount := Coupon.recounts_of_stageApply (hrequested new hnew) hstage
    exact ⟨[new'], by simp,
      List.forall_mem_singleton.mpr ⟨hrecount, .inr (by rw [hid])⟩, rfl⟩
  case inr.inr.inr.inl =>
    -- a use moved from the current coupon to the requested one
    obtain ⟨between, hstage, hrelease⟩ := Coupon.stageSwap_eq_ok.mp hswap
    obtain ⟨rfl, hnewId, hnewVersion⟩ := Coupon.stageApply_changes hstage
    obtain ⟨rfl, holdId, holdVersion⟩ := Coupon.stageRelease_changes hrelease
    obtain ⟨u', happly, hgive⟩ := commit_append_eq_ok.mp hcommit
    obtain ⟨-, rfl, -⟩ := rewrites_of_commit happly rfl rfl hnewVersion
    obtain ⟨-, rfl, -⟩ := rewrites_of_commit hgive rfl rfl holdVersion
    obtain ⟨hmem, rfl⟩ := mem_of_findCoupon? hold
    have htaken := Coupon.recounts_of_stageApply (hrequested new hnew) hstage
    have hgiven := Coupon.recounts_of_stageRelease hmem hrelease
    exact ⟨[new', old'], by simp, List.forall_mem_cons.mpr ⟨⟨htaken, .inr (by rw [hnewId])⟩,
      List.forall_mem_singleton.mpr ⟨hgiven, .inl (by rw [holdId])⟩⟩, rfl⟩
  case inr.inr.inr.inr.inr =>
    -- a use given back to the current coupon
    obtain ⟨rfl, hid, hversion⟩ := Coupon.stageRelease_changes hstage
    obtain ⟨-, rfl, -⟩ := rewrites_of_commit hcommit rfl rfl hversion
    obtain ⟨hmem, rfl⟩ := mem_of_findCoupon? hold
    have hrecount := Coupon.recounts_of_stageRelease hmem hstage
    exact ⟨[old'], by simp,
      List.forall_mem_singleton.mpr ⟨hrecount, .inl (by rw [hid])⟩, rfl⟩

theorem update_writes {d : OrderDetails} {o : RepairOrder}
    (h : (update actor id d).Commits ctx s o t) :
    ∃ o₀, s.findOrder? id = some o₀ ∧ o.id = id ∧ o.version = o₀.version + 1 ∧
      t.Holds (.order o) ∧
      ∃ moved : List Coupon, moved.length ≤ 2 ∧
        (∀ c ∈ moved, s.Recounts ctx.now c ∧
          (some c.id = o₀.couponId ∨ some c.id = o.couponId)) ∧
        t = (moved.foldl (fun u c => u.put (.coupon c)) s).put (.order o) := by
  obtain ⟨p, hp, hcommit, rfl⟩ := h
  obtain ⟨o₀, hload, -, -, requested, cs, couponId, hrequested, hchange, -, hchanges,
    hanswer⟩ := update_eq_ok hp
  obtain ⟨-, hfound, -, -, -⟩ := loadEditable_eq_ok.mp hload
  rw [hchanges] at hcommit
  obtain ⟨u, hcoupons, horder⟩ := commit_append_eq_ok.mp hcommit
  obtain ⟨-, rfl, hholds⟩ := rewrites_of_commit horder rfl rfl (by rw [hanswer]; rfl)
  -- the requested coupon was read from the store by its code
  have hstored : ∀ c, requested = some c → c ∈ s.coupons := by
    rintro c rfl
    rcases hrequested with ⟨-, hnone⟩ | ⟨code, c', -, hcode, hsome⟩
    · cases hnone
    · cases hsome
      exact List.mem_of_find?_eq_some hcode
  obtain ⟨moved, hlength, hmoved, rfl⟩ := stageCouponChange_writes hchange hstored hcoupons
  have hcoupon : p.answer.couponId = couponId := by rw [hanswer]
  refine ⟨o₀, hfound, by rw [hanswer]; exact (mem_of_findOrder? hfound).2, by rw [hanswer],
    hholds, moved, hlength, ?_, rfl⟩
  rw [hcoupon]
  exact hmoved

theorem delete_writes {u : Unit} (h : (delete actor id).Commits ctx s u t) :
    ∃ o, s.findOrder? id = some o ∧
      (t = s.erase .repairOrder id ∨
        ∃ c, o.couponId = some c.id ∧ s.Recounts ctx.now c ∧
          t = (s.put (.coupon c)).erase .repairOrder id) := by
  obtain ⟨p, hp, hcommit, -⟩ := h
  obtain ⟨o, hload, hcoupon⟩ := delete_eq_ok hp
  obtain ⟨-, hfound, -, -, -⟩ := loadEditable_eq_ok.mp hload
  have hid := (mem_of_findOrder? hfound).2
  refine ⟨o, hfound, ?_⟩
  rcases hcoupon with ⟨-, hchanges⟩ | ⟨c, cs, c', hc, hstage, hchanges⟩
  · rw [hchanges, hid] at hcommit
    exact .inl (erases_of_apply (commit_singleton_eq_ok.mp hcommit) rfl rfl).2
  · obtain ⟨x, hx, hcx⟩ := Option.bind_eq_some_iff.mp hc
    obtain ⟨hmem, rfl⟩ := mem_of_findCoupon? hcx
    have hrecount := Coupon.recounts_of_stageRelease hmem hstage
    obtain ⟨rfl, hcid', hversion⟩ := Coupon.stageRelease_changes hstage
    rw [hchanges, hid] at hcommit
    obtain ⟨u, hrelease, hdelete⟩ := commit_append_eq_ok.mp hcommit
    obtain ⟨-, rfl, -⟩ := rewrites_of_commit hrelease rfl rfl hversion
    obtain ⟨-, rfl⟩ := erases_of_apply (commit_singleton_eq_ok.mp hdelete) rfl rfl
    exact .inr ⟨c', by rw [hx, hcid'], hrecount, rfl⟩

end RepairOrder

namespace Coupon

theorem create_writes {req : CouponRequest} {c : Coupon}
    (h : (create actor req).Commits ctx s c t) :
    c.id = ctx.freshId ∧ t = s.add (.coupon c) ∧ t.Holds (.coupon c) := by
  obtain ⟨p, hp, hcommit, rfl⟩ := h
  obtain ⟨-, -, -, hchanges, hanswer⟩ := create_eq_ok hp
  rw [hchanges] at hcommit
  exact ⟨by rw [hanswer], adds_of_apply (commit_singleton_eq_ok.mp hcommit) rfl rfl⟩

theorem update_writes {req : CouponRequest} {c : Coupon}
    (h : (update actor id req).Commits ctx s c t) :
    c.id = id ∧ s.Raises (.coupon c) ∧ t = s.put (.coupon c) ∧ t.Holds (.coupon c) := by
  obtain ⟨p, hp, hcommit, rfl⟩ := h
  obtain ⟨-, -, c₀, hfound, -, -, -, hchanges, hanswer⟩ := update_eq_ok hp
  rw [hchanges] at hcommit
  exact ⟨by rw [hanswer]; exact (mem_of_findCoupon? hfound).2,
    rewrites_of_commit hcommit rfl rfl (by rw [hanswer]; rfl)⟩

theorem delete_writes {u : Unit} (h : (delete actor id).Commits ctx s u t) :
    (s.findCoupon? id).isSome ∧ t = s.erase .coupon id := by
  obtain ⟨p, hp, hcommit, -⟩ := h
  obtain ⟨-, c, hfound, -, hchanges⟩ := delete_eq_ok hp
  rw [hchanges, (mem_of_findCoupon? hfound).2] at hcommit
  simpa using erases_of_apply (commit_singleton_eq_ok.mp hcommit) rfl rfl

end Coupon

namespace PaymentMethod

theorem create_writes {req : PaymentMethodRequest} {m : PaymentMethod}
    (h : (create actor req).Commits ctx s m t) :
    m.id = ctx.freshId ∧ t = s.add (.paymentMethod m) ∧ t.Holds (.paymentMethod m) := by
  obtain ⟨p, hp, hcommit, rfl⟩ := h
  obtain ⟨-, -, hchanges, hid⟩ := create_eq_ok hp
  rw [hchanges] at hcommit
  exact ⟨hid, adds_of_apply (commit_singleton_eq_ok.mp hcommit) rfl rfl⟩

theorem update_writes {req : PaymentMethodRequest} {m : PaymentMethod}
    (h : (update actor id req).Commits ctx s m t) :
    m.id = id ∧ s.Raises (.paymentMethod m) ∧ t = s.put (.paymentMethod m) ∧
      t.Holds (.paymentMethod m) := by
  obtain ⟨p, hp, hcommit, rfl⟩ := h
  obtain ⟨-, -, m₀, hfound, -, hchanges, hanswer⟩ := update_eq_ok hp
  rw [hchanges] at hcommit
  exact ⟨by rw [hanswer]; exact (mem_of_findPaymentMethod? hfound).2,
    rewrites_of_commit hcommit rfl rfl (by rw [hanswer]; rfl)⟩

theorem delete_writes {u : Unit} (h : (delete actor id).Commits ctx s u t) :
    (s.findPaymentMethod? id).isSome ∧ t = s.erase .paymentMethod id := by
  obtain ⟨p, hp, hcommit, -⟩ := h
  obtain ⟨-, m, hfound, -, hchanges⟩ := delete_eq_ok hp
  rw [hchanges, (mem_of_findPaymentMethod? hfound).2] at hcommit
  simpa using erases_of_apply (commit_singleton_eq_ok.mp hcommit) rfl rfl

end PaymentMethod

theorem Command.commits_of_readsOnly {c : Command} (hread : c.readsOnly = true) {a : c.Answer}
    (h : c.operation.Commits ctx s a t) : t = s := by
  obtain ⟨p, hp, hcommit, -⟩ := h
  have hplan : c.plan ctx s = .ok p.changes := by
    rw [plan_eq_staged]
    exact staged_eq_ok.mpr ⟨p, hp, rfl⟩
  rw [plan_eq_nil_of_readsOnly hread hplan, commit_nil, Except.ok.injEq] at hcommit
  exact hcommit.symm

end Footprints

namespace Command

/-- A command that commits writes its footprint: each command by the footprint of its
operation. -/
theorem writes_of_commits (c : Command) {ctx : Context} {s t : Store} {a : c.Answer}
    (h : c.operation.Commits ctx s a t) : c.Writes ctx s t a := by
  cases c
  case createDraft => exact TechnicianReport.createDraft_writes h
  case updateDraft => exact TechnicianReport.updateDraft_writes h
  case deleteDraft => exact TechnicianReport.deleteDraft_writes h
  case submitDraft => exact TechnicianReport.submit_writes h
  case acceptSubmission => exact TechnicianReport.decide_writes h
  case rejectSubmission => exact TechnicianReport.decide_writes h
  case startWork => exact TechnicianReport.startWork_writes h
  case completeWork => exact TechnicianReport.completeWork_writes h
  case createOrder => exact RepairOrder.create_writes h
  case updateOrder => exact RepairOrder.update_writes h
  case deleteOrder => exact RepairOrder.delete_writes h
  case createCoupon => exact Coupon.create_writes h
  case updateCoupon => exact Coupon.update_writes h
  case deleteCoupon => exact Coupon.delete_writes h
  case createPaymentMethod => exact PaymentMethod.create_writes h
  case updatePaymentMethod => exact PaymentMethod.update_writes h
  case deletePaymentMethod => exact PaymentMethod.delete_writes h
  all_goals exact commits_of_readsOnly rfl h

end Command

/-- Whatever the workshop holds, an operation the service answers wrote exactly its footprint:
drafting a report adds it and raises its order a version, stamped; editing, submitting and
deciding on a report rewrite that report; starting work rewrites the report and its order, and
completing work also enqueues one event for the order; booking adds the order and takes one use
of the coupon with the requested code; changing an order rewrites it and recounts the uses of
at most two coupons, its coupon before and after; deleting an order erases it and recounts at
most its coupon; the catalogue operations touch their own row only; a read writes nothing. No
other row, table or outbox message changes, every rewritten row is the stored one a version
up, and the answer is the row now stored under its key. -/
theorem committed_operations_write_their_rows (c : Command) (w w' : Workshop) (today : Date)
    (a : c.Answer) (entries : List AuditEntry)
    (h : w.perform today c.operation = (.ok (a, entries), w')) :
    c.Writes (w.context today) w.store w'.store a := by
  obtain ⟨p, t, hp, hcommit, ha, -, rfl⟩ := Workshop.perform_eq_ok.mp h
  exact c.writes_of_commits ⟨p, hp, hcommit, ha⟩

/-- After a payment method, two coupons and an order on the first coupon are committed, the
customer moves the order to the second coupon, and the workshop it leaves is the one the frame
describes. -/
theorem moving_an_order_to_another_coupon_writes_its_rows :
    let today : Date := ⟨2026, 1, 1⟩
    let admin : Actor := ⟨Uuid.ofNat 7, .admin⟩
    let customer : Actor := ⟨Uuid.ofNat 2, .customer⟩
    let at_ (k : Nat) : Context := ⟨today, ⟨k, 0⟩, Uuid.sequential 1 k⟩
    let details (code : String) : OrderDetails :=
      ⟨"Espresso machine", "Used", "Leaks from the group head", ⟨2026, 3, 1⟩,
        Uuid.sequential 1 1, some code⟩
    let steps : List (Command × Context) :=
      [(.createPaymentMethod admin ⟨"Card", .bankTransfer, "Bank", "1234567890", "Ada"⟩, at_ 1),
       (.createCoupon admin ⟨"SPRING10", 500, 3, none⟩, at_ 2),
       (.createCoupon admin ⟨"SUMMER20", 800, 3, none⟩, at_ 3),
       (.createOrder customer ⟨Uuid.ofNat 3, details "SPRING10"⟩, at_ 4)]
    let w : Workshop := { store := Command.runAll steps Store.empty, issued := 4 }
    let c := Command.updateOrder customer (Uuid.sequential 1 4) (details "SUMMER20")
    ∃ (o : RepairOrder) (entries : List AuditEntry) (w' : Workshop),
      w.perform today c.operation = (.ok (o, entries), w') ∧
      o.couponId = some (Uuid.sequential 1 3) ∧ c.Writes (w.context today) w.store w'.store o := by
  intro today admin customer at_ details steps w c
  have hanswer : (w.perform today c.operation).1.toOption.map (·.1.couponId) =
      some (some (Uuid.sequential 1 3)) := by
    decide +kernel
  obtain ⟨⟨result, w'⟩, h⟩ : ∃ x, w.perform today c.operation = x := ⟨_, rfl⟩
  rw [h] at hanswer
  cases result with
  | error f => cases hanswer
  | ok answer =>
    obtain ⟨o, entries⟩ := answer
    exact ⟨o, entries, w', h, Option.some.inj hanswer,
      committed_operations_write_their_rows c w w' today o entries h⟩

end RepairDesk
