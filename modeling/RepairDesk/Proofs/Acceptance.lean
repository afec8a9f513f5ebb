import RepairDesk.Proofs.Uniqueness
import RepairDesk.Proofs.Interleaving

/-! When the store accepts a change set whole. -/

namespace RepairDesk

open Tables Store

/-- Two rows the store refuses to hold under different keys: two coupons with one code, or two
reports of one order that are both not rejected. -/
def Row.Clash : Row → Row → Prop
  | .coupon a, .coupon b => a.id ≠ b.id ∧ a.code = b.code
  | .report a, .report b => a.reportId ≠ b.reportId ∧ a.Rivals b
  | _, _ => False

/-- What a store that applied the first changes of a set still shares with the store it started
from: every row no applied change wrote is as it was, and every stored row was stored at the
start or written by an applied change. -/
structure Store.Follows (s : Store) (done : ChangeSet) (u : Store) : Prop where
  keyed : Keyed u
  untouched : ∀ e x, (e, x) ∉ done.filterMap Change.target → u.findRow? e x = s.findRow? e x
  origin : ∀ e x r, u.findRow? e x = some r →
    s.findRow? e x = some r ∨ r ∈ done.filterMap Change.written

namespace Store.Follows

variable {s u u' : Store} {done : ChangeSet}

theorem start (h : Keyed s) : s.Follows [] s :=
  ⟨h, fun _ _ _ => rfl, fun _ _ _ hr => .inl hr⟩

theorem apply (hf : s.Follows done u) {c : Change} (happ : u.apply c = .ok u') :
    s.Follows (done ++ [c]) u' := by
  refine ⟨hf.keyed.apply happ, fun e x hx => ?_, fun e x r hr => ?_⟩
  · have hnot : c.target ≠ some (e, x) := by
      intro hc
      exact hx (List.mem_filterMap.mpr ⟨c, by simp, hc⟩)
    rw [findRow?_apply_of_target_ne happ hnot]
    exact hf.untouched e x fun hmem => hx (by simp [List.filterMap_append, hmem])
  · rw [findRow?_apply happ] at hr
    split at hr
    · exact .inr (List.mem_filterMap.mpr ⟨c, by simp, hr⟩)
    · rcases hf.origin e x r hr with hs | hdone
      · exact .inl hs
      · exact .inr (by simp [List.filterMap_append, List.mem_filterMap.mp hdone])

theorem findOrder?_eq (hf : s.Follows done u) {x : Uuid}
    (hx : (.repairOrder, x) ∉ done.filterMap Change.target) : u.findOrder? x = s.findOrder? x :=
  Option.map_injective (fun _ _ h => Row.order.inj h) (by simpa using hf.untouched _ x hx)

theorem findCoupon?_eq (hf : s.Follows done u) {x : Uuid}
    (hx : (.coupon, x) ∉ done.filterMap Change.target) : u.findCoupon? x = s.findCoupon? x :=
  Option.map_injective (fun _ _ h => Row.coupon.inj h) (by simpa using hf.untouched _ x hx)

theorem findPaymentMethod?_eq (hf : s.Follows done u) {x : Uuid}
    (hx : (.paymentMethod, x) ∉ done.filterMap Change.target) :
    u.findPaymentMethod? x = s.findPaymentMethod? x :=
  Option.map_injective (fun _ _ h => Row.paymentMethod.inj h) (by simpa using hf.untouched _ x hx)

theorem findReport?_eq (hf : s.Follows done u) {x : Uuid}
    (hx : (.technicianReport, x) ∉ done.filterMap Change.target) :
    u.findReport? x = s.findReport? x :=
  Option.map_injective (fun _ _ h => Row.report.inj h) (by simpa using hf.untouched _ x hx)

theorem checkCouponCode (hf : s.Follows done u) {c : Coupon} (hs : s.checkCouponCode c = .ok ())
    (hapart : ∀ r ∈ done.filterMap Change.written, ¬ r.Clash (.coupon c)) :
    u.checkCouponCode c = .ok () := by
  rw [checkCouponCode_eq_ok]
  intro other hother hid hcode
  have hu : u.findRow? .coupon other.id = some (.coupon other) := by
    simp [hf.keyed.findCoupon?_eq_some hother]
  rcases hf.origin _ _ _ hu with hstored | hwritten
  · have hmem : other ∈ s.coupons := (mem_of_findCoupon? (by simpa using hstored)).1
    exact checkCouponCode_eq_ok.mp hs other hmem hid hcode
  · exact hapart _ hwritten ⟨hid, hcode⟩

theorem checkSingleActiveReport (hf : s.Follows done u) {r : TechnicianReport}
    (hs : s.checkSingleActiveReport r = .ok ())
    (hapart : ∀ q ∈ done.filterMap Change.written, ¬ q.Clash (.report r)) :
    u.checkSingleActiveReport r = .ok () := by
  rw [checkSingleActiveReport_eq_ok]
  by_cases hrejected : r.status = .rejected
  · exact .inl hrejected
  have hclear := (checkSingleActiveReport_eq_ok.mp hs).resolve_left hrejected
  refine .inr fun other hother hid hfor => ?_
  by_contra hlive
  have hu : u.findRow? .technicianReport other.reportId = some (.report other) := by
    simp [hf.keyed.findReport?_eq_some hother]
  rcases hf.origin _ _ _ hu with hstored | hwritten
  · have hmem : other ∈ s.reports := (mem_of_findReport? (by simpa using hstored)).1
    exact hlive (hclear other hmem hid hfor)
  · exact hapart _ hwritten ⟨hid, hfor, hlive, hrejected⟩

theorem apply_ok (hf : s.Follows done u) {c : Change} {t : Store} (hs : s.apply c = .ok t)
    (hfirst : ∀ ex, c.target = some ex → ex ∉ done.filterMap Change.target)
    (hapart : ∀ q ∈ done.filterMap Change.written, ∀ w, c.written = some w → ¬ q.Clash w) :
    ∃ u', u.apply c = .ok u' := by
  cases c with
  | insertOrder o =>
      obtain ⟨hnew, -⟩ := apply_insertOrder.mp hs
      exact ⟨_, apply_insertOrder.mpr ⟨(hf.findOrder?_eq (hfirst _ rfl)).trans hnew, rfl⟩⟩
  | updateOrder o v =>
      obtain ⟨hv, -⟩ := apply_updateOrder.mp hs
      exact ⟨_, apply_updateOrder.mpr ⟨(hf.findOrder?_eq (hfirst _ rfl)).symm ▸ hv, rfl⟩⟩
  | deleteOrder id v =>
      obtain ⟨hv, -⟩ := apply_deleteOrder.mp hs
      exact ⟨_, apply_deleteOrder.mpr ⟨(hf.findOrder?_eq (hfirst _ rfl)).symm ▸ hv, rfl⟩⟩
  | insertCoupon c =>
      obtain ⟨hnew, hcheck, -⟩ := apply_insertCoupon.mp hs
      exact ⟨_, apply_insertCoupon.mpr ⟨(hf.findCoupon?_eq (hfirst _ rfl)).trans hnew,
        hf.checkCouponCode hcheck (fun q hq => hapart q hq _ rfl), rfl⟩⟩
  | updateCoupon c v =>
      obtain ⟨hv, hcheck, -⟩ := apply_updateCoupon.mp hs
      exact ⟨_, apply_updateCoupon.mpr ⟨(hf.findCoupon?_eq (hfirst _ rfl)).symm ▸ hv,
        hf.checkCouponCode hcheck (fun q hq => hapart q hq _ rfl), rfl⟩⟩
  | deleteCoupon id v =>
      obtain ⟨hv, -⟩ := apply_deleteCoupon.mp hs
      exact ⟨_, apply_deleteCoupon.mpr ⟨(hf.findCoupon?_eq (hfirst _ rfl)).symm ▸ hv, rfl⟩⟩
  | insertPaymentMethod m =>
      obtain ⟨hnew, -⟩ := apply_insertPaymentMethod.mp hs
      exact ⟨_, apply_insertPaymentMethod.mpr
        ⟨(hf.findPaymentMethod?_eq (hfirst _ rfl)).trans hnew, rfl⟩⟩
  | updatePaymentMethod m v =>
      obtain ⟨hv, -⟩ := apply_updatePaymentMethod.mp hs
      exact ⟨_, apply_updatePaymentMethod.mpr
        ⟨(hf.findPaymentMethod?_eq (hfirst _ rfl)).symm ▸ hv, rfl⟩⟩
  | deletePaymentMethod id v =>
      obtain ⟨hv, -⟩ := apply_deletePaymentMethod.mp hs
      exact ⟨_, apply_deletePaymentMethod.mpr
        ⟨(hf.findPaymentMethod?_eq (hfirst _ rfl)).symm ▸ hv, rfl⟩⟩
  | insertReport r =>
      obtain ⟨hnew, hcheck, -⟩ := apply_insertReport.mp hs
      exact ⟨_, apply_insertReport.mpr ⟨(hf.findReport?_eq (hfirst _ rfl)).trans hnew,
        hf.checkSingleActiveReport hcheck (fun q hq => hapart q hq _ rfl), rfl⟩⟩
  | updateReport r v =>
      obtain ⟨hv, hcheck, -⟩ := apply_updateReport.mp hs
      exact ⟨_, apply_updateReport.mpr ⟨(hf.findReport?_eq (hfirst _ rfl)).symm ▸ hv,
        hf.checkSingleActiveReport hcheck (fun q hq => hapart q hq _ rfl), rfl⟩⟩
  | deleteReport id v =>
      obtain ⟨hv, -⟩ := apply_deleteReport.mp hs
      exact ⟨_, apply_deleteReport.mpr ⟨(hf.findReport?_eq (hfirst _ rfl)).symm ▸ hv, rfl⟩⟩
  | enqueue m => exact ⟨_, apply_enqueue.mpr rfl⟩

theorem commit_ok {rest : ChangeSet} (hf : s.Follows done u)
    (hdistinct : ((done ++ rest).filterMap Change.target).Nodup)
    (haccept : ∀ c ∈ rest, ∃ t, s.apply c = .ok t)
    (hapart : ∀ a ∈ (done ++ rest).filterMap Change.written,
      ∀ b ∈ (done ++ rest).filterMap Change.written, ¬ a.Clash b) :
    ∃ t, u.commit rest = .ok t := by
  induction rest generalizing done u with
  | nil => exact ⟨u, rfl⟩
  | cons c rest ih =>
      obtain ⟨t, hs⟩ := haccept c (List.mem_cons_self ..)
      have hfirst : ∀ ex, c.target = some ex → ex ∉ done.filterMap Change.target := by
        intro ex hc hmem
        rw [List.filterMap_append, List.nodup_append] at hdistinct
        exact hdistinct.2.2 ex hmem ex (by simp [hc]) rfl
      have hwritten : ∀ q ∈ done.filterMap Change.written, ∀ w, c.written = some w →
          ¬ q.Clash w := by
        intro q hq w hw
        exact hapart q (by simp [List.filterMap_append, List.mem_filterMap.mp hq])
          w (by simp [List.filterMap_append, hw])
      obtain ⟨u', hu'⟩ := hf.apply_ok hs hfirst hwritten
      obtain ⟨t', ht'⟩ := ih (hf.apply hu') (by simpa using hdistinct)
        (fun c' hc' => haccept c' (List.mem_cons_of_mem _ hc')) (by simpa using hapart)
      exact ⟨t', commit_cons_eq_ok.mpr ⟨u', hu', ht'⟩⟩

end Store.Follows

/-- A change set that writes each row at most once, each of whose changes the store would
accept on its own, and whose written rows do not clash, is accepted whole. -/
theorem Store.commit_eq_ok_of_accepted {s : Store} {cs : ChangeSet} (hkeyed : Keyed s)
    (hdistinct : (cs.filterMap Change.target).Nodup)
    (haccept : ∀ c ∈ cs, ∃ t, s.apply c = .ok t)
    (hapart : ∀ a ∈ cs.filterMap Change.written, ∀ b ∈ cs.filterMap Change.written,
      ¬ a.Clash b) :
    ∃ t, s.commit cs = .ok t :=
  (Follows.start hkeyed).commit_ok (by simpa using hdistinct) haccept (by simpa using hapart)

/-! ### What the service checks -/

/-- The rule a change's row must keep with the rows stored: the store's own check of a coupon's
code or of a report's order passes on the store as read. -/
def Change.Clear (s : Store) : Change → Prop
  | .insertCoupon c | .updateCoupon c _ => s.checkCouponCode c = .ok ()
  | .insertReport r | .updateReport r _ => s.checkSingleActiveReport r = .ok ()
  | _ => True

/-- A change set whose changes each keep the rules with the rows stored, and whose written rows
do not clash with one another. -/
structure ChangeSet.Clear (s : Store) (cs : ChangeSet) : Prop where
  each : ∀ c ∈ cs, c.Clear s
  apart : ∀ a ∈ cs.filterMap Change.written, ∀ b ∈ cs.filterMap Change.written, ¬ a.Clash b

theorem Change.apply_ok_of_staged {s : Store} {fresh : Uuid} {c : Change}
    (hstaged : c.StagedFrom s fresh) (hfresh : s.Unused fresh) (hclear : c.Clear s) :
    ∃ t, s.apply c = .ok t := by
  -- an update or a deletion finds its version, an insertion finds its key free
  have hversion : ∀ {e x v}, c.expects = some (e, x, v) →
      (s.findRow? e x).map Row.version = some v := fun hc => hstaged.read hc
  have hnew : ∀ {e x}, c.expects = none → c.target = some (e, x) → s.findRow? e x = none := by
    intro e x hc ht
    rw [hstaged.eq_fresh hc ht]
    exact hfresh e
  cases c with
  | insertOrder o =>
      have h := hnew (e := .repairOrder) (x := o.id) rfl rfl
      exact ⟨_, apply_insertOrder.mpr ⟨by simpa using h, rfl⟩⟩
  | updateOrder o v =>
      have h := hversion (e := .repairOrder) (x := o.id) (v := v) rfl
      exact ⟨_, apply_updateOrder.mpr
        ⟨by simpa [Option.map_map, Function.comp_def, Row.version] using h, rfl⟩⟩
  | deleteOrder id v =>
      have h := hversion (e := .repairOrder) (x := id) (v := v) rfl
      exact ⟨_, apply_deleteOrder.mpr
        ⟨by simpa [Option.map_map, Function.comp_def, Row.version] using h, rfl⟩⟩
  | insertCoupon c =>
      have h := hnew (e := .coupon) (x := c.id) rfl rfl
      exact ⟨_, apply_insertCoupon.mpr ⟨by simpa using h, hclear, rfl⟩⟩
  | updateCoupon c v =>
      have h := hversion (e := .coupon) (x := c.id) (v := v) rfl
      exact ⟨_, apply_updateCoupon.mpr
        ⟨by simpa [Option.map_map, Function.comp_def, Row.version] using h, hclear, rfl⟩⟩
  | deleteCoupon id v =>
      have h := hversion (e := .coupon) (x := id) (v := v) rfl
      exact ⟨_, apply_deleteCoupon.mpr
        ⟨by simpa [Option.map_map, Function.comp_def, Row.version] using h, rfl⟩⟩
  | insertPaymentMethod m =>
      have h := hnew (e := .paymentMethod) (x := m.id) rfl rfl
      exact ⟨_, apply_insertPaymentMethod.mpr ⟨by simpa using h, rfl⟩⟩
  | updatePaymentMethod m v =>
      have h := hversion (e := .paymentMethod) (x := m.id) (v := v) rfl
      exact ⟨_, apply_updatePaymentMethod.mpr
        ⟨by simpa [Option.map_map, Function.comp_def, Row.version] using h, rfl⟩⟩
  | deletePaymentMethod id v =>
      have h := hversion (e := .paymentMethod) (x := id) (v := v) rfl
      exact ⟨_, apply_deletePaymentMethod.mpr
        ⟨by simpa [Option.map_map, Function.comp_def, Row.version] using h, rfl⟩⟩
  | insertReport r =>
      have h := hnew (e := .technicianReport) (x := r.reportId) rfl rfl
      exact ⟨_, apply_insertReport.mpr ⟨by simpa using h, hclear, rfl⟩⟩
  | updateReport r v =>
      have h := hversion (e := .technicianReport) (x := r.reportId) (v := v) rfl
      exact ⟨_, apply_updateReport.mpr
        ⟨by simpa [Option.map_map, Function.comp_def, Row.version] using h, hclear, rfl⟩⟩
  | deleteReport id v =>
      have h := hversion (e := .technicianReport) (x := id) (v := v) rfl
      exact ⟨_, apply_deleteReport.mpr
        ⟨by simpa [Option.map_map, Function.comp_def, Row.version] using h, rfl⟩⟩
  | enqueue m => exact ⟨_, apply_enqueue.mpr rfl⟩

theorem ChangeSet.Clear.commit_ok {s : Store} {fresh : Uuid} {cs : ChangeSet} (h : cs.Clear s)
    (hstaged : cs.StagedFrom s fresh) (hkeyed : Keyed s) (hfresh : s.Unused fresh) :
    ∃ t, s.commit cs = .ok t :=
  commit_eq_ok_of_accepted hkeyed hstaged.distinct
    (fun c hc => Change.apply_ok_of_staged (hstaged.each c hc) hfresh (h.each c hc)) h.apart

namespace Store

variable {s : Store}

theorem checkSingleActiveReport_of_idle {x : Uuid} (hfree : s.hasActiveReport x = false)
    {r : TechnicianReport} (hfor : r.repairOrderId = x) : s.checkSingleActiveReport r = .ok () :=
  checkSingleActiveReport_eq_ok.mpr
    (.inr fun other hother _ hsame => hasActiveReport_eq_false.mp hfree other hother
      (hsame.trans hfor))

theorem checkCouponCode_of_free {c : Coupon} (hfree : s.findCouponByCode? c.code = none) :
    s.checkCouponCode c = .ok () := by
  refine checkCouponCode_eq_ok.mpr fun other hother _ hsame => ?_
  have hnot := List.find?_eq_none.mp hfree other hother
  simp [hsame] at hnot

theorem WellFormed.checkSingleActiveReport_of_live (h : s.WellFormed) {r r' : TechnicianReport}
    (hr : r ∈ s.reports) (hlive : r.status ≠ .rejected) (hid : r'.reportId = r.reportId)
    (hfor : r'.repairOrderId = r.repairOrderId) : s.checkSingleActiveReport r' = .ok () := by
  -- a live report of the same order would be a rival of the live report rewritten
  refine checkSingleActiveReport_eq_ok.mpr (.inr fun other hother hne hsame => ?_)
  by_contra hother_live
  exact hne ((h.single other hother r hr ⟨hsame.trans hfor, hother_live, hlive⟩).trans hid.symm)

theorem WellFormed.checkCouponCode_of_stored (h : s.WellFormed) {c c' : Coupon}
    (hc : c ∈ s.coupons) (hid : c'.id = c.id) (hcode : c'.code = c.code) :
    s.checkCouponCode c' = .ok () := by
  refine checkCouponCode_eq_ok.mpr fun other hother hne hsame => ?_
  exact hne ((h.codes other hother c hc (hsame.trans hcode)).trans hid.symm)

end Store

theorem Coupon.ensureCodeFree_eq_ok {s : Store} {code : String} {except : Option Uuid} {u : Unit} :
    ensureCodeFree s code except = .ok u ↔
      ∀ q, s.findCouponByCode? code = some q → some q.id = except := by
  unfold ensureCodeFree invalid
  split
  · rename_i q hq
    split <;> simp_all
  · simp_all

theorem Coupon.stageApply_code {cs₀ cs : ChangeSet} {c c' : Coupon} {today : Date}
    {now : Instant} (h : stageApply cs₀ c today now = .ok (cs, c')) : c'.code = c.code := by
  obtain ⟨-, -, -, -, rfl, -⟩ := stageApply_eq_ok.mp h
  rfl

theorem Coupon.stageRelease_code {cs₀ cs : ChangeSet} {c c' : Coupon} {now : Instant}
    (h : stageRelease cs₀ c now = .ok (cs, c')) : c'.code = c.code := by
  obtain ⟨-, -, rfl, -⟩ := stageRelease_eq_ok.mp h
  rfl

/-! ### Each operation's change set is clear of the rows stored -/

namespace TechnicianReport

variable {s : Store} {actor : Actor} {ctx : Context}

theorem clear_of_live {r r' : TechnicianReport} {v : Int} {rest : ChangeSet}
    (h : s.WellFormed) (hfound : s.findReport? r.reportId = some r)
    (hlive : r.status ≠ .rejected) (hid : r'.reportId = r.reportId)
    (hfor : r'.repairOrderId = r.repairOrderId)
    (hrest : rest = [] ∨ (∃ o v', rest = [.updateOrder o v']) ∨
      ∃ o v' m, rest = [.updateOrder o v', .enqueue m]) :
    ChangeSet.Clear s (.updateReport r' v :: rest) := by
  have hcheck := h.checkSingleActiveReport_of_live (mem_of_findReport? hfound).1 hlive hid hfor
  rcases hrest with rfl | ⟨o, v', rfl⟩ | ⟨o, v', m, rfl⟩ <;>
    exact ⟨by simpa [Change.Clear] using hcheck, by simp [Change.written, Row.Clash]⟩

theorem createDraft_clear {req : DraftRequest} {p : Plan TechnicianReport}
    (hp : createDraft actor req ctx s = .ok p) : p.changes.Clear s := by
  obtain ⟨-, o, -, -, -, hfree, -, -, rfl⟩ := createDraft_eq_ok hp
  have hcheck := checkSingleActiveReport_of_idle hfree
    (r := (draft ctx.freshId o.id actor.id ctx.now).merge req.fields) rfl
  exact ⟨by simpa [Change.Clear] using hcheck, by simp [Change.written, Row.Clash]⟩

theorem updateDraft_clear (h : s.WellFormed) {id : Uuid} {f : DraftFields}
    {p : Plan TechnicianReport} (hp : updateDraft actor id f ctx s = .ok p) :
    p.changes.Clear s := by
  obtain ⟨-, r, hfound, -, hdraft, -, -, rfl⟩ := updateDraft_eq_ok hp
  have hkey := (mem_of_findReport? hfound).2
  exact clear_of_live (r := r) h (hkey ▸ hfound) (by simp [hdraft]) rfl rfl (.inl rfl)

theorem deleteDraft_clear {id : Uuid} {p : Plan Unit} (hp : deleteDraft actor id ctx s = .ok p) :
    p.changes.Clear s := by
  obtain ⟨-, r, -, -, -, rfl⟩ := deleteDraft_eq_ok hp
  exact ⟨by simp [Change.Clear], by simp [Change.written]⟩

theorem submit_clear (h : s.WellFormed) {id : Uuid} {p : Plan TechnicianReport}
    (hp : submit actor id ctx s = .ok p) : p.changes.Clear s := by
  obtain ⟨-, r, r', hfound, -, hmove, -, rfl⟩ := submit_eq_ok hp
  obtain ⟨next, hnext, -, rfl⟩ := apply_eq_ok.mp hmove
  have hkey := (mem_of_findReport? hfound).2
  exact clear_of_live (r := r) h (hkey ▸ hfound) (ReportStatus.ne_rejected_of_next? hnext) rfl rfl
    (.inl rfl)

theorem decide_clear (h : s.WellFormed) {action : ReportAction} {id : Uuid}
    {p : Plan TechnicianReport} (hp : decide action actor id ctx s = .ok p) :
    p.changes.Clear s := by
  obtain ⟨-, r, -, r', hfound, -, -, hmove, -, rfl⟩ := decide_eq_ok hp
  obtain ⟨next, hnext, -, rfl⟩ := apply_eq_ok.mp hmove
  have hkey := (mem_of_findReport? hfound).2
  exact clear_of_live (r := r) h (hkey ▸ hfound) (ReportStatus.ne_rejected_of_next? hnext) rfl rfl
    (.inl rfl)

theorem startWork_clear (h : s.WellFormed) {id : Uuid} {p : Plan TechnicianReport}
    (hp : startWork actor id ctx s = .ok p) : p.changes.Clear s := by
  obtain ⟨-, r, -, r', -, hfound, -, -, hmove, -, -, -, rfl⟩ := startWork_eq_ok hp
  obtain ⟨next, hnext, -, rfl⟩ := apply_eq_ok.mp hmove
  have hkey := (mem_of_findReport? hfound).2
  exact clear_of_live (r := r) h (hkey ▸ hfound) (ReportStatus.ne_rejected_of_next? hnext) rfl rfl
    (.inr (.inl ⟨_, _, rfl⟩))

theorem completeWork_clear (h : s.WellFormed) {id : Uuid} {p : Plan TechnicianReport}
    (hp : completeWork actor id ctx s = .ok p) : p.changes.Clear s := by
  obtain ⟨-, r, -, r', -, hfound, -, -, hmove, -, -, -, rfl⟩ := completeWork_eq_ok hp
  obtain ⟨next, hnext, -, rfl⟩ := apply_eq_ok.mp hmove
  have hkey := (mem_of_findReport? hfound).2
  exact clear_of_live (r := r) h (hkey ▸ hfound) (ReportStatus.ne_rejected_of_next? hnext) rfl rfl
    (.inr (.inr ⟨_, _, _, rfl⟩))

end TechnicianReport

namespace RepairOrder

variable {s : Store} {actor : Actor} {ctx : Context}

theorem clear_of_coupon_use (h : s.WellFormed) {c c' : Coupon} {v : Int} {last : Change}
    (hc : c ∈ s.coupons) (hid : c'.id = c.id) (hcode : c'.code = c.code)
    (hlast : ∃ o v', last = .insertOrder o ∨ last = .updateOrder o v' ∨
      last = .deleteOrder o.id v') :
    ChangeSet.Clear s ([.updateCoupon c' v] ++ [last]) := by
  have hcheck := h.checkCouponCode_of_stored hc hid hcode
  obtain ⟨o, v', rfl | rfl | rfl⟩ := hlast <;>
    exact ⟨by simpa [Change.Clear] using hcheck, by simp [Change.written, Row.Clash]⟩

theorem create_clear (h : s.WellFormed) {req : OrderRequest} {p : Plan RepairOrder}
    (hp : create actor req ctx s = .ok p) : p.changes.Clear s := by
  obtain ⟨-, -, -, cs, couponId, hcoupon, hchanges, -⟩ := create_eq_ok hp
  rw [hchanges]
  rcases hcoupon with ⟨-, rfl, -⟩ | ⟨code, c, c', -, hcode, hstage, -⟩
  · exact ⟨by simp [Change.Clear], by simp [Change.written, Row.Clash]⟩
  · obtain ⟨rfl, hid, -⟩ := Coupon.stageApply_changes hstage
    exact clear_of_coupon_use h (List.mem_of_find?_eq_some hcode) hid
      (Coupon.stageApply_code hstage) ⟨_, 0, .inl rfl⟩

theorem update_clear (h : s.WellFormed) {id : Uuid} {d : OrderDetails} {p : Plan RepairOrder}
    (hp : update actor id d ctx s = .ok p) : p.changes.Clear s := by
  obtain ⟨o, -, -, -, requested, cs, couponId, hrequested, hchange, -, hchanges, -⟩ :=
    update_eq_ok hp
  -- a requested coupon was found by its code, so it is stored
  have hreq : ∀ c, requested = some c → c ∈ s.coupons := by
    rintro c rfl
    rcases hrequested with ⟨-, h⟩ | ⟨code, c', -, hcode, h⟩
    · cases h
    · obtain rfl := Option.some_inj.mp h
      exact List.mem_of_find?_eq_some hcode
  rw [hchanges]
  rcases stageCouponChange_eq_ok hchange with ⟨-, -, rfl, -⟩ | ⟨new, -, -, rfl, -⟩ |
    ⟨new, new', hnew, -, hstage, -⟩ | ⟨x, new, old, new', old', -, hnew, hne, hold, hswap, -⟩ |
    ⟨x, -, -, -, ⟨-, rfl⟩ | ⟨old, old', hold, hstage⟩⟩
  case inl => exact ⟨by simp [Change.Clear], by simp [Change.written, Row.Clash]⟩
  case inr.inl => exact ⟨by simp [Change.Clear], by simp [Change.written, Row.Clash]⟩
  case inr.inr.inl =>
    obtain ⟨rfl, hid, -⟩ := Coupon.stageApply_changes hstage
    exact clear_of_coupon_use h (hreq new hnew) hid (Coupon.stageApply_code hstage)
      ⟨_, _, .inr (.inl rfl)⟩
  case inr.inr.inr.inl =>
    -- moving a use between two stored coupons: their codes differ, as their keys do
    obtain ⟨between, happly, hrelease⟩ := Coupon.stageSwap_eq_ok.mp hswap
    obtain ⟨rfl, hnewid, -⟩ := Coupon.stageApply_changes happly
    obtain ⟨rfl, holdid, -⟩ := Coupon.stageRelease_changes hrelease
    obtain ⟨holdmem, hkey⟩ := mem_of_findCoupon? hold
    have hnewmem := hreq new hnew
    have hcodes : new'.code ≠ old'.code := by
      rw [Coupon.stageApply_code happly, Coupon.stageRelease_code hrelease]
      intro hsame
      exact hne (hkey.symm.trans (h.codes old holdmem new hnewmem hsame.symm))
    have hids : new'.id ≠ old'.id := by
      rw [hnewid, holdid, hkey]
      exact Ne.symm hne
    have hcheck₁ := h.checkCouponCode_of_stored hnewmem hnewid (Coupon.stageApply_code happly)
    have hcheck₂ := h.checkCouponCode_of_stored holdmem holdid (Coupon.stageRelease_code hrelease)
    refine ⟨by simp [Change.Clear, hcheck₁, hcheck₂], ?_⟩
    simp [Change.written, Row.Clash, hcodes, Ne.symm hcodes]
  case inr.inr.inr.inr.inl => exact ⟨by simp [Change.Clear], by simp [Change.written, Row.Clash]⟩
  case inr.inr.inr.inr.inr =>
    obtain ⟨rfl, hid, -⟩ := Coupon.stageRelease_changes hstage
    exact clear_of_coupon_use h (mem_of_findCoupon? hold).1 hid
      (Coupon.stageRelease_code hstage) ⟨_, _, .inr (.inl rfl)⟩

theorem delete_clear (h : s.WellFormed) {id : Uuid} {p : Plan Unit}
    (hp : delete actor id ctx s = .ok p) : p.changes.Clear s := by
  obtain ⟨o, -, ⟨-, hchanges⟩ | ⟨c, cs, c', hc, hstage, hchanges⟩⟩ := delete_eq_ok hp
  · rw [hchanges]
    exact ⟨by simp [Change.Clear], by simp [Change.written]⟩
  · rw [hchanges]
    obtain ⟨x, -, hx⟩ := Option.bind_eq_some_iff.mp hc
    obtain ⟨rfl, hid, -⟩ := Coupon.stageRelease_changes hstage
    exact clear_of_coupon_use h (mem_of_findCoupon? hx).1 hid (Coupon.stageRelease_code hstage)
      ⟨_, _, .inr (.inr rfl)⟩

end RepairOrder

namespace Coupon

variable {s : Store} {actor : Actor} {ctx : Context}

theorem create_clear {req : CouponRequest} {p : Plan Coupon}
    (hp : create actor req ctx s = .ok p) : p.changes.Clear s := by
  obtain ⟨-, -, hfree, hchanges, hanswer⟩ := create_eq_ok hp
  -- the catalogue found no coupon with the code
  have hnone : s.findCouponByCode? p.answer.code = none := by
    rw [hanswer]
    cases hfound : s.findCouponByCode? req.code with
    | none => rfl
    | some q => simpa using ensureCodeFree_eq_ok.mp hfree q hfound
  rw [hchanges]
  exact ⟨by simpa [Change.Clear] using checkCouponCode_of_free hnone,
    by simp [Change.written, Row.Clash]⟩

theorem update_clear (h : s.WellFormed) {id : Uuid} {req : CouponRequest} {p : Plan Coupon}
    (hp : update actor id req ctx s = .ok p) : p.changes.Clear s := by
  obtain ⟨-, -, c, hfound, -, hfree, -, hchanges, hanswer⟩ := update_eq_ok hp
  obtain ⟨hc, -⟩ := mem_of_findCoupon? hfound
  have hcheck : s.checkCouponCode p.answer = .ok () := by
    by_cases hsame : req.code = c.code
    · exact h.checkCouponCode_of_stored hc (by rw [hanswer]) (by rw [hanswer]; exact hsame)
    · -- a new code: the catalogue found it on no other coupon, and this one has another code
      refine checkCouponCode_of_free ?_
      rw [hanswer]
      cases hcode : s.findCouponByCode? req.code with
      | none => rfl
      | some q =>
          have hqid : q.id = c.id := by simpa using ensureCodeFree_eq_ok.mp (hfree hsame) q hcode
          have hq : q ∈ s.coupons := List.mem_of_find?_eq_some hcode
          have hqcode : q.code = req.code := by simpa using List.find?_some hcode
          rw [eq_of_key_eq _ h.keyed.coupons hq hc hqid] at hqcode
          exact absurd hqcode.symm hsame
  rw [hchanges]
  exact ⟨by simpa [Change.Clear] using hcheck, by simp [Change.written, Row.Clash]⟩

theorem delete_clear {id : Uuid} {p : Plan Unit} (hp : delete actor id ctx s = .ok p) :
    p.changes.Clear s := by
  obtain ⟨-, c, -, -, hchanges⟩ := delete_eq_ok hp
  rw [hchanges]
  exact ⟨by simp [Change.Clear], by simp [Change.written]⟩

end Coupon

namespace PaymentMethod

variable {s : Store} {actor : Actor} {ctx : Context}

theorem clear_of_method {c : Change} (hc : ∃ m, c = .insertPaymentMethod m ∨
    (∃ v, c = .updatePaymentMethod m v) ∨ ∃ v, c = .deletePaymentMethod m.id v) :
    ChangeSet.Clear s [c] := by
  obtain ⟨m, rfl | ⟨v, rfl⟩ | ⟨v, rfl⟩⟩ := hc <;>
    exact ⟨by simp [Change.Clear], by simp [Change.written, Row.Clash]⟩

theorem create_clear {req : PaymentMethodRequest} {p : Plan PaymentMethod}
    (hp : create actor req ctx s = .ok p) : p.changes.Clear s := by
  obtain ⟨-, -, hchanges, -⟩ := create_eq_ok hp
  exact hchanges ▸ clear_of_method ⟨_, .inl rfl⟩

theorem update_clear {id : Uuid} {req : PaymentMethodRequest} {p : Plan PaymentMethod}
    (hp : update actor id req ctx s = .ok p) : p.changes.Clear s := by
  obtain ⟨-, -, m, -, -, hchanges, -⟩ := update_eq_ok hp
  exact hchanges ▸ clear_of_method ⟨_, .inr (.inl ⟨_, rfl⟩)⟩

theorem delete_clear {id : Uuid} {p : Plan Unit} (hp : delete actor id ctx s = .ok p) :
    p.changes.Clear s := by
  obtain ⟨-, m, -, -, hchanges⟩ := delete_eq_ok hp
  exact hchanges ▸ clear_of_method ⟨m, .inr (.inr ⟨_, rfl⟩)⟩

end PaymentMethod

theorem Command.plan_clear {c : Command} {ctx : Context} {s : Store} {cs : ChangeSet}
    (h : s.WellFormed) (hplan : c.plan ctx s = .ok cs) : cs.Clear s := by
  cases hread : c.readsOnly
  · cases c <;> simp only [Command.readsOnly, Bool.true_eq_false] at hread <;>
      obtain ⟨p, hp, rfl⟩ := staged_eq_ok.mp hplan
    case createDraft => exact TechnicianReport.createDraft_clear hp
    case updateDraft => exact TechnicianReport.updateDraft_clear h hp
    case deleteDraft => exact TechnicianReport.deleteDraft_clear hp
    case submitDraft => exact TechnicianReport.submit_clear h hp
    case acceptSubmission => exact TechnicianReport.decide_clear h hp
    case rejectSubmission => exact TechnicianReport.decide_clear h hp
    case startWork => exact TechnicianReport.startWork_clear h hp
    case completeWork => exact TechnicianReport.completeWork_clear h hp
    case createOrder => exact RepairOrder.create_clear h hp
    case updateOrder => exact RepairOrder.update_clear h hp
    case deleteOrder => exact RepairOrder.delete_clear h hp
    case createCoupon => exact Coupon.create_clear hp
    case updateCoupon => exact Coupon.update_clear h hp
    case deleteCoupon => exact Coupon.delete_clear hp
    case createPaymentMethod => exact PaymentMethod.create_clear hp
    case updatePaymentMethod => exact PaymentMethod.update_clear hp
    case deletePaymentMethod => exact PaymentMethod.delete_clear hp
  · rw [Command.plan_eq_nil_of_readsOnly hread hplan]
    exact ⟨by simp, by simp⟩

/-- Every store the service reaches keeps the store's rules. -/
theorem Reachable.wellFormed {s : Store} (hs : Reachable s) : s.WellFormed := by
  induction hs with
  | empty => exact .empty
  | step c ctx _ ih =>
      rcases c.run_cases ctx _ with hkeep | ⟨cs, -, hc⟩
      · rw [hkeep]
        exact ih
      · exact ih.commit hc

namespace Change

variable {s : Store} {c : Change}

theorem Clear.checkCouponCode (h : c.Clear s) {q : Coupon} (hw : c.written = some (.coupon q)) :
    s.checkCouponCode q = .ok () := by
  cases c <;> simp only [written, reduceCtorEq, Option.some.injEq, Row.coupon.injEq] at hw <;>
    subst hw <;> exact h

theorem Clear.checkSingleActiveReport (h : c.Clear s) {r : TechnicianReport}
    (hw : c.written = some (.report r)) : s.checkSingleActiveReport r = .ok () := by
  cases c <;> simp only [written, reduceCtorEq, Option.some.injEq, Row.report.injEq] at hw <;>
    subst hw <;> exact h

end Change

/-- In a store the service reached, a command drawing an unused identifier plans a change set
that writes each row once, expects every row it rewrites at the version read, passes the store's
own checks of codes and live reports on the store as read, and commits. -/
theorem Command.plan_accepted {s : Store} (hs : Reachable s) {c : Command} {ctx : Context}
    (hfresh : s.Unused ctx.freshId) {cs : ChangeSet} (hplan : c.plan ctx s = .ok cs) :
    (cs.filterMap Change.target).Nodup ∧
      (∀ ch ∈ cs, ∀ e x v, ch.expects = some (e, x, v) →
        (s.findRow? e x).map Row.version = some v) ∧
      (∀ ch ∈ cs, ∀ q, ch.written = some (.coupon q) → s.checkCouponCode q = .ok ()) ∧
      (∀ ch ∈ cs, ∀ r, ch.written = some (.report r) → s.checkSingleActiveReport r = .ok ()) ∧
      ∃ t, s.commit cs = .ok t := by
  have hwell := hs.wellFormed
  have hstaged := Command.plan_stagedFrom hwell.keyed hplan
  have hclear := Command.plan_clear hwell hplan
  exact ⟨hstaged.distinct, fun ch hch _ _ _ hexp => (hstaged.each ch hch).read hexp,
    fun ch hch _ hw => (hclear.each ch hch).checkCouponCode hw,
    fun ch hch _ hw => (hclear.each ch hch).checkSingleActiveReport hw,
    hclear.commit_ok hstaged hwell.keyed hfresh⟩

end RepairDesk
