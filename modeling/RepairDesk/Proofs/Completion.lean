import RepairDesk.Proofs.Invariants
import RepairDesk.Proofs.Staging
import RepairDesk.Outbox.Relay

namespace RepairDesk

open Tables Store

def Change.message? : Change → Option OutboxMessage
  | .enqueue m => some m
  | _ => none

def Change.editReports : Change → List TechnicianReport → List TechnicianReport
  | .insertReport r, rs => rs ++ [r]
  | .updateReport r _, rs => replaceBy (·.reportId) r rs
  | .deleteReport id _, rs => rs.filter (·.reportId != id)
  | _, rs => rs

def Change.offReports : Change → Bool
  | .insertReport _ | .updateReport _ _ | .deleteReport _ _ | .enqueue _ => false
  | _ => true

def TechnicianReport.completion (r : TechnicianReport) : CompletionEvent :=
  { repairOrderId := r.repairOrderId, technicianId := r.technicianId,
    amount := r.estimatedCost.getD 0, completedAt := r.lastUpdatedAt }

namespace Store

variable {s t : Store}

theorem reports_of_apply {c : Change} (h : s.apply c = .ok t) :
    t.reports = c.editReports s.reports := by
  cases c with
  | insertReport r => obtain ⟨-, -, rfl⟩ := apply_insertReport.mp h; rfl
  | updateReport r v => obtain ⟨-, -, rfl⟩ := apply_updateReport.mp h; rfl
  | deleteReport id v => obtain ⟨-, rfl⟩ := apply_deleteReport.mp h; rfl
  | insertOrder o => obtain ⟨-, rfl⟩ := apply_insertOrder.mp h; rfl
  | updateOrder o v => obtain ⟨-, rfl⟩ := apply_updateOrder.mp h; rfl
  | deleteOrder id v => obtain ⟨-, rfl⟩ := apply_deleteOrder.mp h; rfl
  | insertCoupon c => obtain ⟨-, -, rfl⟩ := apply_insertCoupon.mp h; rfl
  | updateCoupon c v => obtain ⟨-, -, rfl⟩ := apply_updateCoupon.mp h; rfl
  | deleteCoupon id v => obtain ⟨-, rfl⟩ := apply_deleteCoupon.mp h; rfl
  | insertPaymentMethod m => obtain ⟨-, rfl⟩ := apply_insertPaymentMethod.mp h; rfl
  | updatePaymentMethod m v => obtain ⟨-, rfl⟩ := apply_updatePaymentMethod.mp h; rfl
  | deletePaymentMethod id v => obtain ⟨-, rfl⟩ := apply_deletePaymentMethod.mp h; rfl
  | enqueue m => obtain rfl := apply_enqueue.mp h; rfl

theorem reports_of_commit {cs : ChangeSet} (h : s.commit cs = .ok t) :
    t.reports = cs.foldl (fun rs c => c.editReports rs) s.reports := by
  induction cs generalizing s with
  | nil =>
      rw [commit_nil, Except.ok.injEq] at h
      rw [h]
      rfl
  | cons c cs ih =>
      obtain ⟨u, happ, hrest⟩ := commit_cons_eq_ok.mp h
      rw [ih hrest, reports_of_apply happ]
      rfl

theorem reports_of_commit_off {cs : ChangeSet} (hoff : ∀ c ∈ cs, c.offReports = true)
    (h : s.commit cs = .ok t) : t.reports = s.reports := by
  rw [reports_of_commit h]
  clear h
  induction cs generalizing s with
  | nil => rfl
  | cons c cs ih =>
      have hc : c.editReports s.reports = s.reports := by
        have := hoff c List.mem_cons_self
        cases c <;> simp_all [Change.offReports, Change.editReports]
      simp only [List.foldl_cons, hc]
      exact ih fun c hc => hoff c (List.mem_cons_of_mem _ hc)

theorem markPublished_eq (s : Store) (x : Uuid) :
    ∃ outbox published, s.markPublished x = { s with outbox, published } := by
  unfold markPublished
  split
  · exact ⟨_, _, rfl⟩
  · exact ⟨s.outbox, s.published, rfl⟩

theorem deliver_eq (accepts : Nat → Bool) (ms : List OutboxMessage) (i : Nat) (s : Store) :
    ∃ outbox published, (deliver accepts ms i s).2 = { s with outbox, published } := by
  induction ms generalizing i s with
  | nil => exact ⟨s.outbox, s.published, rfl⟩
  | cons m ms ih =>
      unfold deliver
      split
      · obtain ⟨ob, n, hmark⟩ := markPublished_eq s m.id
        obtain ⟨ob', n', hrest⟩ := ih (i + 1) (s.markPublished m.id)
        exact ⟨ob', n', by rw [hrest, hmark]⟩
      · exact ⟨s.outbox, s.published, rfl⟩

theorem drain_eq (s : Store) (batch : Nat) (accepts : Nat → Bool) :
    ∃ outbox published, (s.drain batch accepts).2 = { s with outbox, published } :=
  deliver_eq accepts _ 0 s

end Store

theorem Change.messages_of_off {cs : ChangeSet} (hoff : ∀ c ∈ cs, c.offReports = true) :
    cs.filterMap Change.message? = [] := by
  rw [List.filterMap_eq_nil_iff]
  intro c hc
  have := hoff c hc
  cases c <;> simp_all [offReports, message?]

/-! ### Moves of a report -/

namespace ReportStatus

theorem ne_completed_of_next? {st next : ReportStatus} {a : ReportAction}
    (h : st.next? a = some next) : st ≠ .completed := by
  rintro rfl
  cases a <;> simp [next?] at h

theorem next?_ne_completed {st next : ReportStatus} {a : ReportAction}
    (h : st.next? a = some next) (ha : a ≠ .complete) : next ≠ .completed := by
  rintro rfl
  cases st <;> cases a <;> simp [next?] at h ha

theorem next?_draft {next : ReportStatus} {a : ReportAction}
    (h : ReportStatus.draft.next? a = some next) : a = .submit := by
  cases a <;> simp [next?] at h ⊢

end ReportStatus

namespace TechnicianReport

theorem estimatedCost_of_checkSubmission {r : TechnicianReport} (h : r.checkSubmission = .ok ()) :
    r.estimatedCost.isSome := by
  unfold checkSubmission at h
  split at h
  · cases h
  · split at h
    · cases h
    · rename_i hcost
      simpa [Option.isSome_iff_ne_none] using hcost

theorem estimatedCost_of_apply {r r' : TechnicianReport} {a : ReportAction} {now : Instant}
    (h : r.apply a now = .ok r') (hest : r.status ≠ .draft → r.estimatedCost.isSome) :
    r'.status ≠ .draft → r'.estimatedCost.isSome := by
  obtain ⟨next, hnext, hcheck, rfl⟩ := apply_eq_ok.mp h
  intro _
  show r.estimatedCost.isSome
  by_cases hdraft : r.status = .draft
  · rw [hdraft] at hnext
    obtain rfl := ReportStatus.next?_draft hnext
    exact estimatedCost_of_checkSubmission hcheck
  · exact hest hdraft

end TechnicianReport

/-! ### Reports and the events enqueued -/

/-- The report table and the completion events ever enqueued agree: every report past its draft
has a cost estimate, and the events are, up to order, the completions of the completed
reports. -/
structure Completions (rs : List TechnicianReport) (evs : List CompletionEvent) : Prop where
  estimated : ∀ r ∈ rs, r.status ≠ .draft → r.estimatedCost.isSome
  events : evs.Perm ((rs.filter (·.status == .completed)).map TechnicianReport.completion)

namespace Completions

variable {rs : List TechnicianReport} {evs : List CompletionEvent}

theorem empty : Completions [] [] := ⟨by simp, by simp⟩

theorem estimated_replaceBy (h : Completions rs evs) {r' : TechnicianReport}
    (hest : r'.status ≠ .draft → r'.estimatedCost.isSome) :
    ∀ q ∈ replaceBy (·.reportId) r' rs, q.status ≠ .draft → q.estimatedCost.isSome := by
  intro q hq
  rcases (mem_replaceBy _).mp hq with ⟨hq, -⟩ | ⟨rfl, -⟩
  · exact h.estimated q hq
  · exact hest

theorem move (h : Completions rs evs) (hkr : (rs.map (·.reportId)).Nodup)
    {r r' : TechnicianReport} (hr : r ∈ rs) (hid : r.reportId = r'.reportId)
    (hold : r.status ≠ .completed) (hnew : r'.status ≠ .completed)
    (hest : r'.status ≠ .draft → r'.estimatedCost.isSome) :
    Completions (replaceBy (·.reportId) r' rs) evs where
  estimated := h.estimated_replaceBy hest
  events := by
    rw [filter_replaceBy_of_not _ _ hkr hr hid (by simpa using hold) (by simpa using hnew)]
    exact h.events

theorem complete (h : Completions rs evs) (hkr : (rs.map (·.reportId)).Nodup)
    {r r' : TechnicianReport} (hr : r ∈ rs) (hid : r.reportId = r'.reportId)
    (hold : r.status ≠ .completed) (hnew : r'.status = .completed)
    (hest : r'.estimatedCost.isSome) :
    Completions (replaceBy (·.reportId) r' rs) (evs ++ [r'.completion]) where
  estimated := h.estimated_replaceBy fun _ => hest
  events := by
    have hperm := filter_replaceBy_perm (·.reportId) (·.status == .completed) hkr hr hid
      (by simpa using hold) (by simpa using hnew)
    refine (h.events.append_right [r'.completion]).trans ?_
    simpa using (hperm.map TechnicianReport.completion).symm

theorem append (h : Completions rs evs) {r : TechnicianReport} (hdraft : r.status = .draft) :
    Completions (rs ++ [r]) evs where
  estimated := by
    intro q hq
    rcases List.mem_append.mp hq with hq | hq
    · exact h.estimated q hq
    · rw [List.mem_singleton.mp hq]
      exact absurd hdraft
  events := by simpa [List.filter_append, hdraft] using h.events

theorem erase (h : Completions rs evs) {x : Uuid}
    (hx : ∀ r ∈ rs, r.reportId = x → r.status ≠ .completed) :
    Completions (rs.filter (·.reportId != x)) evs where
  estimated := fun q hq => h.estimated q (List.mem_filter.mp hq).1
  events := by
    have hsame : (rs.filter (·.reportId != x)).filter (·.status == .completed) =
        rs.filter (·.status == .completed) := by
      rw [List.filter_filter]
      apply List.filter_congr
      intro r hr
      by_cases hid : r.reportId = x
      · simp [hid, hx r hr hid]
      · simp [hid]
    rw [hsame]
    exact h.events

theorem of_off {s t : Store} {cs : ChangeSet} (h : Completions s.reports evs)
    (hoff : ∀ c ∈ cs, c.offReports = true) (ht : s.commit cs = .ok t) :
    Completions t.reports (evs ++ (cs.filterMap Change.message?).map (·.event)) := by
  rw [reports_of_commit_off hoff ht, Change.messages_of_off hoff, List.map_nil, List.append_nil]
  exact h

theorem apply_move (h : Completions rs evs) (hkr : (rs.map (·.reportId)).Nodup)
    {r r' : TechnicianReport} (hr : r ∈ rs) {a : ReportAction} {now : Instant}
    (hmove : r.apply a now = .ok r') (ha : a ≠ .complete) :
    Completions (replaceBy (·.reportId) { r' with version := r'.version + 1 } rs) evs := by
  have hest := TechnicianReport.estimatedCost_of_apply hmove (h.estimated r hr)
  obtain ⟨next, hnext, -, rfl⟩ := TechnicianReport.apply_eq_ok.mp hmove
  exact h.move hkr hr rfl (ReportStatus.ne_completed_of_next? hnext)
    (ReportStatus.next?_ne_completed hnext ha) hest

end Completions

/-! ### Each operation -/

namespace TechnicianReport

variable {actor : Actor} {ctx : Context} {s t : Store} {evs : List CompletionEvent} {id : Uuid}

theorem createDraft_completions (hc : Completions s.reports evs) {req : DraftRequest}
    {p : Plan TechnicianReport} (hp : createDraft actor req ctx s = .ok p)
    (ht : s.commit p.changes = .ok t) :
    Completions t.reports (evs ++ (p.changes.filterMap Change.message?).map (·.event)) := by
  obtain ⟨-, o, -, -, -, -, -, -, rfl⟩ := createDraft_eq_ok hp
  rw [reports_of_commit ht]
  simpa [Change.editReports, Change.message?, List.filterMap_cons] using
    hc.append (r := (draft ctx.freshId o.id actor.id ctx.now).merge req.fields) rfl

theorem updateDraft_completions (h : Consistent s) (hc : Completions s.reports evs)
    {f : DraftFields} {p : Plan TechnicianReport} (hp : updateDraft actor id f ctx s = .ok p)
    (ht : s.commit p.changes = .ok t) :
    Completions t.reports (evs ++ (p.changes.filterMap Change.message?).map (·.event)) := by
  obtain ⟨-, r, hfound, -, hdraft, -, -, rfl⟩ := updateDraft_eq_ok hp
  rw [reports_of_commit ht]
  have hmove : Completions (replaceBy (·.reportId)
      { r.merge f with lastUpdatedAt := ctx.now, version := r.version + 1 } s.reports) evs :=
    hc.move h.keyed.reports (mem_of_findReport? hfound).1 rfl (by simp [hdraft])
      (by simp [hdraft]) (by simp [hdraft])
  simpa [Change.editReports, Change.message?, List.filterMap_cons] using hmove

theorem deleteDraft_completions (h : Consistent s) (hc : Completions s.reports evs)
    {p : Plan Unit} (hp : deleteDraft actor id ctx s = .ok p) (ht : s.commit p.changes = .ok t) :
    Completions t.reports (evs ++ (p.changes.filterMap Change.message?).map (·.event)) := by
  obtain ⟨-, r, hfound, -, hdraft, rfl⟩ := deleteDraft_eq_ok hp
  have hr := (mem_of_findReport? hfound).1
  -- the one report under the key is the draft
  have herase : ∀ q ∈ s.reports, q.reportId = r.reportId → q.status ≠ .completed := by
    intro q hq hkey
    rw [eq_of_key_eq _ h.keyed.reports hq hr hkey, hdraft]
    decide
  rw [reports_of_commit ht]
  simpa [Change.editReports, Change.message?, List.filterMap_cons] using hc.erase herase

theorem submit_completions (h : Consistent s) (hc : Completions s.reports evs)
    {p : Plan TechnicianReport} (hp : submit actor id ctx s = .ok p)
    (ht : s.commit p.changes = .ok t) :
    Completions t.reports (evs ++ (p.changes.filterMap Change.message?).map (·.event)) := by
  obtain ⟨-, r, r', hfound, -, hmove, -, rfl⟩ := submit_eq_ok hp
  rw [reports_of_commit ht]
  simpa [Change.editReports, Change.message?, List.filterMap_cons] using
    hc.apply_move h.keyed.reports (mem_of_findReport? hfound).1 hmove (by decide)

theorem decide_completions (h : Consistent s) (hc : Completions s.reports evs)
    {action : ReportAction} (haction : action = .approve ∨ action = .reject)
    {p : Plan TechnicianReport} (hp : decide action actor id ctx s = .ok p)
    (ht : s.commit p.changes = .ok t) :
    Completions t.reports (evs ++ (p.changes.filterMap Change.message?).map (·.event)) := by
  obtain ⟨-, r, -, r', hfound, -, -, hmove, -, rfl⟩ := decide_eq_ok hp
  rw [reports_of_commit ht]
  simpa [Change.editReports, Change.message?, List.filterMap_cons] using
    hc.apply_move h.keyed.reports (mem_of_findReport? hfound).1 hmove
      (by rcases haction with rfl | rfl <;> decide)

theorem startWork_completions (h : Consistent s) (hc : Completions s.reports evs)
    {p : Plan TechnicianReport} (hp : startWork actor id ctx s = .ok p)
    (ht : s.commit p.changes = .ok t) :
    Completions t.reports (evs ++ (p.changes.filterMap Change.message?).map (·.event)) := by
  obtain ⟨-, r, o, r', o', hfound, -, -, hmove, -, -, -, rfl⟩ := startWork_eq_ok hp
  rw [reports_of_commit ht]
  simpa [Change.editReports, Change.message?, List.filterMap_cons] using
    hc.apply_move h.keyed.reports (mem_of_findReport? hfound).1 hmove (by decide)

theorem completeWork_completions (h : Consistent s) (hc : Completions s.reports evs)
    {p : Plan TechnicianReport} (hp : completeWork actor id ctx s = .ok p)
    (ht : s.commit p.changes = .ok t) :
    Completions t.reports (evs ++ (p.changes.filterMap Change.message?).map (·.event)) := by
  obtain ⟨-, r, o, r', o', hfound, -, horder, hmove, hadvance, -, -, rfl⟩ := completeWork_eq_ok hp
  have hr := (mem_of_findReport? hfound).1
  have hest := estimatedCost_of_apply hmove (hc.estimated r hr)
  obtain ⟨next, hnext, -, rfl⟩ := apply_eq_ok.mp hmove
  obtain ⟨hprogress, rfl⟩ := ReportStatus.next?_complete hnext
  obtain ⟨-, rfl⟩ := RepairOrder.advance_eq_ok.mp hadvance
  have hoid : o.id = r.repairOrderId := (mem_of_findOrder? horder).2
  let done : TechnicianReport :=
    { r with status := .completed, lastUpdatedAt := ctx.now, version := r.version + 1 }
  have hcomplete : Completions (replaceBy (·.reportId) done s.reports)
      (evs ++ [done.completion]) :=
    hc.complete h.keyed.reports hr rfl (by simp [hprogress]) rfl (hest (by simp))
  rw [reports_of_commit ht]
  simpa [Change.editReports, Change.message?, List.filterMap_cons, completion, hoid] using hcomplete

end TechnicianReport

/-! The other operations write neither a report nor the outbox. -/

section OffReports

variable {actor : Actor} {ctx : Context} {s : Store} {id : Uuid}

theorem RepairOrder.stageCouponChange_offReports {today : Date} {now : Instant}
    {current : Option Uuid} {requested : Option Coupon} {cs : ChangeSet} {couponId : Option Uuid}
    (h : stageCouponChange s today now current requested = .ok (cs, couponId)) :
    ∀ c ∈ cs, c.offReports = true := by
  intro c hc
  obtain ⟨w, v, rfl⟩ := stageCouponChange_coupons h c hc
  rfl

theorem RepairOrder.create_offReports {req : OrderRequest} {p : Plan RepairOrder}
    (h : create actor req ctx s = .ok p) : ∀ c ∈ p.changes, c.offReports = true := by
  obtain ⟨-, -, -, cs, couponId, hcoupon, hchanges, -⟩ := create_eq_ok h
  rw [hchanges]
  rcases hcoupon with ⟨-, rfl, -⟩ | ⟨code, c, c', -, -, hstage, -⟩
  · simp [Change.offReports]
  · obtain ⟨rfl, -, -⟩ := Coupon.stageApply_changes hstage
    simp [Change.offReports]

theorem RepairOrder.update_offReports {d : OrderDetails} {p : Plan RepairOrder}
    (h : update actor id d ctx s = .ok p) : ∀ c ∈ p.changes, c.offReports = true := by
  obtain ⟨o, -, -, -, requested, cs, couponId, -, hchange, -, hchanges, -⟩ := update_eq_ok h
  have hcoupons := stageCouponChange_offReports hchange
  rw [hchanges]
  simp only [List.mem_append, List.mem_singleton]
  rintro c (hc | rfl)
  · exact hcoupons c hc
  · rfl

theorem RepairOrder.delete_offReports {p : Plan Unit} (h : delete actor id ctx s = .ok p) :
    ∀ c ∈ p.changes, c.offReports = true := by
  obtain ⟨o, -, ⟨-, hchanges⟩ | ⟨c, cs, c', -, hstage, hchanges⟩⟩ := delete_eq_ok h
  · rw [hchanges]
    simp [Change.offReports]
  · obtain ⟨rfl, -, -⟩ := Coupon.stageRelease_changes hstage
    rw [hchanges]
    simp [Change.offReports]

theorem Coupon.create_offReports {req : CouponRequest} {p : Plan Coupon}
    (h : create actor req ctx s = .ok p) : ∀ c ∈ p.changes, c.offReports = true := by
  obtain ⟨-, -, -, hchanges, -⟩ := create_eq_ok h
  simp [hchanges, Change.offReports]

theorem Coupon.update_offReports {req : CouponRequest} {p : Plan Coupon}
    (h : update actor id req ctx s = .ok p) : ∀ c ∈ p.changes, c.offReports = true := by
  obtain ⟨-, -, c, -, -, -, -, hchanges, -⟩ := update_eq_ok h
  simp [hchanges, Change.offReports]

theorem Coupon.delete_offReports {p : Plan Unit} (h : delete actor id ctx s = .ok p) :
    ∀ c ∈ p.changes, c.offReports = true := by
  obtain ⟨-, c, -, -, hchanges⟩ := delete_eq_ok h
  simp [hchanges, Change.offReports]

theorem PaymentMethod.create_offReports {req : PaymentMethodRequest} {p : Plan PaymentMethod}
    (h : create actor req ctx s = .ok p) : ∀ c ∈ p.changes, c.offReports = true := by
  obtain ⟨-, -, hchanges, -⟩ := create_eq_ok h
  simp [hchanges, Change.offReports]

theorem PaymentMethod.update_offReports {req : PaymentMethodRequest} {p : Plan PaymentMethod}
    (h : update actor id req ctx s = .ok p) : ∀ c ∈ p.changes, c.offReports = true := by
  obtain ⟨-, -, m, -, -, hchanges, -⟩ := update_eq_ok h
  simp [hchanges, Change.offReports]

theorem PaymentMethod.delete_offReports {p : Plan Unit} (h : delete actor id ctx s = .ok p) :
    ∀ c ∈ p.changes, c.offReports = true := by
  obtain ⟨-, m, -, -, hchanges⟩ := delete_eq_ok h
  simp [hchanges, Change.offReports]

end OffReports

/-- Every committed plan keeps the reports and the events ever enqueued in agreement. -/
theorem Command.commit_completions {c : Command} {ctx : Context} {s t : Store} {cs : ChangeSet}
    {evs : List CompletionEvent} (h : Consistent s) (hc : Completions s.reports evs)
    (hplan : c.plan ctx s = .ok cs) (ht : s.commit cs = .ok t) :
    Completions t.reports (evs ++ (cs.filterMap Change.message?).map (·.event)) := by
  cases hread : c.readsOnly
  · cases c <;> simp only [readsOnly, Bool.true_eq_false] at hread <;>
      obtain ⟨p, hp, rfl⟩ := staged_eq_ok.mp hplan
    case createDraft => exact TechnicianReport.createDraft_completions hc hp ht
    case updateDraft => exact TechnicianReport.updateDraft_completions h hc hp ht
    case deleteDraft => exact TechnicianReport.deleteDraft_completions h hc hp ht
    case submitDraft => exact TechnicianReport.submit_completions h hc hp ht
    case acceptSubmission => exact TechnicianReport.decide_completions h hc (.inl rfl) hp ht
    case rejectSubmission => exact TechnicianReport.decide_completions h hc (.inr rfl) hp ht
    case startWork => exact TechnicianReport.startWork_completions h hc hp ht
    case completeWork => exact TechnicianReport.completeWork_completions h hc hp ht
    case createOrder => exact hc.of_off (RepairOrder.create_offReports hp) ht
    case updateOrder => exact hc.of_off (RepairOrder.update_offReports hp) ht
    case deleteOrder => exact hc.of_off (RepairOrder.delete_offReports hp) ht
    case createCoupon => exact hc.of_off (Coupon.create_offReports hp) ht
    case updateCoupon => exact hc.of_off (Coupon.update_offReports hp) ht
    case deleteCoupon => exact hc.of_off (Coupon.delete_offReports hp) ht
    case createPaymentMethod => exact hc.of_off (PaymentMethod.create_offReports hp) ht
    case updatePaymentMethod => exact hc.of_off (PaymentMethod.update_offReports hp) ht
    case deletePaymentMethod => exact hc.of_off (PaymentMethod.delete_offReports hp) ht
  · rw [plan_eq_nil_of_readsOnly hread hplan] at ht ⊢
    exact hc.of_off (by simp) ht

theorem Lifecycle.countP_completed {os : List RepairOrder} {rs : List TechnicianReport}
    (h : Lifecycle os rs) (hkr : (rs.map (·.reportId)).Nodup) {o : RepairOrder} (ho : o ∈ os) :
    rs.countP (fun r => r.status == .completed && r.repairOrderId == o.id) =
      if o.status = .completed then 1 else 0 := by
  -- a completed report is active, and an order has at most one active report
  have hle : rs.countP (fun r => r.status == .completed && r.repairOrderId == o.id) ≤ 1 := by
    refine Nat.le_trans (List.countP_mono_left fun r _ hr => ?_) (h.countP_active_le_one hkr o.id)
    simp only [Bool.and_eq_true, beq_iff_eq] at hr
    simp [hr.1, hr.2]
  have hstage := h.stage_iff ho (Or.inr (rfl : ReportStatus.completed = .completed))
  split
  · rename_i hdone
    obtain ⟨r, hr, hid, hst⟩ := hstage.mp hdone
    have hpos : 0 < rs.countP (fun r => r.status == .completed && r.repairOrderId == o.id) :=
      List.countP_pos_iff.mpr ⟨r, hr, by simp [hid, hst]⟩
    omega
  · rename_i hnot
    rw [List.countP_eq_zero]
    intro r hr hcount
    simp only [Bool.and_eq_true, beq_iff_eq] at hcount
    exact hnot (hstage.mpr ⟨r, hr, hcount.2, hcount.1⟩)

/-! ### Runs with the relay -/

/-- What the service does next: perform a command in a context, or make one pass of the relay
with a batch size and a sink's answer to each call of the pass. -/
inductive Step where
  | perform (c : Command) (ctx : Context)
  | relay (batch : Nat) (accepts : Nat → Bool)

/-- The store, with every message ever put in its outbox, delivered or not. -/
structure Journal where
  store : Store
  enqueued : List OutboxMessage

namespace Journal

def empty : Journal := ⟨Store.empty, []⟩

def step (j : Journal) : Step → Journal
  | .perform c ctx =>
    match c.plan ctx j.store with
    | .ok cs =>
      match j.store.commit cs with
      | .ok t => ⟨t, j.enqueued ++ cs.filterMap Change.message?⟩
      | .error _ => j
    | .error _ => j
  | .relay batch accepts => { j with store := (j.store.drain batch accepts).2 }

def run (j : Journal) (steps : List Step) : Journal :=
  steps.foldl step j

theorem step_perform_store (j : Journal) (c : Command) (ctx : Context) :
    (j.step (.perform c ctx)).store = c.run ctx j.store := by
  cases hplan : c.plan ctx j.store with
  | error f => simp [step, Command.run, hplan]
  | ok cs => cases hc : j.store.commit cs <;> simp [step, Command.run, hplan, hc]

/-- The journal's invariant: a consistent store whose reports agree with the events ever
enqueued. -/
structure Sound (j : Journal) : Prop where
  consistent : Consistent j.store
  completions : Completions j.store.reports (j.enqueued.map (·.event))

namespace Sound

variable {j : Journal}

theorem empty : Journal.empty.Sound := ⟨Consistent.empty, Completions.empty⟩

/-- One step keeps the invariant: a command by the agreement lemma of its plan, a relay pass
because it touches only the outbox and the delivered count. -/
theorem step (h : j.Sound) (st : Step) : (j.step st).Sound := by
  cases st with
  | perform c ctx =>
      refine ⟨by rw [step_perform_store]; exact c.run_consistent ctx h.consistent, ?_⟩
      cases hplan : c.plan ctx j.store with
      | error f => simpa [Journal.step, hplan] using h.completions
      | ok cs =>
          cases ht : j.store.commit cs with
          | error e => simpa [Journal.step, hplan, ht] using h.completions
          | ok t =>
              simpa [Journal.step, hplan, ht] using
                c.commit_completions h.consistent h.completions hplan ht
  | relay batch accepts =>
      obtain ⟨outbox, published, hdrain⟩ := j.store.drain_eq batch accepts
      have hkeyed := h.consistent.keyed
      simp only [Journal.step, hdrain]
      exact ⟨⟨⟨hkeyed.orders, hkeyed.coupons, hkeyed.paymentMethods, hkeyed.reports⟩,
        h.consistent.lifecycle, h.consistent.ledger⟩, h.completions⟩

theorem run (h : j.Sound) (steps : List Step) : (j.run steps).Sound := by
  induction steps generalizing j with
  | nil => exact h
  | cons st steps ih => exact ih (h.step st)

theorem countP_enqueued (h : j.Sound) (x : Uuid) :
    j.enqueued.countP (fun m => m.event.repairOrderId == x) =
      j.store.reports.countP (fun r => r.status == .completed && r.repairOrderId == x) := by
  have hcount := h.completions.events.countP_eq (fun e => e.repairOrderId == x)
  simp only [List.countP_map, List.countP_filter] at hcount
  simpa [Function.comp_def, TechnicianReport.completion, Bool.and_comm] using hcount

theorem exists_completed (h : j.Sound) {m : OutboxMessage} (hm : m ∈ j.enqueued) :
    ∃ r ∈ j.store.reports, r.status = .completed ∧ r.completion = m.event := by
  have hmem := h.completions.events.mem_iff.mp (List.mem_map_of_mem hm)
  simp only [List.mem_map, List.mem_filter, beq_iff_eq] at hmem
  obtain ⟨r, ⟨hr, hst⟩, hevent⟩ := hmem
  exact ⟨r, hr, hst, hevent⟩

theorem enqueued_order (h : j.Sound) {m : OutboxMessage} (hm : m ∈ j.enqueued) :
    ∃ o ∈ j.store.orders, o.id = m.event.repairOrderId ∧ o.status = .completed ∧
      m.event.technicianId = o.technicianId ∧
      ∃ r ∈ j.store.reports, r.repairOrderId = o.id ∧ r.status = .completed ∧
        r.estimatedCost = some m.event.amount := by
  obtain ⟨r, hr, hst, hevent⟩ := h.exists_completed hm
  rw [← hevent]
  have hactive : r.status ≠ .rejected := by rw [hst]; decide
  obtain ⟨o, ho, hid, htech⟩ := h.consistent.lifecycle.assigned r hr hactive
  have hstage := h.consistent.lifecycle.mirrors r hr hactive o ho hid
  -- the report is past its draft, so it carries the estimate the event announces
  obtain ⟨cost, hcost⟩ := Option.isSome_iff_exists.mp
    (h.completions.estimated r hr (by rw [hst]; decide))
  refine ⟨o, ho, hid, by rw [hstage, hst]; rfl, htech.symm, r, hr, hid.symm, hst, ?_⟩
  simp [TechnicianReport.completion, hcost]

theorem event_of_order (h : j.Sound) {o : RepairOrder} (ho : o ∈ j.store.orders)
    {m : OutboxMessage} (hm : m ∈ j.enqueued) (hx : m.event.repairOrderId = o.id) :
    m.event.technicianId = o.technicianId ∧
      ∃ r ∈ j.store.reports, r.repairOrderId = o.id ∧ r.status = .completed ∧
        r.estimatedCost = some m.event.amount := by
  obtain ⟨o', ho', hid, -, htech, hreport⟩ := h.enqueued_order hm
  obtain rfl : o' = o := eq_of_key_eq _ h.consistent.keyed.orders ho' ho (hid.trans hx)
  exact ⟨htech, hreport⟩

theorem completeWork_estimated (h : j.Sound) {actor : Actor} {id : Uuid} {ctx : Context}
    {p : Plan TechnicianReport} (hp : TechnicianReport.completeWork actor id ctx j.store = .ok p) :
    ∃ r cost, j.store.findReport? id = some r ∧ r.estimatedCost = some cost ∧
      ∀ m, Change.enqueue m ∈ p.changes → m.event.amount = cost := by
  obtain ⟨-, r, o, r', o', hfound, -, -, hmove, -, -, -, rfl⟩ :=
    TechnicianReport.completeWork_eq_ok hp
  obtain ⟨next, hnext, -, rfl⟩ := TechnicianReport.apply_eq_ok.mp hmove
  obtain ⟨hprogress, rfl⟩ := ReportStatus.next?_complete hnext
  -- the report is in progress, so past its draft
  obtain ⟨cost, hcost⟩ := Option.isSome_iff_exists.mp
    (h.completions.estimated r (mem_of_findReport? hfound).1 (by rw [hprogress]; decide))
  refine ⟨r, cost, hfound, hcost, fun m hm => ?_⟩
  simp only [List.mem_cons, reduceCtorEq, Change.enqueue.injEq, List.not_mem_nil, or_false,
    false_or] at hm
  subst hm
  simp [hcost]

end Sound

end Journal

/-- However commands and relay passes follow one another from the empty store, whatever the
batch sizes and whichever deliveries the sink refuses: a stored order has had one completion
event enqueued if it is completed and none otherwise, and that event names the order's
technician and the cost estimate of its completed report, which is present; every event ever
enqueued is for a stored completed order; and completing work always finds the estimate it
announces, never a default. -/
theorem one_completion_event_per_order (steps : List Step) :
    let j := Journal.empty.run steps
    (∀ o ∈ j.store.orders,
      j.enqueued.countP (fun m => m.event.repairOrderId == o.id) =
        (if o.status = .completed then 1 else 0) ∧
      ∀ m ∈ j.enqueued, m.event.repairOrderId = o.id →
        m.event.technicianId = o.technicianId ∧
        ∃ r ∈ j.store.reports, r.repairOrderId = o.id ∧ r.status = .completed ∧
          r.estimatedCost = some m.event.amount) ∧
    (∀ m ∈ j.enqueued, ∃ o ∈ j.store.orders,
      o.id = m.event.repairOrderId ∧ o.status = .completed) ∧
    ∀ actor id ctx p, TechnicianReport.completeWork actor id ctx j.store = .ok p →
      ∃ r cost, j.store.findReport? id = some r ∧ r.estimatedCost = some cost ∧
        ∀ m, Change.enqueue m ∈ p.changes → m.event.amount = cost := by
  intro j
  have h : j.Sound := Journal.Sound.empty.run steps
  refine ⟨fun o ho => ⟨?_, fun m hm hx => h.event_of_order ho hm hx⟩, fun m hm => ?_,
    fun actor id ctx p hp => h.completeWork_estimated hp⟩
  · rw [h.countP_enqueued]
    exact h.consistent.lifecycle.countP_completed h.consistent.keyed.reports ho
  · obtain ⟨o, ho, hid, hdone, -⟩ := h.enqueued_order hm
    exact ⟨o, ho, hid, hdone⟩

end RepairDesk
