import Mathlib.Data.List.TakeWhile
import RepairDesk.Proofs.Completion

namespace RepairDesk

open Tables Store

namespace Text

theorem forall_mem_dropWhile {α : Type} (p : α → Bool) (l : List α) :
    (∀ x ∈ l.dropWhile p, p x) ↔ ∀ x ∈ l, p x := by
  induction l with
  | nil => simp
  | cons a l ih => by_cases ha : p a <;> simp [ha, ih]

theorem isBlankText_iff_trimBlank_eq_empty (s : String) :
    isBlankText s = true ↔ trimBlank s = "" := by
  rw [trimBlank, String.ofList_eq_empty_iff, trimBlankList, List.reverse_eq_nil_iff,
    List.dropWhile_eq_nil_iff]
  simp [isBlankText, forall_mem_dropWhile]

end Text

theorem isBlankField_eq_false_iff {x : Option String} :
    isBlankField x = false ↔ ∃ d, x = some d ∧ Text.trimBlank d ≠ "" := by
  cases x with
  | none => simp [isBlankField]
  | some d => simp [isBlankField, ← Text.isBlankText_iff_trimBlank_eq_empty]

/-! ### What the checks pass -/

theorem DraftFields.validate_eq_ok {f : DraftFields} {u : Unit} :
    f.validate = .ok u ↔
      (∀ d, f.diagnosis = some d → d.length ≤ maxDiagnosisLength) ∧
      (∀ p, f.actionPlan = some p → p.length ≤ maxActionPlanLength) ∧
      (∀ c, f.estimatedCost = some c → 0 ≤ c) ∧
      (∀ t, f.estimatedTimeSeconds = some t → 0 < t) := by
  simp only [DraftFields.validate, ite_bind_eq_ok, invalid]
  split <;> simp_all [pure_eq_ok, Option.any_eq_true]

namespace TechnicianReport

theorem checkSubmission_eq_ok {r : TechnicianReport} {u : Unit} :
    r.checkSubmission = .ok u ↔
      isBlankField r.diagnosis = false ∧ r.estimatedCost.isSome ∧
        isBlankField r.actionPlan = false := by
  unfold checkSubmission
  split
  · simp_all
  · split
    · simp_all
    · split <;> simp_all [Option.isSome_iff_ne_none]

theorem checkWorkStart_eq_ok {r : TechnicianReport} {u : Unit} :
    r.checkWorkStart = .ok u ↔ r.estimatedTimeSeconds.isSome := by
  unfold checkWorkStart
  split <;> simp_all [Option.isSome_iff_ne_none]

end TechnicianReport

namespace ReportStatus

theorem next?_working {st next : ReportStatus} {a : ReportAction} (h : st.next? a = some next)
    (hworking : next = .inProgress ∨ next = .completed) : a = .startWork ∨ a = .complete := by
  cases st <;> cases a <;> simp [next?] at h <;> subst h <;> simp at hworking ⊢

end ReportStatus

/-! ### Valid fields -/

namespace TechnicianReport

/-- The fields of a report as the workflow keeps them: texts within their lengths and estimates
of the right sign; past the draft stage, a diagnosis and an action plan that are not blank once
trimmed and a cost; in progress or completed, a time. -/
structure FieldsValid (r : TechnicianReport) : Prop where
  diagnosis_length : ∀ d, r.diagnosis = some d → d.length ≤ maxDiagnosisLength
  actionPlan_length : ∀ p, r.actionPlan = some p → p.length ≤ maxActionPlanLength
  cost_nonneg : ∀ c, r.estimatedCost = some c → 0 ≤ c
  time_pos : ∀ t, r.estimatedTimeSeconds = some t → 0 < t
  submitted : r.status ≠ .draft →
    (∃ d, r.diagnosis = some d ∧ Text.trimBlank d ≠ "") ∧
    (∃ p, r.actionPlan = some p ∧ Text.trimBlank p ≠ "") ∧ r.estimatedCost.isSome
  started : r.status = .inProgress ∨ r.status = .completed → r.estimatedTimeSeconds.isSome

namespace FieldsValid

variable {r : TechnicianReport}

theorem draft (reportId repairOrderId technicianId : Uuid) (now : Instant) :
    (TechnicianReport.draft reportId repairOrderId technicianId now).FieldsValid where
  diagnosis_length := by simp [TechnicianReport.draft]
  actionPlan_length := by simp [TechnicianReport.draft]
  cost_nonneg := by simp [TechnicianReport.draft]
  time_pos := by simp [TechnicianReport.draft]
  submitted := by simp [TechnicianReport.draft]
  started := by simp [TechnicianReport.draft]

theorem merge (hr : r.FieldsValid) (hdraft : r.status = .draft) {f : DraftFields}
    (hf : f.validate = .ok ()) : (r.merge f).FieldsValid := by
  obtain ⟨hdiag, hplan, hcost, htime⟩ := DraftFields.validate_eq_ok.mp hf
  refine ⟨fun d hd => ?_, fun p hp => ?_, fun c hc => ?_, fun t ht => ?_, ?_, ?_⟩
  · rcases Option.or_eq_some_iff.mp hd with hd | ⟨-, hd⟩
    · exact hdiag d hd
    · exact hr.diagnosis_length d hd
  · rcases Option.or_eq_some_iff.mp hp with hp | ⟨-, hp⟩
    · exact hplan p hp
    · exact hr.actionPlan_length p hp
  · rcases Option.or_eq_some_iff.mp hc with hc | ⟨-, hc⟩
    · exact hcost c hc
    · exact hr.cost_nonneg c hc
  · rcases Option.or_eq_some_iff.mp ht with ht | ⟨-, ht⟩
    · exact htime t ht
    · exact hr.time_pos t ht
  -- still a draft: the stage conditions hold vacuously
  · simp [hdraft]
  · simp [hdraft]

theorem apply (hr : r.FieldsValid) {a : ReportAction} {now : Instant} {r' : TechnicianReport}
    (h : r.apply a now = .ok r') : r'.FieldsValid := by
  obtain ⟨next, hnext, hcheck, rfl⟩ := apply_eq_ok.mp h
  refine ⟨hr.diagnosis_length, hr.actionPlan_length, hr.cost_nonneg, hr.time_pos, ?_, ?_⟩
  · intro _
    show (∃ d, r.diagnosis = some d ∧ Text.trimBlank d ≠ "") ∧
      (∃ p, r.actionPlan = some p ∧ Text.trimBlank p ≠ "") ∧ r.estimatedCost.isSome
    by_cases hdraft : r.status = .draft
    · -- leaving the draft stage is submitting, which checks the three fields
      rw [hdraft] at hnext
      obtain rfl := ReportStatus.next?_draft hnext
      obtain ⟨hdiag, hcost, hplan⟩ := checkSubmission_eq_ok.mp hcheck
      exact ⟨isBlankField_eq_false_iff.mp hdiag, isBlankField_eq_false_iff.mp hplan, hcost⟩
    · exact hr.submitted hdraft
  · intro hworking
    show r.estimatedTimeSeconds.isSome
    rcases ReportStatus.next?_working hnext hworking with rfl | rfl
    · exact checkWorkStart_eq_ok.mp hcheck
    · exact hr.started (.inl (ReportStatus.next?_complete hnext).1)

end FieldsValid

end TechnicianReport

/-! ### The report table -/

def ReportsValid (rs : List TechnicianReport) : Prop :=
  ∀ r ∈ rs, r.FieldsValid

namespace ReportsValid

variable {rs : List TechnicianReport}

theorem append (h : ReportsValid rs) {r : TechnicianReport} (hr : r.FieldsValid) :
    ReportsValid (rs ++ [r]) := by
  intro q hq
  rcases List.mem_append.mp hq with hq | hq
  · exact h q hq
  · rw [List.mem_singleton.mp hq]
    exact hr

theorem replaceBy (h : ReportsValid rs) {r : TechnicianReport} (hr : r.FieldsValid) :
    ReportsValid (Store.replaceBy (·.reportId) r rs) := by
  intro q hq
  rcases (mem_replaceBy _).mp hq with ⟨hq, -⟩ | ⟨rfl, -⟩
  · exact h q hq
  · exact hr

theorem filter (h : ReportsValid rs) (p : TechnicianReport → Bool) : ReportsValid (rs.filter p) :=
  fun q hq => h q (List.mem_filter.mp hq).1

end ReportsValid

/-! ### Each operation -/

namespace TechnicianReport

variable {actor : Actor} {ctx : Context} {s t : Store} {id : Uuid}

theorem createDraft_reportsValid (h : ReportsValid s.reports) {req : DraftRequest}
    {p : Plan TechnicianReport} (hp : createDraft actor req ctx s = .ok p)
    (ht : s.commit p.changes = .ok t) : ReportsValid t.reports := by
  obtain ⟨-, o, -, -, -, -, hvalid, -, rfl⟩ := createDraft_eq_ok hp
  have hnew := (FieldsValid.draft ctx.freshId o.id actor.id ctx.now).merge rfl hvalid
  rw [reports_of_commit ht]
  exact h.append hnew

theorem updateDraft_reportsValid (h : ReportsValid s.reports) {f : DraftFields}
    {p : Plan TechnicianReport} (hp : updateDraft actor id f ctx s = .ok p)
    (ht : s.commit p.changes = .ok t) : ReportsValid t.reports := by
  obtain ⟨-, r, hfound, -, hdraft, hvalid, -, rfl⟩ := updateDraft_eq_ok hp
  have hmerge := (h r (mem_of_findReport? hfound).1).merge hdraft hvalid
  -- the edit also stamps the draft and raises its version, which no field check reads
  have hnew : FieldsValid { r.merge f with lastUpdatedAt := ctx.now, version := r.version + 1 } :=
    ⟨hmerge.1, hmerge.2, hmerge.3, hmerge.4, hmerge.5, hmerge.6⟩
  rw [reports_of_commit ht]
  exact h.replaceBy hnew

theorem deleteDraft_reportsValid (h : ReportsValid s.reports) {p : Plan Unit}
    (hp : deleteDraft actor id ctx s = .ok p) (ht : s.commit p.changes = .ok t) :
    ReportsValid t.reports := by
  obtain ⟨-, r, -, -, -, rfl⟩ := deleteDraft_eq_ok hp
  rw [reports_of_commit ht]
  exact h.filter _

theorem moved_fieldsValid (h : ReportsValid s.reports) {r r' : TechnicianReport}
    (hfound : s.findReport? id = some r) {a : ReportAction} (hmove : r.apply a ctx.now = .ok r') :
    FieldsValid { r' with version := r'.version + 1 } :=
  have hnext := (h r (mem_of_findReport? hfound).1).apply hmove
  ⟨hnext.1, hnext.2, hnext.3, hnext.4, hnext.5, hnext.6⟩

theorem submit_reportsValid (h : ReportsValid s.reports) {p : Plan TechnicianReport}
    (hp : submit actor id ctx s = .ok p) (ht : s.commit p.changes = .ok t) :
    ReportsValid t.reports := by
  obtain ⟨-, r, r', hfound, -, hmove, -, rfl⟩ := submit_eq_ok hp
  rw [reports_of_commit ht]
  exact h.replaceBy (moved_fieldsValid h hfound hmove)

theorem decide_reportsValid (h : ReportsValid s.reports) {action : ReportAction}
    {p : Plan TechnicianReport} (hp : decide action actor id ctx s = .ok p)
    (ht : s.commit p.changes = .ok t) : ReportsValid t.reports := by
  obtain ⟨-, r, -, r', hfound, -, -, hmove, -, rfl⟩ := decide_eq_ok hp
  rw [reports_of_commit ht]
  exact h.replaceBy (moved_fieldsValid h hfound hmove)

theorem startWork_reportsValid (h : ReportsValid s.reports) {p : Plan TechnicianReport}
    (hp : startWork actor id ctx s = .ok p) (ht : s.commit p.changes = .ok t) :
    ReportsValid t.reports := by
  obtain ⟨-, r, o, r', o', hfound, -, -, hmove, -, -, -, rfl⟩ := startWork_eq_ok hp
  rw [reports_of_commit ht]
  exact h.replaceBy (moved_fieldsValid h hfound hmove)

theorem completeWork_reportsValid (h : ReportsValid s.reports) {p : Plan TechnicianReport}
    (hp : completeWork actor id ctx s = .ok p) (ht : s.commit p.changes = .ok t) :
    ReportsValid t.reports := by
  obtain ⟨-, r, o, r', o', hfound, -, -, hmove, -, -, -, rfl⟩ := completeWork_eq_ok hp
  rw [reports_of_commit ht]
  exact h.replaceBy (moved_fieldsValid h hfound hmove)

end TechnicianReport

theorem Command.commit_reportsValid {c : Command} {ctx : Context} {s t : Store} {cs : ChangeSet}
    (h : ReportsValid s.reports) (hplan : c.plan ctx s = .ok cs) (ht : s.commit cs = .ok t) :
    ReportsValid t.reports := by
  cases hread : c.readsOnly
  · cases c <;> simp only [readsOnly, Bool.true_eq_false] at hread <;>
      obtain ⟨p, hp, rfl⟩ := staged_eq_ok.mp hplan
    case createDraft => exact TechnicianReport.createDraft_reportsValid h hp ht
    case updateDraft => exact TechnicianReport.updateDraft_reportsValid h hp ht
    case deleteDraft => exact TechnicianReport.deleteDraft_reportsValid h hp ht
    case submitDraft => exact TechnicianReport.submit_reportsValid h hp ht
    case acceptSubmission => exact TechnicianReport.decide_reportsValid h hp ht
    case rejectSubmission => exact TechnicianReport.decide_reportsValid h hp ht
    case startWork => exact TechnicianReport.startWork_reportsValid h hp ht
    case completeWork => exact TechnicianReport.completeWork_reportsValid h hp ht
    -- the other writes touch no report
    case createOrder => rwa [reports_of_commit_off (RepairOrder.create_offReports hp) ht]
    case updateOrder => rwa [reports_of_commit_off (RepairOrder.update_offReports hp) ht]
    case deleteOrder => rwa [reports_of_commit_off (RepairOrder.delete_offReports hp) ht]
    case createCoupon => rwa [reports_of_commit_off (Coupon.create_offReports hp) ht]
    case updateCoupon => rwa [reports_of_commit_off (Coupon.update_offReports hp) ht]
    case deleteCoupon => rwa [reports_of_commit_off (Coupon.delete_offReports hp) ht]
    case createPaymentMethod => rwa [reports_of_commit_off (PaymentMethod.create_offReports hp) ht]
    case updatePaymentMethod => rwa [reports_of_commit_off (PaymentMethod.update_offReports hp) ht]
    case deletePaymentMethod => rwa [reports_of_commit_off (PaymentMethod.delete_offReports hp) ht]
  · rw [plan_eq_nil_of_readsOnly hread hplan, commit_nil, Except.ok.injEq] at ht
    rwa [← ht]

theorem Command.run_reportsValid (c : Command) (ctx : Context) {s : Store}
    (h : ReportsValid s.reports) : ReportsValid (c.run ctx s).reports := by
  rcases c.run_cases ctx s with hkeep | ⟨cs, hplan, hc⟩
  · rwa [hkeep]
  · exact c.commit_reportsValid h hplan hc

/-- Every store the service reaches keeps valid report fields, by induction on the commands that
reach it. -/
theorem Reachable.reportsValid {s : Store} (hs : Reachable s) : ReportsValid s.reports := by
  induction hs with
  | empty => simp [ReportsValid, Store.empty]
  | step c ctx _ ih => exact c.run_reportsValid ctx ih

/-- However commands run from the empty store, every stored report has texts of at most 500
characters, a cost estimate that is not negative and a time estimate that is positive; every
report past its draft has a diagnosis and an action plan that are not blank once trimmed and a
cost estimate; and every report in progress or completed has a time estimate. -/
theorem stored_reports_have_valid_fields (steps : List (Command × Context)) :
    ReportsValid (Command.runAll steps Store.empty).reports :=
  (Reachable.empty.of_runAll steps).reportsValid

end RepairDesk
