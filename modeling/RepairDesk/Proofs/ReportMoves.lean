import RepairDesk.Proofs.ReportFields

namespace RepairDesk

def FilledField (x : Option String) : Prop :=
  ∃ d, x = some d ∧ Text.trimBlank d ≠ ""

theorem isBlankField_eq_false_iff_filled {x : Option String} :
    isBlankField x = false ↔ FilledField x :=
  isBlankField_eq_false_iff

theorem isBlankField_eq_true_iff {x : Option String} :
    isBlankField x = true ↔ ¬ FilledField x := by
  rw [← isBlankField_eq_false_iff_filled, Bool.not_eq_false]

namespace ReportStatus

theorem advance_eq_error_iff {st : ReportStatus} {a : ReportAction} {e : WorkflowError} :
    st.advance a = .error e ↔ st.next? a = none ∧ e = .stateTransition a st := by
  unfold advance
  cases st.next? a <;> simp [eq_comm]

theorem next?_of_edit {st : ReportStatus} {a : ReportAction} (ha : a = .update ∨ a = .delete) :
    st.next? a = none := by
  rcases ha with rfl | rfl <;> cases st <;> rfl

end ReportStatus

namespace TechnicianReport

/-- What an action needs of a report's fields once the move is legal: submitting and approving a
filled diagnosis, a cost estimate and a filled action plan, starting work a time estimate. -/
def ReadyFor (r : TechnicianReport) : ReportAction → Prop
  | .submit | .approve =>
      FilledField r.diagnosis ∧ r.estimatedCost.isSome ∧ FilledField r.actionPlan
  | .startWork => r.estimatedTimeSeconds.isSome
  | .reject | .complete | .update | .delete => True

variable {r : TechnicianReport} {a : ReportAction} {now : Instant} {e : WorkflowError}

theorem checkFor_eq_ok_iff : r.checkFor a = .ok () ↔ r.ReadyFor a := by
  cases a
  case submit | approve =>
    rw [checkFor, checkSubmission_eq_ok, ReadyFor, isBlankField_eq_false_iff_filled,
      isBlankField_eq_false_iff_filled]
  case startWork => exact checkWorkStart_eq_ok
  all_goals simp [checkFor, ReadyFor]

theorem checkSubmission_eq_error_iff :
    r.checkSubmission = .error e ↔
      (¬ FilledField r.diagnosis ∧ e = .validation "Diagnosis is required before submitting") ∨
      (FilledField r.diagnosis ∧ r.estimatedCost = none ∧
        e = .validation "Estimated cost is required before submitting") ∨
      (FilledField r.diagnosis ∧ r.estimatedCost.isSome ∧ ¬ FilledField r.actionPlan ∧
        e = .validation "Action plan is required before submitting") := by
  unfold checkSubmission
  by_cases hdiag : FilledField r.diagnosis
  · have hd : isBlankField r.diagnosis = false := isBlankField_eq_false_iff_filled.mpr hdiag
    rw [if_neg (by simp [hd])]
    cases hcost : r.estimatedCost with
    | none =>
        simp only [Option.isNone_none, if_true, Except.error.injEq, hdiag, not_true_eq_false,
          false_and, true_and, Option.isSome_none, Bool.false_eq_true, false_or,
          or_false]
        exact eq_comm
    | some cost =>
        rw [Option.isNone_some, if_neg Bool.false_ne_true]
        by_cases hplan : FilledField r.actionPlan
        · have hp : isBlankField r.actionPlan = false := isBlankField_eq_false_iff_filled.mpr hplan
          rw [if_neg (by simp [hp])]
          simp [hdiag, hplan]
        · have hp : isBlankField r.actionPlan = true := isBlankField_eq_true_iff.mpr hplan
          rw [if_pos hp]
          simp only [Except.error.injEq, hdiag, hplan, not_true_eq_false, false_and,
            Option.some_ne_none, Option.isSome_some, not_false_eq_true, true_and, false_or]
          exact eq_comm
  · have hd : isBlankField r.diagnosis = true := isBlankField_eq_true_iff.mpr hdiag
    rw [if_pos hd]
    simp only [Except.error.injEq, hdiag, not_false_eq_true, true_and, false_and, or_false]
    exact eq_comm

theorem checkWorkStart_eq_error_iff :
    r.checkWorkStart = .error e ↔ r.estimatedTimeSeconds = none ∧
      e = .validation "Estimated time is required before starting work" := by
  unfold checkWorkStart
  cases r.estimatedTimeSeconds <;> simp [eq_comm]

theorem checkFor_eq_error_iff :
    r.checkFor a = .error e ↔
      ((a = .submit ∨ a = .approve) ∧ r.checkSubmission = .error e) ∨
      (a = .startWork ∧ r.checkWorkStart = .error e) := by
  cases a <;> simp [checkFor]

theorem apply_eq_error_iff :
    r.apply a now = .error e ↔
      (r.status.next? a = none ∧ e = .stateTransition a r.status) ∨
      ((r.status.next? a).isSome ∧ r.checkFor a = .error e) := by
  cases hnext : r.status.next? a with
  | none =>
      have hadvance : r.status.advance a = .error (.stateTransition a r.status) :=
        ReportStatus.advance_eq_error_iff.mpr ⟨hnext, rfl⟩
      simp [apply, hadvance, bind, Except.bind, eq_comm]
  | some next =>
      have hadvance : r.status.advance a = .ok next := ReportStatus.advance_eq_ok.mpr hnext
      simp only [apply, hadvance, bind, Except.bind]
      cases r.checkFor a <;> simp [pure, Except.pure]

end TechnicianReport

open TechnicianReport

/-- A report moves exactly along the stage table when the fields the action needs are there:
submitting and approving need a diagnosis and an action plan that are not blank once trimmed and a
cost estimate, starting work a time estimate. A move changes only the stage and the time of the
last change. A refusal names the action and the stage when the table has no edge (so editing and
deleting are always refused so), and otherwise the first missing field: diagnosis, cost estimate,
action plan for submitting and approving, the time estimate for starting work. -/
theorem report_moves_by_table_then_guards (r : TechnicianReport) (a : ReportAction)
    (now : Instant) :
    (∀ t, (∃ r', r.apply a now = .ok r' ∧ r'.status = t) ↔
      r.status.next? a = some t ∧ r.ReadyFor a) ∧
    (∀ r', r.apply a now = .ok r' →
      r' = { r with status := r'.status, lastUpdatedAt := now }) ∧
    (∀ e, r.apply a now = .error e ↔
      (r.status.next? a = none ∧ e = .stateTransition a r.status) ∨
      ((r.status.next? a).isSome ∧ (a = .submit ∨ a = .approve) ∧
        ((¬ FilledField r.diagnosis ∧
            e = .validation "Diagnosis is required before submitting") ∨
          (FilledField r.diagnosis ∧ r.estimatedCost = none ∧
            e = .validation "Estimated cost is required before submitting") ∨
          (FilledField r.diagnosis ∧ r.estimatedCost.isSome ∧ ¬ FilledField r.actionPlan ∧
            e = .validation "Action plan is required before submitting"))) ∨
      ((r.status.next? a).isSome ∧ a = .startWork ∧ r.estimatedTimeSeconds = none ∧
        e = .validation "Estimated time is required before starting work")) ∧
    (a = .update ∨ a = .delete → r.apply a now = .error (.stateTransition a r.status)) := by
  refine ⟨fun t => ?_, fun r' h => ?_, fun e => ?_, fun hedit => ?_⟩
  · constructor
    · rintro ⟨r', h, rfl⟩
      obtain ⟨next, hnext, hcheck, rfl⟩ := apply_eq_ok.mp h
      exact ⟨hnext, checkFor_eq_ok_iff.mp hcheck⟩
    · rintro ⟨hnext, hready⟩
      exact ⟨_, apply_eq_ok.mpr ⟨t, hnext, checkFor_eq_ok_iff.mpr hready, rfl⟩, rfl⟩
  · obtain ⟨next, -, -, rfl⟩ := apply_eq_ok.mp h
    rfl
  · rw [apply_eq_error_iff, checkFor_eq_error_iff, checkSubmission_eq_error_iff,
      checkWorkStart_eq_error_iff, and_or_left]
  · exact apply_eq_error_iff.mpr (.inl ⟨ReportStatus.next?_of_edit hedit, rfl⟩)

/-- A draft with a diagnosis, an action plan and a cost estimate is submitted. -/
theorem complete_draft_is_submitted :
    let r : TechnicianReport :=
      ⟨Uuid.ofNat 1, Uuid.ofNat 2, Uuid.ofNat 3, some "Worn group gasket", some "Replace gasket",
        some 150000, none, .draft, 0, ⟨0, 0⟩⟩
    r.ReadyFor .submit ∧
      ∃ r', r.apply .submit ⟨60, 0⟩ = .ok r' ∧ r'.status = .submitted := by
  intro r
  have hready : r.ReadyFor .submit := ⟨⟨_, rfl, by decide⟩, rfl, ⟨_, rfl, by decide⟩⟩
  exact ⟨hready, ((report_moves_by_table_then_guards r .submit ⟨60, 0⟩).1 .submitted).mpr
    ⟨rfl, hready⟩⟩

end RepairDesk
