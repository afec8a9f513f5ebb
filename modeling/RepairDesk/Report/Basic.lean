import RepairDesk.Actor
import RepairDesk.Calendar.Instant
import RepairDesk.Numeric.Checked

namespace RepairDesk

open Numeric

def maxDiagnosisLength : Nat := 500
def maxActionPlanLength : Nat := 500

/-- A technician's report on a repair order. -/
structure TechnicianReport where
  reportId : Uuid
  repairOrderId : Uuid
  technicianId : Uuid
  diagnosis : Option String
  actionPlan : Option String
  estimatedCost : Option Int
  estimatedTimeSeconds : Option Int
  status : ReportStatus
  version : Int
  lastUpdatedAt : Instant
  deriving DecidableEq

namespace ReportStatus

def parse (s : String) : Except WorkflowError ReportStatus :=
  match ofCode? (Text.upperAscii (Text.trimBlank s)) with
  | some status => .ok status
  | none => .error (.validation ("unknown report status: " ++ s))

def advance (s : ReportStatus) (a : ReportAction) : Except WorkflowError ReportStatus :=
  match s.next? a with
  | some t => .ok t
  | none => .error (.stateTransition a s)

def ensureModifiable (s : ReportStatus) (a : ReportAction) : Except WorkflowError Unit :=
  if s.technicianCanModify then .ok () else .error (.stateTransition a s)

end ReportStatus

def isBlankField : Option String → Bool
  | none => true
  | some s => Text.isBlankText s

namespace TechnicianReport

def draft (reportId repairOrderId technicianId : Uuid) (now : Instant) : TechnicianReport :=
  { reportId, repairOrderId, technicianId, diagnosis := none, actionPlan := none,
    estimatedCost := none, estimatedTimeSeconds := none, status := .draft, version := 0,
    lastUpdatedAt := now }

/-- What submitting or approving needs: a diagnosis, a cost estimate and an action plan, checked
in that order. -/
def checkSubmission (r : TechnicianReport) : Except WorkflowError Unit :=
  if isBlankField r.diagnosis then .error (.validation "Diagnosis is required before submitting")
  else if r.estimatedCost.isNone then
    .error (.validation "Estimated cost is required before submitting")
  else if isBlankField r.actionPlan then
    .error (.validation "Action plan is required before submitting")
  else .ok ()

/-- What starting work needs: a time estimate. -/
def checkWorkStart (r : TechnicianReport) : Except WorkflowError Unit :=
  if r.estimatedTimeSeconds.isNone then
    .error (.validation "Estimated time is required before starting work")
  else .ok ()

def checkFor (r : TechnicianReport) : ReportAction → Except WorkflowError Unit
  | .submit | .approve => r.checkSubmission
  | .startWork => r.checkWorkStart
  | _ => .ok ()

/-- Moves a report by an action: the move must be legal, then the action's check must pass. -/
def apply (r : TechnicianReport) (a : ReportAction) (now : Instant) :
    Except WorkflowError TechnicianReport := do
  let next ← r.status.advance a
  r.checkFor a
  pure { r with status := next, lastUpdatedAt := now }

end TechnicianReport

/-- A report as shown to a caller: everything but its version. -/
structure ReportView where
  reportId : Uuid
  repairOrderId : Uuid
  technicianId : Uuid
  diagnosis : Option String
  actionPlan : Option String
  estimatedCost : Option Int
  estimatedTimeSeconds : Option Int
  status : ReportStatus
  lastUpdatedAt : Instant
  deriving DecidableEq

def TechnicianReport.view (r : TechnicianReport) : ReportView :=
  { reportId := r.reportId, repairOrderId := r.repairOrderId, technicianId := r.technicianId,
    diagnosis := r.diagnosis, actionPlan := r.actionPlan, estimatedCost := r.estimatedCost,
    estimatedTimeSeconds := r.estimatedTimeSeconds, status := r.status,
    lastUpdatedAt := r.lastUpdatedAt }

/-- A cost less a discount, never below zero. -/
def discountedCost (cost discount : Int) : Except Overflow Int := do
  let net ← subWord 64 cost discount
  pure (max net 0)

def ReportView.withDiscount (v : ReportView) (discount : Int) : Except Overflow ReportView :=
  match v.estimatedCost with
  | none => .ok v
  | some cost => do
    let net ← discountedCost cost discount
    pure { v with estimatedCost := some net }

end RepairDesk
