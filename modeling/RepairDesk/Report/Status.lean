namespace RepairDesk

/-- The stage of a report. -/
inductive ReportStatus where
  | draft
  | submitted
  | approved
  | rejected
  | inProgress
  | completed
  deriving DecidableEq, Repr

namespace ReportStatus

def all : List ReportStatus := [.draft, .submitted, .approved, .rejected, .inProgress, .completed]

def code : ReportStatus → String
  | .draft => "DRAFT"
  | .submitted => "SUBMITTED"
  | .approved => "APPROVED"
  | .rejected => "REJECTED"
  | .inProgress => "IN_PROGRESS"
  | .completed => "COMPLETED"

def ofCode? (s : String) : Option ReportStatus :=
  all.find? (·.code == s)

def isTerminal : ReportStatus → Bool
  | .rejected | .completed => true
  | _ => false

def technicianCanModify (s : ReportStatus) : Bool := s == .draft

def customerCanSee (s : ReportStatus) : Bool := s != .draft

end ReportStatus

/-- What can be done to a report. -/
inductive ReportAction where
  | submit
  | approve
  | reject
  | startWork
  | complete
  | update
  | delete
  deriving DecidableEq, Repr

namespace ReportAction

def all : List ReportAction := [.submit, .approve, .reject, .startWork, .complete, .update, .delete]

def name : ReportAction → String
  | .submit => "submit"
  | .approve => "approve"
  | .reject => "reject"
  | .startWork => "start_work"
  | .complete => "complete"
  | .update => "update"
  | .delete => "delete"

def verb : ReportAction → String
  | .submit => "submit"
  | .approve => "approve"
  | .reject => "reject"
  | .startWork => "start work on"
  | .complete => "complete"
  | .update => "update"
  | .delete => "delete"

end ReportAction

namespace ReportStatus

/-- The stage an action moves a report to, if the action is a move from this stage. -/
def next? : ReportStatus → ReportAction → Option ReportStatus
  | .draft, .submit => some .submitted
  | .submitted, .approve => some .approved
  | .submitted, .reject => some .rejected
  | .approved, .startWork => some .inProgress
  | .inProgress, .complete => some .completed
  | _, _ => none

end ReportStatus

end RepairDesk
