import RepairDesk.Identifier.Uuid

namespace RepairDesk

/-- What was done to a report. -/
inductive AuditAction where
  | createDraft
  | updateDraft
  | deleteDraft
  | submitDraft
  | acceptSubmission
  | rejectSubmission
  | startWork
  | completeWork
  deriving DecidableEq, Repr

def AuditAction.code : AuditAction → String
  | .createDraft => "CREATE_DRAFT"
  | .updateDraft => "UPDATE_DRAFT"
  | .deleteDraft => "DELETE_DRAFT"
  | .submitDraft => "SUBMIT_DRAFT"
  | .acceptSubmission => "ACCEPT_SUBMISSION"
  | .rejectSubmission => "REJECT_SUBMISSION"
  | .startWork => "START_WORK"
  | .completeWork => "COMPLETE_WORK"

/-- One audited operation. -/
structure AuditEntry where
  action : AuditAction
  reportId : Uuid
  actorId : Uuid
  deriving DecidableEq

end RepairDesk
