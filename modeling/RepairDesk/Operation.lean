import RepairDesk.Store.Basic
import RepairDesk.Audit
import RepairDesk.Actor

/-! An operation reads the store and either refuses or plans the changes to commit, the answer
and the audit entries. -/

namespace RepairDesk

/-- What an operation is given besides the store. -/
structure Context where
  today : Date
  now : Instant
  freshId : Uuid

/-- What an operation decides after reading the store. -/
structure Plan (α : Type) where
  changes : ChangeSet
  answer : α
  audit : List AuditEntry

/-- An operation: from the store as read, a plan or a refusal. -/
abbrev Operation (α : Type) := Context → Store → Except Failure (Plan α)

instance : MonadLift (Except WorkflowError) (Except Failure) := ⟨fun e => e.mapError .refused⟩

instance : MonadLift (Except Numeric.Overflow) (Except Failure) := ⟨fun e => e.mapError .overflow⟩

namespace Plan

def answering {α : Type} (a : α) : Plan α := ⟨[], a, []⟩

end Plan

def invalid {α : Type} (message : String) : Except WorkflowError α :=
  .error (.validation message)

def forbidden {α : Type} (message : String) : Except WorkflowError α :=
  .error (.authorization message)

def found {α : Type} (entity : Entity) (key : String) : Option α → Except WorkflowError α
  | some a => .ok a
  | none => .error (.notFound entity key)

/-- A required text: not blank once trimmed, and at most `max` characters. -/
def requireText (field value : String) (max : Nat) : Except WorkflowError Unit :=
  let v := Text.trimBlank value
  if v.isEmpty then invalid (field ++ " is required")
  else if v.length > max then invalid (field ++ " must be at most " ++ toString max ++ " characters")
  else .ok ()

def requireRole (role : Role) (what : String) (actor : Actor) : Except WorkflowError Unit :=
  if actor.role = role then .ok () else forbidden (actor.role.display ++ " cannot " ++ what)

end RepairDesk
