namespace RepairDesk

/-- The stage of a repair order. -/
inductive OrderStatus where
  | pendingConfirmation
  | inProgress
  | completed
  deriving DecidableEq, Repr

namespace OrderStatus

def all : List OrderStatus := [.pendingConfirmation, .inProgress, .completed]

def code : OrderStatus → String
  | .pendingConfirmation => "PENDING_CONFIRMATION"
  | .inProgress => "IN_PROGRESS"
  | .completed => "COMPLETED"

def rank : OrderStatus → Nat
  | .pendingConfirmation => 0
  | .inProgress => 1
  | .completed => 2

/-- An order only moves forward. -/
def canAdvanceTo (current next : OrderStatus) : Bool :=
  current.rank < next.rank

end OrderStatus

end RepairDesk
