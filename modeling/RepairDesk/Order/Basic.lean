import RepairDesk.Error
import RepairDesk.Calendar.Instant

namespace RepairDesk

/-- A customer's repair request. -/
structure RepairOrder where
  id : Uuid
  customerId : Uuid
  technicianId : Uuid
  status : OrderStatus
  itemName : String
  itemCondition : String
  issueDescription : String
  desiredServiceDate : Date
  paymentMethodId : Uuid
  couponId : Option Uuid
  version : Int
  createdAt : Instant
  updatedAt : Instant
  deriving DecidableEq

namespace RepairOrder

def stepTo : OrderStatus → OrderStep
  | .pendingConfirmation => .reopen
  | .inProgress => .start
  | .completed => .complete

/-- Moves an order forward to a later stage; any other move is refused. -/
def advance (o : RepairOrder) (next : OrderStatus) : Except WorkflowError RepairOrder :=
  if o.status.canAdvanceTo next then .ok { o with status := next }
  else .error (.orderState (stepTo next) o.id o.status)

end RepairOrder

end RepairDesk
