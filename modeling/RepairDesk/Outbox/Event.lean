import RepairDesk.Identifier.Uuid
import RepairDesk.Calendar.Instant

namespace RepairDesk

/-- A repair order was completed: by whom, and for what amount. -/
structure CompletionEvent where
  repairOrderId : Uuid
  technicianId : Uuid
  amount : Int
  completedAt : Instant
  deriving DecidableEq

/-- An event waiting in the outbox. -/
structure OutboxMessage where
  id : Uuid
  event : CompletionEvent
  createdAt : Instant
  deriving DecidableEq

end RepairDesk
