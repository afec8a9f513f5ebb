import RepairDesk.Identifier.Uuid
import RepairDesk.Calendar.Instant

namespace RepairDesk

/-- A discount code with a bounded usage counter. -/
structure Coupon where
  id : Uuid
  code : String
  discountAmount : Int
  maxUsage : Int
  usageCount : Int
  validUntil : Option Date
  version : Int
  createdAt : Instant
  updatedAt : Instant
  deriving DecidableEq

namespace Coupon

def isExpired (c : Coupon) (today : Date) : Bool :=
  match c.validUntil with
  | some lastDay => decide (lastDay < today)
  | none => false

def isExhausted (c : Coupon) : Bool :=
  decide (c.usageCount ≥ c.maxUsage)

end Coupon

end RepairDesk
