import RepairDesk.Order.Basic
import RepairDesk.Coupon.Basic
import RepairDesk.Payment.Basic
import RepairDesk.Report.Basic
import RepairDesk.Outbox.Event

namespace RepairDesk

open Numeric

/-- One write to the store. -/
inductive Change where
  | insertOrder (row : RepairOrder)
  | updateOrder (row : RepairOrder) (expected : Int)
  | deleteOrder (id : Uuid) (expected : Int)
  | insertCoupon (row : Coupon)
  | updateCoupon (row : Coupon) (expected : Int)
  | deleteCoupon (id : Uuid) (expected : Int)
  | insertPaymentMethod (row : PaymentMethod)
  | updatePaymentMethod (row : PaymentMethod) (expected : Int)
  | deletePaymentMethod (id : Uuid) (expected : Int)
  | insertReport (row : TechnicianReport)
  | updateReport (row : TechnicianReport) (expected : Int)
  | deleteReport (id : Uuid) (expected : Int)
  | enqueue (message : OutboxMessage)
  deriving DecidableEq

/-- Changes in the order they are staged and will be applied. -/
abbrev ChangeSet := List Change

def nextVersion (v : Int) : Except Overflow Int :=
  addWord 64 v 1

namespace ChangeSet

/-- Stages an update of an order at a moment; returns the row as written. -/
def updateOrder (cs : ChangeSet) (now : Instant) (o : RepairOrder) :
    Except Overflow (ChangeSet × RepairOrder) := do
  let v ← nextVersion o.version
  let row := { o with version := v, updatedAt := now }
  pure (cs ++ [.updateOrder row o.version], row)

def updateCoupon (cs : ChangeSet) (now : Instant) (c : Coupon) :
    Except Overflow (ChangeSet × Coupon) := do
  let v ← nextVersion c.version
  let row := { c with version := v, updatedAt := now }
  pure (cs ++ [.updateCoupon row c.version], row)

def updatePaymentMethod (cs : ChangeSet) (now : Instant) (m : PaymentMethod) :
    Except Overflow (ChangeSet × PaymentMethod) := do
  let v ← nextVersion m.version
  let row := { m with version := v, updatedAt := now }
  pure (cs ++ [.updatePaymentMethod row m.version], row)

def updateReport (cs : ChangeSet) (r : TechnicianReport) :
    Except Overflow (ChangeSet × TechnicianReport) := do
  let v ← nextVersion r.version
  let row := { r with version := v }
  pure (cs ++ [.updateReport row r.version], row)

end ChangeSet

end RepairDesk
