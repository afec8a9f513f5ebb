import RepairDesk.Store.Basic

namespace RepairDesk

/-- A row of one of the four tables. -/
inductive Row where
  | order (o : RepairOrder)
  | coupon (c : Coupon)
  | paymentMethod (m : PaymentMethod)
  | report (r : TechnicianReport)
  deriving DecidableEq

/-- What a staged write does to its row. -/
inductive WriteKind where
  | insert
  | update
  | delete
  deriving DecidableEq

namespace Row

def entity : Row → Entity
  | .order _ => .repairOrder
  | .coupon _ => .coupon
  | .paymentMethod _ => .paymentMethod
  | .report _ => .technicianReport

end Row

namespace ChangeSet

def stageRow (cs : ChangeSet) (now : Instant) :
    WriteKind → Row → Except Numeric.Overflow (ChangeSet × Row)
  | .insert, .order o => .ok (cs ++ [.insertOrder o], .order o)
  | .insert, .coupon c => .ok (cs ++ [.insertCoupon c], .coupon c)
  | .insert, .paymentMethod m => .ok (cs ++ [.insertPaymentMethod m], .paymentMethod m)
  | .insert, .report r => .ok (cs ++ [.insertReport r], .report r)
  | .update, .order o => do
    let (cs, o) ← cs.updateOrder now o
    pure (cs, .order o)
  | .update, .coupon c => do
    let (cs, c) ← cs.updateCoupon now c
    pure (cs, .coupon c)
  | .update, .paymentMethod m => do
    let (cs, m) ← cs.updatePaymentMethod now m
    pure (cs, .paymentMethod m)
  | .update, .report r => do
    let (cs, r) ← cs.updateReport r
    pure (cs, .report r)
  | .delete, .order o => .ok (cs ++ [.deleteOrder o.id o.version], .order o)
  | .delete, .coupon c => .ok (cs ++ [.deleteCoupon c.id c.version], .coupon c)
  | .delete, .paymentMethod m =>
    .ok (cs ++ [.deletePaymentMethod m.id m.version], .paymentMethod m)
  | .delete, .report r => .ok (cs ++ [.deleteReport r.reportId r.version], .report r)

end ChangeSet

namespace Store

def findRow? (s : Store) (entity : Entity) (id : Uuid) : Option Row :=
  match entity with
  | .repairOrder => (s.findOrder? id).map .order
  | .coupon => (s.findCoupon? id).map .coupon
  | .paymentMethod => (s.findPaymentMethod? id).map .paymentMethod
  | .technicianReport => (s.findReport? id).map .report

end Store

end RepairDesk
