import RepairDesk.Wire.Entity
import RepairDesk.Store.Row

namespace RepairDesk

namespace Row

def toJson : Row → Json
  | .order o => o.toJson
  | .coupon c => c.toJson
  | .paymentMethod m => m.toJson
  | .report r => r.toJson

/-- Reads a row of a table. -/
def ofJson (entity : Entity) (j : Json) : Except DecodeError Row :=
  match entity with
  | .repairOrder => RepairOrder.reader.ofJson j |>.map .order
  | .coupon => Coupon.reader.ofJson j |>.map .coupon
  | .paymentMethod => PaymentMethod.reader.ofJson j |>.map .paymentMethod
  | .technicianReport => TechnicianReport.reader.ofJson j |>.map .report

end Row

end RepairDesk
