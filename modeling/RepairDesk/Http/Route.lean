import RepairDesk.Http.Message

namespace RepairDesk.Http

/-- The moves a report's route offers. -/
inductive ReportMove where
  | submit
  | accept
  | reject
  | start
  | complete
  deriving DecidableEq

namespace ReportMove

def all : List ReportMove := [.submit, .accept, .reject, .start, .complete]

def segment : ReportMove → String
  | .submit => "submit"
  | .accept => "accept"
  | .reject => "reject"
  | .start => "start"
  | .complete => "complete"

end ReportMove

/-- The collections of the service. -/
inductive Collection where
  | repairOrders
  | coupons
  | paymentMethods
  deriving DecidableEq

def Collection.segment : Collection → String
  | .repairOrders => "repair-orders"
  | .coupons => "coupons"
  | .paymentMethods => "payment-methods"

/-- A matched route; an identifier segment is kept as written. -/
inductive Endpoint where
  | health
  | reports
  | reportsForCustomer
  | incomingOrders
  | report (id : String)
  | reportMove (id : String) (move : ReportMove)
  | collection (c : Collection)
  | item (c : Collection) (id : String)
  deriving DecidableEq

/-- The route a path matches, if any. -/
def Endpoint.ofPath (path : String) : Option Endpoint :=
  match path.splitOn "/" with
  | ["", "health"] => some .health
  | ["", "api", "v1", "technician-reports"] => some .reports
  | ["", "api", "v1", "technician-reports", "for-customer"] => some .reportsForCustomer
  | ["", "api", "v1", "technician-reports", "incoming-repair-orders"] => some .incomingOrders
  | ["", "api", "v1", "technician-reports", id] =>
    if id.isEmpty then none else some (.report id)
  | ["", "api", "v1", "technician-reports", id, move] =>
    if id.isEmpty then none
    else (ReportMove.all.find? (·.segment == move)).map (.reportMove id)
  | ["", "api", "v1", name] =>
    ([Collection.repairOrders, .coupons, .paymentMethods].find? (·.segment == name)).map .collection
  | ["", "api", "v1", name, id] =>
    if id.isEmpty then none
    else ([Collection.repairOrders, .coupons, .paymentMethods].find? (·.segment == name)).map
      fun c => .item c id
  | _ => none

end RepairDesk.Http
