import RepairDesk.Http.Route
import RepairDesk.Workshop
import RepairDesk.Wire.Entity
import RepairDesk.Wire.Request

namespace RepairDesk.Http

/-- A reply: status, body text, and the audit entries of the operation behind it. -/
structure Reply where
  status : Nat
  body : String
  audit : List AuditEntry := []

namespace Reply

def text (status : Nat) (body : String) : Reply := { status, body }

def empty (status : Nat) : Reply := { status, body := "" }

def envelope (status : Nat) (success : Bool) (message : String) (data : Json) : Reply :=
  { status,
    body := (Json.object [("success", .bool success), ("message", .string message),
      ("data", data)]).render }

end Reply

def statusOf : WorkflowError → Nat
  | .validation _ => 400
  | .authorization _ => 403
  | .stateTransition _ _ => 409
  | .orderState _ _ _ => 409
  | .notFound _ _ => 404
  | .concurrencyConflict _ _ => 409

def refusal (e : WorkflowError) : Reply := .envelope (statusOf e) false e.message .null

def unauthenticated (message : String) : Reply := .envelope 401 false message .null

namespace Request

def actor (r : Request) : Except Reply Actor := do
  let idText ← match r.header? "x-actor-id" with
    | some v => pure v
    | none => throw (unauthenticated "Missing x-actor-id header")
  let id ← match Uuid.parse (Text.trimBlank idText) with
    | .ok u => pure u
    | .error _ => throw (unauthenticated "Malformed x-actor-id header")
  let roleText ← match r.header? "x-actor-role" with
    | some v => pure v
    | none => throw (unauthenticated "Missing x-actor-role header")
  let role ← match Role.parse roleText with
    | .ok role => pure role
    | .error _ => throw (unauthenticated "Malformed x-actor-role header")
  pure ⟨id, role⟩

def statusQuery (r : Request) : Except Reply String :=
  match (queryPairs r.query).filter (·.1 == "status") with
  | [(_, v)] => .ok v
  | [] => .error (.text 400 "Failed to deserialize query string: missing field `status`")
  | _ => .error (.text 400 "Failed to deserialize query string: duplicate field `status`")

def json {α : Type} (r : Request) (reader : RecordReader α) : Except Reply α :=
  if !((r.header? "content-type").any isJsonMediaType) then
    .error (.text 415 "Expected request with `Content-Type: application/json`")
  else
    match reader.ofText r.body with
    | .ok a => .ok a
    | .error f =>
      if f.isData then
        .error (.text 422 ("Failed to deserialize the JSON body into the target type: " ++
          f.message))
      else .error (.text 400 ("Failed to parse the request body as JSON: " ++ f.message))

end Request

def pathId (segment : String) : Except Reply Uuid :=
  match decodeSegment? segment with
  | none => .error (.text 400 "Invalid URL: Invalid UTF-8 in `id`")
  | some value =>
    match Uuid.parse value with
    | .ok u => .ok u
    | .error e =>
      .error (.text 400 ("Invalid URL: Cannot parse `id` with value `" ++ value ++
        "`: UUID parsing failed: " ++ e.message))

/-- Serving a request against the workshop: a reply, or an overflow that stops it. -/
abbrev Handling := Workshop → Date → Except Numeric.Overflow Reply × Workshop

def reply (r : Reply) : Handling := fun w _ => (.ok r, w)

/-- Performs an operation and replies with its answer in an envelope. -/
def answer {α : Type} (op : Operation α) (status : Nat) (message : α → String)
    (enc : α → Json) : Handling := fun w today =>
  match w.perform today op with
  | (.ok (a, audit), w') => (.ok { Reply.envelope status true (message a) (enc a) with audit }, w')
  | (.error (.refused e), w') => (.ok (refusal e), w')
  | (.error (.overflow o), w') => (.error o, w')

def extracting (x : Except Reply Handling) : Handling :=
  match x with
  | .ok h => h
  | .error r => reply r

def listJson {α : Type} (enc : α → Json) (xs : List α) : Json := .array (xs.map enc)

def found (what : String) {α : Type} (xs : List α) : String :=
  "Found " ++ toString xs.length ++ " " ++ what ++ "(s)"

def fixed {α : Type} (message : String) : α → String := fun _ => message

def unit (_ : Unit) : Json := .null

def listReports (a : Actor) (status : String) : Handling :=
  match ReportStatus.parse status with
  | .error e => reply (refusal e)
  | .ok st =>
    answer (TechnicianReport.listByStatus a st) 200 (found "report") (listJson ReportView.toJson)

def moveOperation : ReportMove → (Actor → Uuid → Operation TechnicianReport) × String
  | .submit => (TechnicianReport.submit, "Report submitted successfully")
  | .accept => (TechnicianReport.accept, "Report accepted successfully")
  | .reject => (TechnicianReport.reject, "Report rejected successfully")
  | .start => (TechnicianReport.startWork, "Work started successfully")
  | .complete => (TechnicianReport.completeWork, "Work completed successfully")

def collectionHandling (r : Request) (c : Collection) (id : Option String) (method : String) :
    Option Handling :=
  match c, id, method with
  | .repairOrders, none, "GET" => some (extracting do
      let a ← r.actor
      pure (answer (RepairOrder.listOwn a) 200 (found "repair order")
        (listJson RepairOrder.toJson)))
  | .repairOrders, none, "POST" => some (extracting do
      let a ← r.actor
      let req ← r.json OrderRequest.reader
      pure (answer (RepairOrder.create a req) 201 (fixed "Repair order created successfully")
        RepairOrder.toJson))
  | .repairOrders, some s, "GET" => some (extracting do
      let a ← r.actor
      let id ← pathId s
      pure (answer (RepairOrder.get a id) 200 (fixed "Repair order retrieved") RepairOrder.toJson))
  | .repairOrders, some s, "PUT" => some (extracting do
      let a ← r.actor
      let id ← pathId s
      let d ← r.json OrderDetails.reader
      pure (answer (RepairOrder.update a id d) 200 (fixed "Repair order updated successfully")
        RepairOrder.toJson))
  | .repairOrders, some s, "DELETE" => some (extracting do
      let a ← r.actor
      let id ← pathId s
      pure (answer (RepairOrder.delete a id) 200 (fixed "Repair order deleted successfully") unit))
  | .coupons, none, "GET" => some (extracting do
      let a ← r.actor
      pure (answer (Coupon.list a) 200 (found "coupon") (listJson Coupon.toJson)))
  | .coupons, none, "POST" => some (extracting do
      let a ← r.actor
      let req ← r.json CouponRequest.reader
      pure (answer (Coupon.create a req) 201 (fixed "Coupon created successfully") Coupon.toJson))
  | .coupons, some s, "GET" => some (extracting do
      let a ← r.actor
      let id ← pathId s
      pure (answer (Coupon.get a id) 200 (fixed "Coupon retrieved") Coupon.toJson))
  | .coupons, some s, "PUT" => some (extracting do
      let a ← r.actor
      let id ← pathId s
      let req ← r.json CouponRequest.reader
      pure (answer (Coupon.update a id req) 200 (fixed "Coupon updated successfully")
        Coupon.toJson))
  | .coupons, some s, "DELETE" => some (extracting do
      let a ← r.actor
      let id ← pathId s
      pure (answer (Coupon.delete a id) 200 (fixed "Coupon deleted successfully") unit))
  | .paymentMethods, none, "GET" => some (extracting do
      let a ← r.actor
      pure (answer (PaymentMethod.list a) 200 (found "payment method")
        (listJson PaymentMethod.toJson)))
  | .paymentMethods, none, "POST" => some (extracting do
      let a ← r.actor
      let req ← r.json PaymentMethodRequest.reader
      pure (answer (PaymentMethod.create a req) 201 (fixed "Payment method created successfully")
        PaymentMethod.toJson))
  | .paymentMethods, some s, "GET" => some (extracting do
      let a ← r.actor
      let id ← pathId s
      pure (answer (PaymentMethod.get a id) 200 (fixed "Payment method retrieved")
        PaymentMethod.toJson))
  | .paymentMethods, some s, "PUT" => some (extracting do
      let a ← r.actor
      let id ← pathId s
      let req ← r.json PaymentMethodRequest.reader
      pure (answer (PaymentMethod.update a id req) 200 (fixed "Payment method updated successfully")
        PaymentMethod.toJson))
  | .paymentMethods, some s, "DELETE" => some (extracting do
      let a ← r.actor
      let id ← pathId s
      pure (answer (PaymentMethod.delete a id) 200 (fixed "Payment method deleted successfully")
        unit))
  | _, _, _ => none

def Endpoint.handling (r : Request) : Endpoint → String → Option Handling
  | .health, "GET" => some (reply (.envelope 200 true "Service is healthy" (.string "ok")))
  | .reports, "GET" => some (extracting do
      let a ← r.actor
      let status ← r.statusQuery
      pure (listReports a status))
  | .reports, "POST" => some (extracting do
      let a ← r.actor
      let req ← r.json DraftRequest.reader
      pure (answer (TechnicianReport.createDraft a req) 201
        (fixed "Report draft created successfully") TechnicianReport.toJson))
  | .reportsForCustomer, "GET" => some (extracting do
      let a ← r.actor
      let status ← r.statusQuery
      if a.role ≠ .customer then
        pure (reply (refusal (.authorization "Only customers can use this listing")))
      else pure (listReports a status))
  | .incomingOrders, "GET" => some (extracting do
      let a ← r.actor
      pure (answer (TechnicianReport.incomingOrders a) 200 (found "incoming repair order")
        (listJson RepairOrder.toJson)))
  | .report s, "GET" => some (extracting do
      let a ← r.actor
      let id ← pathId s
      pure (answer (TechnicianReport.get a id) 200 (fixed "Report retrieved") ReportView.toJson))
  | .report s, "PUT" => some (extracting do
      let a ← r.actor
      let id ← pathId s
      let f ← r.json DraftFields.reader
      pure (answer (TechnicianReport.updateDraft a id f) 200
        (fixed "Report draft updated successfully") TechnicianReport.toJson))
  | .report s, "DELETE" => some (extracting do
      let a ← r.actor
      let id ← pathId s
      pure (answer (TechnicianReport.deleteDraft a id) 200
        (fixed "Report draft deleted successfully") unit))
  | .reportMove s move, "POST" => some (extracting do
      let a ← r.actor
      let id ← pathId s
      let (op, message) := moveOperation move
      pure (answer (op a id) 200 (fixed message) TechnicianReport.toJson))
  | .collection c, method => collectionHandling r c none method
  | .item c s, method => collectionHandling r c (some s) method
  | _, _ => none

/-- Serves one request. -/
def serve (w : Workshop) (today : Date) (r : Request) : Except Numeric.Overflow Reply × Workshop :=
  if r.method = "OPTIONS" then (.ok (.empty 200), w)
  else
    match Endpoint.ofPath r.path with
    | none => (.ok (.empty 404), w)
    | some e =>
      let head := r.method = "HEAD"
      match e.handling r (if head then "GET" else r.method) with
      | none => (.ok (.empty 405), w)
      | some h =>
        let (res, w') := h w today
        (if head then res.map fun rep => { rep with body := "" } else res, w')

end RepairDesk.Http
