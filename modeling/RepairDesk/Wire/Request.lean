import RepairDesk.Json.Record
import RepairDesk.Payment.Catalogue
import RepairDesk.Coupon.Catalogue
import RepairDesk.Report.Workflow

namespace RepairDesk

namespace PaymentMethodRequest

def reader : RecordReader PaymentMethodRequest where
  shape :=
    { name := "struct PaymentMethodRequest"
      fields := [("name", .text),
        ("method_type", .choice (PaymentKind.all.map PaymentKind.code)), ("provider", .text),
        ("account_number", .text), ("account_name", .text)] }
  build
    | [.text name, kind, .text provider, .text accountNumber, .text accountName] =>
      (kind.pick? PaymentKind.all).map fun kind =>
        { name, kind, provider, accountNumber, accountName }
    | _ => none

end PaymentMethodRequest

namespace CouponRequest

def reader : RecordReader CouponRequest where
  shape :=
    { name := "struct CouponRequest"
      fields := [("code", .text), ("discount_amount", .int64), ("max_usage", .int32),
        ("valid_until", .optional .date)] }
  build
    | [.text code, .int discountAmount, .int maxUsage, validUntil] =>
      some { code, discountAmount, maxUsage, validUntil := validUntil.date? }
    | _ => none

end CouponRequest

namespace OrderDetails

def fields : List (String × FieldShape) :=
  [("item_name", .text), ("item_condition", .text), ("issue_description", .text),
    ("desired_service_date", .date), ("payment_method_id", .uuid),
    ("coupon_code", .optional .text)]

def build : List FieldValue → Option OrderDetails
  | [.text itemName, .text itemCondition, .text issueDescription, .date desiredServiceDate,
      .uuid paymentMethodId, couponCode] =>
    some { itemName, itemCondition, issueDescription, desiredServiceDate, paymentMethodId,
           couponCode := couponCode.text? }
  | _ => none

def reader : RecordReader OrderDetails :=
  ⟨{ name := "struct RepairOrderDetails", fields }, build⟩

end OrderDetails

namespace OrderRequest

def reader : RecordReader OrderRequest where
  shape :=
    { name := "struct CreateRepairOrderRequest", fields := [("technician_id", .uuid)],
      flattened := some OrderDetails.fields }
  build
    | .uuid technicianId :: rest => (OrderDetails.build rest).map fun details =>
      { technicianId, details }
    | _ => none

end OrderRequest

namespace DraftFields

def fields : List (String × FieldShape) :=
  [("diagnosis", .optional .text), ("action_plan", .optional .text),
    ("estimated_cost", .optional .int64), ("estimated_time_seconds", .optional .int64)]

def build : List FieldValue → Option DraftFields
  | [diagnosis, actionPlan, estimatedCost, estimatedTimeSeconds] =>
    some { diagnosis := diagnosis.text?, actionPlan := actionPlan.text?,
           estimatedCost := estimatedCost.int?, estimatedTimeSeconds := estimatedTimeSeconds.int? }
  | _ => none

def reader : RecordReader DraftFields :=
  ⟨{ name := "struct ReportDraftFields", fields }, build⟩

end DraftFields

namespace DraftRequest

def reader : RecordReader DraftRequest where
  shape :=
    { name := "struct CreateReportDraftRequest", fields := [("repair_order_id", .uuid)],
      flattened := some DraftFields.fields }
  build
    | .uuid repairOrderId :: rest => (DraftFields.build rest).map fun fields =>
      { repairOrderId, fields }
    | _ => none

end DraftRequest

end RepairDesk
