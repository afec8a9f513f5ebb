import RepairDesk.Json.Record
import RepairDesk.Json.Render
import RepairDesk.Report.Basic
import RepairDesk.Order.Basic
import RepairDesk.Coupon.Basic
import RepairDesk.Payment.Basic
import RepairDesk.Outbox.Event
import RepairDesk.Audit

namespace RepairDesk

namespace Json

def uuid (u : Uuid) : Json := .string u.render

def date (d : Date) : Json := .string d.render

def instant (t : Instant) : Json := .string t.render

end Json

namespace Coupon

def toJson (c : Coupon) : Json :=
  .object [("id", .uuid c.id), ("code", .string c.code),
    ("discount_amount", .int c.discountAmount), ("max_usage", .int c.maxUsage),
    ("usage_count", .int c.usageCount), ("valid_until", .opt .date c.validUntil),
    ("version", .int c.version), ("created_at", .instant c.createdAt),
    ("updated_at", .instant c.updatedAt)]

def reader : RecordReader Coupon where
  shape :=
    { name := "struct Coupon"
      fields := [("id", .uuid), ("code", .text), ("discount_amount", .int64),
        ("max_usage", .int32), ("usage_count", .int32), ("valid_until", .optional .date),
        ("version", .int64), ("created_at", .instant), ("updated_at", .instant)] }
  build
    | [.uuid id, .text code, .int discountAmount, .int maxUsage, .int usageCount, validUntil,
        .int version, .instant createdAt, .instant updatedAt] =>
      some { id, code, discountAmount, maxUsage, usageCount, validUntil := validUntil.date?,
             version, createdAt, updatedAt }
    | _ => none

end Coupon

namespace PaymentMethod

def toJson (m : PaymentMethod) : Json :=
  .object [("id", .uuid m.id), ("name", .string m.name), ("method_type", .string m.kind.code),
    ("provider", .string m.provider), ("account_number", .string m.accountNumber),
    ("account_name", .string m.accountName), ("version", .int m.version),
    ("created_at", .instant m.createdAt), ("updated_at", .instant m.updatedAt)]

def reader : RecordReader PaymentMethod where
  shape :=
    { name := "struct PaymentMethod"
      fields := [("id", .uuid), ("name", .text),
        ("method_type", .choice (PaymentKind.all.map PaymentKind.code)), ("provider", .text),
        ("account_number", .text), ("account_name", .text), ("version", .int64),
        ("created_at", .instant), ("updated_at", .instant)] }
  build
    | [.uuid id, .text name, kind, .text provider, .text accountNumber, .text accountName,
        .int version, .instant createdAt, .instant updatedAt] =>
      (kind.pick? PaymentKind.all).map fun kind =>
        { id, name, kind, provider, accountNumber, accountName, version, createdAt, updatedAt }
    | _ => none

end PaymentMethod

namespace RepairOrder

def toJson (o : RepairOrder) : Json :=
  .object [("id", .uuid o.id), ("customer_id", .uuid o.customerId),
    ("technician_id", .uuid o.technicianId), ("status", .string o.status.code),
    ("item_name", .string o.itemName), ("item_condition", .string o.itemCondition),
    ("issue_description", .string o.issueDescription),
    ("desired_service_date", .date o.desiredServiceDate),
    ("payment_method_id", .uuid o.paymentMethodId), ("coupon_id", .opt .uuid o.couponId),
    ("version", .int o.version), ("created_at", .instant o.createdAt),
    ("updated_at", .instant o.updatedAt)]

def reader : RecordReader RepairOrder where
  shape :=
    { name := "struct RepairOrder"
      fields := [("id", .uuid), ("customer_id", .uuid), ("technician_id", .uuid),
        ("status", .choice (OrderStatus.all.map OrderStatus.code)), ("item_name", .text),
        ("item_condition", .text), ("issue_description", .text),
        ("desired_service_date", .date), ("payment_method_id", .uuid),
        ("coupon_id", .optional .uuid), ("version", .int64), ("created_at", .instant),
        ("updated_at", .instant)] }
  build
    | [.uuid id, .uuid customerId, .uuid technicianId, status, .text itemName,
        .text itemCondition, .text issueDescription, .date desiredServiceDate,
        .uuid paymentMethodId, couponId, .int version, .instant createdAt, .instant updatedAt] =>
      (status.pick? OrderStatus.all).map fun status =>
        { id, customerId, technicianId, status, itemName, itemCondition, issueDescription,
          desiredServiceDate, paymentMethodId, couponId := couponId.uuid?, version, createdAt,
          updatedAt }
    | _ => none

end RepairOrder

namespace TechnicianReport

def toJson (r : TechnicianReport) : Json :=
  .object [("report_id", .uuid r.reportId), ("repair_order_id", .uuid r.repairOrderId),
    ("technician_id", .uuid r.technicianId), ("diagnosis", .opt .string r.diagnosis),
    ("action_plan", .opt .string r.actionPlan), ("estimated_cost", .opt .int r.estimatedCost),
    ("estimated_time_seconds", .opt .int r.estimatedTimeSeconds),
    ("status", .string r.status.code), ("version", .int r.version),
    ("last_updated_at", .instant r.lastUpdatedAt)]

def reader : RecordReader TechnicianReport where
  shape :=
    { name := "struct TechnicianReport"
      fields := [("report_id", .uuid), ("repair_order_id", .uuid), ("technician_id", .uuid),
        ("diagnosis", .optional .text), ("action_plan", .optional .text),
        ("estimated_cost", .optional .int64), ("estimated_time_seconds", .optional .int64),
        ("status", .choice (ReportStatus.all.map ReportStatus.code)), ("version", .int64),
        ("last_updated_at", .instant)] }
  build
    | [.uuid reportId, .uuid repairOrderId, .uuid technicianId, diagnosis, actionPlan,
        estimatedCost, estimatedTimeSeconds, status, .int version, .instant lastUpdatedAt] =>
      (status.pick? ReportStatus.all).map fun status =>
        { reportId, repairOrderId, technicianId, diagnosis := diagnosis.text?,
          actionPlan := actionPlan.text?, estimatedCost := estimatedCost.int?,
          estimatedTimeSeconds := estimatedTimeSeconds.int?, status, version, lastUpdatedAt }
    | _ => none

end TechnicianReport

def ReportView.toJson (v : ReportView) : Json :=
  .object [("report_id", .uuid v.reportId), ("repair_order_id", .uuid v.repairOrderId),
    ("technician_id", .uuid v.technicianId), ("diagnosis", .opt .string v.diagnosis),
    ("action_plan", .opt .string v.actionPlan), ("estimated_cost", .opt .int v.estimatedCost),
    ("estimated_time_seconds", .opt .int v.estimatedTimeSeconds),
    ("status", .string v.status.code), ("last_updated_at", .instant v.lastUpdatedAt)]

def CompletionEvent.toJson (e : CompletionEvent) : Json :=
  .object [("repairOrderId", .uuid e.repairOrderId), ("technicianId", .uuid e.technicianId),
    ("amount", .int e.amount), ("completedAt", .instant e.completedAt)]

def AuditEntry.toJson (e : AuditEntry) : Json :=
  .object [("action", .string e.action.code), ("report_id", .uuid e.reportId),
    ("actor_id", .uuid e.actorId)]

end RepairDesk
