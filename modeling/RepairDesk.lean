import RepairDesk.Text.Blank
import RepairDesk.Text.CodeRange
import RepairDesk.Text.Printable
import RepairDesk.Text.GraphemeExtend
import RepairDesk.Numeric.Binary64
import RepairDesk.Identifier.Uuid
import RepairDesk.Calendar.Date
import RepairDesk.Calendar.Instant
import RepairDesk.Json.Basic
import RepairDesk.Json.Render
import RepairDesk.Json.Read
import RepairDesk.Json.Decode
import RepairDesk.Json.Stream
import RepairDesk.Numeric.Checked
import RepairDesk.Report.Status
import RepairDesk.Order.Status
import RepairDesk.Error
import RepairDesk.Actor
import RepairDesk.Report.Basic
import RepairDesk.Order.Basic
import RepairDesk.Coupon.Basic
import RepairDesk.Payment.Basic
import RepairDesk.Outbox.Event
import RepairDesk.Audit
import RepairDesk.Store.Change
import RepairDesk.Store.Basic
import RepairDesk.Operation
import RepairDesk.Coupon.Usage
import RepairDesk.Payment.Catalogue
import RepairDesk.Coupon.Catalogue
import RepairDesk.Order.Booking
import RepairDesk.Report.Workflow
import RepairDesk.Workshop
import RepairDesk.Outbox.Relay
import RepairDesk.Config
import RepairDesk.Json.Record
import RepairDesk.Wire.Entity
import RepairDesk.Wire.Request
import RepairDesk.Store.Row
import RepairDesk.Wire.Row
import RepairDesk.Http.Message
import RepairDesk.Http.Route
import RepairDesk.Http.Serve
import RepairDesk.Proofs.Tables
import RepairDesk.Proofs.Commit
import RepairDesk.Proofs.Plans
import RepairDesk.Proofs.Pricing
import RepairDesk.Proofs.Service
import RepairDesk.Proofs.Keys
import RepairDesk.Proofs.Lifecycle
import RepairDesk.Proofs.CouponLedger
import RepairDesk.Proofs.Consistency
import RepairDesk.Proofs.Booking
import RepairDesk.Proofs.Workflow
import RepairDesk.Proofs.Catalogue
import RepairDesk.Proofs.Invariants
import RepairDesk.Proofs.Staging
import RepairDesk.Proofs.Interleaving
import RepairDesk.Proofs.Uniqueness
import RepairDesk.Proofs.Acceptance
import RepairDesk.Proofs.Refusals
import RepairDesk.Proofs.AuditTrail
import RepairDesk.Proofs.Completion
import RepairDesk.Proofs.Access
import RepairDesk.Proofs.Listing
import RepairDesk.Proofs.MethodReferences
import RepairDesk.Proofs.StaleSnapshots
import RepairDesk.Proofs.ReportFields
import RepairDesk.Proofs.Progression
import RepairDesk.Proofs.Delivery
import RepairDesk.Proofs.Overflow
import RepairDesk.Proofs.Headroom
import RepairDesk.Proofs.OverflowFreedom
import RepairDesk.Proofs.ReportMoves
import RepairDesk.Proofs.CouponStaging
import RepairDesk.Proofs.RowChecks
import RepairDesk.Proofs.Footprints
import RepairDesk.Proofs.Trimming
import RepairDesk.Proofs.TagParsing
import RepairDesk.Proofs.CodeFormats
