import RepairDesk.Order.Booking

/-! The report workflow: drafting, editing, submitting, deciding, starting and completing work, and
reading reports. -/

namespace RepairDesk

/-- Report fields as a caller gives them; an absent field is left as it is. -/
structure DraftFields where
  diagnosis : Option String := none
  actionPlan : Option String := none
  estimatedCost : Option Int := none
  estimatedTimeSeconds : Option Int := none
  deriving DecidableEq

/-- A new draft: the order reported on, and its first fields. -/
structure DraftRequest where
  repairOrderId : Uuid
  fields : DraftFields
  deriving DecidableEq

namespace DraftFields

def validate (f : DraftFields) : Except WorkflowError Unit := do
  if f.diagnosis.any (·.length > maxDiagnosisLength) then
    invalid ("Diagnosis must be at most " ++ toString maxDiagnosisLength ++ " characters")
  if f.actionPlan.any (·.length > maxActionPlanLength) then
    invalid ("Action plan must be at most " ++ toString maxActionPlanLength ++ " characters")
  if f.estimatedCost.any (· < 0) then invalid "Estimated cost cannot be negative"
  if f.estimatedTimeSeconds.any (· ≤ 0) then invalid "Estimated time must be positive"

end DraftFields

namespace TechnicianReport

def merge (r : TechnicianReport) (f : DraftFields) : TechnicianReport :=
  { r with diagnosis := f.diagnosis.or r.diagnosis, actionPlan := f.actionPlan.or r.actionPlan,
           estimatedCost := f.estimatedCost.or r.estimatedCost,
           estimatedTimeSeconds := f.estimatedTimeSeconds.or r.estimatedTimeSeconds }

def requireTechnician : Actor → Except WorkflowError Unit :=
  requireRole .technician "act on technician reports"

def requireCustomer : Actor → Except WorkflowError Unit :=
  requireRole .customer "decide on a submitted report"

def load (s : Store) (id : Uuid) : Except WorkflowError TechnicianReport :=
  found .technicianReport id.render (s.findReport? id)

def ensureOwner (actor : Actor) (r : TechnicianReport) : Except WorkflowError Unit :=
  if r.technicianId = actor.id then .ok () else forbidden "This report belongs to another technician"

def loadOwned (s : Store) (actor : Actor) (id : Uuid) : Except WorkflowError TechnicianReport := do
  requireTechnician actor
  let r ← load s id
  ensureOwner actor r
  pure r

def audited (action : AuditAction) (r : TechnicianReport) (actor : Actor) : List AuditEntry :=
  [⟨action, r.reportId, actor.id⟩]

/-! ### Drafts -/

/-- Drafts a report; the order's version is raised so that a concurrent change of the order
fails rather than leave the draft behind. -/
def createDraft (actor : Actor) (req : DraftRequest) : Operation TechnicianReport :=
  fun ctx s => do
    requireTechnician actor
    let o ← RepairOrder.load s req.repairOrderId
    if o.technicianId ≠ actor.id then
      forbidden "Only the assigned technician can report on this repair order"
    if o.status ≠ .pendingConfirmation then throw (.refused (.orderState .draftReport o.id o.status))
    if s.hasActiveReport o.id then
      invalid ("Repair order " ++ o.id.render ++ " already has an active report")
    req.fields.validate
    let r := (draft ctx.freshId o.id actor.id ctx.now).merge req.fields
    let (cs, _) ← ChangeSet.updateOrder [] ctx.now o
    pure ⟨cs ++ [.insertReport r], r, audited .createDraft r actor⟩

def updateDraft (actor : Actor) (id : Uuid) (f : DraftFields) : Operation TechnicianReport :=
  fun ctx s => do
    let r ← loadOwned s actor id
    r.status.ensureModifiable .update
    f.validate
    let (cs, r) ← ChangeSet.updateReport [] { r.merge f with lastUpdatedAt := ctx.now }
    pure ⟨cs, r, audited .updateDraft r actor⟩

def deleteDraft (actor : Actor) (id : Uuid) : Operation Unit := fun _ s => do
  let r ← loadOwned s actor id
  r.status.ensureModifiable .delete
  pure ⟨[.deleteReport r.reportId r.version], (), audited .deleteDraft r actor⟩

/-! ### Moves -/

def submit (actor : Actor) (id : Uuid) : Operation TechnicianReport := fun ctx s => do
  let r ← loadOwned s actor id
  let r ← r.apply .submit ctx.now
  let (cs, r) ← ChangeSet.updateReport [] r
  pure ⟨cs, r, audited .submitDraft r actor⟩

def decide (action : ReportAction) (actor : Actor) (id : Uuid) : Operation TechnicianReport :=
  fun ctx s => do
    requireCustomer actor
    let r ← load s id
    let o ← RepairOrder.load s r.repairOrderId
    if o.customerId ≠ actor.id then
      forbidden "Only the customer who placed the repair order can decide on its report"
    let r ← r.apply action ctx.now
    let (cs, r) ← ChangeSet.updateReport [] r
    let entry := if action = .reject then AuditAction.rejectSubmission else .acceptSubmission
    pure ⟨cs, r, audited entry r actor⟩

def accept : Actor → Uuid → Operation TechnicianReport := decide .approve

def reject : Actor → Uuid → Operation TechnicianReport := decide .reject

def startWork (actor : Actor) (id : Uuid) : Operation TechnicianReport := fun ctx s => do
  let r ← loadOwned s actor id
  let o ← RepairOrder.load s r.repairOrderId
  let r ← r.apply .startWork ctx.now
  let o ← o.advance .inProgress
  let (cs, r) ← ChangeSet.updateReport [] r
  let (cs, _) ← ChangeSet.updateOrder cs ctx.now o
  pure ⟨cs, r, audited .startWork r actor⟩

def completeWork (actor : Actor) (id : Uuid) : Operation TechnicianReport := fun ctx s => do
  let r ← loadOwned s actor id
  let o ← RepairOrder.load s r.repairOrderId
  let r ← r.apply .complete ctx.now
  let o ← o.advance .completed
  let event : CompletionEvent :=
    { repairOrderId := o.id, technicianId := r.technicianId,
      amount := r.estimatedCost.getD 0, completedAt := r.lastUpdatedAt }
  let (cs, r) ← ChangeSet.updateReport [] r
  let (cs, _) ← ChangeSet.updateOrder cs ctx.now o
  pure ⟨cs ++ [.enqueue ⟨ctx.freshId, event, ctx.now⟩], r, audited .completeWork r actor⟩

/-! ### Reading -/

/-- The discount of a coupon; a coupon deleted since it was attached discounts nothing. -/
def couponDiscount (s : Store) (couponId : Option Uuid) : Int :=
  match couponId.bind s.findCoupon? with
  | some c => c.discountAmount
  | none => 0

def customerView (s : Store) (o : RepairOrder) (r : TechnicianReport) :
    Except Numeric.Overflow ReportView :=
  r.view.withDiscount (couponDiscount s o.couponId)

/-- The discount of an order's coupon, through the discounts already looked up in this call:
each coupon is looked up once and remembered. -/
def memoDiscount (s : Store) (memo : List (Uuid × Int)) :
    Option Uuid → Int × List (Uuid × Int)
  | none => (0, memo)
  | some id =>
    match memo.lookup id with
    | some d => (d, memo)
    | none =>
      let d := couponDiscount s (some id)
      (d, (id, d) :: memo)

/-- Reports priced against their orders among `orders`; a report whose order is not among them
is left out. -/
def priceReports (s : Store) (orders : List RepairOrder) :
    List TechnicianReport → List (Uuid × Int) → Except Failure (List ReportView)
  | [], _ => pure []
  | r :: rest, memo =>
    match orders.find? (·.id == r.repairOrderId) with
    | none => priceReports s orders rest memo
    | some o => do
      let (d, memo) := memoDiscount s memo o.couponId
      let v ← r.view.withDiscount d
      let vs ← priceReports s orders rest memo
      pure (v :: vs)

def customerViews (s : Store) (customer : Uuid) (status : ReportStatus) :
    Except Failure (List ReportView) :=
  let reports := s.reportsOfCustomer customer status
  if reports.isEmpty then pure []
  else priceReports s (s.ordersOfCustomer customer) reports []

/-- The reports in a stage that the caller may see. -/
def listByStatus (actor : Actor) (status : ReportStatus) : Operation (List ReportView) :=
  fun _ s =>
    match actor.role with
    | .technician => pure (.answering ((s.reportsOfTechnician actor.id status).map view))
    | .customer => do
      if !status.customerCanSee then
        invalid "Only report above Draft can be seen by Customer"
      let views ← customerViews s actor.id status
      pure (.answering views)
    | .admin => pure (.answering ((s.reportsWithStatus status).map view))

def get (actor : Actor) (id : Uuid) : Operation ReportView := fun _ s => do
  let r ← load s id
  match actor.role with
  | .technician => do
    ensureOwner actor r
    pure (.answering r.view)
  | .customer => do
    let o ← RepairOrder.load s r.repairOrderId
    if o.customerId ≠ actor.id then
      forbidden "This report belongs to another customer's repair order"
    if !r.status.customerCanSee then
      forbidden "Only report above Draft can be seen by Customer"
    let v ← customerView s o r
    pure (.answering v)
  | .admin => pure (.answering r.view)

def incomingOrders (actor : Actor) : Operation (List RepairOrder) := fun _ s => do
  requireTechnician actor
  pure (.answering ((s.ordersOfTechnician actor.id).filter (·.status == .pendingConfirmation)))

end TechnicianReport

end RepairDesk
