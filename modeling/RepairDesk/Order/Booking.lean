import RepairDesk.Coupon.Usage

namespace RepairDesk

def maxItemNameLength : Nat := 100
def maxItemConditionLength : Nat := 100
def maxIssueDescriptionLength : Nat := 500

/-- The fields of an order that its customer chooses. -/
structure OrderDetails where
  itemName : String
  itemCondition : String
  issueDescription : String
  desiredServiceDate : Date
  paymentMethodId : Uuid
  couponCode : Option String
  deriving DecidableEq

/-- A booking: the technician and the details. -/
structure OrderRequest where
  technicianId : Uuid
  details : OrderDetails
  deriving DecidableEq

namespace OrderDetails

def validate (d : OrderDetails) (today : Date) : Except WorkflowError Unit := do
  requireText "Item name" d.itemName maxItemNameLength
  requireText "Item condition" d.itemCondition maxItemConditionLength
  requireText "Issue description" d.issueDescription maxIssueDescriptionLength
  if d.desiredServiceDate < today then invalid "Desired service date cannot be in the past"

end OrderDetails

namespace RepairOrder

def requireCustomer : Actor → Except WorkflowError Unit :=
  requireRole .customer "manage repair orders"

def load (s : Store) (id : Uuid) : Except WorkflowError RepairOrder :=
  found .repairOrder id.render (s.findOrder? id)

def ensurePaymentMethod (s : Store) (id : Uuid) : Except WorkflowError Unit :=
  if (s.findPaymentMethod? id).isSome then .ok () else invalid "Invalid payment method"

def loadCouponByCode (s : Store) (code : String) : Except WorkflowError Coupon :=
  let code := Text.trimBlank code
  found .coupon code (s.findCouponByCode? code)

def withDetails (o : RepairOrder) (d : OrderDetails) : RepairOrder :=
  { o with itemName := Text.trimBlank d.itemName, itemCondition := Text.trimBlank d.itemCondition,
           issueDescription := Text.trimBlank d.issueDescription,
           desiredServiceDate := d.desiredServiceDate, paymentMethodId := d.paymentMethodId }

def create (actor : Actor) (r : OrderRequest) : Operation RepairOrder := fun ctx s => do
  requireCustomer actor
  r.details.validate ctx.today
  ensurePaymentMethod s r.details.paymentMethodId
  let (cs, couponId) ← match r.details.couponCode with
    | some code => do
      let c ← loadCouponByCode s code
      let (cs, c) ← Coupon.stageApply [] c ctx.today ctx.now
      pure (cs, some c.id)
    | none => pure ([], none)
  let o : RepairOrder :=
    withDetails
      { id := ctx.freshId, customerId := actor.id, technicianId := r.technicianId,
        status := .pendingConfirmation, itemName := "", itemCondition := "",
        issueDescription := "", desiredServiceDate := r.details.desiredServiceDate,
        paymentMethodId := r.details.paymentMethodId, couponId, version := 0,
        createdAt := ctx.now, updatedAt := ctx.now } r.details
  pure ⟨cs ++ [.insertOrder o], o, []⟩

def listOwn (actor : Actor) : Operation (List RepairOrder) := fun _ s => do
  requireCustomer actor
  pure (.answering (s.ordersOfCustomer actor.id))

def isVisibleTo (o : RepairOrder) (actor : Actor) : Bool :=
  match actor.role with
  | .customer => o.customerId == actor.id
  | .technician => o.technicianId == actor.id
  | .admin => true

def get (actor : Actor) (id : Uuid) : Operation RepairOrder := fun _ s => do
  let o ← load s id
  if !o.isVisibleTo actor then
    throw (.refused (.authorization "This repair order belongs to someone else"))
  pure (.answering o)

/-- The caller's own order, still awaiting confirmation and not yet reported on. -/
def loadEditable (s : Store) (actor : Actor) (id : Uuid) : Except WorkflowError RepairOrder := do
  requireCustomer actor
  let o ← load s id
  if o.customerId ≠ actor.id then forbidden "This repair order belongs to someone else"
  if o.status ≠ .pendingConfirmation then throw (.orderState .change o.id o.status)
  if s.hasActiveReport o.id then
    invalid ("Repair order " ++ o.id.render ++ " already has a technician report")
  pure o

/-- Stages the coupon moves that changing an order's coupon needs, and gives the new coupon. -/
def stageCouponChange (s : Store) (today : Date) (now : Instant) (current : Option Uuid)
    (requested : Option Coupon) : Except Failure (ChangeSet × Option Uuid) :=
  match current, requested with
  | some cur, some new =>
    if cur = new.id then pure ([], some cur)
    else
      match s.findCoupon? cur with
      | some old => do
        let (cs, new, _) ← Coupon.stageSwap [] new old today now
        pure (cs, some new.id)
      | none => do
        let (cs, new) ← Coupon.stageApply [] new today now
        pure (cs, some new.id)
  | none, some new => do
    let (cs, new) ← Coupon.stageApply [] new today now
    pure (cs, some new.id)
  | some cur, none =>
    match s.findCoupon? cur with
    | some old => do
      let (cs, _) ← Coupon.stageRelease [] old now
      pure (cs, none)
    | none => pure ([], none)
  | none, none => pure ([], none)

/-- Changes an order's details and coupon. -/
def update (actor : Actor) (id : Uuid) (d : OrderDetails) : Operation RepairOrder :=
  fun ctx s => do
    let o ← loadEditable s actor id
    d.validate ctx.today
    if d.paymentMethodId ≠ o.paymentMethodId then ensurePaymentMethod s d.paymentMethodId
    let requested ← match d.couponCode with
      | some code => do
        let c ← loadCouponByCode s code
        pure (some c)
      | none => pure none
    let (cs, couponId) ← stageCouponChange s ctx.today ctx.now o.couponId requested
    let (cs, o) ← ChangeSet.updateOrder cs ctx.now { o.withDetails d with couponId }
    pure ⟨cs, o, []⟩

def delete (actor : Actor) (id : Uuid) : Operation Unit := fun ctx s => do
  let o ← loadEditable s actor id
  let cs ← match o.couponId.bind s.findCoupon? with
    | some c => do
      let (cs, _) ← Coupon.stageRelease [] c ctx.now
      pure cs
    | none => pure []
  pure ⟨cs ++ [.deleteOrder o.id o.version], (), []⟩

end RepairOrder

end RepairDesk
