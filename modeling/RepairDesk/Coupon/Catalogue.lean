import RepairDesk.Operation

namespace RepairDesk

/-- The fields of a coupon as a caller gives them. -/
structure CouponRequest where
  code : String
  discountAmount : Int
  maxUsage : Int
  validUntil : Option Date
  deriving DecidableEq

/-- Is this a coupon code: 6 to 12 upper-case ASCII letters or digits? -/
def isCouponCode (code : String) : Bool :=
  decide (6 ≤ code.length ∧ code.length ≤ 12) &&
    code.toList.all fun c => c.isUpper || c.isDigit

namespace CouponRequest

def validate (r : CouponRequest) (today : Date) : Except WorkflowError Unit := do
  if !isCouponCode r.code then invalid "Coupon code must be 6-12 upper-case letters or digits"
  if r.discountAmount ≤ 0 then invalid "Discount amount must be positive"
  if r.maxUsage < 1 then invalid "Max usage must be at least 1"
  if r.validUntil.any (· < today) then invalid "Valid until cannot be in the past"

end CouponRequest

namespace Coupon

def requireAdmin : Actor → Except WorkflowError Unit :=
  requireRole .admin "manage coupons"

def load (s : Store) (id : Uuid) : Except WorkflowError Coupon :=
  found .coupon id.render (s.findCoupon? id)

/-- Refuses a code that a coupon other than `except` has. -/
def ensureCodeFree (s : Store) (code : String) (except : Option Uuid) :
    Except WorkflowError Unit :=
  match s.findCouponByCode? code with
  | some existing =>
    if some existing.id ≠ except then invalid ("Coupon code " ++ code ++ " already exists")
    else .ok ()
  | none => .ok ()

def create (actor : Actor) (r : CouponRequest) : Operation Coupon := fun ctx s => do
  requireAdmin actor
  r.validate ctx.today
  ensureCodeFree s r.code none
  let c : Coupon :=
    { id := ctx.freshId, code := r.code, discountAmount := r.discountAmount,
      maxUsage := r.maxUsage, usageCount := 0, validUntil := r.validUntil, version := 0,
      createdAt := ctx.now, updatedAt := ctx.now }
  pure ⟨[.insertCoupon c], c, []⟩

/-- Replaces a coupon's terms, keeping its uses. -/
def update (actor : Actor) (id : Uuid) (r : CouponRequest) : Operation Coupon := fun ctx s => do
  requireAdmin actor
  r.validate ctx.today
  let c ← load s id
  if r.maxUsage < c.usageCount then
    throw (.refused (.validation
      ("Max usage cannot be below the current usage count of " ++ toString c.usageCount)))
  if r.code ≠ c.code then ensureCodeFree s r.code (some c.id)
  let (cs, c) ← ChangeSet.updateCoupon [] ctx.now
    { c with code := r.code, discountAmount := r.discountAmount, maxUsage := r.maxUsage,
             validUntil := r.validUntil }
  pure ⟨cs, c, []⟩

def delete (actor : Actor) (id : Uuid) : Operation Unit := fun _ s => do
  requireAdmin actor
  let c ← load s id
  if c.usageCount > 0 then
    throw (.refused (.validation ("Coupon " ++ c.code ++ " is still applied to " ++
      toString c.usageCount ++ " repair order(s)")))
  pure ⟨[.deleteCoupon c.id c.version], (), []⟩

def get (actor : Actor) (id : Uuid) : Operation Coupon := fun _ s => do
  requireAdmin actor
  let c ← load s id
  pure (.answering c)

def list (_actor : Actor) : Operation (List Coupon) := fun _ s =>
  pure (.answering s.couponsByCode)

end Coupon

end RepairDesk
