import RepairDesk.Operation

namespace RepairDesk

def maxPaymentTextLength : Nat := 100

/-- The fields of a payment method as a caller gives them. -/
structure PaymentMethodRequest where
  name : String
  kind : PaymentKind
  provider : String
  accountNumber : String
  accountName : String
  deriving DecidableEq

namespace PaymentKind

/-- The least and greatest number of digits of an account number. -/
def accountDigits : PaymentKind → Nat × Nat
  | .bankTransfer => (10, 16)
  | .eWallet => (10, 23)

def accountRule : PaymentKind → String
  | .bankTransfer => "Bank account number must be 10-16 digits"
  | .eWallet => "Virtual account number must be 10-23 digits"

/-- Is this, once trimmed, an account number of this kind? -/
def isAccountNumber (kind : PaymentKind) (number : String) : Bool :=
  let n := Text.trimBlank number
  let (least, most) := kind.accountDigits
  decide (least ≤ n.length ∧ n.length ≤ most) && n.toList.all Char.isDigit

end PaymentKind

namespace PaymentMethodRequest

def validate (r : PaymentMethodRequest) : Except WorkflowError Unit := do
  requireText "Name" r.name maxPaymentTextLength
  requireText "Provider" r.provider maxPaymentTextLength
  requireText "Account name" r.accountName maxPaymentTextLength
  if !r.kind.isAccountNumber r.accountNumber then invalid r.kind.accountRule

end PaymentMethodRequest

namespace PaymentMethod

def requireAdmin : Actor → Except WorkflowError Unit :=
  requireRole .admin "manage payment methods"

def load (s : Store) (id : Uuid) : Except WorkflowError PaymentMethod :=
  found .paymentMethod id.render (s.findPaymentMethod? id)

def withRequest (m : PaymentMethod) (r : PaymentMethodRequest) : PaymentMethod :=
  { m with name := Text.trimBlank r.name, kind := r.kind, provider := Text.trimBlank r.provider,
           accountNumber := Text.trimBlank r.accountNumber,
           accountName := Text.trimBlank r.accountName }

def create (actor : Actor) (r : PaymentMethodRequest) : Operation PaymentMethod := fun ctx _ => do
  requireAdmin actor
  r.validate
  let m : PaymentMethod :=
    withRequest { id := ctx.freshId, name := "", kind := r.kind, provider := "",
                  accountNumber := "", accountName := "", version := 0,
                  createdAt := ctx.now, updatedAt := ctx.now } r
  pure ⟨[.insertPaymentMethod m], m, []⟩

def update (actor : Actor) (id : Uuid) (r : PaymentMethodRequest) : Operation PaymentMethod :=
  fun ctx s => do
    requireAdmin actor
    r.validate
    let m ← load s id
    let (cs, m) ← ChangeSet.updatePaymentMethod [] ctx.now (m.withRequest r)
    pure ⟨cs, m, []⟩

def delete (actor : Actor) (id : Uuid) : Operation Unit := fun _ s => do
  requireAdmin actor
  let m ← load s id
  if s.paymentMethodInUse m.id then
    throw (.refused (.validation
      ("Payment method " ++ m.id.render ++ " is still used by a repair order")))
  pure ⟨[.deletePaymentMethod m.id m.version], (), []⟩

def get (_actor : Actor) (id : Uuid) : Operation PaymentMethod := fun _ s => do
  let m ← load s id
  pure (.answering m)

def list (_actor : Actor) : Operation (List PaymentMethod) := fun _ s =>
  pure (.answering s.paymentMethodsByCreation)

end PaymentMethod

end RepairDesk
