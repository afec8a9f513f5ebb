import RepairDesk.Store.Change

/-! The store and its commit: each change is applied to the store the change before it left, and
the first refusal refuses the whole set. -/

namespace RepairDesk

/-- The stored tables. -/
structure Store where
  orders : List RepairOrder := []
  coupons : List Coupon := []
  paymentMethods : List PaymentMethod := []
  reports : List TechnicianReport := []
  outbox : List OutboxMessage := []
  published : Nat := 0
  deriving DecidableEq

namespace Store

def empty : Store := {}

/-! ### Reading -/

def findOrder? (s : Store) (id : Uuid) : Option RepairOrder :=
  s.orders.find? (·.id == id)

def findCoupon? (s : Store) (id : Uuid) : Option Coupon :=
  s.coupons.find? (·.id == id)

def findCouponByCode? (s : Store) (code : String) : Option Coupon :=
  s.coupons.find? (·.code == code)

def findPaymentMethod? (s : Store) (id : Uuid) : Option PaymentMethod :=
  s.paymentMethods.find? (·.id == id)

def findReport? (s : Store) (id : Uuid) : Option TechnicianReport :=
  s.reports.find? (·.reportId == id)

def byCreation (os : List RepairOrder) : List RepairOrder :=
  os.mergeSort fun a b => a.createdAt ≤ b.createdAt

def byLastUpdate (rs : List TechnicianReport) : List TechnicianReport :=
  rs.mergeSort fun a b => a.lastUpdatedAt ≤ b.lastUpdatedAt

def ordersOfCustomer (s : Store) (customerId : Uuid) : List RepairOrder :=
  byCreation (s.orders.filter (·.customerId == customerId))

def ordersOfTechnician (s : Store) (technicianId : Uuid) : List RepairOrder :=
  byCreation (s.orders.filter (·.technicianId == technicianId))

def couponsByCode (s : Store) : List Coupon :=
  s.coupons.mergeSort fun a b => decide (a.code ≤ b.code)

def paymentMethodsByCreation (s : Store) : List PaymentMethod :=
  s.paymentMethods.mergeSort fun a b => a.createdAt ≤ b.createdAt

def paymentMethodInUse (s : Store) (id : Uuid) : Bool :=
  s.orders.any (·.paymentMethodId == id)

def reportsOfTechnician (s : Store) (technicianId : Uuid) (status : ReportStatus) :
    List TechnicianReport :=
  byLastUpdate (s.reports.filter fun r => r.technicianId == technicianId && r.status == status)

def reportsWithStatus (s : Store) (status : ReportStatus) : List TechnicianReport :=
  byLastUpdate (s.reports.filter (·.status == status))

def reportsOfCustomer (s : Store) (customerId : Uuid) (status : ReportStatus) :
    List TechnicianReport :=
  byLastUpdate (s.reports.filter fun r =>
    r.status == status &&
      (s.findOrder? r.repairOrderId).any (·.customerId == customerId))

/-- Does an order have a report that is not rejected? -/
def hasActiveReport (s : Store) (orderId : Uuid) : Bool :=
  s.reports.any fun r => r.repairOrderId == orderId && r.status != .rejected

def pendingOutbox (s : Store) (limit : Nat) : List OutboxMessage :=
  s.outbox.take limit

def markPublished (s : Store) (id : Uuid) : Store :=
  if s.outbox.any (·.id == id) then
    { s with outbox := s.outbox.eraseP (·.id == id), published := s.published + 1 }
  else s

/-! ### Writing -/

/-- Refuses a write whose row has moved on, or is gone. -/
def checkVersion (entity : Entity) (id : Uuid) (current : Option Int) (expected : Int) :
    Except StoreError Unit :=
  if current = some expected then .ok () else .error (.conflict entity id)

/-- Refuses a coupon whose code another coupon has. -/
def checkCouponCode (s : Store) (c : Coupon) : Except StoreError Unit :=
  if s.coupons.any fun other => other.id != c.id && other.code == c.code then
    .error (.duplicate ("Coupon code " ++ c.code ++ " already exists"))
  else .ok ()

/-- Refuses a report that is not rejected when its order has another such report. -/
def checkSingleActiveReport (s : Store) (r : TechnicianReport) : Except StoreError Unit :=
  if r.status == .rejected then .ok ()
  else if s.reports.any fun other =>
      other.reportId != r.reportId && other.repairOrderId == r.repairOrderId &&
        other.status != .rejected then
    .error (.duplicate
      ("Repair order " ++ r.repairOrderId.render ++ " already has an active technician report"))
  else .ok ()

def replaceBy {α : Type} (key : α → Uuid) (row : α) (rows : List α) : List α :=
  rows.map fun r => if key r == key row then row else r

def apply (s : Store) : Change → Except StoreError Store
  | .insertOrder o =>
    if (s.findOrder? o.id).isSome then
      .error (.duplicate ("Repair order " ++ o.id.render ++ " already exists"))
    else .ok { s with orders := s.orders ++ [o] }
  | .updateOrder o expected => do
    checkVersion .repairOrder o.id ((s.findOrder? o.id).map (·.version)) expected
    pure { s with orders := replaceBy (·.id) o s.orders }
  | .deleteOrder id expected => do
    checkVersion .repairOrder id ((s.findOrder? id).map (·.version)) expected
    pure { s with orders := s.orders.filter (·.id != id) }
  | .insertCoupon c => do
    if (s.findCoupon? c.id).isSome then
      throw (.duplicate ("Coupon " ++ c.id.render ++ " already exists"))
    s.checkCouponCode c
    pure { s with coupons := s.coupons ++ [c] }
  | .updateCoupon c expected => do
    checkVersion .coupon c.id ((s.findCoupon? c.id).map (·.version)) expected
    s.checkCouponCode c
    pure { s with coupons := replaceBy (·.id) c s.coupons }
  | .deleteCoupon id expected => do
    checkVersion .coupon id ((s.findCoupon? id).map (·.version)) expected
    pure { s with coupons := s.coupons.filter (·.id != id) }
  | .insertPaymentMethod m =>
    if (s.findPaymentMethod? m.id).isSome then
      .error (.duplicate ("Payment method " ++ m.id.render ++ " already exists"))
    else .ok { s with paymentMethods := s.paymentMethods ++ [m] }
  | .updatePaymentMethod m expected => do
    checkVersion .paymentMethod m.id ((s.findPaymentMethod? m.id).map (·.version)) expected
    pure { s with paymentMethods := replaceBy (·.id) m s.paymentMethods }
  | .deletePaymentMethod id expected => do
    checkVersion .paymentMethod id ((s.findPaymentMethod? id).map (·.version)) expected
    pure { s with paymentMethods := s.paymentMethods.filter (·.id != id) }
  | .insertReport r => do
    if (s.findReport? r.reportId).isSome then
      throw (.duplicate ("Technician report " ++ r.reportId.render ++ " already exists"))
    s.checkSingleActiveReport r
    pure { s with reports := s.reports ++ [r] }
  | .updateReport r expected => do
    checkVersion .technicianReport r.reportId ((s.findReport? r.reportId).map (·.version))
      expected
    s.checkSingleActiveReport r
    pure { s with reports := replaceBy (·.reportId) r s.reports }
  | .deleteReport id expected => do
    checkVersion .technicianReport id ((s.findReport? id).map (·.version)) expected
    pure { s with reports := s.reports.filter (·.reportId != id) }
  | .enqueue m => .ok { s with outbox := s.outbox ++ [m] }

/-- Applies the changes in order; the first refusal refuses them all. -/
def commit (s : Store) (cs : ChangeSet) : Except StoreError Store :=
  cs.foldlM apply s

@[simp] theorem commit_nil (s : Store) : s.commit [] = .ok s := rfl

theorem commit_cons (s : Store) (c : Change) (cs : ChangeSet) :
    s.commit (c :: cs) = (s.apply c).bind fun t => t.commit cs := by
  simp only [commit, List.foldlM_cons]
  rfl

theorem commit_append (s : Store) (cs₁ cs₂ : ChangeSet) :
    s.commit (cs₁ ++ cs₂) = (s.commit cs₁).bind fun t => t.commit cs₂ := by
  simp only [commit, List.foldlM_append]
  rfl

end Store

end RepairDesk
