import RepairDesk.Identifier.Uuid
import RepairDesk.Report.Status
import RepairDesk.Order.Status
import RepairDesk.Numeric.Checked

/-! Why an operation is refused: a workflow error, a store error a commit gives, or an overflow. -/

namespace RepairDesk

/-- The kinds of stored rows, as messages name them. -/
inductive Entity where
  | repairOrder
  | coupon
  | paymentMethod
  | technicianReport
  deriving DecidableEq

def Entity.name : Entity → String
  | .repairOrder => "repair order"
  | .coupon => "coupon"
  | .paymentMethod => "payment method"
  | .technicianReport => "technician report"

/-- What was to be done to a repair order when its stage did not allow it. -/
inductive OrderStep where
  | reopen
  | start
  | complete
  | draftReport
  | change
  deriving DecidableEq

def OrderStep.verb : OrderStep → String
  | .reopen => "reopen"
  | .start => "start"
  | .complete => "complete"
  | .draftReport => "draft a report for"
  | .change => "change"

/-- Why a workflow operation is refused. -/
inductive WorkflowError where
  | validation (message : String)
  | authorization (message : String)
  | stateTransition (action : ReportAction) (state : ReportStatus)
  | orderState (step : OrderStep) (orderId : Uuid) (status : OrderStatus)
  | notFound (entity : Entity) (key : String)
  | concurrencyConflict (entity : Entity) (id : Uuid)
  deriving DecidableEq

def WorkflowError.message : WorkflowError → String
  | .validation m => m
  | .authorization m => m
  | .stateTransition action state =>
    "cannot " ++ action.verb ++ " a report in " ++ state.code ++ " state"
  | .orderState step orderId status =>
    "cannot " ++ step.verb ++ " repair order " ++ orderId.render ++ " in " ++ status.code ++
      " state"
  | .notFound entity key => entity.name ++ " " ++ key ++ " not found"
  | .concurrencyConflict entity id =>
    entity.name ++ " " ++ id.render ++ " was modified concurrently, reload and try again"

/-- Why a commit is refused. -/
inductive StoreError where
  | conflict (entity : Entity) (id : Uuid)
  | duplicate (message : String)
  deriving DecidableEq

def StoreError.message : StoreError → String
  | .conflict entity id => entity.name ++ " " ++ id.render ++ " version conflict"
  | .duplicate m => m

/-- How a service reports a refused commit. -/
def StoreError.toWorkflow : StoreError → WorkflowError
  | .conflict entity id => .concurrencyConflict entity id
  | .duplicate m => .validation m

/-- Why an operation did not complete: a refusal, or a counter or version run past its word. -/
inductive Failure where
  | refused (e : WorkflowError)
  | overflow (o : Numeric.Overflow)
  deriving DecidableEq

def Failure.message : Failure → String
  | .refused e => e.message
  | .overflow o => o.message

instance : Coe WorkflowError Failure := ⟨.refused⟩

instance : Coe Numeric.Overflow Failure := ⟨.overflow⟩

end RepairDesk
