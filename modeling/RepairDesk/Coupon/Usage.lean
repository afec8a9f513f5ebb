import RepairDesk.Operation

/-! The coupon usage counter, shared by every order carrying the coupon, so every write to it
goes through the coupon's version. -/

namespace RepairDesk

open Numeric

namespace Coupon

/-- Stages one more use on a day, at a moment. -/
def stageApply (cs : ChangeSet) (c : Coupon) (today : Date) (now : Instant) :
    Except Failure (ChangeSet × Coupon) := do
  if c.isExpired today then throw (.refused (.validation "Coupon has expired"))
  if c.isExhausted then
    throw (.refused (.validation "Coupon has reached its maximum usage limit"))
  let n ← addWord 32 c.usageCount 1
  cs.updateCoupon now { c with usageCount := n }

/-- Stages one use fewer, never below zero, at a moment. -/
def stageRelease (cs : ChangeSet) (c : Coupon) (now : Instant) :
    Except Failure (ChangeSet × Coupon) := do
  let n ← subWord 32 c.usageCount 1
  cs.updateCoupon now { c with usageCount := max n 0 }

/-- Stages moving a use from `old` to `new`; the new coupon is checked first. -/
def stageSwap (cs : ChangeSet) (new old : Coupon) (today : Date) (now : Instant) :
    Except Failure (ChangeSet × Coupon × Coupon) := do
  let (cs, new) ← stageApply cs new today now
  let (cs, old) ← stageRelease cs old now
  pure (cs, new, old)

def applyUsage (c : Coupon) : Operation Coupon := fun ctx _ => do
  let (cs, c) ← stageApply [] c ctx.today ctx.now
  pure ⟨cs, c, []⟩

def releaseUsage (c : Coupon) : Operation Coupon := fun ctx _ => do
  let (cs, c) ← stageRelease [] c ctx.now
  pure ⟨cs, c, []⟩

def swapUsage (new old : Coupon) : Operation (Coupon × Coupon) := fun ctx _ => do
  let (cs, new, old) ← stageSwap [] new old ctx.today ctx.now
  pure ⟨cs, (new, old), []⟩

end Coupon

end RepairDesk
