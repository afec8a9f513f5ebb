/-! Checked arithmetic on signed words: a result past the word is an overflow, never wrapped. -/

namespace RepairDesk.Numeric

/-- Why a checked step stopped. -/
inductive Overflow where
  | add
  | sub
  deriving DecidableEq

def Overflow.message : Overflow → String
  | .add => "attempt to add with overflow"
  | .sub => "attempt to subtract with overflow"

def wordMin (bits : Nat) : Int := -(Nat.pow 2 (bits - 1) : Nat)

def wordMax (bits : Nat) : Int := (Nat.pow 2 (bits - 1) : Nat) - 1

/-- Does a signed word of `bits` bits hold `n`? -/
def fitsWord (bits : Nat) (n : Int) : Prop := wordMin bits ≤ n ∧ n ≤ wordMax bits

instance (bits : Nat) (n : Int) : Decidable (fitsWord bits n) :=
  inferInstanceAs (Decidable (_ ∧ _))

/-- `a + b` if a word of `bits` bits holds it. -/
def addWord (bits : Nat) (a b : Int) : Except Overflow Int :=
  if fitsWord bits (a + b) then .ok (a + b) else .error .add

def subWord (bits : Nat) (a b : Int) : Except Overflow Int :=
  if fitsWord bits (a - b) then .ok (a - b) else .error .sub

theorem addWord_eq_ok {bits : Nat} {a b : Int} (h : fitsWord bits (a + b)) :
    addWord bits a b = .ok (a + b) := by
  simp [addWord, h]

theorem subWord_eq_ok {bits : Nat} {a b : Int} (h : fitsWord bits (a - b)) :
    subWord bits a b = .ok (a - b) := by
  simp [subWord, h]

end RepairDesk.Numeric
