import RepairDesk.Text.Blank

/-! Calendar dates of the proleptic Gregorian calendar, written `YYYY-MM-DD`. -/

namespace RepairDesk

/-- A day of the calendar. -/
structure Date where
  year : Int
  month : Nat
  day : Nat
  deriving DecidableEq, Hashable

/-- Why a text is not a date, or not a moment of time. -/
inductive DateError where
  | outOfRange
  | invalid
  | tooShort
  | tooLong
  | impossible
  deriving DecidableEq

namespace DateError

def message : DateError → String
  | .outOfRange => "input is out of range"
  | .invalid => "input contains invalid characters"
  | .tooShort => "premature end of input"
  | .tooLong => "trailing input"
  | .impossible => "no possible date and time matching input"

end DateError

namespace Date

/-- The earliest and latest years a date may have. -/
def minYear : Int := -262143
def maxYear : Int := 262142

def isLeapYear (y : Int) : Bool :=
  (y % 4 == 0 && y % 100 != 0) || y % 400 == 0

def monthLength (y : Int) (m : Nat) : Nat :=
  match m with
  | 1 | 3 | 5 | 7 | 8 | 10 | 12 => 31
  | 4 | 6 | 9 | 11 => 30
  | 2 => if isLeapYear y then 29 else 28
  | _ => 0

def ofParts? (y : Int) (m d : Nat) : Option Date :=
  if minYear ≤ y ∧ y ≤ maxYear ∧ 1 ≤ m ∧ m ≤ 12 ∧ 1 ≤ d ∧ d ≤ monthLength y m then
    some ⟨y, m, d⟩
  else none

/-- Days since 1970-01-01. -/
def toDays (date : Date) : Int :=
  let y : Int := if date.month ≤ 2 then date.year - 1 else date.year
  let era := y.fdiv 400
  let yoe := y - era * 400
  let m : Int := date.month
  let mp := if m > 2 then m - 3 else m + 9
  let doy := (153 * mp + 2) / 5 + date.day - 1
  let doe := yoe * 365 + yoe / 4 - yoe / 100 + doy
  era * 146097 + doe - 719468

def ofDays (n : Int) : Date :=
  let z := n + 719468
  let era := z.fdiv 146097
  let doe := z - era * 146097
  let yoe := (doe - doe / 1460 + doe / 36524 - doe / 146096) / 365
  let y := yoe + era * 400
  let doy := doe - (365 * yoe + yoe / 4 - yoe / 100)
  let mp := (5 * doy + 2) / 153
  let d := doy - (153 * mp + 2) / 5 + 1
  let m := if mp < 10 then mp + 3 else mp - 9
  ⟨if m ≤ 2 then y + 1 else y, m.toNat, d.toNat⟩

def key (date : Date) : Int × Nat × Nat :=
  (date.year, date.month, date.day)

instance : LT Date := ⟨fun a b => a.toDays < b.toDays⟩

instance (a b : Date) : Decidable (a < b) :=
  inferInstanceAs (Decidable (a.toDays < b.toDays))

instance : LE Date := ⟨fun a b => a.toDays ≤ b.toDays⟩

instance (a b : Date) : Decidable (a ≤ b) :=
  inferInstanceAs (Decidable (a.toDays ≤ b.toDays))

def padded (width n : Nat) : String :=
  let ds := Nat.toDigits 10 n
  String.ofList (List.replicate (width - ds.length) '0' ++ ds)

def render (date : Date) : String :=
  let yearText :=
    if 0 ≤ date.year ∧ date.year ≤ 9999 then padded 4 date.year.toNat
    else (if date.year < 0 then "-" else "+") ++ padded 4 date.year.natAbs
  yearText ++ "-" ++ padded 2 date.month ++ "-" ++ padded 2 date.day

instance : ToString Date := ⟨render⟩

def scanNumber (cs : List Char) (least most : Nat) : Except DateError (Nat × List Char) :=
  let digits := (cs.take most).takeWhile Char.isDigit
  if cs.length < least then .error .tooShort
  else if digits.length < least then .error .invalid
  else
    let value := digits.foldl (fun acc c => 10 * acc + (c.toNat - '0'.toNat)) 0
    if value ≥ Nat.pow 2 63 then .error .outOfRange else .ok (value, cs.drop digits.length)

def scanMark (mark : Char) (cs : List Char) : Except DateError (List Char) :=
  match cs with
  | [] => .error .tooShort
  | c :: rest => if c = mark then .ok rest else .error .invalid

def scanYear (cs : List Char) : Except DateError (Int × List Char) :=
  let cs := cs.dropWhile Text.isBlank
  match cs with
  | '-' :: rest => do
    let (v, rest) ← scanNumber rest 1 (rest.length + 1)
    pure (-(v : Int), rest)
  | '+' :: rest => do
    let (v, rest) ← scanNumber rest 1 (rest.length + 1)
    pure ((v : Int), rest)
  | _ => do
    let (v, rest) ← scanNumber cs 1 4
    pure ((v : Int), rest)

def scanPart (cs : List Char) (most : Nat) : Except DateError (Nat × List Char) := do
  let (v, rest) ← scanNumber (cs.dropWhile Text.isBlank) 1 2
  if 1 ≤ v ∧ v ≤ most then pure (v, rest) else throw .outOfRange

def scanFields (cs : List Char) : Except DateError ((Int × Nat × Nat) × List Char) := do
  let (y, rest) ← scanYear cs
  if y < -Int.pow 2 31 ∨ y ≥ Int.pow 2 31 then throw .outOfRange
  let rest ← scanMark '-' (rest.dropWhile Text.isBlank)
  let (m, rest) ← scanPart rest 12
  let rest ← scanMark '-' (rest.dropWhile Text.isBlank)
  let (d, rest) ← scanPart rest 31
  pure ((y, m, d), rest)

/-- Reads a date in the lenient form described above. -/
def parse (s : String) : Except DateError Date := do
  let ((y, m, d), rest) ← scanFields s.toList
  if !(rest.dropWhile Text.isBlank).isEmpty then throw .tooLong
  match ofParts? y m d with
  | some date => pure date
  | none => throw .outOfRange

def ofIso? (s : String) : Option Date :=
  match s.toList with
  | [y1, y2, y3, y4, '-', m1, m2, '-', d1, d2] =>
    if [y1, y2, y3, y4, m1, m2, d1, d2].all Char.isDigit then
      let num (cs : List Char) := cs.foldl (fun acc c => 10 * acc + (c.toNat - '0'.toNat)) 0
      ofParts? (num [y1, y2, y3, y4] : Nat) (num [m1, m2]) (num [d1, d2])
    else none
  | _ => none

end Date

end RepairDesk
