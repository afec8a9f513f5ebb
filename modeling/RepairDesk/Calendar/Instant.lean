import RepairDesk.Calendar.Date

/-! Moments of UTC time: seconds since 1970-01-01T00:00:00Z and the nanoseconds past them. -/

namespace RepairDesk

/-- A moment of UTC time. -/
structure Instant where
  /-- whole seconds since 1970-01-01T00:00:00Z, leap seconds not counted -/
  seconds : Int
  /-- nanoseconds past the second; 10^9 and more during a leap second -/
  nanos : Nat
  deriving DecidableEq, Hashable

namespace Instant

def nanosPerSecond : Nat := 1000000000

def secondsPerDay : Nat := 86400

def unixEpoch : Instant := ⟨0, 0⟩

instance : LT Instant :=
  ⟨fun a b => a.seconds < b.seconds ∨ a.seconds = b.seconds ∧ a.nanos < b.nanos⟩

instance (a b : Instant) : Decidable (a < b) :=
  inferInstanceAs (Decidable (a.seconds < b.seconds ∨ a.seconds = b.seconds ∧ a.nanos < b.nanos))

instance : LE Instant :=
  ⟨fun a b => a.seconds < b.seconds ∨ a.seconds = b.seconds ∧ a.nanos ≤ b.nanos⟩

instance (a b : Instant) : Decidable (a ≤ b) :=
  inferInstanceAs (Decidable (a.seconds < b.seconds ∨ a.seconds = b.seconds ∧ a.nanos ≤ b.nanos))

/-- One nanosecond later; from a leap second, the start of the next second. -/
def tick (t : Instant) : Instant :=
  if t.nanos + 1 < nanosPerSecond then { t with nanos := t.nanos + 1 } else ⟨t.seconds + 1, 0⟩

theorem le_trans {a b c : Instant} (hab : a ≤ b) (hbc : b ≤ c) : a ≤ c := by
  change a.seconds < b.seconds ∨ a.seconds = b.seconds ∧ a.nanos ≤ b.nanos at hab
  change b.seconds < c.seconds ∨ b.seconds = c.seconds ∧ b.nanos ≤ c.nanos at hbc
  change a.seconds < c.seconds ∨ a.seconds = c.seconds ∧ a.nanos ≤ c.nanos
  omega

theorem le_total (a b : Instant) : a ≤ b ∨ b ≤ a := by
  change (a.seconds < b.seconds ∨ a.seconds = b.seconds ∧ a.nanos ≤ b.nanos) ∨
    (b.seconds < a.seconds ∨ b.seconds = a.seconds ∧ b.nanos ≤ a.nanos)
  omega

def earliest : Int := (Date.mk Date.minYear 1 1).toDays * secondsPerDay

def pastLatest : Int := ((Date.mk Date.maxYear 12 31).toDays + 1) * secondsPerDay

def isRepresentable (t : Instant) : Bool :=
  earliest ≤ t.seconds && t.seconds < pastLatest

def render (t : Instant) : String :=
  let days := t.seconds.fdiv secondsPerDay
  let secs := (t.seconds - days * secondsPerDay).toNat
  let (second, nanos) :=
    if t.nanos < nanosPerSecond then (secs % 60, t.nanos)
    else (secs % 60 + 1, t.nanos - nanosPerSecond)
  let fraction :=
    if nanos = 0 then ""
    else if nanos % 1000000 = 0 then "." ++ Date.padded 3 (nanos / 1000000)
    else if nanos % 1000 = 0 then "." ++ Date.padded 6 (nanos / 1000)
    else "." ++ Date.padded 9 nanos
  (Date.ofDays days).render ++ "T" ++ Date.padded 2 (secs / 3600) ++ ":" ++
    Date.padded 2 (secs / 60 % 60) ++ ":" ++ Date.padded 2 second ++ fraction ++ "Z"

instance : ToString Instant := ⟨render⟩

def scanClockPart (cs : List Char) (most : Nat) : Except DateError (Nat × List Char) := do
  let (v, rest) ← Date.scanNumber (cs.dropWhile Text.isBlank) 1 2
  if v ≤ most then pure (v, rest) else throw .outOfRange

def scanFraction (cs : List Char) : Except DateError (Nat × List Char) :=
  match cs with
  | '.' :: rest => do
    let (v, after) ← Date.scanNumber rest 1 9
    let used := rest.length - after.length
    pure (v * Nat.pow 10 (9 - used), after.dropWhile Char.isDigit)
  | _ => .ok (0, cs)

def digitValue (c : Char) : Nat := c.toNat - '0'.toNat

def shortOfPair : List Char → Bool
  | [] => true
  | [c] => c.utf8Size < 2
  | _ => false

def scanOffsetHours (cs : List Char) : Except DateError (Nat × List Char) :=
  match cs with
  | a :: b :: rest =>
    if a.isDigit && b.isDigit then .ok (10 * digitValue a + digitValue b, rest)
    else .error .invalid
  | _ => .error (if shortOfPair cs then .tooShort else .invalid)

def scanOffsetMinutes (cs : List Char) : Except DateError (Nat × List Char) :=
  match cs with
  | a :: b :: rest =>
    if !b.isDigit then .error .invalid
    else if '0' ≤ a && a ≤ '5' then .ok (10 * digitValue a + digitValue b, rest)
    else if '6' ≤ a && a ≤ '9' then .error .outOfRange
    else .error .invalid
  | _ => .error (if shortOfPair cs then .tooShort else .invalid)

def scanOffset (cs : List Char) : Except DateError (Int × List Char) :=
  if (cs.take 3).map Char.toLower = ['u', 't', 'c'] then .ok (0, cs.drop 3)
  else
    match cs with
    | [] => .error .tooShort
    | sign :: rest =>
      if sign = 'Z' ∨ sign = 'z' then .ok (0, rest)
      else if sign = '+' ∨ sign = '-' ∨ sign = '−' then do
        let (h, rest) ← scanOffsetHours rest
        let (m, rest) ← scanOffsetMinutes (rest.dropWhile fun c => c = ':' || Text.isBlank c)
        let east : Int := h * 3600 + m * 60
        pure (if sign = '+' then east else -east, rest)
      else .error .invalid

def ofLocal (date : Date) (hour minute second nanos : Nat) (offset : Int) : Instant :=
  let (second, nanos) := if second = 60 then (59, nanos + nanosPerSecond) else (second, nanos)
  ⟨date.toDays * secondsPerDay + (hour * 3600 + minute * 60 + second : Nat) - offset, nanos⟩

/-- Reads a moment in the lenient form described above. -/
def parse (s : String) : Except DateError Instant := do
  let ((y, mo, d), rest) ← Date.scanFields s.toList
  let rest ← match rest with
    | c :: rest => if c = 'T' ∨ c = 't' ∨ c = ' ' then pure rest else throw .invalid
    | [] => throw .tooShort
  let (hour, rest) ← scanClockPart rest 23
  let rest ← Date.scanMark ':' (rest.dropWhile Text.isBlank)
  let (minute, rest) ← scanClockPart rest 59
  let rest ← Date.scanMark ':' (rest.dropWhile Text.isBlank)
  let (second, rest) ← scanClockPart rest 60
  let (nanos, rest) ← scanFraction rest
  let (offset, rest) ← scanOffset (rest.dropWhile Text.isBlank)
  if !(rest.dropWhile Text.isBlank).isEmpty then throw .tooLong
  let date ← match Date.ofParts? y mo d with
    | some date => pure date
    | none => throw .outOfRange
  if offset ≤ -(secondsPerDay : Int) ∨ (secondsPerDay : Int) ≤ offset then throw .outOfRange
  let t := ofLocal date hour minute second nanos offset
  if t.isRepresentable then pure t else throw .impossible

end Instant

end RepairDesk
