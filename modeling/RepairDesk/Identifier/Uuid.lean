/-! 128-bit identifiers, written as 32 lower-case hex digits in groups of 8, 4, 4, 4 and 12. -/

namespace RepairDesk

/-- A 128-bit identifier. -/
structure Uuid where
  bits : BitVec 128
  deriving DecidableEq, Hashable

/-- Why a text is not an identifier. -/
inductive UuidError where
  | character (c : Char) (index : Nat)
  | wrongLength (length : Nat)
  | groupCount (count : Nat)
  | groupLength (group : Nat) (expected : Nat) (length : Nat)
  deriving DecidableEq

namespace UuidError

def message : UuidError → String
  | .character c index => s!"invalid character: found `{c}` at {index}"
  | .wrongLength n => s!"invalid length: found {n}"
  | .groupCount count => s!"invalid group count: expected 5, found {count}"
  | .groupLength group expected length =>
    s!"invalid group length in group {group}: expected {expected}, found {length}"

end UuidError

namespace Uuid

def hexValue? (c : Char) : Option Nat :=
  if '0' ≤ c ∧ c ≤ '9' then some (c.toNat - '0'.toNat)
  else if 'a' ≤ c ∧ c ≤ 'f' then some (c.toNat - 'a'.toNat + 10)
  else if 'A' ≤ c ∧ c ≤ 'F' then some (c.toNat - 'A'.toNat + 10)
  else none

def isHexDigit (c : Char) : Bool :=
  (hexValue? c).isSome

def ofHexDigits? : List Char → Nat → Option Nat
  | [], acc => some acc
  | c :: rest, acc => (hexValue? c).bind fun v => ofHexDigits? rest (16 * acc + v)

def ofNat (n : Nat) : Uuid := ⟨BitVec.ofNat 128 n⟩

def ofSimple? (cs : List Char) : Option Uuid :=
  if cs.length = 32 then (ofHexDigits? cs 0).map ofNat else none

def ofGrouped? (cs : List Char) : Option Uuid :=
  if cs.length = 36 ∧ cs[8]? = some '-' ∧ cs[13]? = some '-' ∧ cs[18]? = some '-' ∧
      cs[23]? = some '-' then
    ofSimple? (cs.filter (· ≠ '-')) |>.filter fun _ =>
      (cs.take 8 ++ (cs.drop 9).take 4 ++ (cs.drop 14).take 4 ++ (cs.drop 19).take 4 ++
        cs.drop 24).all isHexDigit
  else none

def urnPrefix : List Char := "urn:uuid:".toList

def hasUrnPrefix (cs : List Char) : Bool :=
  (cs.take 9).map (fun c => if 'A' ≤ c ∧ c ≤ 'Z' then Char.ofNat (c.toNat + 32) else c) ==
    urnPrefix

def byteLength (cs : List Char) : Nat :=
  (cs.map Char.utf8Size).foldr (· + ·) 0

def isBraced (cs : List Char) : Bool :=
  cs.length ≥ 2 ∧ cs.head? = some '\x7b' ∧ cs.getLast? = some '\x7d'

def groupedBody? (cs : List Char) : Option (List Char) :=
  match byteLength cs with
  | 36 => some cs
  | 38 => if isBraced cs then some (cs.drop 1).dropLast else none
  | 45 => if hasUrnPrefix cs then some (cs.drop 9) else none
  | _ => none

def ofText? (cs : List Char) : Option Uuid :=
  if byteLength cs = 32 then ofSimple? cs else (groupedBody? cs).bind ofGrouped?

def firstStray : List Char → Nat → Option (Char × Nat)
  | [], _ => none
  | c :: rest, offset =>
    if c = '-' ∨ isHexDigit c then firstStray rest (offset + c.utf8Size) else some (c, offset)

def hyphenOffsets : List Char → Nat → List Nat
  | [], _ => []
  | c :: rest, offset =>
    let later := hyphenOffsets rest (offset + c.utf8Size)
    if c = '-' then offset :: later else later

def groupStarts : List Nat := [0, 9, 14, 19, 24]

def groupLengths : List Nat := [8, 4, 4, 4, 12]

def groupFault (hyphens : List Nat) (total : Nat) : UuidError :=
  if hyphens.length ≠ 4 then .groupCount (hyphens.length + 1)
  else
    let misplaced := (List.range 4).find? fun i => hyphens[i]? ≠ some (groupStarts[i + 1]! - 1)
    match misplaced with
    | some i => .groupLength i groupLengths[i]! (hyphens[i]! - groupStarts[i]!)
    | none => .groupLength 4 12 (total - 24)

def diagnoseGrouped (body : List Char) : UuidError :=
  match firstStray body 0 with
  | some (c, index) => .character c index
  | none => groupFault (hyphenOffsets body 0) (byteLength body)

def diagnoseWhole (cs : List Char) : UuidError :=
  let (body, offset, bare) :=
    if isBraced cs then ((cs.drop 1).dropLast, 1, false)
    else if hasUrnPrefix cs then (cs.drop 9, 9, false)
    else (cs, 0, true)
  match firstStray body offset with
  | some (c, index) => .character c index
  | none =>
    let hyphens := hyphenOffsets body 0
    if hyphens.isEmpty ∧ bare then .wrongLength (byteLength cs)
    else groupFault hyphens (byteLength cs)

def longestForm : Nat := 45

/-- The reason a text that is not an identifier is refused. -/
def diagnose (cs : List Char) : UuidError :=
  if byteLength cs > longestForm then .wrongLength (byteLength cs)
  else
    match groupedBody? cs with
    | some body => diagnoseGrouped body
    | none => diagnoseWhole cs

/-- Reads an identifier in any of the accepted forms. -/
def parse (s : String) : Except UuidError Uuid :=
  match ofText? s.toList with
  | some u => .ok u
  | none => .error (diagnose s.toList)

def hexPadded (width n : Nat) : List Char :=
  let ds := Nat.toDigits 16 n
  List.replicate (width - ds.length) '0' ++ ds

/-- The grouped lower-case form. -/
def render (u : Uuid) : String :=
  let ds := hexPadded 32 u.bits.toNat
  String.ofList (ds.take 8 ++ ['-'] ++ (ds.drop 8).take 4 ++ ['-'] ++ (ds.drop 12).take 4 ++
    ['-'] ++ (ds.drop 16).take 4 ++ ['-'] ++ ds.drop 20)

instance : ToString Uuid := ⟨render⟩

def nil : Uuid := ofNat 0

/-- The `serial`-th identifier of a numbered family: version 4 layout, the family in the first
group and the serial number in the last. -/
def sequential (family serial : Nat) : Uuid :=
  ofNat (family % Nat.pow 2 32 * Nat.pow 2 96 + 0x4000 * Nat.pow 2 64 + 0x8000 * Nat.pow 2 48 + serial % Nat.pow 2 48)

def grouped? (cs : List Char) : Option Uuid :=
  let front := cs.take 36
  if front.length = 36 ∧ (front.zipIdx.all fun (c, i) =>
      if i = 8 ∨ i = 13 ∨ i = 18 ∨ i = 23 then c = '-' else isHexDigit c) then
    ofGrouped? front
  else none

def mapText (f : Uuid → String) (s : String) : String :=
  let rec go : List Char → Nat → Bool → List Char → List Char
    | [], _, _, acc => acc.reverse
    | _ :: rest, skip + 1, afterWord, acc => go rest skip afterWord acc
    | c :: rest, 0, afterWord, acc =>
      match (if afterWord then none else grouped? (c :: rest)) with
      | some u => go rest 35 true ((f u).toList.reverse ++ acc)
      | none => go rest 0 c.isAlphanum (c :: acc)
  String.ofList (go s.toList 0 false [])

end Uuid

end RepairDesk
