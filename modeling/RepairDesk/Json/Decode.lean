import RepairDesk.Json.Basic
import RepairDesk.Identifier.Uuid
import RepairDesk.Calendar.Instant

namespace RepairDesk

/-- Why a value does not decode. -/
inductive DecodeError where
  | invalidType (found : Unexpected) (expected : String)
  | invalidValue (found : Unexpected) (expected : String)
  | invalidLength (length : Nat) (expected : String)
  | missingField (name : String)
  | duplicateField (name : String)
  | unknownVariant (variant : String) (expected : List String)
  | custom (message : String)
  deriving DecidableEq

namespace DecodeError

def oneOf (names : List String) : String :=
  let quoted := names.map fun n => "`" ++ n ++ "`"
  match quoted with
  | [] => ""
  | [a] => a
  | [a, b] => a ++ " or " ++ b
  | _ => "one of " ++ ", ".intercalate quoted

def message : DecodeError → String
  | .invalidType found expected => "invalid type: " ++ found.describe ++ ", expected " ++ expected
  | .invalidValue found expected =>
    "invalid value: " ++ found.describe ++ ", expected " ++ expected
  | .invalidLength length expected => s!"invalid length {length}, expected {expected}"
  | .missingField name => s!"missing field `{name}`"
  | .duplicateField name => s!"duplicate field `{name}`"
  | .unknownVariant variant [] => s!"unknown variant `{variant}`, there are no variants"
  | .unknownVariant variant expected =>
    s!"unknown variant `{variant}`, expected " ++ oneOf expected
  | .custom message => message

end DecodeError

/-- The shape of a field's value. -/
inductive FieldShape where
  /-- any string -/
  | text
  /-- a signed integer of 64 bits -/
  | int64
  /-- a signed integer of 32 bits -/
  | int32
  /-- an unsigned integer of 64 bits -/
  | natural
  /-- an identifier in any of its written forms -/
  | uuid
  /-- a calendar date -/
  | date
  /-- a moment of time -/
  | instant
  /-- one of the given names -/
  | choice (variants : List String)
  /-- the inner shape, or null or nothing at all -/
  | optional (inner : FieldShape)
  deriving DecidableEq

/-- A decoded field. -/
inductive FieldValue where
  | absent
  | text (s : String)
  | int (n : Int)
  | uuid (u : Uuid)
  | date (d : Date)
  | instant (t : Instant)
  | choice (index : Nat)
  deriving DecidableEq

namespace FieldValue

def text? : FieldValue → Option String
  | .text s => some s
  | _ => none

def int? : FieldValue → Option Int
  | .int n => some n
  | _ => none

def uuid? : FieldValue → Option Uuid
  | .uuid u => some u
  | _ => none

def date? : FieldValue → Option Date
  | .date d => some d
  | _ => none

def instant? : FieldValue → Option Instant
  | .instant t => some t
  | _ => none

def choice? : FieldValue → Option Nat
  | .choice i => some i
  | _ => none

end FieldValue

/-- The shape of a record: its name as messages give it, its fields, and the fields of a
flattened record if it has one. -/
structure RecordShape where
  name : String
  fields : List (String × FieldShape)
  flattened : Option (List (String × FieldShape)) := none

namespace FieldShape

def expecting : FieldShape → String
  | .text => "a string"
  | .int64 => "i64"
  | .int32 => "i32"
  | .natural => "u64"
  | .uuid => "a UUID string"
  | .date => "a formatted date string"
  | .instant => "an RFC 3339 formatted date and time string"
  | .choice _ => "string or map"
  | .optional inner => inner.expecting

def isOptional : FieldShape → Bool
  | .optional _ => true
  | _ => false

def checkInteger (shape : FieldShape) (n : JsonNumber) : Except DecodeError FieldValue :=
  let (low, high) : Int × Int :=
    match shape with
    | .int32 => (-Int.pow 2 31, Int.pow 2 31 - 1)
    | .natural => (0, Int.pow 2 64 - 1)
    | _ => (-Int.pow 2 63, Int.pow 2 63 - 1)
  match n with
  | .natural v =>
    if (v : Int) ≤ high then .ok (.int v) else .error (.invalidValue (.unsigned v) shape.expecting)
  | .negative v =>
    if low ≤ v then .ok (.int v) else .error (.invalidValue (.signed v) shape.expecting)
  | .binary x => .error (.invalidType (.float x) shape.expecting)

def readUuid (s : String) : Except DecodeError FieldValue :=
  match Uuid.parse s with
  | .ok u => .ok (.uuid u)
  | .error e => .error (.custom ("UUID parsing failed: " ++ e.message))

def readDate (s : String) : Except DecodeError FieldValue :=
  match Date.parse s with
  | .ok d => .ok (.date d)
  | .error e => .error (.custom e.message)

def readInstant (s : String) : Except DecodeError FieldValue :=
  match Instant.parse s with
  | .ok t => .ok (.instant t)
  | .error e => .error (.custom e.message)

def readVariant (variants : List String) (name : String) : Except DecodeError FieldValue :=
  match variants.idxOf? name with
  | some i => .ok (.choice i)
  | none => .error (.unknownVariant name variants)

/-- Decodes a value of this shape. -/
def decode : FieldShape → Json → Except DecodeError FieldValue
  | .optional _, .null => .ok .absent
  | .optional inner, j => decode inner j
  | .text, .string s => .ok (.text s)
  | .uuid, .string s => readUuid s
  | .date, .string s => readDate s
  | .instant, .string s => readInstant s
  | .choice variants, .string s => readVariant variants s
  | .choice variants, .object [(name, value)] => do
    let v ← readVariant variants name
    match value with
    | .null => pure v
    | other => throw (.invalidType other.unexpected "unit")
  | .choice _, .object _ => .error (.invalidValue .map "map with a single key")
  | .int64, .number n => checkInteger .int64 n
  | .int32, .number n => checkInteger .int32 n
  | .natural, .number n => checkInteger .natural n
  | shape, j => .error (.invalidType j.unexpected shape.expecting)

end FieldShape

namespace RecordShape

/-- The fields of a record filled so far, in field order. -/
abbrev Slots := List (Option FieldValue)

def takeMembers (fields : List (String × FieldShape)) (collect : Bool) :
    List (String × Json) → Slots → List (String × Json) →
    Except DecodeError (Slots × List (String × Json))
  | [], slots, collected => .ok (slots, collected.reverse)
  | (key, value) :: rest, slots, collected =>
    match fields.findIdx? (·.1 == key) with
    | some i =>
      match slots[i]? with
      | some (some _) => .error (.duplicateField key)
      | _ =>
        match fields[i]? with
        | some (_, shape) => do
          let v ← shape.decode value
          takeMembers fields collect rest (slots.set i (some v)) collected
        | none => takeMembers fields collect rest slots collected
    | none =>
      if collect then takeMembers fields collect rest slots ((key, value) :: collected)
      else takeMembers fields collect rest slots collected

def complete : List (String × FieldShape) → Slots → Except DecodeError (List FieldValue)
  | [], _ => .ok []
  | (name, shape) :: rest, slots => do
    let v ← match slots.head? with
      | some (some v) => pure v
      | _ => if shape.isOptional then pure FieldValue.absent else throw (.missingField name)
    let vs ← complete rest slots.tail
    pure (v :: vs)

def decodeMembers (fields : List (String × FieldShape)) (members : List (String × Json)) :
    Except DecodeError (List FieldValue) := do
  let (slots, _) ← takeMembers fields false members (fields.map fun _ => none) []
  complete fields slots

def decodeObject (shape : RecordShape) (members : List (String × Json)) :
    Except DecodeError (List FieldValue) := do
  let (slots, collected) ←
    takeMembers shape.fields shape.flattened.isSome members (shape.fields.map fun _ => none) []
  let own ← complete shape.fields slots
  match shape.flattened with
  | none => pure own
  | some inner =>
    let passed := collected.filter fun (k, _) => inner.any (·.1 == k)
    let more ← decodeMembers inner passed
    pure (own ++ more)

def arrayExpecting (shape : RecordShape) : String :=
  shape.name ++ " with " ++ toString shape.fields.length ++ " elements"

def decodeItems : List (String × FieldShape) → Nat → String → List Json →
    Except DecodeError (List FieldValue)
  | [], _, _, _ => .ok []
  | _ :: _, index, expected, [] => .error (.invalidLength index expected)
  | (_, shape) :: rest, index, expected, item :: items => do
    let v ← shape.decode item
    let vs ← decodeItems rest (index + 1) expected items
    pure (v :: vs)

/-- Decodes a value as this record. -/
def decode (shape : RecordShape) : Json → Except DecodeError (List FieldValue)
  | .object members => shape.decodeObject members
  | .array items =>
    if shape.flattened.isSome then .error (.invalidType .sequence shape.name)
    else do
      let vs ← decodeItems shape.fields 0 shape.arrayExpecting items
      if items.length > shape.fields.length then
        throw (.invalidLength items.length "fewer elements in array")
      pure vs
  | j => .error (.invalidType j.unexpected shape.name)

end RecordShape

end RepairDesk
