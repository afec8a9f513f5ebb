import RepairDesk.Numeric.Binary64
import RepairDesk.Text.Printable
import RepairDesk.Text.GraphemeExtend

namespace RepairDesk

open Numeric

/-- A number as the reader classifies its literal. -/
inductive JsonNumber where
  | natural (n : Nat)
  | negative (n : Int)
  | binary (x : Binary64)
  deriving DecidableEq

/-- A JSON value. -/
inductive Json where
  | null
  | bool (b : Bool)
  | number (n : JsonNumber)
  | string (s : String)
  | array (items : List Json)
  | object (fields : List (String × Json))

namespace JsonNumber

def ofInt (n : Int) : JsonNumber :=
  if n ≥ 0 then .natural n.toNat else .negative n

def render : JsonNumber → String
  | .natural n => toString n
  | .negative n => toString n
  | .binary x => x.render

end JsonNumber

/-- The kind of a value a decoder did not expect. -/
inductive Unexpected where
  | null
  | bool (b : Bool)
  | unsigned (n : Nat)
  | signed (n : Int)
  | float (x : Binary64)
  | string (s : String)
  | sequence
  | map
  deriving DecidableEq

namespace Unexpected

def escapeChar (c : Char) : List Char :=
  match c with
  | '\x00' => ['\\', '0']
  | '\t' => ['\\', 't']
  | '\r' => ['\\', 'r']
  | '\n' => ['\\', 'n']
  | '\\' => ['\\', '\\']
  | '"' => ['\\', '"']
  | c =>
    if Text.isGraphemeExtend c || !Text.isPrintable c then
      "\\u".toList ++ ['\x7b'] ++ Nat.toDigits 16 c.toNat ++ ['\x7d']
    else [c]

def debugString (s : String) : String :=
  String.ofList ('"' :: (s.toList.flatMap escapeChar ++ ['"']))

def describe : Unexpected → String
  | .null => "null"
  | .bool b => s!"boolean `{b}`"
  | .unsigned n => s!"integer `{n}`"
  | .signed n => s!"integer `{n}`"
  | .float x => "floating point `" ++ x.render ++ "`"
  | .string s => "string " ++ debugString s
  | .sequence => "sequence"
  | .map => "map"

end Unexpected

namespace JsonNumber

def unexpected : JsonNumber → Unexpected
  | .natural n => .unsigned n
  | .negative n => .signed n
  | .binary x => .float x

end JsonNumber

namespace Json

def unexpected : Json → Unexpected
  | .null => .null
  | .bool b => .bool b
  | .number n => n.unexpected
  | .string s => .string s
  | .array _ => .sequence
  | .object _ => .map

def int (n : Int) : Json :=
  .number (.ofInt n)

def opt {α : Type} (f : α → Json) : Option α → Json
  | some a => f a
  | none => .null

def insertSorted (key : String) (value : Json) : List (String × Json) → List (String × Json)
  | [] => [(key, value)]
  | (k, v) :: rest =>
    if key < k then (key, value) :: (k, v) :: rest
    else if key = k then (key, value) :: rest
    else (k, v) :: insertSorted key value rest

mutual

/-- The value as a map: every object's keys in byte order, the last of equal keys kept. -/
def canonical : Json → Json
  | .array items => .array (canonicalItems items)
  | .object fields =>
    .object ((canonicalMembers fields).foldl (fun acc (k, v) => insertSorted k v acc) [])
  | j => j

def canonicalItems : List Json → List Json
  | [] => []
  | j :: rest => canonical j :: canonicalItems rest

def canonicalMembers : List (String × Json) → List (String × Json)
  | [] => []
  | (k, v) :: rest => (k, canonical v) :: canonicalMembers rest

end

def field? (j : Json) (key : String) : Option Json :=
  match j with
  | .object fields => (fields.reverse.find? (·.1 == key)).map (·.2)
  | _ => none

def setField (j : Json) (key : String) (value : Json) : Json :=
  match j with
  | .object fields =>
    if fields.any (·.1 == key) then
      .object (fields.map fun (k, v) => if k == key then (k, value) else (k, v))
    else .object (fields ++ [(key, value)])
  | _ => j

def eraseField (j : Json) (key : String) : Json :=
  match j with
  | .object fields => .object (fields.filter (·.1 != key))
  | _ => j

def str? : Json → Option String
  | .string s => some s
  | _ => none

def bool? : Json → Option Bool
  | .bool b => some b
  | _ => none

def int? : Json → Option Int
  | .number (.natural n) => some n
  | .number (.negative n) => some n
  | _ => none

def array? : Json → Option (List Json)
  | .array items => some items
  | _ => none

def object? : Json → Option (List (String × Json))
  | .object fields => some fields
  | _ => none

end Json

end RepairDesk
