import RepairDesk.Text.Blank
import RepairDesk.Identifier.Uuid

namespace RepairDesk.Http

/-- A request as the service receives it. -/
structure Request where
  method : String
  target : String
  headers : List (String × String)
  body : String

def lowerAscii (s : String) : String :=
  s.map fun c => if 'A' ≤ c ∧ c ≤ 'Z' then Char.ofNat (c.toNat + 32) else c

def isVisibleChar (c : Char) : Bool :=
  c = '\t' || (32 ≤ c.toNat && c.toNat < 127)

def targetOfUri (uri : String) : String :=
  (uri.splitOn "#").headD ""

namespace Request

def header? (r : Request) (name : String) : Option String :=
  ((r.headers.find? fun (n, _) => lowerAscii n == name).map (·.2)).filter
    fun v => v.toList.all isVisibleChar

def path (r : Request) : String :=
  (r.target.splitOn "?").headD ""

def query (r : Request) : String :=
  match r.target.splitOn "?" with
  | _ :: rest => "?".intercalate rest
  | [] => ""

end Request

/-! ### Percent escapes -/

def utf8Bytes (s : String) : List UInt8 := s.toUTF8.toList

def percentDecodeBytes : List UInt8 → List UInt8
  | [] => []
  | b :: rest@(h :: l :: more) =>
    if b = 37 then
      match Uuid.hexValue? (Char.ofNat h.toNat), Uuid.hexValue? (Char.ofNat l.toNat) with
      | some hv, some lv => UInt8.ofNat (16 * hv + lv) :: percentDecodeBytes more
      | _, _ => b :: percentDecodeBytes rest
    else b :: percentDecodeBytes rest
  | b :: rest => b :: percentDecodeBytes rest

def ofUtf8? (bytes : List UInt8) : Option String :=
  String.fromUTF8? (ByteArray.mk bytes.toArray)

def sequenceLength (b : UInt8) : Option Nat :=
  if b < 0x80 then some 1
  else if 0xC2 ≤ b ∧ b < 0xE0 then some 2
  else if 0xE0 ≤ b ∧ b < 0xF0 then some 3
  else if 0xF0 ≤ b ∧ b < 0xF5 then some 4
  else none

def secondByteRange (b : UInt8) : UInt8 × UInt8 :=
  if b = 0xE0 then (0xA0, 0xBF)
  else if b = 0xED then (0x80, 0x9F)
  else if b = 0xF0 then (0x90, 0xBF)
  else if b = 0xF4 then (0x80, 0x8F)
  else (0x80, 0xBF)

def continuationCount (b : UInt8) (rest : List UInt8) : Nat :=
  match sequenceLength b with
  | none => 0
  | some n =>
    let (lo, hi) := secondByteRange b
    let fits : UInt8 × Nat → Bool := fun (c, i) =>
      if i = 0 then lo ≤ c && c ≤ hi else 0x80 ≤ c && c ≤ 0xBF
    ((rest.take (n - 1)).zipIdx.takeWhile fits).length

/-- The text of bytes, each longest start of a sequence that breaks off (or a byte that starts
none) read as one replacement character. -/
def ofUtf8Lossy (bytes : List UInt8) : String :=
  let rec go (fuel : Nat) (bs : List UInt8) (acc : String) : String :=
    match fuel, bs with
    | 0, _ => acc
    | _, [] => acc
    | fuel + 1, b :: rest =>
      let k := continuationCount b rest
      let complete := (sequenceLength b).any (· == k + 1)
      match (if complete then ofUtf8? (b :: rest.take k) else none) with
      | some s => go fuel (rest.drop k) (acc ++ s)
      | none => go fuel (rest.drop k) (acc.push '\ufffd')
  go bytes.length bytes ""

def decodeSegment? (s : String) : Option String :=
  ofUtf8? (percentDecodeBytes (utf8Bytes s))

/-- A query component: `+` for a space, then escapes decoded. -/
def decodeComponent (s : String) : String :=
  ofUtf8Lossy (percentDecodeBytes ((utf8Bytes s).map fun b => if b = 43 then 32 else b))

def queryPairs (q : String) : List (String × String) :=
  (q.splitOn "&").filterMap fun piece =>
    if piece.isEmpty then none
    else
      match piece.splitOn "=" with
      | name :: rest => some (decodeComponent name, decodeComponent ("=".intercalate rest))
      | [] => none

/-! ### Media types -/

def isTokenChar (c : Char) : Bool :=
  c.isAlphanum || "!#$%&'*+-.^_`|~".toList.contains c

def isQuotedChar (c : Char) : Bool :=
  c.toNat > 31 && c.toNat != 127

/-- Reads the parameters after a `;`: each is `name=value`, the value a token, possibly empty,
or a quoted string; spaces may stand before a name and after a quoted value. A quoted value
ends at the first quote after its first character, so it holds at least one character, and
that one may be a quote. -/
def paramsWellFormed : Nat → List Char → Bool
  | 0, _ => false
  | _, [] => true
  | fuel + 1, ' ' :: rest => paramsWellFormed fuel rest
  | fuel + 1, cs =>
    let name := cs.takeWhile isTokenChar
    match cs.drop name.length with
    | '=' :: rest =>
      if name.isEmpty then false
      else
        match rest with
        | '"' :: first :: inner =>
          if !isQuotedChar first then false
          else
            let quoted := inner.takeWhile fun c => c != '"' && isQuotedChar c
            match inner.drop quoted.length with
            | '"' :: after =>
              match after.dropWhile (· == ' ') with
              | [] => true
              | ';' :: more => paramsWellFormed fuel more
              | _ => false
            | _ => false
        | '"' :: [] => false
        | _ =>
          let value := rest.takeWhile isTokenChar
          match rest.drop value.length with
          | [] => true
          | ';' :: more => !value.isEmpty && paramsWellFormed fuel more
          | _ => false
    | _ => false

/-- A media type as `type/subtype+suffix`, with its parameters checked but not kept. -/
structure MediaType where
  kind : String
  subtype : String
  suffix : Option String
  deriving DecidableEq

def parseMediaType (s : String) : Option MediaType :=
  let cs := s.toList
  let kind := cs.takeWhile isTokenChar
  match cs.drop kind.length with
  | '/' :: rest =>
    if kind.isEmpty then none
    else
      let sub := rest.takeWhile isTokenChar
      let wellFormed := match rest.drop sub.length with
        | [] => true
        | ';' :: params => !sub.isEmpty && paramsWellFormed (params.length + 1) params
        | _ => false
      if !wellFormed then none
      else
        let lower (xs : List Char) := lowerAscii (String.ofList xs)
        match (sub.drop 1).reverse.findIdx? (· == '+') with
        | some i =>
          let plus := sub.length - 1 - i
          some ⟨lower kind, lower (sub.take plus), some (lower (sub.drop (plus + 1)))⟩
        | none => some ⟨lower kind, lower sub, none⟩
  | _ => none

def isJsonMediaType (s : String) : Bool :=
  match parseMediaType s with
  | some t => t.kind == "application" && (t.subtype == "json" || t.suffix == some "json")
  | none => false

end RepairDesk.Http
