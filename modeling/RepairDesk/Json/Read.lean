import RepairDesk.Json.Basic

/-! Reading JSON text in one pass, left to right, stopping at the first fault. -/

namespace RepairDesk

namespace Json

/-- A line and a byte column, as fault messages quote them. -/
structure Position where
  line : Nat
  column : Nat
  deriving DecidableEq

/-- The ways a text fails to be JSON. -/
inductive SyntaxError where
  | eofWhileParsingList
  | eofWhileParsingObject
  | eofWhileParsingString
  | eofWhileParsingValue
  | expectedColon
  | expectedListCommaOrEnd
  | expectedObjectCommaOrEnd
  | expectedSomeIdent
  | expectedSomeValue
  | invalidEscape
  | invalidNumber
  | numberOutOfRange
  | controlCharacterWhileParsingString
  | keyMustBeAString
  | loneLeadingSurrogateInHexEscape
  | trailingComma
  | trailingCharacters
  | unexpectedEndOfHexEscape
  | recursionLimitExceeded
  deriving DecidableEq

namespace SyntaxError

def message : SyntaxError → String
  | .eofWhileParsingList => "EOF while parsing a list"
  | .eofWhileParsingObject => "EOF while parsing an object"
  | .eofWhileParsingString => "EOF while parsing a string"
  | .eofWhileParsingValue => "EOF while parsing a value"
  | .expectedColon => "expected `:`"
  | .expectedListCommaOrEnd => "expected `,` or `]`"
  | .expectedObjectCommaOrEnd => "expected `,` or `\x7d`"
  | .expectedSomeIdent => "expected ident"
  | .expectedSomeValue => "expected value"
  | .invalidEscape => "invalid escape"
  | .invalidNumber => "invalid number"
  | .numberOutOfRange => "number out of range"
  | .controlCharacterWhileParsingString =>
    "control character (\\u0000-\\u001F) found while parsing a string"
  | .keyMustBeAString => "key must be a string"
  | .loneLeadingSurrogateInHexEscape => "lone leading surrogate in hex escape"
  | .trailingComma => "trailing comma"
  | .trailingCharacters => "trailing characters"
  | .unexpectedEndOfHexEscape => "unexpected end of hex escape"
  | .recursionLimitExceeded => "recursion limit exceeded"

end SyntaxError

/-- A step into a document: a member's key, an element's index, or a member whose key could
not be read. -/
inductive PathStep where
  | key (name : String)
  | index (i : Nat)
  | unknown
  deriving DecidableEq

def renderPath : List PathStep → String
  | [] => "."
  | steps =>
    let rec go : List PathStep → Bool → String
      | [], _ => ""
      | .key name :: rest, first => (if first then "" else ".") ++ name ++ go rest false
      | .unknown :: rest, first => (if first then "" else ".") ++ "?" ++ go rest false
      | .index i :: rest, _ => "[" ++ toString i ++ "]" ++ go rest false
    go steps true

/-- A fault in the text, where it was found, and the path of the value being read then, inside
the value being read. -/
structure Fault where
  error : SyntaxError
  position : Position
  path : List PathStep

def Fault.under (step : PathStep) (f : Fault) : Fault :=
  { f with path := step :: f.path }

/-- Text still to read, with the line and byte column reached. -/
structure Cursor where
  rest : List Char
  line : Nat
  column : Nat

namespace Cursor

def start (s : String) : Cursor := ⟨s.toList, 1, 0⟩

def position (c : Cursor) : Position := ⟨c.line, c.column⟩

def peekPosition (c : Cursor) : Position :=
  match c.rest with
  | [] => ⟨c.line, c.column⟩
  | '\n' :: _ => ⟨c.line + 1, 0⟩
  | _ :: _ => ⟨c.line, c.column + 1⟩

def peek? (c : Cursor) : Option Char := c.rest.head?

def advance (c : Cursor) : Cursor :=
  match c.rest with
  | [] => c
  | ch :: rest =>
    if ch = '\n' then ⟨rest, c.line + 1, 0⟩ else ⟨rest, c.line, c.column + ch.utf8Size⟩

def positionAhead (c : Cursor) (n : Nat) : Position :=
  let rec go : List Char → Nat → Nat → Nat → Position
    | [], _, line, column => ⟨line, column⟩
    | _, 0, line, column => ⟨line, column⟩
    | ch :: rest, k + 1, line, column =>
      if ch = '\n' then go rest k (line + 1) 0
      else if ch.utf8Size ≤ k + 1 then go rest (k + 1 - ch.utf8Size) line (column + ch.utf8Size)
      else ⟨line, column + k + 1⟩
  go c.rest n c.line c.column

def advanceBy : Nat → Cursor → Cursor
  | 0, c => c
  | n + 1, c => advanceBy n c.advance

def fail {α : Type} (c : Cursor) (e : SyntaxError) : Except Fault α :=
  .error ⟨e, c.position, []⟩

def failAhead {α : Type} (c : Cursor) (e : SyntaxError) : Except Fault α :=
  .error ⟨e, c.peekPosition, []⟩

def isBlank (ch : Char) : Bool :=
  ch == ' ' || ch == '\n' || ch == '\t' || ch == '\r'

def skipBlanks (c : Cursor) : Cursor :=
  let rec go : List Char → Nat → Nat → Cursor
    | [], line, column => ⟨[], line, column⟩
    | ch :: rest, line, column =>
      if ch = '\n' then go rest (line + 1) 0
      else if isBlank ch then go rest line (column + 1)
      else ⟨ch :: rest, line, column⟩
  go c.rest c.line c.column

end Cursor

def readIdent (c : Cursor) : List Char → Except Fault Cursor
  | [] => .ok c
  | w :: ws =>
    match c.rest with
    | [] => c.fail .eofWhileParsingValue
    | ch :: _ => if ch = w then readIdent c.advance ws else c.failAhead .expectedSomeIdent

/-! ### Numbers -/

def digitValue (ch : Char) : Nat := ch.toNat - '0'.toNat

def accumulate (significand : Nat) : List Char → Nat × Nat
  | [] => (significand, 0)
  | d :: ds =>
    let next := significand * 10 + digitValue d
    if next ≥ Nat.pow 2 64 then (significand, 0)
    else
      let (s, n) := accumulate next ds
      (s, n + 1)

/-- How a number literal ends: its value and the characters it used, or a fault after some
characters, found there or by looking at the next one. -/
inductive NumberScan where
  | done (n : JsonNumber) (used : Nat)
  | fault (e : SyntaxError) (used : Nat) (ahead : Bool)

def scaleDecimal (negative : Bool) (significand : Nat) (exponent : Int) :
    Option Numeric.Binary64 :=
  let zero : Numeric.Binary64 := ⟨false, 0, -1074⟩
  let start := (Numeric.Binary64.ofRatio false significand 1).getD zero
  let power (k : Nat) : Numeric.Binary64 := (Numeric.Binary64.ofDecimal false 1 k).getD zero
  let times (f p : Numeric.Binary64) : Option Numeric.Binary64 :=
    let d := f.exponent + p.exponent
    if d ≥ 0 then Numeric.Binary64.ofRatio false (f.significand * p.significand * Nat.pow 2 d.toNat) 1
    else Numeric.Binary64.ofRatio false (f.significand * p.significand) (Nat.pow 2 (-d).toNat)
  let divided (f p : Numeric.Binary64) : Option Numeric.Binary64 :=
    let d := f.exponent - p.exponent
    if d ≥ 0 then Numeric.Binary64.ofRatio false (f.significand * Nat.pow 2 d.toNat) p.significand
    else Numeric.Binary64.ofRatio false f.significand (p.significand * Nat.pow 2 (-d).toNat)
  let rec go : Nat → Numeric.Binary64 → Int → Option Numeric.Binary64
    | 0, f, _ => some f
    | fuel + 1, f, e =>
      if e.natAbs ≤ 308 then
        if e ≥ 0 then times f (power e.natAbs) else divided f (power e.natAbs)
      else if f.significand = 0 then some f
      else if e ≥ 0 then none
      else go fuel ((divided f (power 308)).getD zero) (e + 308)
  (go 64 start exponent).map fun x => { x with negative := negative }

def binaryScan (negative : Bool) (significand : Nat) (exponent : Int) (used : Nat) :
    NumberScan :=
  match scaleDecimal negative significand exponent with
  | some x => .done (.binary x) used
  | none => .fault .numberOutOfRange used false

def scanExponent (negative : Bool) (significand : Nat) (start : Int) (used : Nat)
    (cs : List Char) : NumberScan :=
  let afterE := cs.drop 1
  let (expNegative, signLength) :=
    match afterE with
    | '+' :: _ => (false, 1)
    | '-' :: _ => (true, 1)
    | _ => (false, 0)
  let body := afterE.drop signLength
  let used := used + 1 + signLength
  match body with
  | [] => .fault .eofWhileParsingValue used false
  | d :: _ =>
    if !d.isDigit then .fault .invalidNumber used true
    else
      let digits := body.takeWhile Char.isDigit
      -- the digits whose value stays within 32-bit range
      let rec fits : List Char → Nat → Nat × Nat × Bool
        | [], acc => (acc, 0, false)
        | x :: xs, acc =>
          let next := acc * 10 + digitValue x
          if next > Nat.pow 2 31 - 1 then (acc, 1, true)
          else
            let (v, n, past) := fits xs next
            (v, n + 1, past)
      let (value, taken, overflowed) := fits digits 0
      if overflowed then
        if significand ≠ 0 ∧ !expNegative then .fault .numberOutOfRange (used + taken) false
        else .done (.binary ⟨negative, 0, -1074⟩) (used + digits.length)
      else
        let exponent := if expNegative then start - value else start + value
        binaryScan negative significand exponent (used + digits.length)

def scanFraction (negative : Bool) (significand : Nat) (start : Int) (used : Nat)
    (cs : List Char) : NumberScan :=
  let digits := (cs.drop 1).takeWhile Char.isDigit
  let (significand', taken) := accumulate significand digits
  let used' := used + 1 + digits.length
  let after := (cs.drop 1).drop digits.length
  let exponent := start - taken
  if taken < digits.length then
    -- the later digits are dropped
    match after with
    | 'e' :: _ | 'E' :: _ => scanExponent negative significand' exponent used' after
    | _ => binaryScan negative significand' exponent used'
  else if digits.isEmpty then
    match after with
    | [] => .fault .eofWhileParsingValue used' true
    | _ => .fault .invalidNumber used' true
  else
    match after with
    | 'e' :: _ | 'E' :: _ => scanExponent negative significand' exponent used' after
    | _ => binaryScan negative significand' exponent used'

def scanNumber (negative : Bool) (cs : List Char) : NumberScan :=
  match cs with
  | [] => .fault .eofWhileParsingValue 0 false
  | '0' :: rest =>
    match rest with
    | d :: _ =>
      if d.isDigit then .fault .invalidNumber 1 true
      else if d = '.' then scanFraction negative 0 0 1 rest
      else if d = 'e' ∨ d = 'E' then scanExponent negative 0 0 1 rest
      else if negative then .done (.binary ⟨true, 0, -1074⟩) 1
      else .done (.natural 0) 1
    | [] => if negative then .done (.binary ⟨true, 0, -1074⟩) 1 else .done (.natural 0) 1
  | d :: _ =>
    if !d.isDigit then .fault .invalidNumber 0 true
    else
      let digits := cs.takeWhile Char.isDigit
      let (significand, taken) := accumulate 0 digits
      let after := cs.drop digits.length
      let extra : Int := digits.length - taken
      let used := digits.length
      match after with
      | '.' :: _ => scanFraction negative significand extra used after
      | 'e' :: _ | 'E' :: _ => scanExponent negative significand extra used after
      | _ =>
        if extra > 0 then binaryScan negative significand extra used
        else if !negative then .done (.natural significand) used
        else if significand ≤ Nat.pow 2 63 then .done (.negative (-(significand : Int))) used
        else
          match Numeric.Binary64.ofRatio true significand 1 with
          | some x => .done (.binary x) used
          | none => .fault .numberOutOfRange used false

def readNumber (c : Cursor) (negative : Bool) : Except Fault (JsonNumber × Cursor) :=
  match scanNumber negative c.rest with
  | .done n used => .ok (n, c.advanceBy used)
  | .fault e used ahead =>
    let c' := c.advanceBy used
    if ahead then c'.failAhead e else c'.fail e

/-! ### Strings -/

def hexQuad? : List Char → Option Nat
  | [a, b, c, d] =>
    let v (x : Char) : Option Nat :=
      if '0' ≤ x ∧ x ≤ '9' then some (x.toNat - '0'.toNat)
      else if 'a' ≤ x ∧ x ≤ 'f' then some (x.toNat - 'a'.toNat + 10)
      else if 'A' ≤ x ∧ x ≤ 'F' then some (x.toNat - 'A'.toNat + 10)
      else none
    do pure ((((← v a) * 16 + (← v b)) * 16 + (← v c)) * 16 + (← v d))
  | _ => none

def readHexQuad (c : Cursor) : Except Fault (Nat × Cursor) :=
  match hexQuad? (c.rest.take 4) with
  | some v => .ok (v, c.advanceBy 4)
  | none =>
    if ((c.rest.take 4).map Char.utf8Size).foldr (· + ·) 0 < 4 then
      (c.advanceBy c.rest.length).fail .eofWhileParsingString
    else .error ⟨.invalidEscape, c.positionAhead 4, []⟩

def readUnicodeEscape (c : Cursor) : Except Fault (Char × Cursor) := do
  let (n, c) ← readHexQuad c
  if 0xDC00 ≤ n ∧ n ≤ 0xDFFF then c.fail .loneLeadingSurrogateInHexEscape
  else if n < 0xD800 ∨ n > 0xDBFF then pure (Char.ofNat n, c)
  else
    match c.rest with
    | [] => c.fail .eofWhileParsingString
    | '\\' :: _ =>
      let c := c.advance
      match c.rest with
      | [] => c.fail .eofWhileParsingString
      | 'u' :: _ =>
        let (n2, c) ← readHexQuad c.advance
        if n2 < 0xDC00 ∨ n2 > 0xDFFF then c.fail .loneLeadingSurrogateInHexEscape
        else pure (Char.ofNat (((n - 0xD800) * 0x400 + (n2 - 0xDC00)) + 0x10000), c)
      | _ => c.failAhead .unexpectedEndOfHexEscape
    | _ => c.failAhead .unexpectedEndOfHexEscape

def readString (c : Cursor) : Except Fault (String × Cursor) :=
  let rec go : Nat → Cursor → List Char → Except Fault (String × Cursor)
    | 0, c, _ => c.fail .eofWhileParsingString
    | fuel + 1, c, acc =>
      match c.rest with
      | [] => c.fail .eofWhileParsingString
      | '"' :: _ => .ok (String.ofList acc.reverse, c.advance)
      | '\\' :: _ =>
        let c := c.advance
        match c.rest with
        | [] => c.fail .eofWhileParsingString
        | e :: _ =>
          match e with
          | '"' => go fuel c.advance ('"' :: acc)
          | '\\' => go fuel c.advance ('\\' :: acc)
          | '/' => go fuel c.advance ('/' :: acc)
          | 'b' => go fuel c.advance ('\x08' :: acc)
          | 'f' => go fuel c.advance ('\x0c' :: acc)
          | 'n' => go fuel c.advance ('\n' :: acc)
          | 'r' => go fuel c.advance ('\r' :: acc)
          | 't' => go fuel c.advance ('\t' :: acc)
          | 'u' =>
            match readUnicodeEscape c.advance with
            | .ok (ch, c) => go fuel c (ch :: acc)
            | .error f => .error f
          | _ => c.failAhead .invalidEscape
      | ch :: _ =>
        if ch.toNat < 0x20 then c.advance.fail .controlCharacterWhileParsingString
        else go fuel c.advance (ch :: acc)
  go (c.rest.length + 1) c []

def skipString (c : Cursor) : Except Fault Cursor :=
  let rec go : Nat → Cursor → Except Fault Cursor
    | 0, c => c.fail .eofWhileParsingString
    | fuel + 1, c =>
      match c.rest with
      | [] => c.fail .eofWhileParsingString
      | '"' :: _ => .ok c.advance
      | '\\' :: _ =>
        let c := c.advance
        match c.rest with
        | [] => c.fail .eofWhileParsingString
        | e :: _ =>
          if e = 'u' then
            match readHexQuad c.advance with
            | .ok (_, c) => go fuel c
            | .error f => .error f
          else if e ∈ ['"', '\\', '/', 'b', 'f', 'n', 'r', 't'] then go fuel c.advance
          else c.failAhead .invalidEscape
      | ch :: _ =>
        if ch.toNat < 0x20 then c.fail .controlCharacterWhileParsingString
        else go fuel c.advance
  go (c.rest.length + 1) c

/-! ### Values -/

/-- The most arrays and objects open at once, plus one. -/
def nestingLimit : Nat := 128

def readKey (c : Cursor) (first : Bool) : Except Fault (Option String × Cursor) :=
  let c := c.skipBlanks
  match c.rest with
  | [] => c.failAhead .eofWhileParsingObject
  | '\x7d' :: _ => .ok (none, c)
  | ch :: _ =>
    let next : Except Fault Cursor :=
      if ch = ',' ∧ !first then .ok c.advance.skipBlanks
      else if first then .ok c
      else c.failAhead .expectedObjectCommaOrEnd
    match next with
    | .error f => .error f
    | .ok c =>
      match c.rest with
      | [] => c.failAhead .eofWhileParsingValue
      | '"' :: _ =>
        match readString c.advance with
        | .ok (s, c) => .ok (some s, c)
        | .error f => .error f
      | '\x7d' :: _ => c.failAhead .trailingComma
      | _ => c.failAhead .keyMustBeAString

def readColon (c : Cursor) : Except Fault Cursor :=
  let c := c.skipBlanks
  match c.rest with
  | ':' :: _ => .ok c.advance
  | [] => c.failAhead .eofWhileParsingObject
  | _ => c.failAhead .expectedColon

def closeArray (c : Cursor) : Except Fault Cursor :=
  let c := c.skipBlanks
  match c.rest with
  | ']' :: _ => .ok c.advance
  | ',' :: _ =>
    let c := c.advance.skipBlanks
    match c.rest with
    | ']' :: _ => c.failAhead .trailingComma
    | _ => c.failAhead .trailingCharacters
  | [] => c.failAhead .eofWhileParsingList
  | _ => c.failAhead .trailingCharacters

def closeObject (c : Cursor) : Except Fault Cursor :=
  let c := c.skipBlanks
  match c.rest with
  | '\x7d' :: _ => .ok c.advance
  | ',' :: _ => c.failAhead .trailingComma
  | [] => c.failAhead .eofWhileParsingObject
  | _ => c.failAhead .trailingCharacters

mutual

/-- Reads one value, keeping object members in the order written. `depth` is how many more
arrays and objects may open; `fuel` bounds the recursion and is never the reason to stop when
it is at least twice the length of the text. -/
def readValue : Nat → Nat → Cursor → Except Fault (Json × Cursor)
  | 0, _, c => c.fail .eofWhileParsingValue
  | fuel + 1, depth, c =>
    let c := c.skipBlanks
    match c.rest with
    | [] => c.failAhead .eofWhileParsingValue
    | ch :: _ =>
      match ch with
      | 'n' => do let c ← readIdent c.advance "ull".toList; pure (.null, c)
      | 't' => do let c ← readIdent c.advance "rue".toList; pure (.bool true, c)
      | 'f' => do let c ← readIdent c.advance "alse".toList; pure (.bool false, c)
      | '-' => do let (n, c) ← readNumber c.advance true; pure (.number n, c)
      | '"' => do let (s, c) ← readString c.advance; pure (.string s, c)
      | '[' =>
        if depth ≤ 1 then c.failAhead .recursionLimitExceeded
        else do
          let (items, c) ← readItems fuel (depth - 1) c.advance true []
          let c ← closeArray c
          pure (.array items, c)
      | '\x7b' =>
        if depth ≤ 1 then c.failAhead .recursionLimitExceeded
        else do
          let (fields, c) ← readMembers fuel (depth - 1) c.advance true []
          let c ← closeObject c
          pure (.object fields, c)
      | _ =>
        if ch.isDigit then do let (n, c) ← readNumber c false; pure (.number n, c)
        else c.failAhead .expectedSomeValue

def readItems : Nat → Nat → Cursor → Bool → List Json → Except Fault (List Json × Cursor)
  | 0, _, c, _, _ => c.fail .eofWhileParsingList
  | fuel + 1, depth, c, first, acc =>
    let here := Fault.under (.index acc.length)
    let c := c.skipBlanks
    match c.rest with
    | [] => (c.failAhead .eofWhileParsingList).mapError here
    | ']' :: _ => .ok (acc.reverse, c)
    | ch :: _ =>
      let next : Except Fault Cursor :=
        if ch = ',' ∧ !first then .ok c.advance.skipBlanks
        else if first then .ok c
        else c.failAhead .expectedListCommaOrEnd
      match next with
      | .error f => .error (here f)
      | .ok c =>
        match c.rest with
        | [] => (c.failAhead .eofWhileParsingValue).mapError here
        | ']' :: _ => (c.failAhead .trailingComma).mapError here
        | _ =>
          match readValue fuel depth c with
          | .error f => .error (here f)
          | .ok (v, c) => readItems fuel depth c false (v :: acc)

def readMembers : Nat → Nat → Cursor → Bool → List (String × Json) →
    Except Fault (List (String × Json) × Cursor)
  | 0, _, c, _, _ => c.fail .eofWhileParsingObject
  | fuel + 1, depth, c, first, acc =>
    match readKey c first with
    | .error f => .error (f.under .unknown)
    | .ok (none, c) => .ok (acc.reverse, c)
    | .ok (some key, c) =>
      match readColon c with
      | .error f => .error (f.under (.key key))
      | .ok c =>
        match readValue fuel depth c with
        | .error f => .error (f.under (.key key))
        | .ok (v, c) => readMembers fuel depth c false ((key, v) :: acc)

end

def skipNumber (cs : List Char) : Except (SyntaxError × Nat × Bool) Nat :=
  let exponentPart (used : Nat) (cs : List Char) : Except (SyntaxError × Nat × Bool) Nat :=
    -- `cs` starts at the `e` or `E`
    let afterE := cs.drop 1
    let signLength := match afterE with
      | '+' :: _ | '-' :: _ => 1
      | _ => 0
    let body := afterE.drop signLength
    let used := used + 1 + signLength
    match body with
    | d :: _ =>
      if d.isDigit then .ok (used + (body.takeWhile Char.isDigit).length)
      else .error (.invalidNumber, used, true)
    | [] => .error (.invalidNumber, used, false)
  let afterInteger (used : Nat) (rest : List Char) : Except (SyntaxError × Nat × Bool) Nat :=
    match rest with
    | '.' :: more =>
      let digits := more.takeWhile Char.isDigit
      if digits.isEmpty then .error (.invalidNumber, used + 1, true)
      else
        let used := used + 1 + digits.length
        match more.drop digits.length with
        | 'e' :: _ | 'E' :: _ => exponentPart used (more.drop digits.length)
        | _ => .ok used
    | 'e' :: _ | 'E' :: _ => exponentPart used rest
    | _ => .ok used
  match cs with
  | '0' :: rest =>
    match rest with
    | d :: _ => if d.isDigit then .error (.invalidNumber, 1, true) else afterInteger 1 rest
    | [] => .ok 1
  | d :: _ =>
    if d.isDigit then
      let digits := cs.takeWhile Char.isDigit
      afterInteger digits.length (cs.drop digits.length)
    else .error (.invalidNumber, 0, true)
  | [] => .error (.invalidNumber, 0, false)

def skipNumberAt (c : Cursor) : Except Fault Cursor :=
  match skipNumber c.rest with
  | .ok used => .ok (c.advanceBy used)
  | .error (e, used, ahead) =>
    let c' := c.advanceBy used
    if ahead then c'.failAhead e else c'.fail e

def closeFrames : Nat → Cursor → Char → Bool → List Char →
    Except Fault (Cursor ⊕ (Cursor × Char × List Char))
  | 0, c, _, _, _ => c.fail .eofWhileParsingValue
  | fuel + 1, c, frame, afterValue, stack =>
    let c := c.skipBlanks
    let isArray := frame = '['
    match c.rest with
    | [] => c.failAhead (if isArray then .eofWhileParsingList else .eofWhileParsingObject)
    | ch :: _ =>
      if ch = ',' ∧ afterValue then .ok (.inr (c.advance, frame, stack))
      else if ch = (if isArray then ']' else '\x7d') then
        match stack with
        | [] => .ok (.inl c.advance)
        | f :: rest => closeFrames fuel c.advance f true rest
      else if afterValue then
        c.failAhead (if isArray then .expectedListCommaOrEnd else .expectedObjectCommaOrEnd)
      else .ok (.inr (c, frame, stack))

def skipLoop : Nat → Cursor → List Char → Option Char → Except Fault Cursor
  | 0, c, _, _ => c.fail .eofWhileParsingValue
  | fuel + 1, c, stack, enclosing =>
    let c := c.skipBlanks
    let scalar (r : Except Fault Cursor) : Except Fault (Cursor × Option Char × List Char) :=
      r.map fun c => (c, none, stack)
    let step : Except Fault (Cursor × Option Char × List Char) :=
      match c.rest with
      | [] => c.failAhead .eofWhileParsingValue
      | 'n' :: _ => scalar (readIdent c.advance "ull".toList)
      | 't' :: _ => scalar (readIdent c.advance "rue".toList)
      | 'f' :: _ => scalar (readIdent c.advance "alse".toList)
      | '-' :: _ => scalar (skipNumberAt c.advance)
      | '"' :: _ => scalar (skipString c.advance)
      | '[' :: _ => .ok (c.advance, some '[', enclosing.toList ++ stack)
      | '\x7b' :: _ => .ok (c.advance, some '\x7b', enclosing.toList ++ stack)
      | ch :: _ => if ch.isDigit then scalar (skipNumberAt c) else c.failAhead .expectedSomeValue
    match step with
    | .error f => .error f
    | .ok (c, opened, stack) =>
      -- the frame to continue in, and whether a value was just read in it
      let current : Option (Char × Bool × List Char) :=
        match opened with
        | some f => some (f, false, stack)
        | none =>
          match enclosing with
          | some f => some (f, true, stack)
          | none =>
            match stack with
            | f :: rest => some (f, true, rest)
            | [] => none
      match current with
      | none => .ok c
      | some (frame, afterValue, stack) =>
        match closeFrames fuel c frame afterValue stack with
        | .error f => .error f
        | .ok (.inl c) => .ok c
        | .ok (.inr (c, frame, stack)) =>
          if frame = '[' then skipLoop fuel c stack (some frame)
          else
            let c := c.skipBlanks
            match c.rest with
            | '"' :: _ =>
              match skipString c.advance with
              | .error f => .error f
              | .ok c =>
                match readColon c with
                | .error f => .error f
                | .ok c => skipLoop fuel c stack (some frame)
            | [] => c.failAhead .eofWhileParsingObject
            | _ => c.failAhead .keyMustBeAString

/-- Moves past one value, only checking it. -/
def skipValue (c : Cursor) : Except Fault Cursor :=
  skipLoop (2 * c.rest.length + 2) c [] none

def readValueAt (c : Cursor) : Except Fault (Json × Cursor) :=
  readValue (2 * c.rest.length + 2) nestingLimit c

def readValueWithin (levels : Nat) (c : Cursor) : Except Fault (Json × Cursor) :=
  readValue (2 * c.rest.length + 2) (nestingLimit - levels) c

def finish (c : Cursor) : Except Fault Unit :=
  let c := c.skipBlanks
  match c.rest with
  | [] => .ok ()
  | _ => c.failAhead .trailingCharacters

/-- Reads a whole document as a map-shaped value (see `Json.canonical`). -/
def parse (s : String) : Except Fault Json := do
  let (v, c) ← readValueAt (Cursor.start s)
  finish c
  pure v.canonical

end Json

end RepairDesk
