import RepairDesk.Json.Read
import RepairDesk.Json.Decode

namespace RepairDesk

namespace Json

/-- What went wrong while decoding text. -/
inductive TextIssue where
  | malformed (e : SyntaxError)
  | data (e : DecodeError)

/-- A fault met while decoding text, with its position and the path leading to it. -/
structure TextFault where
  issue : TextIssue
  position : Position
  path : List PathStep

namespace TextFault

def ofFault (f : Fault) : TextFault := ⟨.malformed f.error, f.position, f.path⟩

def isData (f : TextFault) : Bool :=
  match f.issue with
  | .data _ => true
  | .malformed _ => false

def message (f : TextFault) : String :=
  let text := match f.issue with
    | .malformed e => e.message
    | .data e => e.message
  let pathText :=
    if f.path.all (· == .unknown) then "" else renderPath f.path ++ ": "
  pathText ++ text ++ " at line " ++ toString f.position.line ++ " column " ++
    toString f.position.column

end TextFault

def lift {α : Type} : Except Fault α → Except TextFault α
  | .ok a => .ok a
  | .error f => .error (TextFault.ofFault f)

def dataAt {α : Type} (c : Cursor) (e : DecodeError) : Except TextFault α :=
  .error ⟨.data e, c.position, []⟩

def within {α : Type} (step : PathStep) : Except TextFault α → Except TextFault α
  | .ok a => .ok a
  | .error f => .error { f with path := step :: f.path }

def unexpectedAt {α : Type} (c : Cursor) (expected : String) : Except TextFault α :=
  match c.rest with
  | 'n' :: _ => do
    let c ← lift (readIdent c.advance "ull".toList)
    dataAt c (.invalidType .null expected)
  | 't' :: _ => do
    let c ← lift (readIdent c.advance "rue".toList)
    dataAt c (.invalidType (.bool true) expected)
  | 'f' :: _ => do
    let c ← lift (readIdent c.advance "alse".toList)
    dataAt c (.invalidType (.bool false) expected)
  | '-' :: _ => do
    let (n, c) ← lift (readNumber c.advance true)
    dataAt c (.invalidType n.unexpected expected)
  | '"' :: _ => do
    let (s, c) ← lift (readString c.advance)
    dataAt c (.invalidType (.string s) expected)
  | '[' :: _ => dataAt c (.invalidType .sequence expected)
  | '\x7b' :: _ => dataAt c (.invalidType .map expected)
  | ch :: _ =>
    if ch.isDigit then do
      let (n, c) ← lift (readNumber c false)
      dataAt c (.invalidType n.unexpected expected)
    else lift (c.failAhead .expectedSomeValue)
  | [] => lift (c.failAhead .expectedSomeValue)

def fromString (c : Cursor) (r : Except DecodeError FieldValue) :
    Except TextFault (FieldValue × Cursor) :=
  match r with
  | .ok v => .ok (v, c)
  | .error e => dataAt c e

end Json

namespace FieldShape

open Json

def decodeText : FieldShape → Cursor → Except TextFault (FieldValue × Cursor)
  | .optional inner, c =>
    let c := c.skipBlanks
    match c.rest with
    | 'n' :: _ => do
      let c ← lift (readIdent c.advance "ull".toList)
      pure (.absent, c)
    | _ => decodeText inner c
  | shape, c =>
    let c := c.skipBlanks
    match c.rest with
    | [] => lift (c.failAhead .eofWhileParsingValue)
    | ch :: _ =>
      match shape with
      | .text | .uuid | .date | .instant =>
        if ch = '"' then do
          let (s, c) ← lift (readString c.advance)
          match shape with
          | .uuid => fromString c (readUuid s)
          | .date => fromString c (readDate s)
          | .instant => fromString c (readInstant s)
          | _ => pure (.text s, c)
        else unexpectedAt c shape.expecting
      | .int64 | .int32 | .natural =>
        if ch = '-' ∨ ch.isDigit then do
          let (n, c) ← lift (readNumber (if ch = '-' then c.advance else c) (ch = '-'))
          match checkInteger shape n with
          | .ok v => pure (v, c)
          | .error e => dataAt c e
        else unexpectedAt c shape.expecting
      | .choice variants =>
        if ch = '"' then do
          let (s, c) ← lift (readString c.advance)
          fromString c (readVariant variants s)
        else if ch = '\x7b' then do
          let c := c.advance.skipBlanks
          match c.rest with
          | [] => lift (c.failAhead .eofWhileParsingValue)
          | '"' :: _ =>
            let (name, c) ← lift (readString c.advance)
            let (v, c) ← fromString c (readVariant variants name)
            let c ← lift (readColon c)
            let c := c.skipBlanks
            -- the variant's content lies under the variant's name
            let c ← within (.key name) (match c.rest with
              | [] => lift (c.failAhead .eofWhileParsingValue)
              | 'n' :: _ => lift (readIdent c.advance "ull".toList)
              | _ => unexpectedAt c "unit")
            let c := c.skipBlanks
            match c.rest with
            | '\x7d' :: _ => pure (v, c.advance)
            | [] => lift (c.fail .eofWhileParsingObject)
            | _ => lift (c.fail .expectedSomeValue)
          | _ => unexpectedAt c "variant identifier"
        else lift (c.failAhead .expectedSomeValue)
      | .optional _ => lift (c.failAhead .expectedSomeValue)

end FieldShape

namespace RecordShape

open Json

def decodeItemsText (shape : RecordShape) :
    List (String × FieldShape) → Nat → Cursor → Except TextFault (List FieldValue × Cursor)
  | [], _, c => do
    let c ← lift (closeArray c)
    pure ([], c)
  | (_, fieldShape) :: rest, index, c =>
    let c := c.skipBlanks
    match c.rest with
    | [] => lift (c.failAhead .eofWhileParsingList)
    | ']' :: _ => dataAt c.advance (.invalidLength index shape.arrayExpecting)
    | ch :: _ => do
      let c ← if ch = ',' ∧ index ≠ 0 then pure c.advance.skipBlanks
        else if index = 0 then pure c
        else lift (c.failAhead .expectedListCommaOrEnd)
      match c.rest with
      | [] => lift (c.failAhead .eofWhileParsingValue)
      | ']' :: _ => lift (c.failAhead .trailingComma)
      | _ =>
        let (v, c) ← within (.index index) (fieldShape.decodeText c)
        let (vs, c) ← decodeItemsText shape rest (index + 1) c
        pure (v :: vs, c)

def afterObject (c : Cursor) : Cursor :=
  let c := c.skipBlanks
  match c.rest with
  | '\x7d' :: _ => c.advance
  | _ => c

def decodeMembersText (shape : RecordShape) :
    Nat → Cursor → Bool → Slots → List (String × Json) →
    Except TextFault (List FieldValue × Cursor)
  | 0, c, _, _, _ => lift (c.fail .eofWhileParsingObject)
  | fuel + 1, c, first, slots, collected => do
    let (key, c) ← lift (readKey c first)
    match key with
    | none =>
      let done := afterObject c
      let own ← match complete shape.fields slots with
        | .ok vs => pure vs
        | .error e => dataAt done e
      match shape.flattened with
      | none => pure (own, done)
      | some inner =>
        let passed := collected.reverse.filter fun (k, _) => inner.any (·.1 == k)
        match decodeMembers inner passed with
        | .ok more => pure (own ++ more, done)
        | .error e => dataAt done e
    | some key =>
      match shape.fields.findIdx? (·.1 == key) with
      | some i =>
        match slots[i]?, shape.fields[i]? with
        | some (some _), _ => dataAt (afterObject c) (.duplicateField key)
        | _, some (_, fieldShape) => do
          let (v, c) ← within (.key key) (do
            let c ← lift (readColon c)
            fieldShape.decodeText c)
          decodeMembersText shape fuel c false (slots.set i (some v)) collected
        | _, none => lift (c.fail .eofWhileParsingObject)
      | none =>
        if shape.flattened.isSome then do
          let (v, c) ← within (.key key) (do
            let c ← lift (readColon c)
            lift (readValueWithin 1 c))
          decodeMembersText shape fuel c false slots ((key, v) :: collected)
        else do
          let c ← within (.key key) (do
            let c ← lift (readColon c)
            lift (skipValue c))
          decodeMembersText shape fuel c false slots collected

def decodeText (shape : RecordShape) (c : Cursor) : Except TextFault (List FieldValue × Cursor) :=
  let c := c.skipBlanks
  match c.rest with
  | [] => lift (c.failAhead .eofWhileParsingValue)
  | '[' :: _ =>
    if shape.flattened.isSome then dataAt c (.invalidType .sequence shape.name)
    else decodeItemsText shape shape.fields 0 c.advance
  | '\x7b' :: _ =>
    decodeMembersText shape (c.rest.length + 1) c.advance true (shape.fields.map fun _ => none) []
  | _ => unexpectedAt c shape.name

/-- Decodes a whole text as a record: nothing but blanks may follow it. -/
def decodeDocument (shape : RecordShape) (s : String) : Except TextFault (List FieldValue) := do
  let (vs, c) ← shape.decodeText (Cursor.start s)
  lift (finish c)
  pure vs

end RecordShape

end RepairDesk
