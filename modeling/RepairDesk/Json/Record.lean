import RepairDesk.Json.Stream

namespace RepairDesk

/-- How a value of `α` is read: through a shape, then built from the fields. -/
structure RecordReader (α : Type) where
  shape : RecordShape
  build : List FieldValue → Option α

namespace FieldValue

def pick? {α : Type} (options : List α) (v : FieldValue) : Option α :=
  v.choice?.bind fun i => options[i]?

end FieldValue

namespace RecordReader

def unbuilt {α : Type} (r : RecordReader α) : DecodeError :=
  .custom ("invalid " ++ r.shape.name)

def ofJson {α : Type} (r : RecordReader α) (j : Json) : Except DecodeError α := do
  let vs ← r.shape.decode j
  match r.build vs with
  | some a => pure a
  | none => throw r.unbuilt

def ofText {α : Type} (r : RecordReader α) (s : String) : Except Json.TextFault α := do
  let vs ← r.shape.decodeDocument s
  match r.build vs with
  | some a => pure a
  | none => throw ⟨.data r.unbuilt, ⟨1, 0⟩, []⟩

end RecordReader

end RepairDesk
