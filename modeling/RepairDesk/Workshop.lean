import RepairDesk.Operation

/-! The workshop: the store, the clock and the count of identifiers issued. -/

namespace RepairDesk

/-- The state operations run against. -/
structure Workshop where
  store : Store := {}
  clock : Instant := Instant.unixEpoch
  issued : Nat := 0

namespace Workshop

def idFamily : Nat := 1

def now (w : Workshop) : Instant := w.clock.tick

/-- What the next operation is given. -/
def context (w : Workshop) (today : Date) : Context :=
  { today, now := w.now, freshId := Uuid.sequential idFamily (w.issued + 1) }

def advance (w : Workshop) (s : Store) : Workshop :=
  { store := s, clock := w.now, issued := w.issued + 1 }

/-- Runs an operation and commits its plan: the answer and the audit entries, or the refusal. -/
def perform {α : Type} (w : Workshop) (today : Date) (op : Operation α) :
    Except Failure (α × List AuditEntry) × Workshop :=
  match op (w.context today) w.store with
  | .error f => (.error f, w)
  | .ok p =>
    match w.store.commit p.changes with
    | .error e => (.error (.refused e.toWorkflow), w)
    | .ok s => (.ok (p.answer, p.audit), w.advance s)

end Workshop

end RepairDesk
