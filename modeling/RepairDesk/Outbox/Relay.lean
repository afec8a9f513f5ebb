import RepairDesk.Store.Basic

namespace RepairDesk

namespace Store

def deliver (accepts : Nat → Bool) : List OutboxMessage → Nat → Store →
    List CompletionEvent × Store
  | [], _, s => ([], s)
  | m :: rest, i, s =>
    if accepts i then
      let (events, s') := deliver accepts rest (i + 1) (s.markPublished m.id)
      (m.event :: events, s')
    else ([], s)

/-- One pass of the relay: the events delivered and the store after it. -/
def drain (s : Store) (batch : Nat) (accepts : Nat → Bool) : List CompletionEvent × Store :=
  deliver accepts (s.pendingOutbox batch) 0 s

end Store

end RepairDesk
