import RepairDesk.Proofs.Completion

namespace RepairDesk

open Store

/-! ### What a commit does to the outbox -/

namespace Store

variable {s t : Store}

theorem outbox_of_apply {c : Change} (h : s.apply c = .ok t) :
    t.outbox = s.outbox ++ c.message?.toList ∧ t.published = s.published := by
  cases c with
  | insertOrder o => obtain ⟨-, rfl⟩ := apply_insertOrder.mp h; simp [Change.message?]
  | updateOrder o v => obtain ⟨-, rfl⟩ := apply_updateOrder.mp h; simp [Change.message?]
  | deleteOrder id v => obtain ⟨-, rfl⟩ := apply_deleteOrder.mp h; simp [Change.message?]
  | insertCoupon c => obtain ⟨-, -, rfl⟩ := apply_insertCoupon.mp h; simp [Change.message?]
  | updateCoupon c v => obtain ⟨-, -, rfl⟩ := apply_updateCoupon.mp h; simp [Change.message?]
  | deleteCoupon id v => obtain ⟨-, rfl⟩ := apply_deleteCoupon.mp h; simp [Change.message?]
  | insertPaymentMethod m =>
      obtain ⟨-, rfl⟩ := apply_insertPaymentMethod.mp h
      simp [Change.message?]
  | updatePaymentMethod m v =>
      obtain ⟨-, rfl⟩ := apply_updatePaymentMethod.mp h
      simp [Change.message?]
  | deletePaymentMethod id v =>
      obtain ⟨-, rfl⟩ := apply_deletePaymentMethod.mp h
      simp [Change.message?]
  | insertReport r => obtain ⟨-, -, rfl⟩ := apply_insertReport.mp h; simp [Change.message?]
  | updateReport r v => obtain ⟨-, -, rfl⟩ := apply_updateReport.mp h; simp [Change.message?]
  | deleteReport id v => obtain ⟨-, rfl⟩ := apply_deleteReport.mp h; simp [Change.message?]
  | enqueue m => obtain rfl := apply_enqueue.mp h; simp [Change.message?]

theorem outbox_of_commit {cs : ChangeSet} (h : s.commit cs = .ok t) :
    t.outbox = s.outbox ++ cs.filterMap Change.message? ∧ t.published = s.published := by
  induction cs generalizing s with
  | nil =>
      rw [commit_nil, Except.ok.injEq] at h
      subst h
      simp
  | cons c cs ih =>
      obtain ⟨u, happ, hrest⟩ := commit_cons_eq_ok.mp h
      obtain ⟨hout, hcount⟩ := outbox_of_apply happ
      obtain ⟨hout', hcount'⟩ := ih hrest
      refine ⟨?_, hcount'.trans hcount⟩
      rw [hout', hout, List.filterMap_cons]
      cases c.message? <;> simp

/-! ### One pass of the relay -/

theorem markPublished_head {m : OutboxMessage} {rest : List OutboxMessage}
    (h : s.outbox = m :: rest) :
    s.markPublished m.id = { s with outbox := rest, published := s.published + 1 } := by
  simp [markPublished, h]

theorem deliver_spec (accepts : Nat → Bool) (ms : List OutboxMessage) (i : Nat) (s : Store)
    (hwaiting : ms <+: s.outbox) :
    ∃ k ≤ ms.length, (∀ n < k, accepts (i + n) = true) ∧
      (k < ms.length → accepts (i + k) = false) ∧
      deliver accepts ms i s =
        ((ms.take k).map (·.event),
          { s with outbox := s.outbox.drop k, published := s.published + k }) := by
  induction ms generalizing i s with
  | nil => exact ⟨0, Nat.le_refl _, by simp, by simp, by simp [deliver]⟩
  | cons m ms ih =>
      obtain ⟨rest, hrest⟩ := hwaiting
      by_cases hi : accepts i
      · -- the head is delivered and removed; the pass goes on from the next call
        have hmark : s.markPublished m.id =
            { s with outbox := ms ++ rest, published := s.published + 1 } :=
          markPublished_head (by simp [← hrest])
        obtain ⟨k, hk, hacc, hstop, hdeliver⟩ :=
          ih (i + 1) (s.markPublished m.id) ⟨rest, by rw [hmark]⟩
        refine ⟨k + 1, by simpa using hk, fun n hn => ?_, fun hlt => ?_, ?_⟩
        · cases n with
          | zero => simpa using hi
          | succ n => simpa [Nat.add_assoc, Nat.add_comm 1 n] using hacc n (by omega)
        · simpa [Nat.add_assoc, Nat.add_comm 1 k] using hstop (by simpa using hlt)
        · simp only [deliver, hi, ite_true]
          rw [hdeliver, hmark, ← hrest]
          simp [Nat.add_assoc, Nat.add_comm 1 k]
      · refine ⟨0, Nat.zero_le _, by simp, fun _ => by simpa using hi, ?_⟩
        simp [deliver, hi]

/-- One pass of the relay with a batch size: it delivers the events of the first `k` waiting
messages, where the sink accepts the first `k` calls among the first `min batch n` waiting and
refuses the next if the pass stops short; those messages leave the outbox, the refused one
stays at its head, and the delivered count grows by `k`. -/
theorem drain_spec (s : Store) (batch : Nat) (accepts : Nat → Bool) :
    let k := (s.drain batch accepts).1.length
    k ≤ min batch s.outbox.length ∧ (∀ n < k, accepts n = true) ∧
      (k < min batch s.outbox.length → accepts k = false) ∧
      (s.drain batch accepts).1 = (s.outbox.take k).map (·.event) ∧
      (s.drain batch accepts).2 =
        { s with outbox := s.outbox.drop k, published := s.published + k } := by
  have hwaiting : s.pendingOutbox batch <+: s.outbox := List.take_prefix batch s.outbox
  obtain ⟨k, hk, hacc, hstop, hdeliver⟩ := deliver_spec accepts (s.pendingOutbox batch) 0 s hwaiting
  have hlen : (s.pendingOutbox batch).length = min batch s.outbox.length := List.length_take
  have hkb : k ≤ batch := by omega
  have hevents : (s.drain batch accepts).1 = (s.outbox.take k).map (·.event) := by
    rw [drain, hdeliver, pendingOutbox, List.take_take, Nat.min_eq_left hkb]
  have hcount : (s.drain batch accepts).1.length = k := by
    rw [hevents, List.length_map, List.length_take]
    omega
  intro k'
  rw [show k' = k from hcount]
  refine ⟨hlen ▸ hk, fun n hn => by simpa using hacc n hn, fun hlt => by
    simpa using hstop (hlen ▸ hlt), hevents, ?_⟩
  rw [drain, hdeliver]

end Store

/-! ### Runs with the relay -/

namespace Journal

def delivers (j : Journal) : Step → List CompletionEvent
  | .perform .. => []
  | .relay batch accepts => (j.store.drain batch accepts).1

def delivered (j : Journal) : List Step → List CompletionEvent
  | [] => []
  | st :: steps => j.delivers st ++ (j.step st).delivered steps

/-- The outbox of a journal against the events delivered so far: they are the events of the first
messages ever enqueued, in order; the outbox holds the messages after them; and the delivered
count is their number. -/
structure Delivers (j : Journal) (ds : List CompletionEvent) : Prop where
  ordered : ds = (j.enqueued.take ds.length).map (·.event)
  pending : j.store.outbox = j.enqueued.drop ds.length
  count : j.store.published = ds.length

namespace Delivers

variable {j : Journal} {ds : List CompletionEvent}

theorem empty : Journal.empty.Delivers [] :=
  ⟨rfl, rfl, rfl⟩

theorem length_le (h : j.Delivers ds) : ds.length ≤ j.enqueued.length := by
  have hlen := congrArg List.length h.ordered
  rw [List.length_map, List.length_take] at hlen
  omega

theorem commit {cs : ChangeSet} {t : Store} (h : j.Delivers ds) (ht : j.store.commit cs = .ok t) :
    Delivers ⟨t, j.enqueued ++ cs.filterMap Change.message?⟩ ds := by
  obtain ⟨hout, hcount⟩ := outbox_of_commit ht
  have hle := h.length_le
  refine ⟨?_, ?_, ?_⟩
  · show ds = ((j.enqueued ++ _).take ds.length).map (·.event)
    rw [List.take_append_of_le_length hle]
    exact h.ordered
  · show t.outbox = (j.enqueued ++ _).drop ds.length
    rw [List.drop_append_of_le_length hle, hout, h.pending]
  · show t.published = ds.length
    rw [hcount, h.count]

theorem relay (h : j.Delivers ds) (batch : Nat) (accepts : Nat → Bool) :
    Delivers { j with store := (j.store.drain batch accepts).2 }
      (ds ++ (j.store.drain batch accepts).1) := by
  obtain ⟨hk, -, -, hevents, hstore⟩ := Store.drain_spec j.store batch accepts
  set k := (j.store.drain batch accepts).1.length with hkdef
  have hkle : k ≤ j.store.outbox.length := Nat.le_trans hk (Nat.min_le_right _ _)
  refine ⟨?_, ?_, ?_⟩
  · show ds ++ _ = (j.enqueued.take (ds ++ _).length).map (·.event)
    rw [List.length_append, ← hkdef, List.take_add, List.map_append, ← h.ordered, hevents,
      h.pending]
  · show (j.store.drain batch accepts).2.outbox = j.enqueued.drop (ds ++ _).length
    rw [hstore, List.length_append, ← hkdef, ← List.drop_drop, ← h.pending]
  · show (j.store.drain batch accepts).2.published = (ds ++ _).length
    rw [hstore, List.length_append, ← hkdef, h.count]

theorem step (h : j.Delivers ds) (st : Step) : (j.step st).Delivers (ds ++ j.delivers st) := by
  cases st with
  | perform c ctx =>
      simp only [delivers, List.append_nil]
      cases hplan : c.plan ctx j.store with
      | error f => simpa [Journal.step, hplan] using h
      | ok cs =>
          cases ht : j.store.commit cs with
          | error e => simpa [Journal.step, hplan, ht] using h
          | ok t => simpa [Journal.step, hplan, ht] using h.commit ht
  | relay batch accepts => exact h.relay batch accepts

/-- What a run delivers after a journal continues what was delivered before it, by induction on
the run. -/
theorem run (h : j.Delivers ds) (steps : List Step) :
    (j.run steps).Delivers (ds ++ j.delivered steps) := by
  induction steps generalizing j ds with
  | nil => simpa [Journal.run, delivered] using h
  | cons st steps ih =>
      have hnext := ih (h.step st)
      rw [List.append_assoc] at hnext
      exact hnext

end Delivers

end Journal

/-- However commands and relay passes follow one another from the empty store, with any batch
sizes and any answers of the sink: the events delivered, pass after pass, are the events of the
first messages ever enqueued, in enqueue order, none twice and none skipped; the outbox holds
the messages enqueued after them; the delivered count is their number. And the next pass, with
any batch and sink, delivers the first `k` waiting messages, where the sink accepts the first `k`
of its calls among the first `min batch n` waiting and refuses the next if the pass stops short;
the refused message is left at the head of the outbox. -/
theorem relay_delivers_enqueued_in_order (steps : List Step) :
    let j := Journal.empty.run steps
    let ds := Journal.empty.delivered steps
    (ds = (j.enqueued.take ds.length).map (·.event) ∧
      j.store.outbox = j.enqueued.drop ds.length ∧ j.store.published = ds.length) ∧
    ∀ batch accepts,
      let k := (j.store.drain batch accepts).1.length
      let waiting := min batch j.store.outbox.length
      k ≤ waiting ∧ (∀ n < k, accepts n = true) ∧ (k < waiting → accepts k = false) ∧
      (j.store.drain batch accepts).1 = (j.store.outbox.take k).map (·.event) ∧
      (j.store.drain batch accepts).2.outbox = j.store.outbox.drop k ∧
      (k < waiting → (j.store.drain batch accepts).2.outbox.head? = j.store.outbox[k]?) ∧
      (j.store.drain batch accepts).2.published = j.store.published + k := by
  intro j ds
  have h : j.Delivers ([] ++ ds) := Journal.Delivers.empty.run steps
  rw [List.nil_append] at h
  refine ⟨⟨h.ordered, h.pending, h.count⟩, fun batch accepts => ?_⟩
  obtain ⟨hk, hacc, hstop, hevents, hstore⟩ := Store.drain_spec j.store batch accepts
  intro k waiting
  refine ⟨hk, hacc, hstop, hevents, by rw [hstore], fun _ => ?_, by rw [hstore]⟩
  rw [hstore, List.head?_drop]

end RepairDesk
