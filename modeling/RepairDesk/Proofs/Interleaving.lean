import Mathlib.Data.List.Perm.Basic
import RepairDesk.Proofs.Invariants
import RepairDesk.Proofs.Staging

/-! Concurrent runs: operations that read the store, and later commit their plans to the store of
that moment. -/

namespace RepairDesk

open Tables Store

def Store.Unused (s : Store) (x : Uuid) : Prop := ∀ e, s.findRow? e x = none

theorem Store.MovesOn.unused {fresh x : Uuid} {s t : Store} (h : MovesOn fresh s t)
    (hx : x ≠ fresh) (hs : s.Unused x) : t.Unused x := by
  intro e
  cases ht : t.findRow? e x with
  | none => rfl
  | some r' =>
      obtain ⟨r, hr, -⟩ := h e x r' hx ht
      rw [hs e] at hr
      cases hr

theorem Evolves.of_movesOn {fresh : Uuid} {s t : Store} (hmoves : MovesOn fresh s t)
    (hfresh : s.Unused fresh) (hkeep : KeepsActivity s t) : Evolves s t where
  rows := by
    intro e x r r' hr hr'
    have hx : x ≠ fresh := by
      rintro rfl
      rw [hfresh e] at hr
      cases hr
    obtain ⟨r₀, hr₀, hle, heq⟩ := hmoves e x r' hx hr'
    rw [hr, Option.some_inj] at hr₀
    subst hr₀
    exact ⟨hle, heq⟩
  live := hkeep

/-- An operation between its read and its commit: its command, its context and the store it
read. -/
structure Pending where
  command : Command
  context : Context
  read : Store

def Pending.commitTo (p : Pending) (s : Store) : Store :=
  match p.command.plan p.context p.read with
  | .ok cs =>
    match s.commit cs with
    | .ok t => t
    | .error _ => s
  | .error _ => s

inductive Event where
  /-- An operation starts: it reads the store and makes its plan. -/
  | begin (c : Command) (ctx : Context)
  /-- The operation pending at this position commits its plan. -/
  | commit (i : Nat)

def Event.freshId? : Event → Option Uuid
  | .begin _ ctx => some ctx.freshId
  | .commit _ => none

/-- The shared store and the operations between their read and their commit. -/
structure Interleaving where
  store : Store
  pending : List Pending

namespace Interleaving

def step (st : Interleaving) : Event → Interleaving
  | .begin c ctx => ⟨st.store, st.pending ++ [⟨c, ctx, st.store⟩]⟩
  | .commit i =>
    match st.pending[i]? with
    | some p => ⟨p.commitTo st.store, st.pending.eraseIdx i⟩
    | none => st

def run (st : Interleaving) (evs : List Event) : Interleaving :=
  evs.foldl step st

def drawn (st : Interleaving) (ids : List Uuid) : List Uuid :=
  st.pending.map (·.context.freshId) ++ ids

/-- The invariant of a concurrent run, given the identifiers its later operations draw. -/
structure Safe (st : Interleaving) (ids : List Uuid) : Prop where
  consistent : Consistent st.store
  /-- Every pending operation read a consistent store that has only evolved since. -/
  reads : ∀ p ∈ st.pending, Consistent p.read ∧ Evolves p.read st.store
  distinct : (st.drawn ids).Nodup
  /-- No identifier drawn or to be drawn is used, now or in any store read. -/
  unused : ∀ x ∈ st.drawn ids, st.store.Unused x ∧ ∀ p ∈ st.pending, p.read.Unused x

variable {st : Interleaving} {ids : List Uuid}

theorem Safe.start {s : Store} (h : Consistent s) (hdistinct : ids.Nodup)
    (hunused : ∀ x ∈ ids, s.Unused x) : Safe ⟨s, []⟩ ids where
  consistent := h
  reads := by simp
  distinct := by simpa [drawn] using hdistinct
  unused := by simpa [drawn] using hunused

theorem Safe.begin {c : Command} {ctx : Context} (h : Safe st (ctx.freshId :: ids)) :
    Safe (st.step (.begin c ctx)) ids := by
  have hdrawn : (st.step (.begin c ctx)).drawn ids = st.drawn (ctx.freshId :: ids) := by
    simp [step, drawn]
  refine ⟨h.consistent, ?_, hdrawn ▸ h.distinct, ?_⟩
  · intro p hp
    rcases List.mem_append.mp hp with hp | hp
    · exact h.reads p hp
    · rw [List.mem_singleton.mp hp]
      exact ⟨h.consistent, Evolves.refl _⟩
  · intro x hx
    rw [hdrawn] at hx
    obtain ⟨hstore, hreads⟩ := h.unused x hx
    refine ⟨hstore, fun p hp => ?_⟩
    rcases List.mem_append.mp hp with hp | hp
    · exact hreads p hp
    · rw [List.mem_singleton.mp hp]
      exact hstore

section Commit

variable {i : Nat} {p : Pending} (h : Safe st ids) (hp : st.pending[i]? = some p)
include h hp

theorem Safe.drawn_erase :
    p.context.freshId ∉ (st.pending.eraseIdx i).map (·.context.freshId) ++ ids ∧
      ((st.pending.eraseIdx i).map (·.context.freshId) ++ ids).Nodup ∧
      ∀ x ∈ (st.pending.eraseIdx i).map (·.context.freshId) ++ ids, x ∈ st.drawn ids := by
  obtain ⟨hi, hget⟩ := List.getElem?_eq_some_iff.mp hp
  -- taking the committing operation out and putting it in front only reorders the identifiers
  have hperm : List.Perm ((p :: st.pending.eraseIdx i).map (·.context.freshId) ++ ids)
      (st.drawn ids) :=
    ((hget ▸ List.getElem_cons_eraseIdx_perm hi).map _).append_right ids
  have hnodup := hperm.nodup_iff.mpr h.distinct
  rw [List.map_cons, List.cons_append, List.nodup_cons] at hnodup
  refine ⟨hnodup.1, hnodup.2, fun x hx => hperm.subset ?_⟩
  rw [List.map_cons, List.cons_append]
  exact List.mem_cons_of_mem _ hx

theorem Safe.erase : Safe ⟨st.store, st.pending.eraseIdx i⟩ ids := by
  obtain ⟨-, -, hdrawn⟩ := h.drawn_erase hp
  refine ⟨h.consistent, fun q hq => h.reads q (List.mem_of_mem_eraseIdx hq),
    (h.drawn_erase hp).2.1, fun x hx => ?_⟩
  obtain ⟨hstore, hreads⟩ := h.unused x (hdrawn x hx)
  exact ⟨hstore, fun q hq => hreads q (List.mem_of_mem_eraseIdx hq)⟩

theorem Safe.commit_ok {cs : ChangeSet} {t : Store}
    (hplan : p.command.plan p.context p.read = .ok cs) (hc : st.store.commit cs = .ok t) :
    Safe ⟨t, st.pending.eraseIdx i⟩ ids := by
  obtain ⟨hother, hnodup, hdrawn⟩ := h.drawn_erase hp
  have hmem : p ∈ st.pending := List.mem_of_getElem? hp
  obtain ⟨hcons₀, hev₀⟩ := h.reads p hmem
  obtain ⟨hcons, hkeep⟩ := Command.commit_consistent hcons₀ h.consistent hev₀ hplan hc
  have hmoves : MovesOn p.context.freshId st.store t :=
    MovesOn.commit (Command.plan_stagedFrom hcons₀.keyed hplan).each hc
  have hfresh := h.unused p.context.freshId
    (List.mem_append_left _ (List.mem_map_of_mem hmem))
  -- the commit moves every row but new ones under the committing operation's identifier
  have hev : Evolves st.store t := Evolves.of_movesOn hmoves hfresh.1 hkeep
  refine ⟨hcons, fun q hq => ?_, hnodup, fun x hx => ?_⟩
  · have hq' := List.mem_of_mem_eraseIdx hq
    obtain ⟨hconsq, hevq⟩ := h.reads q hq'
    refine ⟨hconsq, hevq.trans hev fun e x r₀ r₂ hr₀ hr₂ => ?_⟩
    -- a row the other operation read is not under the committing operation's identifier
    have hx : x ≠ p.context.freshId := by
      rintro rfl
      rw [hfresh.2 q hq' e] at hr₀
      cases hr₀
    obtain ⟨r, hr, -⟩ := hmoves e x r₂ hx hr₂
    simp [hr]
  · obtain ⟨hstore, hreads⟩ := h.unused x (hdrawn x hx)
    have hne : x ≠ p.context.freshId := by
      rintro rfl
      exact hother hx
    exact ⟨hmoves.unused hne hstore, fun q hq => hreads q (List.mem_of_mem_eraseIdx hq)⟩

end Commit

theorem Safe.commit {i : Nat} (h : Safe st ids) : Safe (st.step (.commit i)) ids := by
  cases hp : st.pending[i]? with
  | none => simpa [step, hp] using h
  | some p =>
      have hstep : st.step (.commit i) = ⟨p.commitTo st.store, st.pending.eraseIdx i⟩ := by
        simp [step, hp]
      rw [hstep, Pending.commitTo]
      split
      · next cs hplan =>
          split
          · next t hc => exact h.commit_ok hp hplan hc
          · exact h.erase hp
      · exact h.erase hp

theorem Safe.step {ev : Event} (h : Safe st (ev.freshId?.toList ++ ids)) :
    Safe (st.step ev) ids := by
  cases ev with
  | begin c ctx => exact Safe.begin h
  | commit i => exact Safe.commit h

/-- A run is safe throughout, by induction on its events. -/
theorem Safe.run {evs : List Event} (h : Safe st (evs.filterMap Event.freshId? ++ ids)) :
    Safe (st.run evs) ids := by
  induction evs generalizing st with
  | nil => exact h
  | cons ev evs ih =>
      refine ih (Safe.step ?_)
      cases hev : ev.freshId? <;> simpa [List.filterMap_cons, hev] using h

/-- An operation whose read has gone stale on a row it writes is refused at commit time and
leaves the store as it was. -/
theorem Safe.stale_refused {i : Nat} {p : Pending} {cs : ChangeSet} (h : Safe st ids)
    (hp : st.pending[i]? = some p) (hplan : p.command.plan p.context p.read = .ok cs)
    {c : Change} (hc : c ∈ cs) {e : Entity} {x : Uuid} {v : Int}
    (hexp : c.expects = some (e, x, v)) (hstale : st.store.findRow? e x ≠ p.read.findRow? e x) :
    (∃ err, st.store.commit cs = .error err) ∧ (st.step (.commit i)).store = st.store := by
  obtain ⟨hcons₀, hev₀⟩ := h.reads p (List.mem_of_getElem? hp)
  have hstaged := Command.plan_stagedFrom hcons₀.keyed hplan
  -- the change expects the version read, and a row still at that version is the row read
  obtain ⟨r, hr, hrv⟩ := Option.map_eq_some_iff.mp ((hstaged.each c hc).read hexp)
  have hmoved : (st.store.findRow? e x).map Row.version ≠ some v := by
    intro hv
    rw [← hrv] at hv
    exact hstale ((hev₀.findRow_eq hr hv).trans hr.symm)
  obtain ⟨err, herr⟩ := commit_eq_error_of_stale hstaged.distinct hc hexp hmoved
  refine ⟨⟨err, herr⟩, ?_⟩
  simp [Interleaving.step, hp, Pending.commitTo, hplan, herr]

end Interleaving

/-- However operations overlap, each reading the store and later committing its plan to the
store of that moment, a run that starts from a store the service reached and draws a fresh
identifier for each operation leaves orders following their reports and coupon usage counted;
and an operation whose read has gone stale on a row it writes is refused at commit time and
writes nothing. -/
theorem concurrent_runs_stay_consistent (steps : List (Command × Context)) (evs : List Event)
    (hdistinct : (evs.filterMap Event.freshId?).Nodup)
    (hunused : ∀ x ∈ evs.filterMap Event.freshId?, (Command.runAll steps Store.empty).Unused x) :
    let st := Interleaving.run ⟨Command.runAll steps Store.empty, []⟩ evs
    OrdersFollowReports st.store ∧ CouponsCounted st.store ∧
    ∀ i p cs, st.pending[i]? = some p → p.command.plan p.context p.read = .ok cs →
      ∀ c ∈ cs, ∀ e x v, c.expects = some (e, x, v) →
        st.store.findRow? e x ≠ p.read.findRow? e x →
        (∃ err, st.store.commit cs = .error err) ∧ (st.step (.commit i)).store = st.store := by
  intro st
  have hstart : Interleaving.Safe ⟨Command.runAll steps Store.empty, []⟩
      (evs.filterMap Event.freshId? ++ []) := by
    rw [List.append_nil]
    exact .start (Reachable.empty.of_runAll steps).consistent hdistinct hunused
  have h : Interleaving.Safe st [] := Interleaving.Safe.run hstart
  refine ⟨h.consistent.ordersFollowReports, h.consistent.couponsCounted, ?_⟩
  intro i p cs hp hplan c hc e x v hexp hstale
  exact h.stale_refused hp hplan hc hexp hstale

/-- Two administrators create coupons with one code at once: both read the empty store, and
the second commit is refused. -/
theorem rival_coupons_interleave :
    let admin : Actor := ⟨Uuid.ofNat 7, .admin⟩
    let request : CouponRequest := ⟨"SPRING10", 500, 3, none⟩
    let evs := [Event.begin (.createCoupon admin request) ⟨⟨2026, 1, 1⟩, ⟨0, 0⟩, Uuid.ofNat 1⟩,
      Event.begin (.createCoupon admin request) ⟨⟨2026, 1, 1⟩, ⟨0, 0⟩, Uuid.ofNat 2⟩,
      Event.commit 0, Event.commit 0]
    ((evs.filterMap Event.freshId?).Nodup ∧
      ∀ x ∈ evs.filterMap Event.freshId?, (Command.runAll [] Store.empty).Unused x) ∧
    let st := Interleaving.run ⟨Command.runAll [] Store.empty, []⟩ evs
    OrdersFollowReports st.store ∧ CouponsCounted st.store ∧
    ∀ i p cs, st.pending[i]? = some p → p.command.plan p.context p.read = .ok cs →
      ∀ c ∈ cs, ∀ e x v, c.expects = some (e, x, v) →
        st.store.findRow? e x ≠ p.read.findRow? e x →
        (∃ err, st.store.commit cs = .error err) ∧ (st.step (.commit i)).store = st.store := by
  intro admin request evs
  have hdistinct : (evs.filterMap Event.freshId?).Nodup := by decide
  have hunused : ∀ x ∈ evs.filterMap Event.freshId?, (Command.runAll [] Store.empty).Unused x := by
    intro x _ e
    cases e <;> rfl
  exact ⟨⟨hdistinct, hunused⟩, concurrent_runs_stay_consistent [] evs hdistinct hunused⟩

end RepairDesk
