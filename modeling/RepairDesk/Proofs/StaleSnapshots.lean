import RepairDesk.Proofs.Acceptance

/-! Coupon usage calls on stale snapshots of the store. -/

namespace RepairDesk

open Numeric Tables Store

/-! ### The calls -/

/-- A call of the usage operations on coupons as some earlier read returned them. -/
inductive UsageCall where
  | apply (c : Coupon)
  | release (c : Coupon)
  | swap (new old : Coupon)

def Failure.Expected : Failure → Prop
  | .refused (.validation _) | .refused (.concurrencyConflict _ _) => True
  | _ => False

def Coupon.Bounded (c : Coupon) : Prop :=
  0 ≤ c.usageCount ∧ c.usageCount ≤ c.maxUsage ∧ c.maxUsage ≤ wordMax 32 ∧ 0 ≤ c.version

structure Coupon.WrittenBack (c c' : Coupon) : Prop where
  id : c'.id = c.id
  code : c'.code = c.code
  version : c'.version = c.version + 1
  bounded : c'.Bounded

namespace UsageCall

def snapshots : UsageCall → List Coupon
  | apply c | release c => [c]
  | swap new old => [new, old]

def taken : UsageCall → List Coupon
  | apply c | swap c _ => [c]
  | release _ => []

def plan : UsageCall → Context → Store → Except Failure ChangeSet
  | apply c => staged (Coupon.applyUsage c)
  | release c => staged (Coupon.releaseUsage c)
  | swap new old => staged (Coupon.swapUsage new old)

def outcome (call : UsageCall) (ctx : Context) (s : Store) : Except Failure Store :=
  match call.plan ctx s with
  | .error f => .error f
  | .ok cs =>
    match s.commit cs with
    | .ok t => .ok t
    | .error e => .error (.refused e.toWorkflow)

def Current (call : UsageCall) (s : Store) : Prop :=
  ∀ c ∈ call.snapshots, (s.findCoupon? c.id).map (·.version) = some c.version

def Live (call : UsageCall) (today : Date) : Prop :=
  ∀ c ∈ call.taken, c.isExpired today = false ∧ c.usageCount < c.maxUsage

def BelowLast (call : UsageCall) : Prop :=
  ∀ c ∈ call.snapshots, c.version < wordMax 64

/-- Does the call carry a snapshot of coupon `x` at version `v`? -/
def carries (call : UsageCall) (x : Uuid) (v : Int) : Bool :=
  call.snapshots.any fun c => c.id == x && c.version == v

end UsageCall

/-! ### Staging a write of a coupon as read -/

namespace Coupon

variable {cs₀ cs : ChangeSet} {c c' : Coupon} {today : Date} {now : Instant}

theorem wordMax_32 : wordMax 32 = 2147483647 := rfl

theorem wordMin_32 : wordMin 32 = -2147483648 := rfl

theorem wordMax_64 : wordMax 64 = 9223372036854775807 := rfl

theorem wordMin_64 : wordMin 64 = -9223372036854775808 := rfl

namespace Bounded

variable (hb : c.Bounded)
include hb

theorem fits_succ (hlt : c.usageCount < c.maxUsage) : fitsWord 32 (c.usageCount + 1) := by
  obtain ⟨h0, -, hmax, -⟩ := hb
  simp only [fitsWord, wordMin_32, wordMax_32] at hmax ⊢
  omega

theorem fits_pred : fitsWord 32 (c.usageCount - 1) := by
  obtain ⟨h0, hle, hmax, -⟩ := hb
  simp only [fitsWord, wordMin_32, wordMax_32] at hmax ⊢
  omega

theorem fits_next_iff : fitsWord 64 (c.version + 1) ↔ c.version < wordMax 64 := by
  obtain ⟨-, -, -, hv⟩ := hb
  simp only [fitsWord, wordMin_64, wordMax_64]
  omega

end Bounded

theorem stageApply_next (hb : c.Bounded) (h : stageApply cs₀ c today now = .ok (cs, c')) :
    cs = cs₀ ++ [.updateCoupon c' c.version] ∧ c.WrittenBack c' := by
  obtain ⟨-, hexhausted, -, -, rfl, rfl⟩ := stageApply_eq_ok.mp h
  have hlt := usageCount_lt_of_isExhausted hexhausted
  obtain ⟨h0, -, hmax, hv⟩ := hb
  refine ⟨rfl, rfl, rfl, rfl, ?_⟩
  simp only [Bounded]
  exact ⟨by omega, by omega, hmax, by omega⟩

theorem stageRelease_next (hb : c.Bounded) (h : stageRelease cs₀ c now = .ok (cs, c')) :
    cs = cs₀ ++ [.updateCoupon c' c.version] ∧ c.WrittenBack c' := by
  obtain ⟨-, -, rfl, rfl⟩ := stageRelease_eq_ok.mp h
  obtain ⟨h0, hle, hmax, hv⟩ := hb
  refine ⟨rfl, rfl, rfl, rfl, ?_⟩
  simp only [Bounded]
  exact ⟨by omega, by omega, hmax, by omega⟩

theorem stageApply_ok (hb : c.Bounded) (hexpired : c.isExpired today = false)
    (hlt : c.usageCount < c.maxUsage) (hlast : c.version < wordMax 64) :
    ∃ cs c', stageApply cs₀ c today now = .ok (cs, c') :=
  ⟨_, _, stageApply_eq_ok.mpr ⟨hexpired, by simpa [isExhausted] using hlt, hb.fits_succ hlt,
    hb.fits_next_iff.mpr hlast, rfl, rfl⟩⟩

theorem stageRelease_ok (hb : c.Bounded) (hlast : c.version < wordMax 64) :
    ∃ cs c', stageRelease cs₀ c now = .ok (cs, c') :=
  ⟨_, _, stageRelease_eq_ok.mpr ⟨hb.fits_pred, hb.fits_next_iff.mpr hlast, rfl, rfl⟩⟩

theorem stageApply_of_last (hb : c.Bounded) (hexpired : c.isExpired today = false)
    (hlt : c.usageCount < c.maxUsage) (hlast : ¬ c.version < wordMax 64) :
    stageApply cs₀ c today now = .error (.overflow .add) := by
  have hexhausted : c.isExhausted = false := by simpa [isExhausted] using hlt
  have hnext : ¬ fitsWord 64 (c.version + 1) := mt hb.fits_next_iff.mp hlast
  simp [stageApply, hexpired, hexhausted, hb.fits_succ hlt, ChangeSet.updateCoupon, nextVersion,
    addWord, hnext, bind, Except.bind, liftM, monadLift, MonadLift.monadLift, Except.mapError]

theorem stageApply_eq_error (hb : c.Bounded) {f : Failure}
    (h : stageApply cs₀ c today now = .error f) :
    f.Expected ∨ (f = .overflow .add ∧ ¬ c.version < wordMax 64) := by
  cases hexpired : c.isExpired today
  · cases hexhausted : c.isExhausted
    · have hlt := usageCount_lt_of_isExhausted hexhausted
      by_cases hlast : c.version < wordMax 64
      · obtain ⟨cs, c', hok⟩ : ∃ cs c', stageApply cs₀ c today now = .ok (cs, c') :=
          stageApply_ok hb hexpired hlt hlast
        rw [hok] at h
        cases h
      · rw [stageApply_of_last hb hexpired hlt hlast, Except.error.injEq] at h
        exact .inr ⟨h.symm, hlast⟩
    · left
      simp [stageApply, hexpired, hexhausted, throw, throwThe, MonadExceptOf.throw, bind,
        Except.bind] at h
      subst h
      trivial
  · left
    simp [stageApply, hexpired, throw, throwThe, MonadExceptOf.throw, bind, Except.bind] at h
    subst h
    trivial

theorem stageRelease_eq_error (hb : c.Bounded) {f : Failure}
    (h : stageRelease cs₀ c now = .error f) : f = .overflow .add ∧ ¬ c.version < wordMax 64 := by
  by_cases hlast : c.version < wordMax 64
  · obtain ⟨cs, c', hok⟩ : ∃ cs c', stageRelease cs₀ c now = .ok (cs, c') :=
      stageRelease_ok hb hlast
    rw [hok] at h
    cases h
  · refine ⟨?_, hlast⟩
    have hnext : ¬ fitsWord 64 (c.version + 1) := mt hb.fits_next_iff.mp hlast
    simp [stageRelease, subWord_eq_ok hb.fits_pred, ChangeSet.updateCoupon, nextVersion, addWord,
      hnext, bind, Except.bind, liftM, monadLift, MonadLift.monadLift, Except.mapError] at h
    exact h.symm

theorem stageApply_live (hb : c.Bounded) (h : stageApply cs₀ c today now = .ok (cs, c')) :
    c.isExpired today = false ∧ c.usageCount < c.maxUsage ∧ c.version < wordMax 64 := by
  obtain ⟨hexpired, hexhausted, -, hfits, -, -⟩ := stageApply_eq_ok.mp h
  exact ⟨hexpired, usageCount_lt_of_isExhausted hexhausted, hb.fits_next_iff.mp hfits⟩

theorem stageRelease_belowLast (hb : c.Bounded) (h : stageRelease cs₀ c now = .ok (cs, c')) :
    c.version < wordMax 64 :=
  hb.fits_next_iff.mp (stageRelease_eq_ok.mp h).2.1

theorem stageSwap_eq_error {new old : Coupon} {f : Failure}
    (h : stageSwap cs₀ new old today now = .error f) :
    stageApply cs₀ new today now = .error f ∨
      ∃ between new', stageApply cs₀ new today now = .ok (between, new') ∧
        stageRelease between old now = .error f := by
  simp only [stageSwap, bind_eq_error, Prod.exists] at h
  rcases h with happly | ⟨between, new', happly, hrest⟩
  · exact .inl happly
  · right
    refine ⟨between, new', happly, ?_⟩
    simpa [bind_eq_error, pure, Except.pure] using hrest

end Coupon

/-! ### Runs -/

/-- One step of a run: a command of the service, which reads and commits at once, or a usage
call; each in its own context. -/
inductive UsageStep where
  | service (c : Command) (ctx : Context)
  | usage (call : UsageCall) (ctx : Context)

def UsageStep.perform : UsageStep → Store → Store
  | .service c ctx, s => c.run ctx s
  | .usage call ctx, s =>
    match call.outcome ctx s with
    | .ok t => t
    | .error _ => s

def Command.LimitsFit : Command → Prop
  | .createCoupon _ r | .updateCoupon _ _ r => r.maxUsage ≤ wordMax 32
  | _ => True

/-- The store of a run and every coupon the run has stored so far. -/
structure History where
  store : Store
  seen : List Coupon

namespace History

def start : History := ⟨Store.empty, []⟩

def step (h : History) (st : UsageStep) : History :=
  let t := st.perform h.store
  ⟨t, h.seen ++ t.coupons⟩

def run (h : History) (steps : List UsageStep) : History :=
  steps.foldl step h

def Allows (h : History) : UsageStep → Prop
  | .service c ctx => ctx.freshId ∉ h.seen.map (·.id) ∧ c.LimitsFit
  | .usage call _ => ∀ c ∈ call.snapshots, c ∈ h.seen

def Admits (h : History) : List UsageStep → Prop
  | [] => True
  | st :: rest => h.Allows st ∧ (h.step st).Admits rest

instance Command.decidableLimitsFit : DecidablePred Command.LimitsFit := fun c => by
  cases c <;> unfold Command.LimitsFit <;> infer_instance

instance (h : History) : DecidablePred h.Allows
  | .service c ctx => inferInstanceAs (Decidable (ctx.freshId ∉ h.seen.map (·.id) ∧ c.LimitsFit))
  | .usage call _ => inferInstanceAs (Decidable (∀ c ∈ call.snapshots, c ∈ h.seen))

instance decidableAdmits : (h : History) → (steps : List UsageStep) → Decidable (h.Admits steps)
  | _, [] => isTrue trivial
  | h, st :: rest =>
    have := decidableAdmits (h.step st) rest
    inferInstanceAs (Decidable (h.Allows st ∧ (h.step st).Admits rest))

inductive Reachable : History → Prop
  | start : Reachable start
  | step {h : History} {st : UsageStep} : Reachable h → h.Allows st → Reachable (h.step st)

/-- The usage calls of a run that commit, in order. -/
def commits (h : History) : List UsageStep → List UsageCall
  | [] => []
  | .service c ctx :: rest => (h.step (.service c ctx)).commits rest
  | .usage call ctx :: rest =>
    (if (call.outcome ctx h.store).isOk then [call] else []) ++
      (h.step (.usage call ctx)).commits rest

theorem Reachable.run {h : History} (hh : h.Reachable) {steps : List UsageStep}
    (hadmits : h.Admits steps) : (h.run steps).Reachable := by
  induction steps generalizing h with
  | nil => exact hh
  | cons st steps ih => exact ih (hh.step hadmits.1) hadmits.2

end History

/-! ### What a call stages and what it answers -/

theorem Failure.expected_of_commit (e : StoreError) : (Failure.refused e.toWorkflow).Expected := by
  cases e <;> trivial

namespace UsageCall

variable {ctx : Context} {s t : Store} {cs : ChangeSet} {f : Failure} {c new old : Coupon}

theorem plan_apply (c : Coupon) (ctx : Context) (s : Store) :
    (apply c).plan ctx s = Prod.fst <$> Coupon.stageApply [] c ctx.today ctx.now := by
  simp only [plan, staged, Coupon.applyUsage]
  cases Coupon.stageApply [] c ctx.today ctx.now with
  | error f => rfl
  | ok p => obtain ⟨cs, c'⟩ := p; rfl

theorem plan_release (c : Coupon) (ctx : Context) (s : Store) :
    (release c).plan ctx s = Prod.fst <$> Coupon.stageRelease [] c ctx.now := by
  simp only [plan, staged, Coupon.releaseUsage]
  cases Coupon.stageRelease [] c ctx.now with
  | error f => rfl
  | ok p => obtain ⟨cs, c'⟩ := p; rfl

theorem plan_swap (new old : Coupon) (ctx : Context) (s : Store) :
    (swap new old).plan ctx s = Prod.fst <$> Coupon.stageSwap [] new old ctx.today ctx.now := by
  simp only [plan, staged, Coupon.swapUsage]
  cases Coupon.stageSwap [] new old ctx.today ctx.now with
  | error f => rfl
  | ok p => obtain ⟨cs, new', old'⟩ := p; rfl

theorem map_fst_eq_ok {β : Type} {x : Except Failure (ChangeSet × β)} :
    Prod.fst <$> x = .ok cs ↔ ∃ b, x = .ok (cs, b) := by
  rw [map_eq_ok]
  constructor
  · rintro ⟨⟨cs', b⟩, h, rfl⟩
    exact ⟨b, h⟩
  · rintro ⟨b, h⟩
    exact ⟨(cs, b), h, rfl⟩

theorem plan_apply_eq_ok :
    (apply c).plan ctx s = .ok cs ↔
      ∃ c', Coupon.stageApply [] c ctx.today ctx.now = .ok (cs, c') := by
  rw [plan_apply, map_fst_eq_ok]

theorem plan_release_eq_ok :
    (release c).plan ctx s = .ok cs ↔ ∃ c', Coupon.stageRelease [] c ctx.now = .ok (cs, c') := by
  rw [plan_release, map_fst_eq_ok]

theorem plan_swap_eq_ok :
    (swap new old).plan ctx s = .ok cs ↔
      ∃ new' old', Coupon.stageSwap [] new old ctx.today ctx.now = .ok (cs, new', old') := by
  rw [plan_swap, map_fst_eq_ok]
  constructor
  · rintro ⟨⟨new', old'⟩, h⟩
    exact ⟨new', old', h⟩
  · rintro ⟨new', old', h⟩
    exact ⟨(new', old'), h⟩

theorem outcome_eq_ok {call : UsageCall} :
    call.outcome ctx s = .ok t ↔ ∃ cs, call.plan ctx s = .ok cs ∧ s.commit cs = .ok t := by
  unfold outcome
  cases call.plan ctx s with
  | error f => simp
  | ok cs =>
      dsimp only
      cases hcommit : s.commit cs <;> simp [hcommit]

theorem outcome_eq_error {call : UsageCall} :
    call.outcome ctx s = .error f ↔ call.plan ctx s = .error f ∨
      ∃ cs e, call.plan ctx s = .ok cs ∧ s.commit cs = .error e ∧ f = .refused e.toWorkflow := by
  unfold outcome
  cases call.plan ctx s with
  | error f' => simp
  | ok cs =>
      dsimp only
      cases hcommit : s.commit cs <;> simp [hcommit, eq_comm]

end UsageCall

/-! ### What a run keeps -/

namespace History

/-- How a coupon a step leaves stands to the run so far: it was stored, it is the next version of
a stored coupon, or its identifier is new to the run. -/
def Succeeds (h : History) (b : Coupon) : Prop :=
  b ∈ h.store.coupons ∨ (∃ p ∈ h.store.coupons, b.id = p.id ∧ b.version = p.version + 1) ∨
    b.id ∉ h.seen.map (·.id)

structure Sound (h : History) : Prop where
  wellFormed : h.store.WellFormed
  stored : ∀ c ∈ h.store.coupons, c ∈ h.seen
  determined : ∀ a ∈ h.seen, ∀ b ∈ h.seen, a.id = b.id → a.version = b.version → a = b
  latest : ∀ c ∈ h.store.coupons, ∀ a ∈ h.seen, a.id = c.id → a.version ≤ c.version
  bounded : ∀ a ∈ h.seen, a.Bounded

namespace Sound

variable {h : History} {a b c : Coupon}

theorem start : History.start.Sound where
  wellFormed := .empty
  stored := by simp [History.start, Store.empty]
  determined := by simp [History.start]
  latest := by simp [History.start, Store.empty]
  bounded := by simp [History.start]

variable (hs : h.Sound)
include hs

theorem bounded_of_stored (hc : c ∈ h.store.coupons) : c.Bounded :=
  hs.bounded c (hs.stored c hc)

theorem findCoupon?_eq (hc : c ∈ h.seen)
    (hv : (h.store.findCoupon? c.id).map (·.version) = some c.version) :
    h.store.findCoupon? c.id = some c := by
  obtain ⟨p, hp, hpv⟩ := Option.map_eq_some_iff.mp hv
  obtain ⟨hmem, hid⟩ := mem_of_findCoupon? hp
  rw [hp, hs.determined p (hs.stored p hmem) c hc hid hpv]

theorem mem_iff_version (hc : c ∈ h.seen) :
    c ∈ h.store.coupons ↔ (h.store.findCoupon? c.id).map (·.version) = some c.version := by
  constructor
  · intro hmem
    rw [hs.wellFormed.keyed.findCoupon?_eq_some hmem]
    rfl
  · intro hv
    exact (mem_of_findCoupon? (hs.findCoupon?_eq hc hv)).1

theorem le_of_succeeds (ha : a ∈ h.seen) (hb : h.Succeeds b) (hid : a.id = b.id) :
    a.version ≤ b.version := by
  rcases hb with hb | ⟨p, hp, hpid, hpv⟩ | hfresh
  · exact hs.latest b hb a ha hid
  · have := hs.latest p hp a ha (hid.trans hpid)
    omega
  · exact absurd (List.mem_map.mpr ⟨a, ha, hid⟩) hfresh

theorem eq_of_succeeds (ha : a ∈ h.seen) (hb : h.Succeeds b) (hid : a.id = b.id)
    (hv : a.version = b.version) : a = b := by
  rcases hb with hb | ⟨p, hp, hpid, hpv⟩ | hfresh
  · exact hs.determined a ha b (hs.stored b hb) hid hv
  · have := hs.latest p hp a ha (hid.trans hpid)
    omega
  · exact absurd (List.mem_map.mpr ⟨a, ha, hid⟩) hfresh

theorem next {t : Store} (hwf : t.WellFormed) (hnew : ∀ b ∈ t.coupons, h.Succeeds b ∧ b.Bounded) :
    History.Sound ⟨t, h.seen ++ t.coupons⟩ where
  wellFormed := hwf
  stored _ hc := List.mem_append_right _ hc
  determined a ha b hb hid hv := by
    rcases List.mem_append.mp ha with ha | ha <;> rcases List.mem_append.mp hb with hb | hb
    · exact hs.determined a ha b hb hid hv
    · exact hs.eq_of_succeeds ha (hnew b hb).1 hid hv
    · exact (hs.eq_of_succeeds hb (hnew a ha).1 hid.symm hv.symm).symm
    · exact eq_of_key_eq _ hwf.keyed.coupons ha hb hid
  latest c hc a ha hid := by
    rcases List.mem_append.mp ha with ha | ha
    · exact hs.le_of_succeeds ha (hnew c hc).1 hid
    · exact Int.le_of_eq (congrArg Coupon.version (eq_of_key_eq _ hwf.keyed.coupons ha hc hid))
  bounded a ha := by
    rcases List.mem_append.mp ha with ha | ha
    · exact hs.bounded a ha
    · exact (hnew a ha).2

theorem keep : History.Sound ⟨h.store, h.seen ++ h.store.coupons⟩ :=
  hs.next hs.wellFormed fun _ hb => ⟨.inl hb, hs.bounded_of_stored hb⟩

end Sound

end History

/-! ### A call on a sound run -/

namespace History

variable {h : History} {c c' : Coupon} {t : Store}

theorem succeeds_replaceBy {rows : List Coupon} (hrows : ∀ b ∈ rows, h.Succeeds b ∧ b.Bounded)
    (hc : c ∈ h.store.coupons) (hw : c.WrittenBack c') :
    ∀ b ∈ replaceBy (·.id) c' rows, h.Succeeds b ∧ b.Bounded := by
  intro b hb
  rcases (mem_replaceBy _).mp hb with ⟨hb, -⟩ | ⟨rfl, -⟩
  · exact hrows b hb
  · exact ⟨.inr (.inl ⟨c, hc, hw.id, hw.version⟩), hw.bounded⟩

namespace Sound

variable (hs : h.Sound)
include hs

theorem stored_succeeds : ∀ b ∈ h.store.coupons, h.Succeeds b ∧ b.Bounded :=
  fun _ hb => ⟨.inl hb, hs.bounded_of_stored hb⟩

theorem apply_writeBack (hc : c ∈ h.seen) (hw : c.WrittenBack c') :
    h.store.apply (.updateCoupon c' c.version) = .ok t ↔ c ∈ h.store.coupons ∧
      t = { h.store with coupons := replaceBy (·.id) c' h.store.coupons } := by
  rw [apply_updateCoupon, hw.id, ← hs.mem_iff_version hc]
  constructor
  · rintro ⟨hmem, -, rfl⟩
    exact ⟨hmem, rfl⟩
  · rintro ⟨hmem, rfl⟩
    exact ⟨hmem, hs.wellFormed.checkCouponCode_of_stored hmem hw.id hw.code, rfl⟩

theorem writeBack (hc : c ∈ h.store.coupons) (hw : c.WrittenBack c') :
    History.Sound ⟨{ h.store with coupons := replaceBy (·.id) c' h.store.coupons },
      h.seen ++ replaceBy (·.id) c' h.store.coupons⟩ :=
  have happ := (hs.apply_writeBack (hs.stored c hc) hw).mpr ⟨hc, rfl⟩
  hs.next (hs.wellFormed.apply happ) (succeeds_replaceBy hs.stored_succeeds hc hw)

theorem mem_writeBack_iff (hc : c ∈ h.store.coupons) (hw : c.WrittenBack c') {d : Coupon}
    (hd : d ∈ h.seen) :
    d ∈ replaceBy (·.id) c' h.store.coupons ↔ d ∈ h.store.coupons ∧ d.id ≠ c.id := by
  rw [mem_replaceBy, hw.id]
  constructor
  · rintro (hold | ⟨rfl, -⟩)
    · exact hold
    · have := hs.latest c hc d hd hw.id
      have := hw.version
      omega
  · exact .inl

theorem commit_writeBack (hc : c ∈ h.seen) (hw : c.WrittenBack c') :
    h.store.commit [.updateCoupon c' c.version] = .ok t ↔ c ∈ h.store.coupons ∧
      t = { h.store with coupons := replaceBy (·.id) c' h.store.coupons } := by
  rw [commit_singleton_eq_ok]
  exact hs.apply_writeBack hc hw

theorem commit_writeBack_pair {d d' : Coupon} (hc : c ∈ h.seen) (hd : d ∈ h.seen)
    (hwc : c.WrittenBack c') (hwd : d.WrittenBack d') :
    h.store.commit [.updateCoupon c' c.version, .updateCoupon d' d.version] = .ok t ↔
      (c ∈ h.store.coupons ∧ d ∈ h.store.coupons ∧ d.id ≠ c.id) ∧
        t = { h.store with
          coupons := replaceBy (·.id) d' (replaceBy (·.id) c' h.store.coupons) } := by
  rw [commit_cons_eq_ok]
  constructor
  · rintro ⟨u, hfirst, hsecond⟩
    obtain ⟨hmemc, rfl⟩ := (hs.apply_writeBack hc hwc).mp hfirst
    -- the second write meets the store the first leaves, a store of the run too
    obtain ⟨hmemd, rfl⟩ :=
      ((hs.writeBack hmemc hwc).commit_writeBack (List.mem_append_left _ hd) hwd).mp hsecond
    exact ⟨⟨hmemc, (hs.mem_writeBack_iff hmemc hwc hd).mp hmemd⟩, rfl⟩
  · rintro ⟨⟨hmemc, hmemd, hne⟩, rfl⟩
    refine ⟨_, (hs.apply_writeBack hc hwc).mpr ⟨hmemc, rfl⟩, ?_⟩
    exact ((hs.writeBack hmemc hwc).commit_writeBack (List.mem_append_left _ hd) hwd).mpr
      ⟨(hs.mem_writeBack_iff hmemc hwc hd).mpr ⟨hmemd, hne⟩, rfl⟩

end Sound

end History

namespace UsageCall

/-- What a call that commits did, on a sound run: every coupon it writes was stored as read,
under distinct identifiers, the coupons it takes were live and every version it writes fits;
the store it leaves is well formed, holds coupons that succeed the run, and holds each coupon
written at its next version. -/
structure Committed (h : History) (call : UsageCall) (today : Date) (t : Store) : Prop where
  stored : ∀ c ∈ call.snapshots, c ∈ h.store.coupons
  distinct : (call.snapshots.map (·.id)).Nodup
  live : call.Live today
  belowLast : call.BelowLast
  wellFormed : t.WellFormed
  succeeds : ∀ b ∈ t.coupons, h.Succeeds b ∧ b.Bounded
  written : ∀ c ∈ call.snapshots, ∃ c' ∈ t.coupons, c'.id = c.id ∧ c'.version = c.version + 1

variable {h : History} {ctx : Context} {t : Store} {f : Failure} {c c' new old : Coupon}

theorem Committed.single (hs : h.Sound) {call : UsageCall} {today : Date}
    (hsnap : call.snapshots = [c]) (hmem : c ∈ h.store.coupons) (hw : c.WrittenBack c')
    (hlive : call.Live today) (hlast : c.version < wordMax 64) :
    call.Committed h today { h.store with coupons := replaceBy (·.id) c' h.store.coupons } where
  stored := by simp [hsnap, hmem]
  distinct := by simp [hsnap]
  live := hlive
  belowLast := by simp [BelowLast, hsnap, hlast]
  wellFormed := (hs.writeBack hmem hw).wellFormed
  succeeds := History.succeeds_replaceBy hs.stored_succeeds hmem hw
  written := by
    simp only [hsnap, List.mem_singleton, forall_eq]
    exact ⟨c', mem_replaceBy_self _ hmem hw.id.symm, hw.id, hw.version⟩

theorem Committed.pair (hs : h.Sound) {call : UsageCall} {today : Date} {d d' : Coupon}
    (hsnap : call.snapshots = [c, d]) (hmemc : c ∈ h.store.coupons)
    (hmemd : d ∈ h.store.coupons) (hne : d.id ≠ c.id) (hwc : c.WrittenBack c')
    (hwd : d.WrittenBack d') (hlive : call.Live today) (hlastc : c.version < wordMax 64)
    (hlastd : d.version < wordMax 64) :
    call.Committed h today
      { h.store with coupons := replaceBy (·.id) d' (replaceBy (·.id) c' h.store.coupons) } :=
  -- after the first write, `d` is still stored and `c'` is stored in place of `c`
  have hd : d ∈ replaceBy (·.id) c' h.store.coupons :=
    (hs.mem_writeBack_iff hmemc hwc (hs.stored d hmemd)).mpr ⟨hmemd, hne⟩
  have hc' : c' ∈ replaceBy (·.id) c' h.store.coupons := mem_replaceBy_self _ hmemc hwc.id.symm
  { stored := by simp [hsnap, hmemc, hmemd]
    distinct := by simpa [hsnap] using Ne.symm hne
    live := hlive
    belowLast := by simp [BelowLast, hsnap, hlastc, hlastd]
    wellFormed := ((hs.writeBack hmemc hwc).writeBack hd hwd).wellFormed
    succeeds := History.succeeds_replaceBy
      (History.succeeds_replaceBy hs.stored_succeeds hmemc hwc) hmemd hwd
    written := by
      simp only [hsnap, List.mem_cons, List.not_mem_nil, or_false, forall_eq_or_imp, forall_eq]
      refine ⟨⟨c', mem_replaceBy_of_key_ne _ hc' ?_, hwc.id, hwc.version⟩,
        ⟨d', mem_replaceBy_self _ hd hwd.id.symm, hwd.id, hwd.version⟩⟩
      rw [hwc.id, hwd.id]
      exact Ne.symm hne }

theorem committed_apply (hs : h.Sound) (hc : c ∈ h.seen)
    (hout : (apply c).outcome ctx h.store = .ok t) : (apply c).Committed h ctx.today t := by
  obtain ⟨cs, hplan, hcommit⟩ := outcome_eq_ok.mp hout
  obtain ⟨c', hstage⟩ := plan_apply_eq_ok.mp hplan
  have hb := hs.bounded c hc
  obtain ⟨rfl, hw⟩ := Coupon.stageApply_next hb hstage
  obtain ⟨hexpired, hlt, hlast⟩ := Coupon.stageApply_live hb hstage
  obtain ⟨hmem, rfl⟩ := (hs.commit_writeBack hc hw).mp hcommit
  exact .single hs rfl hmem hw (by simp [Live, taken, hexpired, hlt]) hlast

theorem committed_release (hs : h.Sound) (hc : c ∈ h.seen)
    (hout : (release c).outcome ctx h.store = .ok t) : (release c).Committed h ctx.today t := by
  obtain ⟨cs, hplan, hcommit⟩ := outcome_eq_ok.mp hout
  obtain ⟨c', hstage⟩ := plan_release_eq_ok.mp hplan
  have hb := hs.bounded c hc
  obtain ⟨rfl, hw⟩ := Coupon.stageRelease_next hb hstage
  have hlast := Coupon.stageRelease_belowLast hb hstage
  obtain ⟨hmem, rfl⟩ := (hs.commit_writeBack hc hw).mp hcommit
  exact .single hs rfl hmem hw (by simp [Live, taken]) hlast

theorem committed_swap (hs : h.Sound) (hnew : new ∈ h.seen) (hold : old ∈ h.seen)
    (hout : (swap new old).outcome ctx h.store = .ok t) :
    (swap new old).Committed h ctx.today t := by
  obtain ⟨cs, hplan, hcommit⟩ := outcome_eq_ok.mp hout
  obtain ⟨new', old', hstage⟩ := plan_swap_eq_ok.mp hplan
  obtain ⟨between, happly, hrelease⟩ := Coupon.stageSwap_eq_ok.mp hstage
  have hbnew := hs.bounded new hnew
  have hbold := hs.bounded old hold
  obtain ⟨rfl, hwnew⟩ := Coupon.stageApply_next hbnew happly
  obtain ⟨rfl, hwold⟩ := Coupon.stageRelease_next hbold hrelease
  obtain ⟨hexpired, hlt, hlastnew⟩ := Coupon.stageApply_live hbnew happly
  have hlastold := Coupon.stageRelease_belowLast hbold hrelease
  -- the commit writes both back, which it does only for two stored coupons
  obtain ⟨⟨hmemnew, hmemold, hne⟩, rfl⟩ :=
    (hs.commit_writeBack_pair hnew hold hwnew hwold).mp hcommit
  exact .pair hs rfl hmemnew hmemold hne hwnew hwold (by simp [Live, taken, hexpired, hlt])
    hlastnew hlastold

theorem committed_of_outcome (hs : h.Sound) {call : UsageCall}
    (hsnap : ∀ c ∈ call.snapshots, c ∈ h.seen) (hout : call.outcome ctx h.store = .ok t) :
    call.Committed h ctx.today t := by
  cases call with
  | apply c => exact committed_apply hs (hsnap c (by simp [snapshots])) hout
  | release c => exact committed_release hs (hsnap c (by simp [snapshots])) hout
  | swap new old =>
      exact committed_swap hs (hsnap new (by simp [snapshots])) (hsnap old (by simp [snapshots]))
        hout

end UsageCall

namespace UsageCall

variable {h : History} {ctx : Context} {t : Store} {f : Failure} {c new old : Coupon}

theorem outcome_ok (hs : h.Sound) {call : UsageCall} (hsnap : ∀ c ∈ call.snapshots, c ∈ h.seen)
    (hstored : ∀ c ∈ call.snapshots, c ∈ h.store.coupons)
    (hdistinct : (call.snapshots.map (·.id)).Nodup) (hlive : call.Live ctx.today)
    (hlast : call.BelowLast) : ∃ t, call.outcome ctx h.store = .ok t := by
  cases call with
  | apply c =>
      have hc : c ∈ [c] := List.mem_singleton_self c
      have hb := hs.bounded c (hsnap c hc)
      obtain ⟨hexpired, hlt⟩ := hlive c hc
      obtain ⟨cs, c', hstage⟩ : ∃ cs c', Coupon.stageApply [] c ctx.today ctx.now = .ok (cs, c') :=
        Coupon.stageApply_ok hb hexpired hlt (hlast c hc)
      obtain ⟨rfl, hw⟩ := Coupon.stageApply_next hb hstage
      exact ⟨_, outcome_eq_ok.mpr ⟨_, plan_apply_eq_ok.mpr ⟨c', hstage⟩,
        (hs.commit_writeBack (hsnap c hc) hw).mpr ⟨hstored c hc, rfl⟩⟩⟩
  | release c =>
      have hc : c ∈ [c] := List.mem_singleton_self c
      have hb := hs.bounded c (hsnap c hc)
      obtain ⟨cs, c', hstage⟩ : ∃ cs c', Coupon.stageRelease [] c ctx.now = .ok (cs, c') :=
        Coupon.stageRelease_ok hb (hlast c hc)
      obtain ⟨rfl, hw⟩ := Coupon.stageRelease_next hb hstage
      exact ⟨_, outcome_eq_ok.mpr ⟨_, plan_release_eq_ok.mpr ⟨c', hstage⟩,
        (hs.commit_writeBack (hsnap c hc) hw).mpr ⟨hstored c hc, rfl⟩⟩⟩
  | swap new old =>
      have hnew : new ∈ [new, old] := List.mem_cons_self ..
      have hold : old ∈ [new, old] := List.mem_cons_of_mem _ (List.mem_singleton_self old)
      have hne : old.id ≠ new.id := by
        have := List.nodup_cons.mp hdistinct
        simp only [List.map_cons, List.map_nil, List.mem_singleton] at this
        exact Ne.symm this.1
      have hbnew := hs.bounded new (hsnap new hnew)
      have hbold := hs.bounded old (hsnap old hold)
      obtain ⟨hexpired, hlt⟩ := hlive new (List.mem_singleton_self new)
      obtain ⟨between, new', happly⟩ :
          ∃ between new', Coupon.stageApply [] new ctx.today ctx.now = .ok (between, new') :=
        Coupon.stageApply_ok hbnew hexpired hlt (hlast new hnew)
      obtain ⟨cs, old', hrelease⟩ :
          ∃ cs old', Coupon.stageRelease between old ctx.now = .ok (cs, old') :=
        Coupon.stageRelease_ok hbold (hlast old hold)
      obtain ⟨rfl, hwnew⟩ := Coupon.stageApply_next hbnew happly
      obtain ⟨rfl, hwold⟩ := Coupon.stageRelease_next hbold hrelease
      exact ⟨_, outcome_eq_ok.mpr ⟨_, plan_swap_eq_ok.mpr ⟨new', old',
        Coupon.stageSwap_eq_ok.mpr ⟨_, happly, hrelease⟩⟩,
        (hs.commit_writeBack_pair (hsnap new hnew) (hsnap old hold) hwnew hwold).mpr
          ⟨⟨hstored new hnew, hstored old hold, hne⟩, rfl⟩⟩⟩

theorem expected_of_outcome_eq_error (hs : h.Sound) {call : UsageCall}
    (hsnap : ∀ c ∈ call.snapshots, c ∈ h.seen) (hout : call.outcome ctx h.store = .error f) :
    f.Expected ∨ (f = .overflow .add ∧ ¬ call.BelowLast) := by
  rcases outcome_eq_error.mp hout with hplan | ⟨cs, e, -, -, rfl⟩
  · -- the staging's refusal: a version at the last rules out `BelowLast`
    have hlast : ∀ c ∈ call.snapshots, ¬ c.version < wordMax 64 → ¬ call.BelowLast :=
      fun c hc hv hbelow => hv (hbelow c hc)
    cases call with
    | apply c =>
        rw [plan_apply, map_eq_error] at hplan
        have hc : c ∈ [c] := List.mem_singleton_self c
        exact (Coupon.stageApply_eq_error (hs.bounded c (hsnap c hc)) hplan).imp_right
          fun ⟨hf, hv⟩ => ⟨hf, hlast c hc hv⟩
    | release c =>
        rw [plan_release, map_eq_error] at hplan
        have hc : c ∈ [c] := List.mem_singleton_self c
        obtain ⟨hf, hv⟩ := Coupon.stageRelease_eq_error (hs.bounded c (hsnap c hc)) hplan
        exact .inr ⟨hf, hlast c hc hv⟩
    | swap new old =>
        rw [plan_swap, map_eq_error] at hplan
        have hnew : new ∈ [new, old] := List.mem_cons_self ..
        have hold : old ∈ [new, old] := List.mem_cons_of_mem _ (List.mem_singleton_self old)
        rcases Coupon.stageSwap_eq_error hplan with happly | ⟨between, new', -, hrelease⟩
        · exact (Coupon.stageApply_eq_error (hs.bounded new (hsnap new hnew)) happly).imp_right
            fun ⟨hf, hv⟩ => ⟨hf, hlast new hnew hv⟩
        · obtain ⟨hf, hv⟩ := Coupon.stageRelease_eq_error (hs.bounded old (hsnap old hold)) hrelease
          exact .inr ⟨hf, hlast old hold hv⟩
  · exact .inl (Failure.expected_of_commit e)

theorem isOk_iff {ε α : Type} {x : Except ε α} : x.isOk = true ↔ ∃ a, x = .ok a := by
  cases x <;> simp [Except.isOk, Except.toBool]

theorem outcome_isOk_iff (hs : h.Sound) {call : UsageCall}
    (hsnap : ∀ c ∈ call.snapshots, c ∈ h.seen) (hdistinct : (call.snapshots.map (·.id)).Nodup) :
    (call.outcome ctx h.store).isOk ↔
      call.Current h.store ∧ call.Live ctx.today ∧ call.BelowLast := by
  have hcurrent : call.Current h.store ↔ ∀ c ∈ call.snapshots, c ∈ h.store.coupons :=
    forall₂_congr fun c hc => (hs.mem_iff_version (hsnap c hc)).symm
  rw [isOk_iff, hcurrent]
  constructor
  · rintro ⟨t, hout⟩
    have hdone := committed_of_outcome hs hsnap hout
    exact ⟨hdone.stored, hdone.live, hdone.belowLast⟩
  · rintro ⟨hstored, hlive, hlast⟩
    exact outcome_ok hs hsnap hstored hdistinct hlive hlast

theorem swap_of_same_coupon (hs : h.Sound) (hnew : new ∈ h.seen) (hold : old ∈ h.seen)
    (hid : new.id = old.id) : (swap new old).outcome ctx h.store ≠ .ok t := by
  intro hout
  have hdistinct := (committed_swap hs hnew hold hout).distinct
  simp [snapshots, hid] at hdistinct

end UsageCall

/-! ### The service's commands on a run -/

namespace Store

variable {s t : Store} {b : Coupon}

theorem mem_of_findCouponByCode? {code : String} {c : Coupon}
    (h : s.findCouponByCode? code = some c) : c ∈ s.coupons :=
  List.mem_of_find?_eq_some h

theorem coupon_of_apply (hk : Keyed t) {ch : Change} (happ : s.apply ch = .ok t)
    (hb : b ∈ t.coupons) : b ∈ s.coupons ∨ ch.written = some (.coupon b) := by
  have hfind := findRow?_apply happ .coupon b.id
  simp only [findRow?_coupon, hk.findCoupon?_eq_some hb, Option.map_some] at hfind
  split at hfind
  · exact .inr hfind.symm
  · obtain ⟨p, hp, hpb⟩ := Option.map_eq_some_iff.mp hfind.symm
    cases hpb
    exact .inl (mem_of_findCoupon? hp).1

theorem coupon_of_commit (hk : Keyed s) {cs : ChangeSet} (hc : s.commit cs = .ok t)
    (hb : b ∈ t.coupons) : b ∈ s.coupons ∨ ∃ ch ∈ cs, ch.written = some (.coupon b) := by
  induction cs generalizing s with
  | nil =>
      rw [commit_nil, Except.ok.injEq] at hc
      exact .inl (hc ▸ hb)
  | cons ch cs ih =>
      obtain ⟨u, happ, hrest⟩ := commit_cons_eq_ok.mp hc
      have hku := hk.apply happ
      rcases ih hku hrest with hu | ⟨ch', hch', hw⟩
      · exact (coupon_of_apply hku happ hu).imp_right fun hw => ⟨ch, List.mem_cons_self .., hw⟩
      · exact .inr ⟨ch', List.mem_cons_of_mem _ hch', hw⟩

end Store

theorem Change.StagedFrom.coupon {ch : Change} {s : Store} {fresh : Uuid}
    (hst : ch.StagedFrom s fresh) {b : Coupon} (hw : ch.written = some (.coupon b)) :
    b.id = fresh ∨ ∃ p ∈ s.coupons, b.id = p.id ∧ b.version = p.version + 1 := by
  cases ch <;> simp only [Change.written, reduceCtorEq, Option.some.injEq, Row.coupon.injEq] at hw
  case insertCoupon c =>
    subst hw
    exact .inl (hst.eq_fresh rfl rfl)
  case updateCoupon c v =>
    subst hw
    have hread : (s.findRow? .coupon c.id).map Row.version = some v := hst.read rfl
    have hbump : (Row.coupon c).version = v + 1 := hst.bump rfl rfl
    simp only [findRow?_coupon, Option.map_map] at hread
    obtain ⟨p, hp, hpv⟩ := Option.map_eq_some_iff.mp hread
    obtain ⟨hmem, hid⟩ := Store.mem_of_findCoupon? hp
    refine .inr ⟨p, hmem, hid.symm, ?_⟩
    simp only [Row.version, Function.comp_apply] at hbump hpv
    omega

def ChangeSet.CouponsBounded (cs : ChangeSet) : Prop :=
  ∀ ch ∈ cs, ∀ b, ch.written = some (.coupon b) → b.Bounded

namespace ChangeSet.CouponsBounded

variable {cs cs₀ cs₁ cs₂ : ChangeSet} {c c' : Coupon} {today : Date} {now : Instant}

theorem nil : CouponsBounded [] := by
  simp [CouponsBounded]

theorem append (h₁ : cs₁.CouponsBounded) (h₂ : cs₂.CouponsBounded) :
    (cs₁ ++ cs₂).CouponsBounded := by
  intro ch hch
  rcases List.mem_append.mp hch with hch | hch
  · exact h₁ ch hch
  · exact h₂ ch hch

theorem writeBack (h₀ : cs₀.CouponsBounded) (hw : c.WrittenBack c') (v : Int) :
    (cs₀ ++ [Change.updateCoupon c' v]).CouponsBounded := by
  refine h₀.append fun ch hch b hb => ?_
  rw [List.mem_singleton.mp hch, Change.written, Option.some.injEq, Row.coupon.injEq] at hb
  exact hb ▸ hw.bounded

theorem stageApply (h₀ : cs₀.CouponsBounded) (hb : c.Bounded)
    (h : Coupon.stageApply cs₀ c today now = .ok (cs, c')) : cs.CouponsBounded := by
  obtain ⟨rfl, hw⟩ := Coupon.stageApply_next hb h
  exact h₀.writeBack hw _

theorem stageRelease (h₀ : cs₀.CouponsBounded) (hb : c.Bounded)
    (h : Coupon.stageRelease cs₀ c now = .ok (cs, c')) : cs.CouponsBounded := by
  obtain ⟨rfl, hw⟩ := Coupon.stageRelease_next hb h
  exact h₀.writeBack hw _

end ChangeSet.CouponsBounded

section Operations

open ChangeSet

variable {actor : Actor} {ctx : Context} {s : Store}

namespace TechnicianReport

theorem createDraft_couponsBounded {req : DraftRequest} {p : Plan TechnicianReport}
    (h : createDraft actor req ctx s = .ok p) : p.changes.CouponsBounded := by
  obtain ⟨-, o, -, -, -, -, -, -, rfl⟩ := createDraft_eq_ok h
  simp [CouponsBounded, Change.written]

theorem updateDraft_couponsBounded {id : Uuid} {f : DraftFields} {p : Plan TechnicianReport}
    (h : updateDraft actor id f ctx s = .ok p) : p.changes.CouponsBounded := by
  obtain ⟨-, r, -, -, -, -, -, rfl⟩ := updateDraft_eq_ok h
  simp [CouponsBounded, Change.written]

theorem deleteDraft_couponsBounded {id : Uuid} {p : Plan Unit}
    (h : deleteDraft actor id ctx s = .ok p) : p.changes.CouponsBounded := by
  obtain ⟨-, r, -, -, -, rfl⟩ := deleteDraft_eq_ok h
  simp [CouponsBounded, Change.written]

theorem submit_couponsBounded {id : Uuid} {p : Plan TechnicianReport}
    (h : submit actor id ctx s = .ok p) : p.changes.CouponsBounded := by
  obtain ⟨-, r, r', -, -, -, -, rfl⟩ := submit_eq_ok h
  simp [CouponsBounded, Change.written]

theorem decide_couponsBounded {action : ReportAction} {id : Uuid} {p : Plan TechnicianReport}
    (h : decide action actor id ctx s = .ok p) : p.changes.CouponsBounded := by
  obtain ⟨-, r, o, r', -, -, -, -, -, rfl⟩ := decide_eq_ok h
  simp [CouponsBounded, Change.written]

theorem startWork_couponsBounded {id : Uuid} {p : Plan TechnicianReport}
    (h : startWork actor id ctx s = .ok p) : p.changes.CouponsBounded := by
  obtain ⟨-, r, o, r', o', -, -, -, -, -, -, -, rfl⟩ := startWork_eq_ok h
  simp [CouponsBounded, Change.written]

theorem completeWork_couponsBounded {id : Uuid} {p : Plan TechnicianReport}
    (h : completeWork actor id ctx s = .ok p) : p.changes.CouponsBounded := by
  obtain ⟨-, r, o, r', o', -, -, -, -, -, -, -, rfl⟩ := completeWork_eq_ok h
  simp [CouponsBounded, Change.written]

end TechnicianReport

namespace RepairOrder

variable (hbs : ∀ c ∈ s.coupons, c.Bounded)
include hbs

theorem stageCouponChange_couponsBounded {current : Option Uuid} {requested : Option Coupon}
    (hreq : ∀ c, requested = some c → c.Bounded) {cs : ChangeSet} {couponId : Option Uuid}
    (h : stageCouponChange s ctx.today ctx.now current requested = .ok (cs, couponId)) :
    cs.CouponsBounded := by
  have hfound : ∀ {x c}, s.findCoupon? x = some c → c.Bounded :=
    fun hc => hbs _ (Store.mem_of_findCoupon? hc).1
  rcases stageCouponChange_eq_ok h with ⟨-, -, rfl, -⟩ | ⟨new, -, -, rfl, -⟩ |
    ⟨new, new', hnew, -, hstage, -⟩ | ⟨x, new, old, new', old', -, hnew, -, hold, hswap, -⟩ |
    ⟨x, -, -, -, ⟨-, rfl⟩ | ⟨old, old', hold, hstage⟩⟩
  · exact .nil
  · exact .nil
  · exact CouponsBounded.nil.stageApply (hreq new hnew) hstage
  · obtain ⟨between, happly, hrelease⟩ := Coupon.stageSwap_eq_ok.mp hswap
    exact (CouponsBounded.nil.stageApply (hreq new hnew) happly).stageRelease (hfound hold)
      hrelease
  · exact .nil
  · exact CouponsBounded.nil.stageRelease (hfound hold) hstage

theorem create_couponsBounded {req : OrderRequest} {p : Plan RepairOrder}
    (h : create actor req ctx s = .ok p) : p.changes.CouponsBounded := by
  obtain ⟨-, -, -, cs, couponId, hcoupon, hchanges, -⟩ := create_eq_ok h
  rw [hchanges]
  refine CouponsBounded.append ?_ (by simp [CouponsBounded, Change.written])
  rcases hcoupon with ⟨-, rfl, -⟩ | ⟨code, c, c', -, hfound, hstage, -⟩
  · exact .nil
  · exact CouponsBounded.nil.stageApply (hbs c (Store.mem_of_findCouponByCode? hfound)) hstage

theorem update_couponsBounded {id : Uuid} {d : OrderDetails} {p : Plan RepairOrder}
    (h : update actor id d ctx s = .ok p) : p.changes.CouponsBounded := by
  obtain ⟨o, -, -, -, requested, cs, couponId, hreq, hchange, -, hchanges, -⟩ := update_eq_ok h
  rw [hchanges]
  refine CouponsBounded.append ?_ (by simp [CouponsBounded, Change.written])
  refine stageCouponChange_couponsBounded hbs (fun c hc => ?_) hchange
  rcases hreq with ⟨-, rfl⟩ | ⟨code, c', -, hfound, rfl⟩
  · cases hc
  · cases hc
    exact hbs _ (Store.mem_of_findCouponByCode? hfound)

theorem delete_couponsBounded {id : Uuid} {p : Plan Unit} (h : delete actor id ctx s = .ok p) :
    p.changes.CouponsBounded := by
  obtain ⟨o, -, ⟨-, hchanges⟩ | ⟨c, cs, c', hfound, hstage, hchanges⟩⟩ := delete_eq_ok h <;>
    rw [hchanges]
  · simp [CouponsBounded, Change.written]
  · obtain ⟨x, -, hx⟩ := Option.bind_eq_some_iff.mp hfound
    refine CouponsBounded.append ?_ (by simp [CouponsBounded, Change.written])
    exact CouponsBounded.nil.stageRelease (hbs c (Store.mem_of_findCoupon? hx).1) hstage

end RepairOrder

namespace Coupon

theorem create_couponsBounded {req : CouponRequest} (hfit : req.maxUsage ≤ wordMax 32)
    {p : Plan Coupon} (h : create actor req ctx s = .ok p) : p.changes.CouponsBounded := by
  obtain ⟨-, hvalid, -, hchanges, hanswer⟩ := create_eq_ok h
  obtain ⟨-, -, hmin, -⟩ := requestValid_eq_ok.mp hvalid
  rw [hchanges]
  intro ch hch b hb
  rw [List.mem_singleton.mp hch, Change.written, Option.some.injEq, Row.coupon.injEq,
    hanswer] at hb
  subst hb
  simp only [Bounded]
  omega

theorem update_couponsBounded (hbs : ∀ c ∈ s.coupons, c.Bounded) {id : Uuid}
    {req : CouponRequest} (hfit : req.maxUsage ≤ wordMax 32) {p : Plan Coupon}
    (h : update actor id req ctx s = .ok p) : p.changes.CouponsBounded := by
  obtain ⟨-, -, c, hfound, hbound, -, -, hchanges, hanswer⟩ := update_eq_ok h
  obtain ⟨h0, -, -, hv⟩ := hbs c (Store.mem_of_findCoupon? hfound).1
  rw [hchanges]
  intro ch hch b hb
  rw [List.mem_singleton.mp hch, Change.written, Option.some.injEq, Row.coupon.injEq,
    hanswer] at hb
  subst hb
  simp only [Bounded]
  omega

theorem delete_couponsBounded {id : Uuid} {p : Plan Unit} (h : delete actor id ctx s = .ok p) :
    p.changes.CouponsBounded := by
  obtain ⟨-, c, -, -, hchanges⟩ := delete_eq_ok h
  simp [hchanges, CouponsBounded, Change.written]

end Coupon

namespace PaymentMethod

theorem create_couponsBounded {req : PaymentMethodRequest} {p : Plan PaymentMethod}
    (h : create actor req ctx s = .ok p) : p.changes.CouponsBounded := by
  obtain ⟨-, -, hchanges, -⟩ := create_eq_ok h
  simp [hchanges, CouponsBounded, Change.written]

theorem update_couponsBounded {id : Uuid} {req : PaymentMethodRequest} {p : Plan PaymentMethod}
    (h : update actor id req ctx s = .ok p) : p.changes.CouponsBounded := by
  obtain ⟨-, -, m, -, -, hchanges, -⟩ := update_eq_ok h
  simp [hchanges, CouponsBounded, Change.written]

theorem delete_couponsBounded {id : Uuid} {p : Plan Unit} (h : delete actor id ctx s = .ok p) :
    p.changes.CouponsBounded := by
  obtain ⟨-, m, -, -, hchanges⟩ := delete_eq_ok h
  simp [hchanges, CouponsBounded, Change.written]

end PaymentMethod

end Operations

theorem Command.plan_couponsBounded {c : Command} {ctx : Context} {s : Store} {cs : ChangeSet}
    (hbs : ∀ c ∈ s.coupons, c.Bounded) (hfit : c.LimitsFit) (hplan : c.plan ctx s = .ok cs) :
    cs.CouponsBounded := by
  cases hread : c.readsOnly
  · cases c <;> simp only [readsOnly, Bool.true_eq_false] at hread <;>
      obtain ⟨p, hp, rfl⟩ := staged_eq_ok.mp hplan
    case createDraft => exact TechnicianReport.createDraft_couponsBounded hp
    case updateDraft => exact TechnicianReport.updateDraft_couponsBounded hp
    case deleteDraft => exact TechnicianReport.deleteDraft_couponsBounded hp
    case submitDraft => exact TechnicianReport.submit_couponsBounded hp
    case acceptSubmission => exact TechnicianReport.decide_couponsBounded hp
    case rejectSubmission => exact TechnicianReport.decide_couponsBounded hp
    case startWork => exact TechnicianReport.startWork_couponsBounded hp
    case completeWork => exact TechnicianReport.completeWork_couponsBounded hp
    case createOrder => exact RepairOrder.create_couponsBounded hbs hp
    case updateOrder => exact RepairOrder.update_couponsBounded hbs hp
    case deleteOrder => exact RepairOrder.delete_couponsBounded hbs hp
    case createCoupon => exact Coupon.create_couponsBounded hfit hp
    case updateCoupon => exact Coupon.update_couponsBounded hbs hfit hp
    case deleteCoupon => exact Coupon.delete_couponsBounded hp
    case createPaymentMethod => exact PaymentMethod.create_couponsBounded hp
    case updatePaymentMethod => exact PaymentMethod.update_couponsBounded hp
    case deletePaymentMethod => exact PaymentMethod.delete_couponsBounded hp
  · rw [plan_eq_nil_of_readsOnly hread hplan]
    exact .nil

theorem History.Sound.service {h : History} (hs : h.Sound) {c : Command} {ctx : Context}
    (hallow : h.Allows (.service c ctx)) : (h.step (.service c ctx)).Sound := by
  obtain ⟨hfresh, hfit⟩ := hallow
  show History.Sound ⟨c.run ctx h.store, h.seen ++ (c.run ctx h.store).coupons⟩
  rcases c.run_cases ctx h.store with hkeep | ⟨cs, hplan, hcommit⟩
  · rw [hkeep]
    exact hs.keep
  · have hstaged := Command.plan_stagedFrom hs.wellFormed.keyed hplan
    have hbounded := Command.plan_couponsBounded (fun _ => hs.bounded_of_stored) hfit hplan
    refine hs.next (hs.wellFormed.commit hcommit) fun b hb => ?_
    rcases Store.coupon_of_commit hs.wellFormed.keyed hcommit hb with hold | ⟨ch, hch, hw⟩
    · exact hs.stored_succeeds b hold
    · refine ⟨?_, hbounded ch hch b hw⟩
      rcases (hstaged.each ch hch).coupon hw with hid | hnext
      · exact .inr (.inr (hid ▸ hfresh))
      · exact .inr (.inl hnext)

/-! ### Whole runs -/

namespace History

variable {h : History}

theorem Sound.usage (hs : h.Sound) {call : UsageCall} {ctx : Context}
    (hallow : h.Allows (.usage call ctx)) : (h.step (.usage call ctx)).Sound := by
  cases hout : call.outcome ctx h.store with
  | error f =>
      simp only [step, UsageStep.perform, hout]
      exact hs.keep
  | ok t =>
      simp only [step, UsageStep.perform, hout]
      have hdone := UsageCall.committed_of_outcome hs hallow hout
      exact hs.next hdone.wellFormed hdone.succeeds

theorem Sound.step (hs : h.Sound) {st : UsageStep} (hallow : h.Allows st) : (h.step st).Sound := by
  cases st with
  | service c ctx => exact hs.service hallow
  | usage call ctx => exact hs.usage hallow

/-- Every history an allowed run reaches is sound, by induction on the run. -/
theorem Reachable.sound (hh : h.Reachable) : h.Sound := by
  induction hh with
  | start => exact .start
  | step _ hallow ih => exact ih.step hallow

theorem run_cons (st : UsageStep) (rest : List UsageStep) :
    h.run (st :: rest) = (h.step st).run rest :=
  rfl

theorem admits_cons {st : UsageStep} {rest : List UsageStep} :
    h.Admits (st :: rest) ↔ h.Allows st ∧ (h.step st).Admits rest :=
  Iff.rfl

theorem run_append (xs ys : List UsageStep) : h.run (xs ++ ys) = (h.run xs).run ys :=
  List.foldl_append

theorem admits_append {xs ys : List UsageStep} :
    h.Admits (xs ++ ys) ↔ h.Admits xs ∧ (h.run xs).Admits ys := by
  induction xs generalizing h with
  | nil => simp [Admits, run]
  | cons st xs ih => simp [Admits, ih, run, and_assoc]

/-- The run has seen coupon `x` past version `v`. -/
def Passed (h : History) (x : Uuid) (v : Int) : Prop :=
  ∃ a ∈ h.seen, a.id = x ∧ v < a.version

theorem Passed.step {x : Uuid} {v : Int} (hp : h.Passed x v) (st : UsageStep) :
    (h.step st).Passed x v := by
  obtain ⟨a, ha, hid, hv⟩ := hp
  exact ⟨a, List.mem_append_left _ ha, hid, hv⟩

end History

namespace UsageCall

variable {h : History} {ctx : Context} {t : Store} {x : Uuid} {v : Int}

theorem carries_iff {call : UsageCall} :
    call.carries x v = true ↔ ∃ c ∈ call.snapshots, c.id = x ∧ c.version = v := by
  simp [carries]

theorem not_committed_of_passed (hs : h.Sound) {call : UsageCall}
    (hsnap : ∀ c ∈ call.snapshots, c ∈ h.seen) (hcarries : call.carries x v = true)
    (hp : h.Passed x v) : call.outcome ctx h.store ≠ .ok t := by
  intro hout
  obtain ⟨c, hc, rfl, rfl⟩ := carries_iff.mp hcarries
  obtain ⟨a, ha, hid, hlt⟩ := hp
  have hle := hs.latest c ((committed_of_outcome hs hsnap hout).stored c hc) a ha hid
  omega

theorem passed_of_committed (hs : h.Sound) {call : UsageCall}
    (hsnap : ∀ c ∈ call.snapshots, c ∈ h.seen) (hcarries : call.carries x v = true)
    (hout : call.outcome ctx h.store = .ok t) : (h.step (.usage call ctx)).Passed x v := by
  obtain ⟨c, hc, rfl, rfl⟩ := carries_iff.mp hcarries
  obtain ⟨c', hc', hid, hv⟩ := (committed_of_outcome hs hsnap hout).written c hc
  refine ⟨c', ?_, hid, by omega⟩
  simp only [History.step, UsageStep.perform, hout]
  exact List.mem_append_right _ hc'

end UsageCall

namespace History

/-- Along an allowed run from a sound history, at most one call carrying coupon `x` at version
`v` commits, and none once the run has seen the coupon past `v`; by induction on the run. -/
theorem commits_carrying {h : History} (hs : h.Sound) {steps : List UsageStep}
    (hadmits : h.Admits steps) (x : Uuid) (v : Int) :
    (h.commits steps).countP (·.carries x v) ≤ 1 ∧
      (h.Passed x v → (h.commits steps).countP (·.carries x v) = 0) := by
  induction steps generalizing h with
  | nil => simp [commits]
  | cons st rest ih =>
      obtain ⟨hallow, hrest⟩ := hadmits
      have ih' := ih (hs.step hallow) hrest
      cases st with
      | service c ctx => exact ⟨ih'.1, fun hp => ih'.2 (hp.step _)⟩
      | usage call ctx =>
          simp only [commits, List.countP_append]
          cases hout : call.outcome ctx h.store with
          | error f =>
              have hhead : ((if (Except.error f : Except Failure Store).isOk then [call] else
                  []).countP (·.carries x v)) = 0 := rfl
              rw [hhead, Nat.zero_add]
              exact ⟨ih'.1, fun hp => ih'.2 (hp.step _)⟩
          | ok t =>
              by_cases hcarries : call.carries x v = true
              · -- this call commits with the snapshot, so the run is past `v` afterwards
                have hpast := UsageCall.passed_of_committed hs hallow hcarries hout
                refine ⟨by simp [Except.isOk, Except.toBool, hcarries, ih'.2 hpast], fun hp => ?_⟩
                exact absurd hout (UsageCall.not_committed_of_passed hs hallow hcarries hp)
              · have hhead : ((if (Except.ok t : Except Failure Store).isOk then [call] else
                    []).countP (·.carries x v)) = 0 := by
                  simp [Except.isOk, Except.toBool, hcarries]
                rw [hhead, Nat.zero_add]
                exact ⟨ih'.1, fun hp => ih'.2 (hp.step _)⟩

end History

/-- Usage calls on snapshots read earlier in a run, mixed with the service's commands. At the end
of any allowed run from the empty store, every stored coupon counts its uses between zero and
its limit; a call given coupons the run has seen under distinct identifiers commits exactly when
each is stored at the version read, the coupon it takes was unexpired and below its limit when
read, and no version it writes is the last of a signed 64-bit word, and otherwise is refused as
invalid or as a concurrent change, or overflows such a last version; a move of a use between two
snapshots of one coupon never commits; and of the calls of the run carrying one version of one
coupon, at most one committed. -/
theorem usage_calls_on_stale_snapshots (steps : List UsageStep)
    (hadmits : History.start.Admits steps) :
    let h := History.start.run steps
    (∀ c ∈ h.store.coupons, 0 ≤ c.usageCount ∧ c.usageCount ≤ c.maxUsage) ∧
    (∀ (call : UsageCall) (ctx : Context), (∀ c ∈ call.snapshots, c ∈ h.seen) →
      (call.snapshots.map (·.id)).Nodup →
      ((call.outcome ctx h.store).isOk ↔
          call.Current h.store ∧ call.Live ctx.today ∧ call.BelowLast) ∧
        ∀ f, call.outcome ctx h.store = .error f →
          f.Expected ∨ (f = .overflow .add ∧ ¬ call.BelowLast)) ∧
    (∀ (new old : Coupon) (ctx : Context) (t : Store), new ∈ h.seen → old ∈ h.seen →
      new.id = old.id → (UsageCall.swap new old).outcome ctx h.store ≠ .ok t) ∧
    ∀ (x : Uuid) (v : Int), (History.start.commits steps).countP (·.carries x v) ≤ 1 := by
  intro h
  have hs : h.Sound := (History.Reachable.start.run hadmits).sound
  refine ⟨fun c hc => ?_, fun call ctx hsnap hdistinct => ?_, fun new old ctx t hnew hold hid => ?_,
    fun x v => (History.commits_carrying .start hadmits x v).1⟩
  · obtain ⟨h0, hle, -, -⟩ := hs.bounded_of_stored hc
    exact ⟨h0, hle⟩
  · exact ⟨UsageCall.outcome_isOk_iff hs hsnap hdistinct,
      fun f hout => UsageCall.expected_of_outcome_eq_error hs hsnap hout⟩
  · exact UsageCall.swap_of_same_coupon hs hnew hold hid

/-- A run that creates a coupon and then takes a use twice on the snapshot of the new coupon:
both calls carry its first version, and at most one of them commits. -/
theorem snapshot_taken_twice_commits_once :
    let admin : Actor := ⟨Uuid.ofNat 1, .admin⟩
    let moment (fresh : Nat) : Context := ⟨⟨2026, 1, 1⟩, ⟨0, 0⟩, Uuid.ofNat fresh⟩
    let created : Coupon := ⟨Uuid.ofNat 10, "SAVE10K", 10000, 5, 0, none, 0, ⟨0, 0⟩, ⟨0, 0⟩⟩
    let steps : List UsageStep :=
      [.service (.createCoupon admin ⟨"SAVE10K", 10000, 5, none⟩) (moment 10),
        .usage (.apply created) (moment 11), .usage (.apply created) (moment 12)]
    History.start.Admits steps ∧
      (History.start.commits steps).countP (·.carries (Uuid.ofNat 10) 0) ≤ 1 := by
  intro admin moment created steps
  have hadmits : History.start.Admits steps := by decide +kernel
  exact ⟨hadmits, (usage_calls_on_stale_snapshots steps hadmits).2.2.2 _ _⟩

/-! ### The last version -/

@[irreducible] def releaseRun (c : Coupon) (ctx : Context) (k : Nat) : List UsageStep :=
  (List.range k).map fun i => .usage (.release { c with version := (i : Int) }) ctx

section LastVersion

variable {c : Coupon} {ctx : Context}

theorem releaseRun_zero : releaseRun c ctx 0 = [] := by
  simp [releaseRun]

theorem releaseRun_succ (k : Nat) : releaseRun c ctx (k + 1) =
    releaseRun c ctx k ++ [.usage (.release { c with version := k }) ctx] := by
  simp [releaseRun, List.range_succ]

theorem release_unused_step (hunused : c.usageCount = 0) (hnow : c.updatedAt = ctx.now)
    {h : History} {i : Nat} (hi : (i : Int) < wordMax 64)
    (hstore : h.store = { Store.empty with coupons := [{ c with version := i }] })
    (hseen : { c with version := (i : Int) } ∈ h.seen) :
    h.Allows (.usage (.release { c with version := i }) ctx) ∧
      (h.step (.usage (.release { c with version := i }) ctx)).store =
        { Store.empty with coupons := [{ c with version := ((i + 1 : Nat) : Int) }] } := by
  refine ⟨by simpa [History.Allows, UsageCall.snapshots] using hseen, ?_⟩
  -- the release stages the next version, and the store still holds the version read
  have hstage : Coupon.stageRelease [] { c with version := i } ctx.now =
      .ok ([.updateCoupon { c with version := ((i + 1 : Nat) : Int) } i],
        { c with version := ((i + 1 : Nat) : Int) }) := by
    rw [Coupon.stageRelease_eq_ok]
    refine ⟨by simp [fitsWord, hunused, Coupon.wordMin_32, Coupon.wordMax_32], ?_, ?_, rfl⟩
    · simp only [fitsWord, Coupon.wordMin_64, Coupon.wordMax_64] at hi ⊢
      omega
    · cases c
      simp only at hunused hnow
      subst hunused hnow
      simp only [Coupon.mk.injEq, true_and, and_true]
      omega
  have hcommit : h.store.commit [.updateCoupon { c with version := ((i + 1 : Nat) : Int) } i] =
      .ok { Store.empty with coupons := [{ c with version := ((i + 1 : Nat) : Int) }] } := by
    rw [commit_singleton_eq_ok, apply_updateCoupon, hstore]
    refine ⟨by simp [findCoupon?], checkCouponCode_eq_ok.mpr (by simp), by simp [replaceBy]⟩
  have hout := UsageCall.outcome_eq_ok.mpr
    ⟨_, UsageCall.plan_release_eq_ok.mpr ⟨_, hstage⟩, hcommit⟩
  simp only [History.step, UsageStep.perform, hout]

theorem releases_unused (hunused : c.usageCount = 0) (hnow : c.updatedAt = ctx.now)
    {h : History} (hstore : h.store = { Store.empty with coupons := [{ c with version := 0 }] })
    (hseen : { c with version := 0 } ∈ h.seen) (k : Nat) (hk : (k : Int) ≤ wordMax 64) :
    h.Admits (releaseRun c ctx k) ∧
      (h.run (releaseRun c ctx k)).store =
        { Store.empty with coupons := [{ c with version := k }] } ∧
      { c with version := (k : Int) } ∈ (h.run (releaseRun c ctx k)).seen := by
  induction k with
  | zero =>
      rw [releaseRun_zero]
      exact ⟨trivial, hstore, hseen⟩
  | succ k ih =>
      obtain ⟨hadmits, hrun, hlast⟩ := ih (by omega)
      obtain ⟨hallow, hstep⟩ := release_unused_step hunused hnow (by omega) hrun hlast
      rw [releaseRun_succ, History.admits_append, History.run_append]
      refine ⟨⟨hadmits, hallow, trivial⟩, hstep, ?_⟩
      -- the coupon written by the last release joins what the run has seen
      show _ ∈ _ ++ (History.step _ _).store.coupons
      rw [hstep]
      exact List.mem_append_right _ (List.mem_singleton_self _)

end LastVersion

/-- A run that creates a coupon and gives back uses on its successive snapshots until its version
is the largest signed 64-bit word. A call then taking a use on the latest snapshot finds it
stored, unexpired and below its limit, and still fails: the version it would write overflows. -/
theorem usage_call_overflows_last_version :
    let admin : Actor := ⟨Uuid.ofNat 1, .admin⟩
    let ctx : Context := ⟨⟨2026, 1, 1⟩, ⟨0, 0⟩, Uuid.ofNat 10⟩
    let create : UsageStep := .service (.createCoupon admin ⟨"SAVE10K", 10000, 5, none⟩) ctx
    let created : Coupon := ⟨Uuid.ofNat 10, "SAVE10K", 10000, 5, 0, none, 0, ⟨0, 0⟩, ⟨0, 0⟩⟩
    let last : Coupon := { created with version := wordMax 64 }
    let steps : List UsageStep := create :: releaseRun created ctx (wordMax 64).toNat
    History.start.Admits steps ∧ last ∈ (History.start.run steps).seen ∧
      (UsageCall.apply last).Current (History.start.run steps).store ∧
      (UsageCall.apply last).Live ctx.today ∧
      (UsageCall.apply last).outcome ctx (History.start.run steps).store =
        .error (.overflow .add) := by
  intro admin ctx create created last steps
  have hcreate : (History.start.step create).store =
      { Store.empty with coupons := [{ created with version := ((0 : Nat) : Int) }] } := by
    decide +kernel
  have hseen :
      { created with version := ((0 : Nat) : Int) } ∈ (History.start.step create).seen := by
    show _ ∈ [] ++ (History.step _ _).store.coupons
    rw [hcreate]
    exact List.mem_append_right _ (List.mem_singleton_self _)
  have hcast : (((wordMax 64).toNat : Nat) : Int) = wordMax 64 := Int.toNat_of_nonneg (by decide)
  have hunused : created.usageCount = 0 := rfl
  have hnow : created.updatedAt = ctx.now := rfl
  obtain ⟨hadmits, hrun, hlast⟩ :=
    releases_unused hunused hnow hcreate hseen (wordMax 64).toNat (Int.le_of_eq hcast)
  rw [hcast] at hrun hlast
  have hallow : History.start.Allows create := by decide
  -- the run is the creation followed by the releases; its length is never computed
  rw [show steps = _ :: _ from rfl, History.admits_cons, History.run_cons, hrun]
  refine ⟨⟨hallow, hadmits⟩, hlast, ?_, ?_, ?_⟩
  · show ∀ c ∈ [last], _
    simp [Store.findCoupon?, last]
  · show ∀ c ∈ [last], _
    simp [Coupon.isExpired, last, created]
  · -- the last snapshot is live and stored, and only its version is out of room
    have hb : last.Bounded := by
      simp only [Coupon.Bounded, last, created, Coupon.wordMax_32, Coupon.wordMax_64]
      omega
    rw [UsageCall.outcome, UsageCall.plan_apply,
      Coupon.stageApply_of_last hb rfl (by decide) (Int.lt_irrefl _)]
    rfl

end RepairDesk
