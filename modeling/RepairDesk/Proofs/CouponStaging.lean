import RepairDesk.Proofs.Overflow

namespace RepairDesk

open Numeric Store

namespace Coupon

/-- The numbers staging reads fit the words a coupon keeps them in: the count and the limit
32 bits, the version 64. -/
structure FitsWords (c : Coupon) : Prop where
  count : fitsWord 32 c.usageCount
  limit : fitsWord 32 c.maxUsage
  version : fitsWord 64 c.version

variable {cs cs' : ChangeSet} {c c' new old new' old' : Coupon} {today : Date} {now : Instant}

theorem isExpired_eq_false_iff :
    c.isExpired today = false ↔ ∀ last ∈ c.validUntil, today ≤ last := by
  unfold isExpired
  cases c.validUntil with
  | none => simp
  | some last =>
      simp only [decide_eq_false_iff_not, Option.mem_def, Option.some.injEq, forall_eq']
      exact Int.not_lt

theorem isExhausted_eq_false_iff : c.isExhausted = false ↔ c.usageCount < c.maxUsage := by
  simp [isExhausted]

theorem fits_next_of_lt (hv : fitsWord 64 c.version) (hlast : c.version < wordMax 64) :
    fitsWord 64 (c.version + 1) :=
  (fitsWord_succ_iff hv).mpr (Int.ne_of_lt hlast)

theorem lt_of_fits_next (hv : fitsWord 64 c.version) (hnext : fitsWord 64 (c.version + 1)) :
    c.version < wordMax 64 := by
  have hne : c.version ≠ wordMax 64 := (fitsWord_succ_iff hv).mp hnext
  have hle : c.version ≤ wordMax 64 := hv.2
  omega

/-! ### Taking a use -/

theorem stageApply_ok_iff (hc : c.FitsWords) :
    (∃ cs' c', stageApply cs c today now = .ok (cs', c')) ↔
      (∀ last ∈ c.validUntil, today ≤ last) ∧ c.usageCount < c.maxUsage ∧
        c.version < wordMax 64 := by
  constructor
  · rintro ⟨cs', c', h⟩
    obtain ⟨hexpired, hexhausted, -, hnext, -, -⟩ := stageApply_eq_ok.mp h
    exact ⟨isExpired_eq_false_iff.mp hexpired, isExhausted_eq_false_iff.mp hexhausted,
      lt_of_fits_next hc.version hnext⟩
  · rintro ⟨hlive, hlt, hlast⟩
    have hexhausted : c.isExhausted = false := isExhausted_eq_false_iff.mpr hlt
    exact ⟨_, _, stageApply_eq_ok.mpr ⟨isExpired_eq_false_iff.mpr hlive, hexhausted,
      fits_succ_of_not_exhausted hc.count hc.limit hexhausted, fits_next_of_lt hc.version hlast,
      rfl, rfl⟩⟩

theorem stageApply_of_expired (hexpired : c.isExpired today = true) :
    stageApply cs c today now = .error (.refused (.validation "Coupon has expired")) := by
  simp [stageApply, hexpired, throw, throwThe, MonadExceptOf.throw, bind, Except.bind]

theorem stageApply_of_exhausted (hexpired : c.isExpired today = false)
    (hfull : c.maxUsage ≤ c.usageCount) :
    stageApply cs c today now =
      .error (.refused (.validation "Coupon has reached its maximum usage limit")) := by
  have hexhausted : c.isExhausted = true := by simpa [isExhausted] using hfull
  simp [stageApply, hexpired, hexhausted, throw, throwThe, MonadExceptOf.throw, bind, Except.bind]

/-! ### Giving a use back -/

theorem stageRelease_of_fits (hc : c.FitsWords) (hmin : wordMin 32 < c.usageCount)
    (hlast : c.version < wordMax 64) :
    ∃ c', stageRelease cs c now = .ok (cs ++ [.updateCoupon c' c.version], c') ∧
      c' = { c with usageCount := max (c.usageCount - 1) 0, version := c.version + 1,
                    updatedAt := now } :=
  ⟨_, stageRelease_eq_ok.mpr ⟨(fitsWord_pred_iff hc.count).mpr (Int.ne_of_gt hmin),
    fits_next_of_lt hc.version hlast, rfl, rfl⟩, rfl⟩

/-! ### Moving a use -/

theorem stageSwap_of_refused {f : Failure} (h : stageApply cs new today now = .error f) :
    stageSwap cs new old today now = .error f := by
  simp [stageSwap, h, bind, Except.bind]

theorem stageSwap_ok_iff (hnew : new.FitsWords) (hold : old.FitsWords) :
    (∃ cs' new' old', stageSwap cs new old today now = .ok (cs', new', old')) ↔
      (∀ last ∈ new.validUntil, today ≤ last) ∧ new.usageCount < new.maxUsage ∧
        new.version < wordMax 64 ∧ wordMin 32 < old.usageCount ∧ old.version < wordMax 64 := by
  constructor
  · rintro ⟨cs', new', old', h⟩
    obtain ⟨mid, happly, hrelease⟩ := stageSwap_eq_ok.mp h
    obtain ⟨hlive, hlt, hlast⟩ := (stageApply_ok_iff hnew).mp ⟨_, _, happly⟩
    obtain ⟨hpred, hnext, -, -⟩ := stageRelease_eq_ok.mp hrelease
    have hmin : old.usageCount ≠ wordMin 32 := (fitsWord_pred_iff hold.count).mp hpred
    have hge : wordMin 32 ≤ old.usageCount := hold.count.1
    exact ⟨hlive, hlt, hlast, by omega, lt_of_fits_next hold.version hnext⟩
  · rintro ⟨hlive, hlt, hlast, hmin, holdLast⟩
    obtain ⟨mid, new', happly⟩ := (stageApply_ok_iff hnew).mpr ⟨hlive, hlt, hlast⟩
    have hstaged : ∃ old', stageRelease mid old now =
        .ok (mid ++ [.updateCoupon old' old.version], old') ∧
        old' = { old with usageCount := max (old.usageCount - 1) 0, version := old.version + 1,
                          updatedAt := now } :=
      stageRelease_of_fits hold hmin holdLast
    obtain ⟨old', hrelease, -⟩ := hstaged
    exact ⟨_, new', old', stageSwap_eq_ok.mpr ⟨mid, happly, hrelease⟩⟩

theorem stageSwap_writes (h : stageSwap cs new old today now = .ok (cs', new', old')) :
    cs' = cs ++ [.updateCoupon new' new.version, .updateCoupon old' old.version] ∧
      new' = { new with usageCount := new.usageCount + 1, version := new.version + 1,
                        updatedAt := now } ∧
      old' = { old with usageCount := max (old.usageCount - 1) 0, version := old.version + 1,
                        updatedAt := now } := by
  obtain ⟨mid, happly, hrelease⟩ := stageSwap_eq_ok.mp h
  obtain ⟨-, -, -, -, rfl, rfl⟩ := stageApply_eq_ok.mp happly
  obtain ⟨-, -, rfl, rfl⟩ := stageRelease_eq_ok.mp hrelease
  simp

theorem stageSwap_keeps_sum (h : stageSwap cs new old today now = .ok (cs', new', old'))
    (hused : 1 ≤ old.usageCount) :
    new'.usageCount + old'.usageCount = new.usageCount + old.usageCount := by
  obtain ⟨-, rfl, rfl⟩ := stageSwap_writes h
  simp only
  omega

end Coupon

/-! ### Two writes of one read -/

namespace Store

variable {s u : Store}

theorem apply_updateCoupon_of_stale {c : Coupon} {v : Int}
    (hstale : (s.findCoupon? c.id).map (·.version) ≠ some v) :
    s.apply (.updateCoupon c v) = .error (.conflict .coupon c.id) := by
  simp [Store.apply, checkVersion, hstale, bind, Except.bind]

theorem apply_second_write_conflicts {a b : Coupon} {v : Int} (hid : b.id = a.id)
    (hbump : a.version = v + 1) (h : s.apply (.updateCoupon a v) = .ok u) :
    u.apply (.updateCoupon b v) = .error (.conflict .coupon b.id) := by
  have hfound : u.findCoupon? a.id = some a := by
    have hrow := findRow?_apply h .coupon a.id
    simpa [Change.target, Change.written] using hrow
  apply apply_updateCoupon_of_stale
  rw [hid, hfound, Option.map_some, hbump]
  simp only [ne_eq, Option.some.injEq]
  omega

end Store

namespace Coupon

variable {cs cs' : ChangeSet} {new old new' old' : Coupon} {today : Date} {now : Instant}

theorem stageSwap_same_read_never_commits
    (h : stageSwap cs new old today now = .ok (cs', new', old'))
    (hid : new.id = old.id) (hversion : new.version = old.version) (s : Store) :
    (∃ e, s.commit cs' = .error e) ∧
      ∀ u, s.commit (cs ++ [.updateCoupon new' new.version]) = .ok u →
        u.apply (.updateCoupon old' old.version) = .error (.conflict .coupon old.id) := by
  obtain ⟨rfl, hnew, hold⟩ := stageSwap_writes h
  -- the second write, once the earlier changes applied, finds the version the first wrote
  have hsecond : ∀ u, s.commit (cs ++ [.updateCoupon new' new.version]) = .ok u →
      u.apply (.updateCoupon old' old.version) = .error (.conflict .coupon old.id) := by
    intro u hu
    obtain ⟨w, -, hlast⟩ := commit_append_eq_ok.mp hu
    have hid' : old'.id = new'.id := by rw [hold, hnew]; exact hid.symm
    have hbump : new'.version = new.version + 1 := by rw [hnew]
    have hconflict := apply_second_write_conflicts hid' hbump (commit_singleton_eq_ok.mp hlast)
    rw [← hversion, ← (show old'.id = old.id by rw [hold])]
    exact hconflict
  refine ⟨?_, hsecond⟩
  rw [show cs ++ [Change.updateCoupon new' new.version, .updateCoupon old' old.version] =
      (cs ++ [.updateCoupon new' new.version]) ++ [.updateCoupon old' old.version] by simp,
    commit_append]
  cases hfirst : s.commit (cs ++ [.updateCoupon new' new.version]) with
  | error e => exact ⟨e, rfl⟩
  | ok u =>
      exact ⟨.conflict .coupon old.id, by simp [Except.bind, commit_cons, hsecond u hfirst]⟩

end Coupon

open Coupon

/-- Staging coupon uses, on coupons whose count and limit are 32-bit words and whose version is a
64-bit word. Taking a use is staged exactly for a coupon live on the day, below its limit and below
the greatest version; it raises the count and the version by one and appends one write of the
coupon expecting the version read; an expired coupon is refused first, then an exhausted one, and
a live one below its limit at the greatest version overflows. Giving a use back above the least
count and below the greatest version appends one write of the count less one but not below zero,
at the next version. Moving a use fails as the new coupon's staging does when that fails, is
staged exactly when both stagings can be, appends the new coupon's increment and then the old
one's decrement, keeps the sum of the two counts when the old coupon had a use, and, on two reads
of one coupon at one version, stages writes that no store commits: the second meets a version
conflict once the others applied. -/
theorem coupon_staging_moves_one_use :
    (∀ (cs : ChangeSet) (c : Coupon) (today : Date) (now : Instant), c.FitsWords →
      ((∃ cs' c', stageApply cs c today now = .ok (cs', c')) ↔
        (∀ last ∈ c.validUntil, today ≤ last) ∧ c.usageCount < c.maxUsage ∧
          c.version < wordMax 64) ∧
      (∀ cs' c', stageApply cs c today now = .ok (cs', c') →
        c' = { c with usageCount := c.usageCount + 1, version := c.version + 1,
                      updatedAt := now } ∧
        cs' = cs ++ [.updateCoupon c' c.version]) ∧
      (c.isExpired today = true →
        stageApply cs c today now = .error (.refused (.validation "Coupon has expired"))) ∧
      (c.isExpired today = false → c.maxUsage ≤ c.usageCount →
        stageApply cs c today now =
          .error (.refused (.validation "Coupon has reached its maximum usage limit"))) ∧
      (c.isExpired today = false → c.usageCount < c.maxUsage → c.version = wordMax 64 →
        stageApply cs c today now = .error (.overflow .add))) ∧
    (∀ (cs : ChangeSet) (c : Coupon) (now : Instant), c.FitsWords →
      wordMin 32 < c.usageCount → c.version < wordMax 64 →
      ∃ c', stageRelease cs c now = .ok (cs ++ [.updateCoupon c' c.version], c') ∧
        c' = { c with usageCount := max (c.usageCount - 1) 0, version := c.version + 1,
                      updatedAt := now }) ∧
    (∀ (cs : ChangeSet) (new old : Coupon) (today : Date) (now : Instant),
      (∀ f, stageApply cs new today now = .error f →
        stageSwap cs new old today now = .error f) ∧
      (new.FitsWords → old.FitsWords →
        ((∃ cs' new' old', stageSwap cs new old today now = .ok (cs', new', old')) ↔
          (∀ last ∈ new.validUntil, today ≤ last) ∧ new.usageCount < new.maxUsage ∧
            new.version < wordMax 64 ∧ wordMin 32 < old.usageCount ∧
            old.version < wordMax 64)) ∧
      ∀ cs' new' old', stageSwap cs new old today now = .ok (cs', new', old') →
        cs' = cs ++ [.updateCoupon new' new.version, .updateCoupon old' old.version] ∧
        new'.usageCount = new.usageCount + 1 ∧ new'.version = new.version + 1 ∧
        old'.usageCount = max (old.usageCount - 1) 0 ∧ old'.version = old.version + 1 ∧
        (1 ≤ old.usageCount →
          new'.usageCount + old'.usageCount = new.usageCount + old.usageCount) ∧
        (new.id = old.id → new.version = old.version → ∀ s : Store,
          (∃ e, s.commit cs' = .error e) ∧
          ∀ u, s.commit (cs ++ [.updateCoupon new' new.version]) = .ok u →
            u.apply (.updateCoupon old' old.version) = .error (.conflict .coupon old.id))) := by
  refine ⟨fun cs c today now hc => ⟨stageApply_ok_iff hc, fun cs' c' h => ?_,
      stageApply_of_expired, stageApply_of_exhausted, fun hexpired hlt hlast => ?_⟩,
    fun cs c now hc hmin hlast => stageRelease_of_fits hc hmin hlast,
    fun cs new old today now => ⟨fun f hf => stageSwap_of_refused hf, stageSwap_ok_iff,
      fun cs' new' old' h => ?_⟩⟩
  · obtain ⟨-, -, -, -, rfl, rfl⟩ := stageApply_eq_ok.mp h
    exact ⟨rfl, rfl⟩
  · have hexhausted : c.isExhausted = false := isExhausted_eq_false_iff.mpr hlt
    exact (stageApply_eq_overflow_iff hc.count hc.limit hc.version).mpr
      ⟨hexpired, hexhausted, hlast, rfl⟩
  · obtain ⟨hcs, hnew, hold⟩ := stageSwap_writes h
    refine ⟨hcs, by rw [hnew], by rw [hnew], by rw [hold], by rw [hold],
      stageSwap_keeps_sum h,
      fun hid hversion s => stageSwap_same_read_never_commits h hid hversion s⟩

/-- A coupon never used, with one use allowed and no last day, takes its use. -/
theorem unused_coupon_takes_its_use :
    let c : Coupon := ⟨Uuid.ofNat 1, "COUPON1", 1000, 1, 0, none, 0, ⟨0, 0⟩, ⟨0, 0⟩⟩
    c.FitsWords ∧ ∃ cs' c', stageApply [] c ⟨2040, 6, 15⟩ ⟨0, 0⟩ = .ok (cs', c') := by
  intro c
  have hc : c.FitsWords := ⟨by decide, by decide, by decide⟩
  exact ⟨hc, ((coupon_staging_moves_one_use.1 [] c ⟨2040, 6, 15⟩ ⟨0, 0⟩ hc).1).mpr
    ⟨by simp [c], by decide, by decide⟩⟩

/-- A coupon live on the day and below its limit, at the greatest 64-bit version, cannot take a
use: its next version overflows. -/
theorem live_coupon_at_last_version_refuses_use :
    let c : Coupon := ⟨Uuid.ofNat 1, "COUPON1", 1000, 2, 0, none, 9223372036854775807, ⟨0, 0⟩,
      ⟨0, 0⟩⟩
    (∀ last ∈ c.validUntil, (⟨2040, 6, 15⟩ : Date) ≤ last) ∧
      c.usageCount < c.maxUsage ∧
      stageApply [] c ⟨2040, 6, 15⟩ ⟨0, 0⟩ = .error (.overflow .add) := by
  intro c
  have hc : c.FitsWords := ⟨by decide, by decide, by decide⟩
  have hexpired : c.isExpired ⟨2040, 6, 15⟩ = false := rfl
  have hexhausted : c.isExhausted = false := by decide
  exact ⟨isExpired_eq_false_iff.mp hexpired, by decide,
    (stageApply_eq_overflow_iff hc.count hc.limit hc.version).mpr
      ⟨hexpired, hexhausted, by decide, rfl⟩⟩

end RepairDesk
