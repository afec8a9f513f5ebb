import RepairDesk.Proofs.StaleSnapshots

/-! Where the checked arithmetic runs out of its word. -/

namespace RepairDesk

open Numeric

namespace Numeric

variable {bits : Nat} {a b v : Int} {e : Overflow}

theorem addWord_eq_error_iff : addWord bits a b = .error e ↔ ¬ fitsWord bits (a + b) ∧ e = .add := by
  unfold addWord
  split <;> simp_all [eq_comm]

theorem subWord_eq_error_iff : subWord bits a b = .error e ↔ ¬ fitsWord bits (a - b) ∧ e = .sub := by
  unfold subWord
  split <;> simp_all [eq_comm]

theorem fitsWord_succ_iff (hv : fitsWord bits v) : fitsWord bits (v + 1) ↔ v ≠ wordMax bits := by
  obtain ⟨hlo, hhi⟩ := hv
  simp only [fitsWord]
  omega

theorem fitsWord_pred_iff (hv : fitsWord bits v) : fitsWord bits (v - 1) ↔ v ≠ wordMin bits := by
  obtain ⟨hlo, hhi⟩ := hv
  simp only [fitsWord]
  omega

end Numeric

/-! ### Versions -/

section Versions

variable {v : Int} {e : Overflow}

theorem nextVersion_eq_error_iff (hv : fitsWord 64 v) :
    nextVersion v = .error e ↔ v = wordMax 64 ∧ e = .add := by
  rw [nextVersion, addWord_eq_error_iff, fitsWord_succ_iff hv, not_not]

theorem bind_nextVersion_eq_error {α : Type} {k : Int → α} :
    (do let w ← nextVersion v; pure (k w) : Except Overflow α) = .error e ↔
      nextVersion v = .error e := by
  cases nextVersion v <;> simp [bind, Except.bind, pure, Except.pure]

namespace ChangeSet

variable {cs : ChangeSet} {now : Instant}

theorem updateOrder_eq_error_iff {o : RepairOrder} (hv : fitsWord 64 o.version) :
    cs.updateOrder now o = .error e ↔ o.version = wordMax 64 ∧ e = .add :=
  bind_nextVersion_eq_error.trans (nextVersion_eq_error_iff hv)

theorem updateCoupon_eq_error_iff {c : Coupon} (hv : fitsWord 64 c.version) :
    cs.updateCoupon now c = .error e ↔ c.version = wordMax 64 ∧ e = .add :=
  bind_nextVersion_eq_error.trans (nextVersion_eq_error_iff hv)

theorem updatePaymentMethod_eq_error_iff {m : PaymentMethod} (hv : fitsWord 64 m.version) :
    cs.updatePaymentMethod now m = .error e ↔ m.version = wordMax 64 ∧ e = .add :=
  bind_nextVersion_eq_error.trans (nextVersion_eq_error_iff hv)

theorem updateReport_eq_error_iff {r : TechnicianReport} (hv : fitsWord 64 r.version) :
    cs.updateReport r = .error e ↔ r.version = wordMax 64 ∧ e = .add :=
  bind_nextVersion_eq_error.trans (nextVersion_eq_error_iff hv)

end ChangeSet

end Versions

/-! ### A coupon's count of uses -/

namespace Coupon

variable {cs₀ : ChangeSet} {c : Coupon} {today : Date} {now : Instant}

theorem fits_succ_of_not_exhausted (hcount : fitsWord 32 c.usageCount)
    (hmax : fitsWord 32 c.maxUsage) (hexhausted : c.isExhausted = false) :
    fitsWord 32 (c.usageCount + 1) := by
  have hlt := usageCount_lt_of_isExhausted hexhausted
  obtain ⟨hlo, -⟩ := hcount
  obtain ⟨-, hhi⟩ := hmax
  simp only [fitsWord]
  omega

theorem lift_updateCoupon_eq_error {c' : Coupon} {f : Failure} :
    (liftM (ChangeSet.updateCoupon cs₀ now c') : Except Failure (ChangeSet × Coupon)) =
        .error f ↔ ∃ e, nextVersion c'.version = .error e ∧ f = .overflow e := by
  rw [lift_overflow_eq_error]
  exact exists_congr fun _ => and_congr_left fun _ => bind_nextVersion_eq_error

/-- Taking a use of a coupon of 32-bit count and limit overflows exactly when the coupon is live
and below its limit at the greatest version: the count itself never runs out. -/
theorem stageApply_eq_overflow_iff (hcount : fitsWord 32 c.usageCount)
    (hmax : fitsWord 32 c.maxUsage) (hv : fitsWord 64 c.version) {o : Overflow} :
    stageApply cs₀ c today now = .error (.overflow o) ↔
      c.isExpired today = false ∧ c.isExhausted = false ∧ c.version = wordMax 64 ∧ o = .add := by
  cases hexpired : c.isExpired today
  · cases hexhausted : c.isExhausted
    · -- the count is raised within its word, and the write-back is left
      have hstep : (liftM (addWord 32 c.usageCount 1) : Except Failure Int) =
          .ok (c.usageCount + 1) := by
        rw [addWord_eq_ok (fits_succ_of_not_exhausted hcount hmax hexhausted)]
        rfl
      simp only [stageApply, hexpired, hexhausted, Bool.false_eq_true, if_false, hstep]
      show (liftM (ChangeSet.updateCoupon cs₀ now _) : Except Failure _) = _ ↔ _
      rw [lift_updateCoupon_eq_error]
      simp [nextVersion_eq_error_iff hv]
    · simp [stageApply, hexpired, hexhausted, throw, throwThe, MonadExceptOf.throw, bind,
        Except.bind]
  · simp [stageApply, hexpired, throw, throwThe, MonadExceptOf.throw, bind, Except.bind]

theorem stageRelease_eq_error_iff (hcount : fitsWord 32 c.usageCount)
    (hv : fitsWord 64 c.version) {f : Failure} :
    stageRelease cs₀ c now = .error f ↔
      (c.usageCount = wordMin 32 ∧ f = .overflow .sub) ∨
        (c.usageCount ≠ wordMin 32 ∧ c.version = wordMax 64 ∧ f = .overflow .add) := by
  by_cases hmin : c.usageCount = wordMin 32
  · have hstep : (liftM (subWord 32 c.usageCount 1) : Except Failure Int) =
        .error (.overflow .sub) := by
      rw [subWord_eq_error_iff.mpr ⟨mt (fitsWord_pred_iff hcount).mp (not_not.mpr hmin), rfl⟩]
      rfl
    simp only [stageRelease, hstep]
    simp [bind, Except.bind, hmin, eq_comm]
  · have hsub : subWord 32 c.usageCount 1 = .ok (c.usageCount - 1) :=
      subWord_eq_ok ((fitsWord_pred_iff hcount).mpr hmin)
    have hstep : (liftM (subWord 32 c.usageCount 1) : Except Failure Int) =
        .ok (c.usageCount - 1) := by
      rw [hsub]
      rfl
    simp only [stageRelease, hstep]
    show (liftM (ChangeSet.updateCoupon cs₀ now _) : Except Failure _) = _ ↔ _
    rw [lift_updateCoupon_eq_error]
    simp [nextVersion_eq_error_iff hv, hmin]

end Coupon

/-! ### A customer's view -/

theorem discountedCost_eq_error_iff {cost discount : Int} {e : Overflow} :
    discountedCost cost discount = .error e ↔ ¬ fitsWord 64 (cost - discount) ∧ e = .sub := by
  rw [← subWord_eq_error_iff]
  unfold discountedCost
  cases subWord 64 cost discount <;> simp [bind, Except.bind, pure, Except.pure]

theorem ReportView.withDiscount_eq_error_iff {v : ReportView} {discount : Int} {e : Overflow} :
    v.withDiscount discount = .error e ↔
      ∃ cost, v.estimatedCost = some cost ∧ ¬ fitsWord 64 (cost - discount) ∧ e = .sub := by
  unfold ReportView.withDiscount
  cases hcost : v.estimatedCost with
  | none => simp
  | some cost =>
      dsimp only
      simp only [Option.some.injEq, exists_eq_left']
      rw [← discountedCost_eq_error_iff]
      cases discountedCost cost discount <;> simp [bind, Except.bind, pure, Except.pure]

end RepairDesk
