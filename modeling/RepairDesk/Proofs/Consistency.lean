import RepairDesk.Proofs.Lifecycle
import RepairDesk.Proofs.CouponLedger

namespace RepairDesk

/-- The invariant of the stores the service keeps. -/
structure Consistent (s : Store) : Prop where
  keyed : Keyed s
  lifecycle : Lifecycle s.orders s.reports
  ledger : CouponLedger s.coupons s.orders

theorem Consistent.empty : Consistent Store.empty :=
  ⟨Keyed.empty, Lifecycle.empty, CouponLedger.empty⟩

/-- How the store an operation read can have moved on by the time its plan commits. -/
structure Evolves (s₀ s₁ : Store) : Prop where
  /-- A row stored at both moments has not moved back, and at the same version it is the same
  row. -/
  rows : ∀ e x r₀ r₁, s₀.findRow? e x = some r₀ → s₁.findRow? e x = some r₁ →
    r₀.version ≤ r₁.version ∧ (r₀.version = r₁.version → r₀ = r₁)
  /-- An order that is still the same row has gained no active report. -/
  live : ∀ x o, s₀.findOrder? x = some o → s₁.findOrder? x = some o →
    s₁.hasActiveReport x = true → s₀.hasActiveReport x = true

/-- What one commit may do to the active reports: an order whose row it leaves alone gains
none. -/
def KeepsActivity (s₁ s₂ : Store) : Prop :=
  ∀ x o, s₁.findOrder? x = some o → s₂.findOrder? x = some o →
    s₂.hasActiveReport x = true → s₁.hasActiveReport x = true

namespace Evolves

variable {s₀ s₁ : Store}

theorem refl (s : Store) : Evolves s s where
  rows := by
    intro e x r₀ r₁ h₀ h₁
    rw [h₀, Option.some_inj] at h₁
    subst h₁
    exact ⟨Int.le_refl _, fun _ => rfl⟩
  live := fun _ _ _ _ h => h

theorem trans {s₂ : Store} (h₁ : Evolves s₀ s₁) (h₂ : Evolves s₁ s₂)
    (hgap : ∀ e x r₀ r₂, s₀.findRow? e x = some r₀ → s₂.findRow? e x = some r₂ →
      (s₁.findRow? e x).isSome) : Evolves s₀ s₂ := by
  -- a row stored at both ends is stored in between, so versions chain through the middle
  have hrows : ∀ e x r₀ r₂, s₀.findRow? e x = some r₀ → s₂.findRow? e x = some r₂ →
      r₀.version ≤ r₂.version ∧ (r₀.version = r₂.version → r₀ = r₂) := by
    intro e x r₀ r₂ hr₀ hr₂
    obtain ⟨r₁, hr₁⟩ := Option.isSome_iff_exists.mp (hgap e x r₀ r₂ hr₀ hr₂)
    obtain ⟨hle₁, heq₁⟩ := h₁.rows e x r₀ r₁ hr₀ hr₁
    obtain ⟨hle₂, heq₂⟩ := h₂.rows e x r₁ r₂ hr₁ hr₂
    refine ⟨Int.le_trans hle₁ hle₂, fun hv => ?_⟩
    have hv₁ : r₀.version = r₁.version := Int.le_antisymm hle₁ (hv ▸ hle₂)
    rw [heq₁ hv₁, heq₂ (hv₁.symm.trans hv)]
  refine ⟨hrows, fun x o ho₀ ho₂ hact => ?_⟩
  have hrow₀ : s₀.findRow? .repairOrder x = some (.order o) := by simp [ho₀]
  have hrow₂ : s₂.findRow? .repairOrder x = some (.order o) := by simp [ho₂]
  obtain ⟨r₁, hr₁⟩ := Option.isSome_iff_exists.mp (hgap _ x _ _ hrow₀ hrow₂)
  -- the order in between is at the version read, so it is the order read
  have hv : r₁.version = (Row.order o).version := by
    have := (h₁.rows _ x _ r₁ hrow₀ hr₁).1
    have := (h₂.rows _ x r₁ _ hr₁ hrow₂).1
    omega
  have hsame := (h₁.rows _ x _ r₁ hrow₀ hr₁).2 hv.symm
  subst hsame
  have ho₁ : s₁.findOrder? x = some o := by simpa using hr₁
  exact h₁.live x o ho₀ ho₁ (h₂.live x o ho₁ ho₂ hact)

theorem findRow_eq (hev : Evolves s₀ s₁) {e : Entity} {x : Uuid} {r : Row}
    (h₀ : s₀.findRow? e x = some r) (hv : (s₁.findRow? e x).map Row.version = some r.version) :
    s₁.findRow? e x = some r := by
  cases h₁ : s₁.findRow? e x with
  | none => simp [h₁] at hv
  | some r₁ =>
      rw [h₁, Option.map_some, Option.some_inj] at hv
      rw [(hev.rows e x r r₁ h₀ h₁).2 hv.symm]

theorem findOrder_eq (hev : Evolves s₀ s₁) {x : Uuid} {o : RepairOrder}
    (h₀ : s₀.findOrder? x = some o) (hv : (s₁.findOrder? x).map (·.version) = some o.version) :
    s₁.findOrder? x = some o := by
  have h := hev.findRow_eq (e := .repairOrder) (x := x) (r := .order o) (by simp [h₀])
    (by simpa [Option.map_map, Function.comp_def, Row.version] using hv)
  simpa using h

theorem findCoupon_eq (hev : Evolves s₀ s₁) {x : Uuid} {c : Coupon}
    (h₀ : s₀.findCoupon? x = some c) (hv : (s₁.findCoupon? x).map (·.version) = some c.version) :
    s₁.findCoupon? x = some c := by
  have h := hev.findRow_eq (e := .coupon) (x := x) (r := .coupon c) (by simp [h₀])
    (by simpa [Option.map_map, Function.comp_def, Row.version] using hv)
  simpa using h

theorem findReport_eq (hev : Evolves s₀ s₁) {x : Uuid} {r : TechnicianReport}
    (h₀ : s₀.findReport? x = some r) (hv : (s₁.findReport? x).map (·.version) = some r.version) :
    s₁.findReport? x = some r := by
  have h := hev.findRow_eq (e := .technicianReport) (x := x) (r := .report r) (by simp [h₀])
    (by simpa [Option.map_map, Function.comp_def, Row.version] using hv)
  simpa using h

theorem no_active (hev : Evolves s₀ s₁) {x : Uuid} {o : RepairOrder}
    (h₀ : s₀.findOrder? x = some o) (h₁ : s₁.findOrder? x = some o)
    (hfree : s₀.hasActiveReport x = false) : s₁.hasActiveReport x = false := by
  cases hact : s₁.hasActiveReport x with
  | false => rfl
  | true =>
      have := hev.live x o h₀ h₁ hact
      rw [hfree] at this
      exact absurd this Bool.false_ne_true

end Evolves

namespace KeepsActivity

open Tables Store

variable {s₁ s₂ : Store}

theorem of_reports_eq (h : s₂.reports = s₁.reports) : KeepsActivity s₁ s₂ := by
  intro x o _ _ hact
  rwa [hasActiveReport, h] at hact

theorem of_filter {p : TechnicianReport → Bool} (h : s₂.reports = s₁.reports.filter p) :
    KeepsActivity s₁ s₂ := by
  intro x o _ _ hact
  obtain ⟨q, hq, hqid, ha⟩ := hasActiveReport_eq_true.mp hact
  rw [h] at hq
  exact hasActiveReport_eq_true.mpr ⟨q, (List.mem_filter.mp hq).1, hqid, ha⟩

theorem of_replace {r r' : TechnicianReport} (hr : r ∈ s₁.reports)
    (hactive : r.status ≠ .rejected) (hfor : r'.repairOrderId = r.repairOrderId)
    (h : s₂.reports = replaceBy (·.reportId) r' s₁.reports) : KeepsActivity s₁ s₂ := by
  intro x o _ _ hact
  obtain ⟨q, hq, hqid, ha⟩ := hasActiveReport_eq_true.mp hact
  rw [h] at hq
  rcases (mem_replaceBy _).mp hq with ⟨hold, -⟩ | ⟨rfl, -⟩
  · exact hasActiveReport_eq_true.mpr ⟨q, hold, hqid, ha⟩
  · exact hasActiveReport_eq_true.mpr ⟨r, hr, hfor.symm.trans hqid, hactive⟩

theorem of_append {r : TechnicianReport} (h : s₂.reports = s₁.reports ++ [r])
    (hmoved : ∀ o, s₁.findOrder? r.repairOrderId = some o →
      s₂.findOrder? r.repairOrderId ≠ some o) : KeepsActivity s₁ s₂ := by
  intro x o h₁ h₂ hact
  obtain ⟨q, hq, hqid, ha⟩ := hasActiveReport_eq_true.mp hact
  rw [h, List.mem_append, List.mem_singleton] at hq
  rcases hq with hold | rfl
  · exact hasActiveReport_eq_true.mpr ⟨q, hold, hqid, ha⟩
  · subst hqid
    exact absurd h₂ (hmoved o h₁)

end KeepsActivity

theorem Consistent.of_tables_eq {s₁ s₂ : Store} (h₁ : Consistent s₁) (hkeyed : Keyed s₂)
    (horders : s₂.orders = s₁.orders) (hcoupons : s₂.coupons = s₁.coupons)
    (hreports : s₂.reports = s₁.reports) : Consistent s₂ ∧ KeepsActivity s₁ s₂ := by
  refine ⟨⟨hkeyed, ?_, ?_⟩, KeepsActivity.of_reports_eq hreports⟩
  · rw [horders, hreports]
    exact h₁.lifecycle
  · rw [hcoupons, horders]
    exact h₁.ledger

end RepairDesk
