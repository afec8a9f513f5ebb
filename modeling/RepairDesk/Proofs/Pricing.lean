import RepairDesk.Proofs.Plans

/-! The discounts a listing remembers within a call are the store's, so the memo changes no view. -/

namespace RepairDesk.TechnicianReport

/-- A report priced on its own: against its order among `orders`, with its coupon looked up
afresh; `none` when the order is not among them. -/
def freshView (s : Store) (orders : List RepairOrder) (r : TechnicianReport) :
    Except Failure (Option ReportView) :=
  match orders.find? (·.id == r.repairOrderId) with
  | some o => do
    let v ← customerView s o r
    pure (some v)
  | none => pure none

/-- Every discount the memo remembers is the one the store gives its coupon. -/
def MemoSound (s : Store) (memo : List (Uuid × Int)) : Prop :=
  ∀ id d, memo.lookup id = some d → d = couponDiscount s (some id)

variable {s : Store} {memo : List (Uuid × Int)}

theorem memoSound_nil : MemoSound s [] := by
  intro id d hd
  simp at hd

theorem memoDiscount_fst (h : MemoSound s memo) (x : Option Uuid) :
    (memoDiscount s memo x).1 = couponDiscount s x := by
  cases x with
  | none => rfl
  | some id =>
    cases hl : memo.lookup id with
    | none => simp [memoDiscount, hl]
    | some d => simp [memoDiscount, hl, h id d hl]

theorem MemoSound.memoDiscount (h : MemoSound s memo) (x : Option Uuid) :
    MemoSound s (memoDiscount s memo x).2 := by
  cases x with
  | none => exact h
  | some id =>
    cases hl : memo.lookup id with
    | some d => simpa [TechnicianReport.memoDiscount, hl] using h
    | none =>
      -- the one new entry is a fresh lookup; the others were there before
      intro id' d hd
      by_cases hid : id' = id
      · subst hid
        simp [TechnicianReport.memoDiscount, hl] at hd
        exact hd.symm
      · simp only [TechnicianReport.memoDiscount, hl, List.lookup_cons, beq_false_of_ne hid] at hd
        exact h id' d hd

/-- From a sound memo, the priced reports are each report priced on its own: the memo never
changes a discount. -/
theorem priceReports_eq_filterMapM {orders : List RepairOrder} (rs : List TechnicianReport)
    (h : MemoSound s memo) :
    priceReports s orders rs memo = rs.filterMapM (freshView s orders) := by
  induction rs generalizing memo with
  | nil => rfl
  | cons r rest ih =>
    rw [List.filterMapM_cons]
    cases ho : orders.find? (·.id == r.repairOrderId) with
    | none => simp [priceReports, freshView, ho, ih h]
    | some o =>
      rcases hm : memoDiscount s memo o.couponId with ⟨d, memo'⟩
      have hd : d = couponDiscount s o.couponId := by
        rw [← memoDiscount_fst h, hm]
      have hsound : MemoSound s memo' := by
        simpa [hm] using h.memoDiscount o.couponId
      simp only [priceReports, freshView, ho, hm, customerView, ← hd, ih hsound]
      cases r.view.withDiscount d <;> rfl

theorem customerViews_eq_filterMapM {customer : Uuid} {status : ReportStatus} :
    customerViews s customer status =
      (s.reportsOfCustomer customer status).filterMapM (freshView s (s.ordersOfCustomer customer)) := by
  unfold customerViews
  dsimp only
  split
  · rename_i hempty
    rw [List.isEmpty_iff.mp hempty]
    rfl
  · exact priceReports_eq_filterMapM _ memoSound_nil

end RepairDesk.TechnicianReport
