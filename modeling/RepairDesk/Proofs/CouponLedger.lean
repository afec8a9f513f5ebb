import RepairDesk.Proofs.Keys

namespace RepairDesk

open Tables Store

def uses (os : List RepairOrder) (x : Uuid) : Nat :=
  os.countP (·.couponId == some x)

/-- The coupon ledger of a coupon table and an order table. -/
structure CouponLedger (cs : List Coupon) (os : List RepairOrder) : Prop where
  /-- A coupon's count is the number of orders that use it. -/
  counted : ∀ c ∈ cs, c.usageCount = uses os c.id
  /-- No coupon is used more than it allows. -/
  bounded : ∀ c ∈ cs, c.usageCount ≤ c.maxUsage
  /-- An order uses only stored coupons. -/
  attached : ∀ o ∈ os, ∀ x, o.couponId = some x → ∃ c ∈ cs, c.id = x

section Uses

variable {os : List RepairOrder} {o o' : RepairOrder}

theorem uses_append (os : List RepairOrder) (o : RepairOrder) (y : Uuid) :
    uses (os ++ [o]) y = uses os y + if o.couponId = some y then 1 else 0 := by
  simp [uses, List.countP_append]

theorem uses_replaceBy (hko : (os.map (·.id)).Nodup) (ho : o ∈ os) (hoid : o'.id = o.id)
    (y : Uuid) :
    uses (replaceBy (·.id) o' os) y + (if o.couponId = some y then 1 else 0) =
      uses os y + if o'.couponId = some y then 1 else 0 := by
  have h := countP_replaceBy (·.id) (·.couponId == some y) hko ho hoid.symm
  simpa [uses] using h

theorem uses_filter (hko : (os.map (·.id)).Nodup) (ho : o ∈ os) (y : Uuid) :
    uses (os.filter (·.id != o.id)) y + (if o.couponId = some y then 1 else 0) = uses os y := by
  have h := countP_filter_key_ne (·.id) (·.couponId == some y) hko ho
  simpa [uses] using h

theorem uses_pos {x : Uuid} (ho : o ∈ os) (hx : o.couponId = some x) : 0 < uses os x :=
  List.countP_pos_iff.mpr ⟨o, ho, by simp [hx]⟩

end Uses

namespace CouponLedger

variable {cs : List Coupon} {os : List RepairOrder}

theorem empty : CouponLedger [] [] where
  counted := by simp
  bounded := by simp
  attached := by simp

theorem usageCount_nonneg (h : CouponLedger cs os) {c : Coupon} (hc : c ∈ cs) :
    0 ≤ c.usageCount := by
  rw [h.counted c hc]
  exact Int.natCast_nonneg _

theorem reorder (h : CouponLedger cs os) {os' : List RepairOrder}
    (huses : ∀ y, uses os' y = uses os y)
    (hattached : ∀ o ∈ os', ∀ x, o.couponId = some x → ∃ c ∈ cs, c.id = x) :
    CouponLedger cs os' where
  counted := fun c hc => (h.counted c hc).trans (by rw [huses])
  bounded := h.bounded
  attached := hattached

theorem replace_order (h : CouponLedger cs os) (hko : (os.map (·.id)).Nodup) {o o' : RepairOrder}
    (ho : o ∈ os) (hoid : o'.id = o.id) (hcoupon : o'.couponId = o.couponId) :
    CouponLedger cs (replaceBy (·.id) o' os) := by
  refine h.reorder (fun y => ?_) ?_
  · have hshift := uses_replaceBy hko ho hoid y
    rw [hcoupon] at hshift
    omega
  · intro q hq x hx
    rcases (mem_replaceBy _).mp hq with ⟨hold, -⟩ | ⟨rfl, -⟩
    · exact h.attached q hold x hx
    · exact h.attached o ho x (hcoupon ▸ hx)

theorem recount (h : CouponLedger cs os) {os' : List RepairOrder} {c : Coupon}
    (huses : ∀ y, y ≠ c.id → uses os' y = uses os y) (hcount : c.usageCount = uses os' c.id)
    (hbound : c.usageCount ≤ c.maxUsage)
    (hattached : ∀ o ∈ os', ∀ x, o.couponId = some x → ∃ q ∈ cs, q.id = x) :
    CouponLedger (replaceBy (·.id) c cs) os' := by
  refine ⟨?_, ?_, ?_⟩
  · intro q hq
    rcases (mem_replaceBy _).mp hq with ⟨hold, hne⟩ | ⟨rfl, -⟩
    · rw [h.counted q hold, huses q.id hne]
    · exact hcount
  · intro q hq
    rcases (mem_replaceBy _).mp hq with ⟨hold, -⟩ | ⟨rfl, -⟩
    · exact h.bounded q hold
    · exact hbound
  · intro o ho x hx
    obtain ⟨q, hq, rfl⟩ := hattached o ho x hx
    by_cases hkey : q.id = c.id
    · exact ⟨c, mem_replaceBy_self _ hq hkey, hkey.symm⟩
    · exact ⟨q, mem_replaceBy_of_key_ne _ hq hkey, rfl⟩

theorem take_use (h : CouponLedger cs os) {os' : List RepairOrder} {c c' : Coupon} (hc : c ∈ cs)
    (huses : ∀ y, uses os' y = uses os y + if y = c.id then 1 else 0)
    (hroom : c.usageCount < c.maxUsage)
    (hattached : ∀ o ∈ os', ∀ x, o.couponId = some x → ∃ q ∈ cs, q.id = x)
    (hid : c'.id = c.id) (hcount : c'.usageCount = c.usageCount + 1)
    (hmax : c'.maxUsage = c.maxUsage) : CouponLedger (replaceBy (·.id) c' cs) os' := by
  refine h.recount (fun y hy => ?_) ?_ ?_ hattached
  · rw [huses y, if_neg (hid ▸ hy)]
    rfl
  · rw [hcount, hid, huses c.id, if_pos rfl, h.counted c hc]
    push_cast
    rfl
  · rw [hcount, hmax]
    omega

theorem give_use (h : CouponLedger cs os) {os' : List RepairOrder} {c c' : Coupon} (hc : c ∈ cs)
    (huses : ∀ y, uses os' y + (if y = c.id then 1 else 0) = uses os y)
    (hattached : ∀ o ∈ os', ∀ x, o.couponId = some x → ∃ q ∈ cs, q.id = x)
    (hid : c'.id = c.id) (hcount : c'.usageCount = max (c.usageCount - 1) 0)
    (hmax : c'.maxUsage = c.maxUsage) : CouponLedger (replaceBy (·.id) c' cs) os' := by
  have hbefore := h.counted c hc
  have hafter := huses c.id
  rw [if_pos rfl] at hafter
  refine h.recount (fun y hy => ?_) ?_ ?_ hattached
  · have hy' := huses y
    rw [if_neg (hid ▸ hy)] at hy'
    omega
  · rw [hcount, hid]
    omega
  · have hbound := h.bounded c hc
    rw [hcount, hmax]
    omega

section Retarget

variable (h : CouponLedger cs os) (hko : (os.map (·.id)).Nodup) {o o' : RepairOrder}
  (ho : o ∈ os) (hoid : o'.id = o.id)
include h hko ho hoid

theorem attach_use {c c' : Coupon} (hc : c ∈ cs) (hnone : o.couponId = none)
    (hsome : o'.couponId = some c.id) (hroom : c.usageCount < c.maxUsage)
    (hid : c'.id = c.id) (hcount : c'.usageCount = c.usageCount + 1)
    (hmax : c'.maxUsage = c.maxUsage) :
    CouponLedger (replaceBy (·.id) c' cs) (replaceBy (·.id) o' os) := by
  refine h.take_use hc (fun y => ?_) hroom (fun q hq x hx => ?_) hid hcount hmax
  · have hshift := uses_replaceBy hko ho hoid y
    rw [hnone, hsome] at hshift
    by_cases hy : y = c.id <;> simp [hy, eq_comm] at hshift ⊢ <;> omega
  · rcases (mem_replaceBy _).mp hq with ⟨hold, -⟩ | ⟨rfl, -⟩
    · exact h.attached q hold x hx
    · rw [hsome, Option.some_inj] at hx
      exact ⟨c, hc, hx⟩

theorem detach_use {c c' : Coupon} (hc : c ∈ cs) (hsome : o.couponId = some c.id)
    (hnone : o'.couponId = none) (hid : c'.id = c.id)
    (hcount : c'.usageCount = max (c.usageCount - 1) 0) (hmax : c'.maxUsage = c.maxUsage) :
    CouponLedger (replaceBy (·.id) c' cs) (replaceBy (·.id) o' os) := by
  refine h.give_use hc (fun y => ?_) (fun q hq x hx => ?_) hid hcount hmax
  · have hshift := uses_replaceBy hko ho hoid y
    rw [hnone, hsome] at hshift
    by_cases hy : y = c.id <;> simp [hy, eq_comm] at hshift ⊢ <;> omega
  · rcases (mem_replaceBy _).mp hq with ⟨hold, -⟩ | ⟨rfl, -⟩
    · exact h.attached q hold x hx
    · rw [hnone] at hx
      cases hx

theorem swap_use {new new' old old' : Coupon} (hnew : new ∈ cs) (hold : old ∈ cs)
    (hne : new.id ≠ old.id) (hfrom : o.couponId = some old.id) (hto : o'.couponId = some new.id)
    (hroom : new.usageCount < new.maxUsage) (hnewid : new'.id = new.id)
    (hnewcount : new'.usageCount = new.usageCount + 1) (hnewmax : new'.maxUsage = new.maxUsage)
    (holdid : old'.id = old.id) (holdcount : old'.usageCount = max (old.usageCount - 1) 0)
    (holdmax : old'.maxUsage = old.maxUsage) :
    CouponLedger (replaceBy (·.id) old' (replaceBy (·.id) new' cs)) (replaceBy (·.id) o' os) := by
  let bare : RepairOrder := { o with couponId := none }
  have hreleased : CouponLedger (replaceBy (·.id) old' cs) (replaceBy (·.id) bare os) :=
    h.detach_use hko ho (show bare.id = o.id from rfl) hold hfrom rfl holdid holdcount holdmax
  have htaken := hreleased.attach_use (nodup_replaceBy _ hko) (mem_replaceBy_self _ ho rfl) hoid
    (mem_replaceBy_of_key_ne _ hnew (holdid ▸ hne)) rfl hto hroom hnewid hnewcount hnewmax
  rwa [replaceBy_replaceBy_of_key_eq (fun q : RepairOrder => q.id) (a := o') (b := bare) hoid,
    replaceBy_comm (fun q : Coupon => q.id) (a := new') (b := old')
      (by rw [hnewid, holdid]; exact hne)] at htaken

end Retarget

theorem append_coupon (h : CouponLedger cs os) {c : Coupon} (hfresh : ∀ q ∈ cs, q.id ≠ c.id)
    (hunused : c.usageCount = 0) (hmax : 0 ≤ c.maxUsage) : CouponLedger (cs ++ [c]) os := by
  have hsrc : ∀ q ∈ cs ++ [c], q ∈ cs ∨ q = c := by
    intro q hq
    simpa using hq
  refine ⟨?_, ?_, ?_⟩
  · intro q hq
    rcases hsrc q hq with hold | rfl
    · exact h.counted q hold
    · -- no order uses a key that no stored coupon has
      have hnone : uses os q.id = 0 := by
        refine List.countP_eq_zero.mpr fun o ho hx => ?_
        obtain ⟨q₀, hq₀, hid₀⟩ := h.attached o ho q.id (by simpa using hx)
        exact hfresh q₀ hq₀ hid₀
      rw [hunused, hnone]
      rfl
  · intro q hq
    rcases hsrc q hq with hold | rfl
    · exact h.bounded q hold
    · rw [hunused]
      exact hmax
  · intro o ho x hx
    obtain ⟨q, hq, hid⟩ := h.attached o ho x hx
    exact ⟨q, List.mem_append_left _ hq, hid⟩

theorem erase_coupon (h : CouponLedger cs os) {c : Coupon} (hc : c ∈ cs)
    (hunused : c.usageCount ≤ 0) : CouponLedger (cs.filter (·.id != c.id)) os := by
  have hold : ∀ q ∈ cs.filter (·.id != c.id), q ∈ cs := fun q hq => (List.mem_filter.mp hq).1
  refine ⟨fun q hq => h.counted q (hold q hq), fun q hq => h.bounded q (hold q hq), ?_⟩
  intro o ho x hx
  obtain ⟨q, hq, rfl⟩ := h.attached o ho x hx
  have hne : q.id ≠ c.id := by
    intro heq
    have hpos := uses_pos ho (hx.trans (congrArg some heq))
    have hcount := h.counted c hc
    omega
  exact ⟨q, List.mem_filter.mpr ⟨hq, by simpa using hne⟩, rfl⟩

end CouponLedger

end RepairDesk
