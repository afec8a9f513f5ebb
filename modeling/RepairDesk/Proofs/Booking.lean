import RepairDesk.Proofs.Plans
import RepairDesk.Proofs.Consistency

namespace RepairDesk

open Tables Store

theorem Coupon.usageCount_lt_of_isExhausted {c : Coupon} (h : c.isExhausted = false) :
    c.usageCount < c.maxUsage := by
  simpa [Coupon.isExhausted] using h

@[simp] theorem RepairOrder.withDetails_id (o : RepairOrder) (d : OrderDetails) :
    (o.withDetails d).id = o.id := rfl

@[simp] theorem RepairOrder.withDetails_technicianId (o : RepairOrder) (d : OrderDetails) :
    (o.withDetails d).technicianId = o.technicianId := rfl

@[simp] theorem RepairOrder.withDetails_status (o : RepairOrder) (d : OrderDetails) :
    (o.withDetails d).status = o.status := rfl

@[simp] theorem RepairOrder.withDetails_couponId (o : RepairOrder) (d : OrderDetails) :
    (o.withDetails d).couponId = o.couponId := rfl

variable {s₀ s₁ s₂ : Store} {actor : Actor} {ctx : Context}

theorem coupon_mem_of_expected (h₀ : Consistent s₀) (hev : Evolves s₀ s₁) {c : Coupon}
    (hc : c ∈ s₀.coupons) (hv : (s₁.findCoupon? c.id).map (·.version) = some c.version) :
    c ∈ s₁.coupons :=
  (mem_of_findCoupon? (hev.findCoupon_eq (h₀.keyed.findCoupon?_eq_some hc) hv)).1

theorem create_commit (h₀ : Consistent s₀) (h₁ : Consistent s₁) (hev : Evolves s₀ s₁)
    {req : OrderRequest} {p : Plan RepairOrder} (hp : RepairOrder.create actor req ctx s₀ = .ok p)
    (hc : s₁.commit p.changes = .ok s₂) : Consistent s₂ ∧ KeepsActivity s₁ s₂ := by
  have hkeyed := h₁.keyed.commit hc
  obtain ⟨-, -, -, cs, couponId, hcoupon, hchanges, hanswer⟩ := RepairOrder.create_eq_ok hp
  have hpending : p.answer.status = .pendingConfirmation := by rw [hanswer]; rfl
  have hcid : p.answer.couponId = couponId := by rw [hanswer]; rfl
  rw [hchanges] at hc
  rcases hcoupon with ⟨-, rfl, rfl⟩ | ⟨code, c, c', -, hfound, hstage, rfl⟩
  · have hu := commit_singleton_eq_ok.mp hc
    obtain ⟨hnew, rfl⟩ := apply_insertOrder.mp hu
    refine ⟨⟨hkeyed, ?_, ?_⟩, KeepsActivity.of_reports_eq rfl⟩
    · exact h₁.lifecycle.append_order ((find?_eq_none_iff _).mp hnew) hpending
    · refine h₁.ledger.reorder (fun y => by simp [uses_append, hcid]) fun q hq x hx => ?_
      rcases List.mem_append.mp hq with hold | hnew
      · exact h₁.ledger.attached q hold x hx
      · rw [List.mem_singleton.mp hnew, hcid] at hx
        cases hx
  · obtain ⟨-, hexhausted, -, -, rfl, rfl⟩ := Coupon.stageApply_eq_ok.mp hstage
    obtain ⟨u, hu, hc⟩ := commit_cons_eq_ok.mp hc
    have ht := commit_singleton_eq_ok.mp hc
    obtain ⟨hv, -, rfl⟩ := apply_updateCoupon.mp hu
    obtain ⟨hnew, rfl⟩ := apply_insertOrder.mp ht
    have hc₁ : c ∈ s₁.coupons :=
      coupon_mem_of_expected h₀ hev (List.mem_of_find?_eq_some hfound) hv
    refine ⟨⟨hkeyed, ?_, ?_⟩, KeepsActivity.of_reports_eq rfl⟩
    · exact h₁.lifecycle.append_order ((find?_eq_none_iff _).mp hnew) hpending
    · refine h₁.ledger.take_use hc₁ (fun y => ?_) (Coupon.usageCount_lt_of_isExhausted hexhausted)
        (fun q hq x hx => ?_) rfl rfl rfl
      · rw [uses_append, hcid]
        by_cases hy : y = c.id <;> simp [hy, eq_comm]
      · rcases List.mem_append.mp hq with hold | hnew
        · exact h₁.ledger.attached q hold x hx
        · rw [List.mem_singleton.mp hnew, hcid, Option.some_inj] at hx
          exact ⟨c, hc₁, hx⟩

theorem rewrite_order_commit (h₁ : Consistent s₁) (hev : Evolves s₀ s₁) {t : Store}
    {o o' : RepairOrder} (hkeyed : Keyed s₂) (hc : t.commit [.updateOrder o' o.version] = .ok s₂)
    (horders : t.orders = s₁.orders) (hreports : t.reports = s₁.reports)
    (ho₀ : s₀.findOrder? o.id = some o) (hoid : o'.id = o.id)
    (htech : o'.technicianId = o.technicianId) (hstatus : o'.status = o.status)
    (hledger : o ∈ s₁.orders → CouponLedger t.coupons (replaceBy (·.id) o' s₁.orders)) :
    Consistent s₂ ∧ KeepsActivity s₁ s₂ := by
  have hu := commit_singleton_eq_ok.mp hc
  obtain ⟨hv, rfl⟩ := apply_updateOrder.mp hu
  have hv₁ : (s₁.findOrder? o.id).map (·.version) = some o.version := by
    rw [← hoid]
    simpa [findOrder?, horders] using hv
  have ho : o ∈ s₁.orders := (mem_of_findOrder? (hev.findOrder_eq ho₀ hv₁)).1
  refine ⟨⟨hkeyed, ?_, ?_⟩, KeepsActivity.of_reports_eq hreports⟩
  · show Lifecycle (replaceBy (·.id) o' t.orders) t.reports
    rw [horders, hreports]
    exact h₁.lifecycle.replace_order h₁.keyed.orders ho hoid htech hstatus
  · show CouponLedger t.coupons (replaceBy (·.id) o' t.orders)
    rw [horders]
    exact hledger ho

theorem update_commit (h₀ : Consistent s₀) (h₁ : Consistent s₁) (hev : Evolves s₀ s₁)
    {id : Uuid} {d : OrderDetails} {p : Plan RepairOrder}
    (hp : RepairOrder.update actor id d ctx s₀ = .ok p) (hc : s₁.commit p.changes = .ok s₂) :
    Consistent s₂ ∧ KeepsActivity s₁ s₂ := by
  have hkeyed := h₁.keyed.commit hc
  obtain ⟨o, hload, -, -, requested, cs, couponId, hreq, hchange, -, hchanges, hanswer⟩ :=
    RepairOrder.update_eq_ok hp
  obtain ⟨-, hfound, -, -, -⟩ := RepairOrder.loadEditable_eq_ok.mp hload
  have ho₀ : s₀.findOrder? o.id = some o := (mem_of_findOrder? hfound).2 ▸ hfound
  have hmem₀ : o ∈ s₀.orders := (mem_of_findOrder? hfound).1
  have hreq₀ : ∀ c, requested = some c → c ∈ s₀.coupons := by
    rintro c rfl
    rcases hreq with ⟨-, hnone⟩ | ⟨code, c', -, hfind, hsome⟩
    · cases hnone
    · rw [Option.some_inj] at hsome
      subst hsome
      exact List.mem_of_find?_eq_some hfind
  -- a coupon an order read uses is stored, so the branches for a vanished coupon are void
  have hattached₀ : ∀ x, o.couponId = some x → s₀.findCoupon? x ≠ none := by
    intro x hx hnone
    obtain ⟨q, hq, rfl⟩ := h₀.ledger.attached o hmem₀ x hx
    rw [h₀.keyed.findCoupon?_eq_some hq] at hnone
    cases hnone
  have hoid : p.answer.id = o.id := by rw [hanswer]; rfl
  have htech : p.answer.technicianId = o.technicianId := by rw [hanswer]; rfl
  have hstatus : p.answer.status = o.status := by rw [hanswer]; rfl
  have hcid : p.answer.couponId = couponId := by rw [hanswer]
  have hko := h₁.keyed.orders
  rw [hchanges] at hc
  obtain ⟨t, hcs, hlast⟩ := commit_append_eq_ok.mp hc
  rcases RepairOrder.stageCouponChange_eq_ok hchange with
    ⟨hcur, -, rfl, rfl⟩ | ⟨new, hcur, -, rfl, rfl⟩ |
    ⟨new, new', hnew, hcur, hstage, rfl⟩ |
    ⟨x, new, old, new', old', hcur, hnew, hne, hold, hswap, rfl⟩ |
    ⟨x, hcur, -, rfl, ⟨hvanished, rfl⟩ | ⟨old, old', hold, hrelease⟩⟩
  · -- no coupon before or after
    rw [commit_nil, Except.ok.injEq] at hcs
    subst hcs
    exact rewrite_order_commit h₁ hev hkeyed hlast rfl rfl ho₀ hoid htech hstatus fun ho =>
      h₁.ledger.replace_order hko ho hoid (hcid.trans hcur.symm)
  · -- the same coupon
    rw [commit_nil, Except.ok.injEq] at hcs
    subst hcs
    exact rewrite_order_commit h₁ hev hkeyed hlast rfl rfl ho₀ hoid htech hstatus fun ho =>
      h₁.ledger.replace_order hko ho hoid (hcid.trans hcur.symm)
  · -- a coupon is attached
    have hnone : o.couponId = none := by
      rcases hcur with hcur | ⟨x, hx, -, hvanished⟩
      · exact hcur
      · exact absurd hvanished (hattached₀ x hx)
    obtain ⟨-, hexhausted, -, -, rfl, rfl⟩ := Coupon.stageApply_eq_ok.mp hstage
    have hu := commit_singleton_eq_ok.mp hcs
    obtain ⟨hv, -, rfl⟩ := apply_updateCoupon.mp hu
    have hnew₁ := coupon_mem_of_expected h₀ hev (hreq₀ new hnew) hv
    exact rewrite_order_commit h₁ hev hkeyed hlast rfl rfl ho₀ hoid htech hstatus fun ho =>
      h₁.ledger.attach_use hko ho hoid hnew₁ hnone hcid
        (Coupon.usageCount_lt_of_isExhausted hexhausted) rfl rfl rfl
  · -- the use moves from one coupon to another
    obtain ⟨between, happly, hrelease⟩ := Coupon.stageSwap_eq_ok.mp hswap
    obtain ⟨-, hexhausted, -, -, hnew', rfl⟩ := Coupon.stageApply_eq_ok.mp happly
    obtain ⟨-, -, hold', rfl⟩ := Coupon.stageRelease_eq_ok.mp hrelease
    have hnewid : new'.id = new.id := by rw [hnew']
    have holdid : old'.id = old.id := by rw [hold']
    have hxold : old.id = x := (mem_of_findCoupon? hold).2
    obtain ⟨u, hu, hcs⟩ := commit_cons_eq_ok.mp hcs
    have hw := commit_singleton_eq_ok.mp hcs
    obtain ⟨hvnew, -, rfl⟩ := apply_updateCoupon.mp hu
    obtain ⟨hvold, -, rfl⟩ := apply_updateCoupon.mp hw
    -- the first rewrite leaves the old coupon where it was
    have hframe : ({ s₁ with coupons := replaceBy (·.id) new' s₁.coupons } : Store).findCoupon?
        old.id = s₁.findCoupon? old.id :=
      find?_replaceBy_of_ne _ _ (show old.id ≠ new'.id by rw [hnewid, hxold]; exact hne)
    rw [holdid, hframe] at hvold
    rw [hnewid] at hvnew
    have hnew₁ := coupon_mem_of_expected h₀ hev (hreq₀ new hnew) hvnew
    have hold₁ := coupon_mem_of_expected h₀ hev (mem_of_findCoupon? hold).1 hvold
    exact rewrite_order_commit h₁ hev hkeyed hlast rfl rfl ho₀ hoid htech hstatus fun ho =>
      h₁.ledger.swap_use hko ho hoid hnew₁ hold₁ (hxold ▸ Ne.symm hne) (hxold ▸ hcur) hcid
        (Coupon.usageCount_lt_of_isExhausted hexhausted) hnewid (by rw [hnew']) (by rw [hnew'])
        holdid (by rw [hold']) (by rw [hold'])
  · -- the coupon of the order read was stored
    exact absurd hvanished (hattached₀ x hcur)
  · -- the coupon is detached
    obtain ⟨-, -, rfl, rfl⟩ := Coupon.stageRelease_eq_ok.mp hrelease
    have hu := commit_singleton_eq_ok.mp hcs
    obtain ⟨hv, -, rfl⟩ := apply_updateCoupon.mp hu
    have hxold : old.id = x := (mem_of_findCoupon? hold).2
    have hold₁ := coupon_mem_of_expected h₀ hev (mem_of_findCoupon? hold).1 hv
    exact rewrite_order_commit h₁ hev hkeyed hlast rfl rfl ho₀ hoid htech hstatus fun ho =>
      h₁.ledger.detach_use hko ho hoid hold₁ (hxold ▸ hcur) hcid rfl rfl rfl

theorem erase_order_commit (h₁ : Consistent s₁) (hev : Evolves s₀ s₁) {t : Store}
    {o : RepairOrder} (hkeyed : Keyed s₂) (hc : t.commit [.deleteOrder o.id o.version] = .ok s₂)
    (horders : t.orders = s₁.orders) (hreports : t.reports = s₁.reports)
    (ho₀ : s₀.findOrder? o.id = some o) (hfree : s₀.hasActiveReport o.id = false)
    (hledger : o ∈ s₁.orders → CouponLedger t.coupons (s₁.orders.filter (·.id != o.id))) :
    Consistent s₂ ∧ KeepsActivity s₁ s₂ := by
  have hu := commit_singleton_eq_ok.mp hc
  obtain ⟨hv, rfl⟩ := apply_deleteOrder.mp hu
  have h₁o : s₁.findOrder? o.id = some o := by
    refine hev.findOrder_eq ho₀ ?_
    simpa [findOrder?, horders] using hv
  have hfree₁ := hev.no_active ho₀ h₁o hfree
  refine ⟨⟨hkeyed, ?_, ?_⟩, KeepsActivity.of_reports_eq hreports⟩
  · show Lifecycle (t.orders.filter (·.id != o.id)) t.reports
    rw [horders, hreports]
    exact h₁.lifecycle.erase_order (hasActiveReport_eq_false.mp hfree₁)
  · show CouponLedger t.coupons (t.orders.filter (·.id != o.id))
    rw [horders]
    exact hledger (mem_of_findOrder? h₁o).1

theorem delete_commit (h₀ : Consistent s₀) (h₁ : Consistent s₁) (hev : Evolves s₀ s₁)
    {id : Uuid} {p : Plan Unit} (hp : RepairOrder.delete actor id ctx s₀ = .ok p)
    (hc : s₁.commit p.changes = .ok s₂) : Consistent s₂ ∧ KeepsActivity s₁ s₂ := by
  have hkeyed := h₁.keyed.commit hc
  obtain ⟨o, hload, hplan⟩ := RepairOrder.delete_eq_ok hp
  obtain ⟨-, hfound, -, -, hfree⟩ := RepairOrder.loadEditable_eq_ok.mp hload
  have ho₀ : s₀.findOrder? o.id = some o := (mem_of_findOrder? hfound).2 ▸ hfound
  have hmem₀ : o ∈ s₀.orders := (mem_of_findOrder? hfound).1
  have hko := h₁.keyed.orders
  rcases hplan with ⟨hnone, hchanges⟩ | ⟨c, cs, c', hsome, hrelease, hchanges⟩
  · -- the order uses no coupon: every coupon a stored order uses is stored
    have hcid : o.couponId = none := by
      cases hx : o.couponId with
      | none => rfl
      | some x =>
          obtain ⟨q, hq, rfl⟩ := h₀.ledger.attached o hmem₀ x hx
          rw [hx, Option.bind_some, h₀.keyed.findCoupon?_eq_some hq] at hnone
          cases hnone
    rw [hchanges] at hc
    refine erase_order_commit h₁ hev hkeyed hc rfl rfl ho₀ hfree fun ho => ?_
    refine h₁.ledger.reorder (fun y => ?_) fun q hq =>
      h₁.ledger.attached q (List.mem_filter.mp hq).1
    have hshift := uses_filter hko ho y
    simpa [hcid] using hshift
  · -- the order gives its coupon's use back
    obtain ⟨x, hx, hc₀⟩ := Option.bind_eq_some_iff.mp hsome
    have hxc : c.id = x := (mem_of_findCoupon? hc₀).2
    obtain ⟨-, -, rfl, rfl⟩ := Coupon.stageRelease_eq_ok.mp hrelease
    rw [hchanges] at hc
    obtain ⟨t, hcs, hlast⟩ := commit_append_eq_ok.mp hc
    have hu := commit_singleton_eq_ok.mp hcs
    obtain ⟨hv, -, rfl⟩ := apply_updateCoupon.mp hu
    have hc₁ := coupon_mem_of_expected h₀ hev (mem_of_findCoupon? hc₀).1 hv
    refine erase_order_commit h₁ hev hkeyed hlast rfl rfl ho₀ hfree fun ho => ?_
    refine h₁.ledger.give_use hc₁ (fun y => ?_)
      (fun q hq => h₁.ledger.attached q (List.mem_filter.mp hq).1) rfl rfl rfl
    have hshift := uses_filter hko ho y
    rw [hx, ← hxc] at hshift
    by_cases hy : y = c.id <;> simp [hy, eq_comm] at hshift ⊢ <;> omega

end RepairDesk
