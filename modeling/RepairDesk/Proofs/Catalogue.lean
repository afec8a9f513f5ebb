import RepairDesk.Proofs.Plans
import RepairDesk.Proofs.Consistency

namespace RepairDesk

open Tables Store

variable {s₀ s₁ s₂ : Store} {actor : Actor} {ctx : Context}

namespace Coupon

theorem create_commit (h₁ : Consistent s₁) {req : CouponRequest} {p : Plan Coupon}
    (hp : create actor req ctx s₀ = .ok p) (hc : s₁.commit p.changes = .ok s₂) :
    Consistent s₂ ∧ KeepsActivity s₁ s₂ := by
  have hkeyed := h₁.keyed.commit hc
  obtain ⟨-, hvalid, -, hchanges, hanswer⟩ := create_eq_ok hp
  obtain ⟨-, -, hmax, -⟩ := requestValid_eq_ok.mp hvalid
  rw [hchanges] at hc
  have hu := commit_singleton_eq_ok.mp hc
  obtain ⟨hnew, -, rfl⟩ := apply_insertCoupon.mp hu
  refine ⟨⟨hkeyed, h₁.lifecycle, ?_⟩, KeepsActivity.of_reports_eq rfl⟩
  refine h₁.ledger.append_coupon ((find?_eq_none_iff _).mp hnew) (by rw [hanswer]) ?_
  rw [hanswer]
  dsimp only
  omega

theorem update_commit (h₁ : Consistent s₁) (hev : Evolves s₀ s₁) {id : Uuid}
    {req : CouponRequest} {p : Plan Coupon} (hp : update actor id req ctx s₀ = .ok p)
    (hc : s₁.commit p.changes = .ok s₂) : Consistent s₂ ∧ KeepsActivity s₁ s₂ := by
  have hkeyed := h₁.keyed.commit hc
  obtain ⟨-, -, c, hfound, hbound, -, -, hchanges, hanswer⟩ := update_eq_ok hp
  rw [hchanges] at hc
  have hu := commit_singleton_eq_ok.mp hc
  obtain ⟨hv, -, rfl⟩ := apply_updateCoupon.mp hu
  have hid : p.answer.id = c.id := by rw [hanswer]
  have hc₀ : s₀.findCoupon? c.id = some c := (mem_of_findCoupon? hfound).2 ▸ hfound
  have hc₁ : c ∈ s₁.coupons := (mem_of_findCoupon? (hev.findCoupon_eq hc₀ (hid ▸ hv))).1
  refine ⟨⟨hkeyed, h₁.lifecycle, ?_⟩, KeepsActivity.of_reports_eq rfl⟩
  refine h₁.ledger.recount (fun _ _ => rfl) ?_ ?_ h₁.ledger.attached
  · rw [hid, ← h₁.ledger.counted c hc₁, hanswer]
  · rw [hanswer]
    exact hbound

theorem delete_commit (h₁ : Consistent s₁) (hev : Evolves s₀ s₁) {id : Uuid} {p : Plan Unit}
    (hp : delete actor id ctx s₀ = .ok p) (hc : s₁.commit p.changes = .ok s₂) :
    Consistent s₂ ∧ KeepsActivity s₁ s₂ := by
  have hkeyed := h₁.keyed.commit hc
  obtain ⟨-, c, hfound, hunused, hchanges⟩ := delete_eq_ok hp
  rw [hchanges] at hc
  have hu := commit_singleton_eq_ok.mp hc
  obtain ⟨hv, rfl⟩ := apply_deleteCoupon.mp hu
  have hc₀ : s₀.findCoupon? c.id = some c := (mem_of_findCoupon? hfound).2 ▸ hfound
  have hc₁ : c ∈ s₁.coupons := (mem_of_findCoupon? (hev.findCoupon_eq hc₀ hv)).1
  exact ⟨⟨hkeyed, h₁.lifecycle, h₁.ledger.erase_coupon hc₁ hunused⟩,
    KeepsActivity.of_reports_eq rfl⟩

end Coupon

namespace PaymentMethod

theorem commit_method_change (h₁ : Consistent s₁) {c : Change}
    (hc : s₁.commit [c] = .ok s₂)
    (hmethod : (∃ m, c = .insertPaymentMethod m) ∨ (∃ m v, c = .updatePaymentMethod m v) ∨
      ∃ x v, c = .deletePaymentMethod x v) :
    Consistent s₂ ∧ KeepsActivity s₁ s₂ := by
  have hkeyed := h₁.keyed.commit hc
  have hu := commit_singleton_eq_ok.mp hc
  rcases hmethod with ⟨m, rfl⟩ | ⟨m, v, rfl⟩ | ⟨x, v, rfl⟩
  · obtain ⟨-, rfl⟩ := apply_insertPaymentMethod.mp hu
    exact h₁.of_tables_eq hkeyed rfl rfl rfl
  · obtain ⟨-, rfl⟩ := apply_updatePaymentMethod.mp hu
    exact h₁.of_tables_eq hkeyed rfl rfl rfl
  · obtain ⟨-, rfl⟩ := apply_deletePaymentMethod.mp hu
    exact h₁.of_tables_eq hkeyed rfl rfl rfl

theorem create_commit (h₁ : Consistent s₁) {req : PaymentMethodRequest} {p : Plan PaymentMethod}
    (hp : create actor req ctx s₀ = .ok p) (hc : s₁.commit p.changes = .ok s₂) :
    Consistent s₂ ∧ KeepsActivity s₁ s₂ := by
  obtain ⟨-, -, hchanges, -⟩ := create_eq_ok hp
  rw [hchanges] at hc
  exact commit_method_change h₁ hc (.inl ⟨_, rfl⟩)

theorem update_commit (h₁ : Consistent s₁) {id : Uuid} {req : PaymentMethodRequest}
    {p : Plan PaymentMethod} (hp : update actor id req ctx s₀ = .ok p)
    (hc : s₁.commit p.changes = .ok s₂) : Consistent s₂ ∧ KeepsActivity s₁ s₂ := by
  obtain ⟨-, -, m, -, -, hchanges, -⟩ := update_eq_ok hp
  rw [hchanges] at hc
  exact commit_method_change h₁ hc (.inr (.inl ⟨_, _, rfl⟩))

theorem delete_commit (h₁ : Consistent s₁) {id : Uuid} {p : Plan Unit}
    (hp : delete actor id ctx s₀ = .ok p) (hc : s₁.commit p.changes = .ok s₂) :
    Consistent s₂ ∧ KeepsActivity s₁ s₂ := by
  obtain ⟨-, m, -, -, hchanges⟩ := delete_eq_ok hp
  rw [hchanges] at hc
  exact commit_method_change h₁ hc (.inr (.inr ⟨_, _, rfl⟩))

end PaymentMethod

end RepairDesk
