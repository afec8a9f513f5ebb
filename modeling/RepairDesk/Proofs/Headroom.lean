import RepairDesk.Proofs.Overflow
import RepairDesk.Proofs.Refusals
import RepairDesk.Proofs.Listing

namespace RepairDesk

open Numeric Tables Store RepairDesk.Except

@[simp] def Failure.IsOverflow : Failure → Prop
  | .refused _ => False
  | .overflow _ => True

def Row.InWords : Row → Prop
  | .coupon c => 0 < c.discountAmount ∧ c.discountAmount ≤ wordMax 64
  | .report r => ∀ cost ∈ r.estimatedCost, 0 ≤ cost ∧ cost ≤ wordMax 64
  | .order _ | .paymentMethod _ => True

/-- Every stored row has a version from zero up to `top` and its fields within their words, and
every coupon its count from zero up to a 32-bit limit. -/
structure Store.WithinWords (top : Nat) (s : Store) : Prop where
  versions : ∀ {e x r}, s.findRow? e x = some r → 0 ≤ r.version ∧ r.version ≤ top
  fields : ∀ {e x r}, s.findRow? e x = some r → r.InWords
  coupons : ∀ c ∈ s.coupons, c.Bounded

/-! ### Checked steps that cannot fail -/

section Lifts

variable {α : Type}

@[simp] theorem Except.avoids_overflow_lift_refusal {w : Except WorkflowError α} :
    Avoids Failure.IsOverflow (liftM w : Except Failure α) := by
  cases w <;> simp [Avoids, liftM, monadLift, MonadLift.monadLift, Except.mapError]

@[simp] theorem Except.avoids_overflow_map_nextVersion {v : Int} {k : Int → α} :
    Avoids Failure.IsOverflow (liftM (k <$> nextVersion v) : Except Failure α) ↔
      fitsWord 64 (v + 1) := by
  cases h : nextVersion v with
  | error e =>
      obtain ⟨hfit, rfl⟩ := addWord_eq_error_iff.mp h
      simp [Avoids, liftM, monadLift, MonadLift.monadLift, Except.mapError, Functor.map,
        Except.map, hfit]
  | ok w =>
      obtain ⟨hfit, rfl⟩ := nextVersion_eq_ok.mp h
      simp [Avoids, liftM, monadLift, MonadLift.monadLift, Except.mapError, Functor.map,
        Except.map, hfit]

theorem Except.avoids_overflow_lift_iff {w : Except Numeric.Overflow α} :
    Avoids Failure.IsOverflow (liftM w : Except Failure α) ↔ ∀ e, w ≠ .error e := by
  cases w <;> simp [Avoids, liftM, monadLift, MonadLift.monadLift, Except.mapError]

end Lifts

namespace Coupon

variable {cs₀ : ChangeSet} {c : Coupon} {today : Date} {now : Instant}

theorem Bounded.fits_count (hb : c.Bounded) : fitsWord 32 c.usageCount ∧ fitsWord 32 c.maxUsage := by
  obtain ⟨h0, hle, hmax, -⟩ := hb
  simp only [fitsWord, wordMin_32, wordMax_32] at hmax ⊢
  omega

theorem fits_version (hv : fitsWord 64 (c.version + 1)) (hb : c.Bounded) : fitsWord 64 c.version := by
  obtain ⟨-, -, -, h0⟩ := hb
  obtain ⟨-, hhi⟩ := hv
  simp only [fitsWord, wordMin_64, wordMax_64] at hhi ⊢
  omega

theorem stageApply_avoids_overflow (hb : c.Bounded) (hv : fitsWord 64 (c.version + 1)) :
    Avoids Failure.IsOverflow (stageApply cs₀ c today now) := by
  intro f hf
  cases f with
  | refused => simp
  | overflow o =>
      have hversion := fits_version hv hb
      obtain ⟨-, -, hlast, -⟩ :=
        (stageApply_eq_overflow_iff hb.fits_count.1 hb.fits_count.2 hversion).mp hf
      exact absurd hlast ((fitsWord_succ_iff hversion).mp hv)

theorem stageRelease_avoids_overflow (hb : c.Bounded) (hv : fitsWord 64 (c.version + 1)) :
    Avoids Failure.IsOverflow (stageRelease cs₀ c now) := by
  intro f hf _
  have hversion := fits_version hv hb
  rcases (stageRelease_eq_error_iff hb.fits_count.1 hversion).mp hf with ⟨hmin, -⟩ |
    ⟨-, hlast, -⟩
  · obtain ⟨h0, -⟩ := hb
    rw [hmin, wordMin_32] at h0
    omega
  · exact (fitsWord_succ_iff hversion).mp hv hlast

theorem stageSwap_avoids_overflow {new old : Coupon} (hnew : new.Bounded)
    (hnewv : fitsWord 64 (new.version + 1)) (hold : old.Bounded)
    (holdv : fitsWord 64 (old.version + 1)) :
    Avoids Failure.IsOverflow (stageSwap cs₀ new old today now) := by
  simp only [stageSwap, avoids_bind]
  exact ⟨stageApply_avoids_overflow hnew hnewv, fun _ _ =>
    ⟨stageRelease_avoids_overflow hold holdv, fun _ _ => by simp⟩⟩

end Coupon

/-! ### A store with room -/

namespace Store.WithinWords

variable {top : Nat} {s : Store} (hs : s.WithinWords top)
include hs

theorem report_inWords {x : Uuid} {r : TechnicianReport} (h : s.findReport? x = some r) :
    (Row.report r).InWords :=
  hs.fields (show s.findRow? .technicianReport x = some (.report r) by simp [h])

theorem coupon_inWords {x : Uuid} {c : Coupon} (h : s.findCoupon? x = some c) :
    (Row.coupon c).InWords :=
  hs.fields (show s.findRow? .coupon x = some (.coupon c) by simp [h])

section Versions

variable (htop : (top : Int) < wordMax 64)
include htop

theorem fits_next {e : Entity} {x : Uuid} {r : Row} (h : s.findRow? e x = some r) :
    fitsWord 64 (r.version + 1) := by
  obtain ⟨h0, hle⟩ := hs.versions h
  simp only [fitsWord, Coupon.wordMin_64, Coupon.wordMax_64] at htop ⊢
  omega

theorem order_fits {x : Uuid} {o : RepairOrder} (h : s.findOrder? x = some o) :
    fitsWord 64 (o.version + 1) :=
  hs.fits_next htop (show s.findRow? .repairOrder x = some (.order o) by simp [h])

theorem coupon_fits {x : Uuid} {c : Coupon} (h : s.findCoupon? x = some c) :
    fitsWord 64 (c.version + 1) :=
  hs.fits_next htop (show s.findRow? .coupon x = some (.coupon c) by simp [h])

theorem paymentMethod_fits {x : Uuid} {m : PaymentMethod} (h : s.findPaymentMethod? x = some m) :
    fitsWord 64 (m.version + 1) :=
  hs.fits_next htop (show s.findRow? .paymentMethod x = some (.paymentMethod m) by simp [h])

theorem report_fits {x : Uuid} {r : TechnicianReport} (h : s.findReport? x = some r) :
    fitsWord 64 (r.version + 1) :=
  hs.fits_next htop (show s.findRow? .technicianReport x = some (.report r) by simp [h])

theorem coupon_room (hk : Keyed s) {c : Coupon} (hc : c ∈ s.coupons) :
    c.Bounded ∧ fitsWord 64 (c.version + 1) :=
  ⟨hs.coupons c hc, hs.coupon_fits htop (hk.findCoupon?_eq_some hc)⟩

end Versions

theorem couponDiscount_bounds (x : Option Uuid) :
    0 ≤ TechnicianReport.couponDiscount s x ∧ TechnicianReport.couponDiscount s x ≤ wordMax 64 := by
  rw [TechnicianReport.couponDiscount_eq]
  cases hc : x.bind s.findCoupon? with
  | none => simp [Coupon.wordMax_64]
  | some c =>
      obtain ⟨y, -, hy⟩ := Option.bind_eq_some_iff.mp hc
      obtain ⟨hpos, hle⟩ := hs.coupon_inWords hy
      exact ⟨by simpa using Int.le_of_lt hpos, by simpa using hle⟩

theorem netFits (hk : Keyed s) {r : TechnicianReport} (hr : r ∈ s.reports) (o : RepairOrder) :
    TechnicianReport.NetFits s o r := by
  intro cost hcost
  obtain ⟨hc0, hcle⟩ := hs.report_inWords (hk.findReport?_eq_some hr) cost hcost
  obtain ⟨hd0, hdle⟩ := hs.couponDiscount_bounds o.couponId
  simp only [fitsWord, Coupon.wordMin_64, Coupon.wordMax_64] at hcle hdle ⊢
  omega

theorem customerView_avoids_overflow (hk : Keyed s) {r : TechnicianReport} (hr : r ∈ s.reports)
    (o : RepairOrder) :
    Avoids Failure.IsOverflow (liftM (TechnicianReport.customerView s o r) : Except Failure _) := by
  rw [Except.avoids_overflow_lift_iff, TechnicianReport.customerView_of_netFits (hs.netFits hk hr o)]
  exact fun _ => by simp

end Store.WithinWords

/-! ### Operations -/

section Operations

variable (actor : Actor) (ctx : Context) (s : Store) {top : Nat} {id : Uuid}
  (hk : Keyed s) (hs : s.WithinWords top) (htop : (top : Int) < wordMax 64)

namespace TechnicianReport

include hs htop

theorem createDraft_avoids_overflow {req : DraftRequest} :
    Avoids Failure.IsOverflow (createDraft actor req ctx s) := by
  simp only [createDraft, avoids_bind]
  refine ⟨by simp, fun _ _ => ⟨by simp, fun o ho => ?_⟩⟩
  have hfit := hs.order_fits htop (found_eq_ok.mp (lift_refusal_eq_ok.mp ho))
  simp [ChangeSet.updateOrder, hfit]

theorem updateDraft_avoids_overflow {f : DraftFields} :
    Avoids Failure.IsOverflow (updateDraft actor id f ctx s) := by
  simp only [updateDraft, avoids_bind]
  refine ⟨by simp, fun r hr => ?_⟩
  have hfit := hs.report_fits htop (loadOwned_eq_ok.mp (lift_refusal_eq_ok.mp hr)).2.1
  simp [ChangeSet.updateReport, hfit]

theorem submit_avoids_overflow : Avoids Failure.IsOverflow (submit actor id ctx s) := by
  simp only [submit, avoids_bind]
  refine ⟨by simp, fun r hr => ?_⟩
  have hfit := hs.report_fits htop (loadOwned_eq_ok.mp (lift_refusal_eq_ok.mp hr)).2.1
  -- the move keeps the version it writes back
  simp +contextual [ChangeSet.updateReport, hfit, lift_refusal_eq_ok, apply_eq_ok]

theorem decide_avoids_overflow {a : ReportAction} :
    Avoids Failure.IsOverflow (decide a actor id ctx s) := by
  simp only [decide, avoids_bind]
  refine ⟨by simp, fun _ _ => ⟨by simp, fun r hr => ?_⟩⟩
  have hfit := hs.report_fits htop (found_eq_ok.mp (lift_refusal_eq_ok.mp hr))
  simp +contextual [ChangeSet.updateReport, hfit, lift_refusal_eq_ok, apply_eq_ok]

theorem startWork_avoids_overflow : Avoids Failure.IsOverflow (startWork actor id ctx s) := by
  simp only [startWork, avoids_bind]
  refine ⟨by simp, fun r hr => ⟨by simp, fun o ho => ?_⟩⟩
  have hfitr := hs.report_fits htop (loadOwned_eq_ok.mp (lift_refusal_eq_ok.mp hr)).2.1
  have hfito := hs.order_fits htop (found_eq_ok.mp (lift_refusal_eq_ok.mp ho))
  simp +contextual [ChangeSet.updateOrder, ChangeSet.updateReport, hfitr, hfito,
    lift_refusal_eq_ok, apply_eq_ok, RepairOrder.advance_eq_ok]

theorem completeWork_avoids_overflow : Avoids Failure.IsOverflow (completeWork actor id ctx s) := by
  simp only [completeWork, avoids_bind]
  refine ⟨by simp, fun r hr => ⟨by simp, fun o ho => ?_⟩⟩
  have hfitr := hs.report_fits htop (loadOwned_eq_ok.mp (lift_refusal_eq_ok.mp hr)).2.1
  have hfito := hs.order_fits htop (found_eq_ok.mp (lift_refusal_eq_ok.mp ho))
  simp +contextual [ChangeSet.updateOrder, ChangeSet.updateReport, hfitr, hfito,
    lift_refusal_eq_ok, apply_eq_ok, RepairOrder.advance_eq_ok]

omit htop

theorem listByStatus_avoids_overflow (hk : Keyed s) {st : ReportStatus} :
    Avoids Failure.IsOverflow (listByStatus actor st ctx s) := by
  unfold listByStatus
  split
  case h_2 =>
    simp only [avoids_bind, avoids_ite]
    refine ⟨fun _ => by simp [invalid, lift_refusal_eq_ok], fun _ => ⟨?_, fun _ _ => by simp⟩⟩
    exact TechnicianReport.avoids_customerViews fun r hr o =>
      hs.customerView_avoids_overflow hk (Store.mem_reportsOfCustomer.mp hr).1 o
  all_goals simp

theorem get_avoids_overflow (hk : Keyed s) : Avoids Failure.IsOverflow (get actor id ctx s) := by
  simp only [get, avoids_bind]
  refine ⟨by simp, fun r hr => ?_⟩
  have hmem : r ∈ s.reports := (mem_of_findReport? (found_eq_ok.mp (lift_refusal_eq_ok.mp hr))).1
  split
  case h_2 =>
    simp only [avoids_bind, avoids_ite]
    refine ⟨by simp, fun o _ => ⟨fun _ => by simp [forbidden, lift_refusal_eq_ok], fun _ => ?_⟩⟩
    refine ⟨fun _ => by simp [forbidden, lift_refusal_eq_ok], fun _ => ?_⟩
    exact ⟨hs.customerView_avoids_overflow hk hmem o, fun _ _ => by simp⟩
  all_goals simp [ensureOwner]

omit hs

theorem deleteDraft_avoids_overflow : Avoids Failure.IsOverflow (deleteDraft actor id ctx s) := by
  simp [deleteDraft]

theorem incomingOrders_avoids_overflow :
    Avoids Failure.IsOverflow (incomingOrders actor ctx s) := by
  simp [incomingOrders, requireTechnician]

end TechnicianReport

namespace RepairOrder

include hk hs htop

theorem stageCouponChange_avoids_overflow {today : Date} {now : Instant} {current : Option Uuid}
    {requested : Option Coupon} (hreq : ∀ c, requested = some c → c ∈ s.coupons) :
    Avoids Failure.IsOverflow (stageCouponChange s today now current requested) := by
  have hstored : ∀ {x c}, s.findCoupon? x = some c → c.Bounded ∧ fitsWord 64 (c.version + 1) :=
    fun hc => hs.coupon_room htop hk (mem_of_findCoupon? hc).1
  unfold stageCouponChange
  split
  · rename_i cur new
    obtain ⟨hb, hv⟩ := hs.coupon_room htop hk (hreq new rfl)
    split
    · simp
    · split
      · obtain ⟨hold, holdv⟩ := hstored ‹_›
        exact avoids_bind.mpr ⟨Coupon.stageSwap_avoids_overflow hb hv hold holdv, fun _ _ => by simp⟩
      · exact avoids_bind.mpr ⟨Coupon.stageApply_avoids_overflow hb hv, fun _ _ => by simp⟩
  · rename_i new
    obtain ⟨hb, hv⟩ := hs.coupon_room htop hk (hreq new rfl)
    exact avoids_bind.mpr ⟨Coupon.stageApply_avoids_overflow hb hv, fun _ _ => by simp⟩
  · split
    · obtain ⟨hold, holdv⟩ := hstored ‹_›
      exact avoids_bind.mpr ⟨Coupon.stageRelease_avoids_overflow hold holdv, fun _ _ => by simp⟩
    · simp
  · simp

theorem create_avoids_overflow {req : OrderRequest} :
    Avoids Failure.IsOverflow (create actor req ctx s) := by
  cases hcode : req.details.couponCode with
  | none => simp [create, hcode]
  | some code =>
      have hfound : ∀ c, s.findCouponByCode? (Text.trimBlank code) = some c →
          Avoids Failure.IsOverflow (Coupon.stageApply [] c ctx.today ctx.now) := fun c hc =>
        have hroom := hs.coupon_room htop hk (mem_of_findCouponByCode? hc)
        Coupon.stageApply_avoids_overflow hroom.1 hroom.2
      simp +contextual [create, hcode, hfound, lift_refusal_eq_ok, loadCouponByCode_eq_ok]

theorem update_avoids_overflow {d : OrderDetails} :
    Avoids Failure.IsOverflow (update actor id d ctx s) := by
  simp only [update, avoids_bind]
  refine ⟨by simp, fun o ho => ?_⟩
  have hfit := hs.order_fits htop (loadEditable_eq_ok.mp (lift_refusal_eq_ok.mp ho)).2.1
  cases hcode : d.couponCode with
  | none =>
      have hstage :
          Avoids Failure.IsOverflow (stageCouponChange s ctx.today ctx.now o.couponId none) :=
        stageCouponChange_avoids_overflow s hk hs htop (by simp)
      simp [hstage, ChangeSet.updateOrder, withDetails, hfit]
  | some code =>
      have hfound : ∀ c, s.findCouponByCode? (Text.trimBlank code) = some c →
          Avoids Failure.IsOverflow (stageCouponChange s ctx.today ctx.now o.couponId (some c)) :=
        fun c hc => stageCouponChange_avoids_overflow s hk hs htop fun c' hc' => by
          cases hc'
          exact mem_of_findCouponByCode? hc
      simp +contextual [hfound, lift_refusal_eq_ok, loadCouponByCode_eq_ok, ChangeSet.updateOrder,
        withDetails, hfit]

theorem delete_avoids_overflow : Avoids Failure.IsOverflow (delete actor id ctx s) := by
  simp only [delete, avoids_bind]
  refine ⟨by simp, fun o _ => ?_⟩
  split
  · rename_i c hc
    obtain ⟨x, -, hx⟩ := Option.bind_eq_some_iff.mp hc
    obtain ⟨hb, hv⟩ := hs.coupon_room htop hk (mem_of_findCoupon? hx).1
    exact avoids_bind.mpr ⟨Coupon.stageRelease_avoids_overflow hb hv, fun _ _ => by simp⟩
  · simp

omit hk hs htop

theorem get_avoids_overflow : Avoids Failure.IsOverflow (get actor id ctx s) := by
  simp [get, load]

theorem listOwn_avoids_overflow : Avoids Failure.IsOverflow (listOwn actor ctx s) := by
  simp [listOwn, requireCustomer]

end RepairOrder

namespace Coupon

theorem create_avoids_overflow {r : CouponRequest} :
    Avoids Failure.IsOverflow (create actor r ctx s) := by
  simp [create, requireAdmin, CouponRequest.validate]

include hs htop in
theorem update_avoids_overflow {r : CouponRequest} :
    Avoids Failure.IsOverflow (update actor id r ctx s) := by
  simp only [update, avoids_bind]
  refine ⟨by simp, fun _ _ => ⟨by simp, fun _ _ => ⟨by simp, fun c hc => ?_⟩⟩⟩
  have hfit := hs.coupon_fits htop (found_eq_ok.mp (lift_refusal_eq_ok.mp hc))
  simp [ChangeSet.updateCoupon, hfit]

theorem delete_avoids_overflow : Avoids Failure.IsOverflow (delete actor id ctx s) := by
  simp [delete, requireAdmin, load]

theorem get_avoids_overflow : Avoids Failure.IsOverflow (get actor id ctx s) := by
  simp [get, requireAdmin, load]

theorem list_avoids_overflow : Avoids Failure.IsOverflow (list actor ctx s) := by
  simp [list]

end Coupon

namespace PaymentMethod

theorem create_avoids_overflow {r : PaymentMethodRequest} :
    Avoids Failure.IsOverflow (create actor r ctx s) := by
  simp [create, requireAdmin]

include hs htop in
theorem update_avoids_overflow {r : PaymentMethodRequest} :
    Avoids Failure.IsOverflow (update actor id r ctx s) := by
  simp only [update, avoids_bind]
  refine ⟨by simp, fun _ _ => ⟨by simp, fun _ _ => ⟨by simp, fun m hm => ?_⟩⟩⟩
  have hfit := hs.paymentMethod_fits htop (found_eq_ok.mp (lift_refusal_eq_ok.mp hm))
  simp [ChangeSet.updatePaymentMethod, withRequest, hfit]

theorem delete_avoids_overflow : Avoids Failure.IsOverflow (delete actor id ctx s) := by
  simp [delete, requireAdmin, load]

theorem get_avoids_overflow : Avoids Failure.IsOverflow (get actor id ctx s) := by
  simp [get, load]

theorem list_avoids_overflow : Avoids Failure.IsOverflow (list actor ctx s) := by
  simp [list]

end PaymentMethod

include hk hs htop in
/-- In a store with room for its arithmetic, no operation of the service fails by overflow. -/
theorem Command.operation_avoids_overflow (c : Command) :
    Avoids Failure.IsOverflow (c.operation ctx s) := by
  cases c with
  | createDraft a => exact TechnicianReport.createDraft_avoids_overflow a ctx s hs htop
  | updateDraft a => exact TechnicianReport.updateDraft_avoids_overflow a ctx s hs htop
  | deleteDraft a => exact TechnicianReport.deleteDraft_avoids_overflow a ctx s
  | submitDraft a => exact TechnicianReport.submit_avoids_overflow a ctx s hs htop
  | acceptSubmission a => exact TechnicianReport.decide_avoids_overflow a ctx s hs htop
  | rejectSubmission a => exact TechnicianReport.decide_avoids_overflow a ctx s hs htop
  | startWork a => exact TechnicianReport.startWork_avoids_overflow a ctx s hs htop
  | completeWork a => exact TechnicianReport.completeWork_avoids_overflow a ctx s hs htop
  | listReports a => exact TechnicianReport.listByStatus_avoids_overflow a ctx s hs hk
  | getReport a => exact TechnicianReport.get_avoids_overflow a ctx s hs hk
  | incomingOrders a => exact TechnicianReport.incomingOrders_avoids_overflow a ctx s
  | createOrder a => exact RepairOrder.create_avoids_overflow a ctx s hk hs htop
  | updateOrder a => exact RepairOrder.update_avoids_overflow a ctx s hk hs htop
  | deleteOrder a => exact RepairOrder.delete_avoids_overflow a ctx s hk hs htop
  | getOrder a => exact RepairOrder.get_avoids_overflow a ctx s
  | listOrders a => exact RepairOrder.listOwn_avoids_overflow a ctx s
  | createCoupon a => exact Coupon.create_avoids_overflow a ctx s
  | updateCoupon a => exact Coupon.update_avoids_overflow a ctx s hs htop
  | deleteCoupon a => exact Coupon.delete_avoids_overflow a ctx s
  | getCoupon a => exact Coupon.get_avoids_overflow a ctx s
  | listCoupons a => exact Coupon.list_avoids_overflow a ctx s
  | createPaymentMethod a => exact PaymentMethod.create_avoids_overflow a ctx s
  | updatePaymentMethod a => exact PaymentMethod.update_avoids_overflow a ctx s hs htop
  | deletePaymentMethod a => exact PaymentMethod.delete_avoids_overflow a ctx s
  | getPaymentMethod a => exact PaymentMethod.get_avoids_overflow a ctx s
  | listPaymentMethods a => exact PaymentMethod.list_avoids_overflow a ctx s

end Operations

end RepairDesk
