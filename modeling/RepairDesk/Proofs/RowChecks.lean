import RepairDesk.Proofs.Staging
import RepairDesk.Proofs.Trimming

namespace RepairDesk

open Tables Store

/-! ### The checks, as properties of the stored row -/

def KeptText (max : Nat) (v : String) : Prop :=
  Text.trimBlank v = v ∧ v ≠ "" ∧ v.length ≤ max

structure Coupon.Valid (c : Coupon) : Prop where
  code_length : 6 ≤ c.code.length ∧ c.code.length ≤ 12
  code_chars : ∀ ch ∈ c.code.toList, ch.isUpper ∨ ch.isDigit
  discount : 1 ≤ c.discountAmount
  maxUsage : 1 ≤ c.maxUsage

structure PaymentMethod.Valid (m : PaymentMethod) : Prop where
  name : KeptText 100 m.name
  provider : KeptText 100 m.provider
  accountName : KeptText 100 m.accountName
  digits : ∀ ch ∈ m.accountNumber.toList, ch.isDigit
  bank : m.kind = .bankTransfer → 10 ≤ m.accountNumber.length ∧ m.accountNumber.length ≤ 16
  wallet : m.kind = .eWallet → 10 ≤ m.accountNumber.length ∧ m.accountNumber.length ≤ 23

structure RepairOrder.Valid (o : RepairOrder) : Prop where
  itemName : KeptText 100 o.itemName
  itemCondition : KeptText 100 o.itemCondition
  issueDescription : KeptText 500 o.issueDescription

def Row.Valid : Row → Prop
  | .coupon c => c.Valid
  | .paymentMethod m => m.Valid
  | .order o => o.Valid
  | .report _ => True

/-- The row a change writes, if any, passes its checks. -/
def Change.WritesValid (ch : Change) : Prop :=
  ∀ r, ch.written = some r → r.Valid

/-- Every stored coupon, payment method and order passes its checks. -/
structure Store.RowsValid (s : Store) : Prop where
  coupons : ∀ c ∈ s.coupons, c.Valid
  paymentMethods : ∀ m ∈ s.paymentMethods, m.Valid
  orders : ∀ o ∈ s.orders, o.Valid

/-! ### What passes a check -/

theorem keptText_of_requireText {field v : String} {max : Nat} {u : Unit}
    (h : requireText field v max = .ok u) : KeptText max (Text.trimBlank v) := by
  by_cases hempty : (Text.trimBlank v).isEmpty = true
  · simp [requireText, hempty, invalid] at h
  · by_cases hlong : (Text.trimBlank v).length > max
    · simp [requireText, hempty, hlong, invalid] at h
    · exact ⟨Text.trimBlank_trimBlank v, fun heq => hempty (by simp [heq]),
        Nat.le_of_not_lt hlong⟩

theorem OrderDetails.keptTexts {d : OrderDetails} {today : Date} {u : Unit}
    (h : d.validate today = .ok u) :
    KeptText 100 (Text.trimBlank d.itemName) ∧ KeptText 100 (Text.trimBlank d.itemCondition) ∧
      KeptText 500 (Text.trimBlank d.issueDescription) := by
  simp only [OrderDetails.validate, bind_eq_ok] at h
  obtain ⟨_, hname, _, hcondition, _, hissue, -⟩ := h
  exact ⟨keptText_of_requireText hname, keptText_of_requireText hcondition,
    keptText_of_requireText hissue⟩

theorem isCouponCode_eq_true {code : String} (h : isCouponCode code = true) :
    (6 ≤ code.length ∧ code.length ≤ 12) ∧
      ∀ ch ∈ code.toList, ch.isUpper ∨ ch.isDigit := by
  simp only [isCouponCode, Bool.and_eq_true, decide_eq_true_eq, List.all_eq_true,
    Bool.or_eq_true] at h
  exact h

theorem PaymentKind.isAccountNumber_eq_true {kind : PaymentKind} {number : String}
    (h : kind.isAccountNumber number = true) :
    (∀ ch ∈ (Text.trimBlank number).toList, ch.isDigit) ∧
      (kind = .bankTransfer →
        10 ≤ (Text.trimBlank number).length ∧ (Text.trimBlank number).length ≤ 16) ∧
      (kind = .eWallet →
        10 ≤ (Text.trimBlank number).length ∧ (Text.trimBlank number).length ≤ 23) := by
  cases kind with
  | bankTransfer =>
      simp only [isAccountNumber, accountDigits, Bool.and_eq_true, List.all_eq_true] at h
      obtain ⟨hrange, hall⟩ := h
      exact ⟨hall, fun _ => of_decide_eq_true hrange, by simp⟩
  | eWallet =>
      simp only [isAccountNumber, accountDigits, Bool.and_eq_true, List.all_eq_true] at h
      obtain ⟨hrange, hall⟩ := h
      exact ⟨hall, by simp, fun _ => of_decide_eq_true hrange⟩

theorem PaymentMethodRequest.valid_withRequest {r : PaymentMethodRequest} {u : Unit}
    (h : r.validate = .ok u) (m : PaymentMethod) : (m.withRequest r).Valid := by
  simp only [PaymentMethodRequest.validate, bind_eq_ok] at h
  obtain ⟨_, hname, _, hprovider, _, haccountName, hnumber⟩ := h
  have hdigits : r.kind.isAccountNumber r.accountNumber = true := by
    cases hnum : r.kind.isAccountNumber r.accountNumber
    · simp [hnum, invalid] at hnumber
    · rfl
  obtain ⟨hall, hbank, hwallet⟩ := PaymentKind.isAccountNumber_eq_true hdigits
  exact ⟨keptText_of_requireText hname, keptText_of_requireText hprovider,
    keptText_of_requireText haccountName, hall, hbank, hwallet⟩

theorem PaymentMethod.Valid.restamp {m : PaymentMethod} (h : m.Valid) (v : Int) (t : Instant) :
    ({ m with version := v, updatedAt := t } : PaymentMethod).Valid :=
  ⟨h.name, h.provider, h.accountName, h.digits, h.bank, h.wallet⟩

/-! ### A commit keeps the rows checked -/

section Tables

variable {α : Type} {P : α → Prop} {rows : List α} {row : α}

theorem forall_mem_append_row (h : ∀ r ∈ rows, P r) (hrow : P row) :
    ∀ r ∈ rows ++ [row], P r :=
  List.forall_mem_append.mpr ⟨h, List.forall_mem_singleton.mpr hrow⟩

theorem forall_mem_replaceBy (key : α → Uuid) (h : ∀ r ∈ rows, P r) (hrow : P row) :
    ∀ r ∈ replaceBy key row rows, P r := by
  intro r hr
  rcases (mem_replaceBy key).mp hr with ⟨hr, -⟩ | ⟨rfl, -⟩
  · exact h r hr
  · exact hrow

theorem forall_mem_filter (h : ∀ r ∈ rows, P r) (p : α → Bool) :
    ∀ r ∈ rows.filter p, P r :=
  fun r hr => h r (List.mem_filter.mp hr).1

end Tables

namespace Store.RowsValid

variable {s t : Store}

theorem empty : Store.empty.RowsValid := ⟨by simp [Store.empty], by simp [Store.empty],
  by simp [Store.empty]⟩

theorem apply (h : s.RowsValid) {ch : Change} (hw : ch.WritesValid) (happ : s.apply ch = .ok t) :
    t.RowsValid := by
  cases ch with
  | insertOrder o =>
      obtain ⟨-, rfl⟩ := apply_insertOrder.mp happ
      exact { h with orders := forall_mem_append_row h.orders (hw (.order o) rfl) }
  | updateOrder o v =>
      obtain ⟨-, rfl⟩ := apply_updateOrder.mp happ
      exact { h with orders := forall_mem_replaceBy _ h.orders (hw (.order o) rfl) }
  | deleteOrder x v =>
      obtain ⟨-, rfl⟩ := apply_deleteOrder.mp happ
      exact { h with orders := forall_mem_filter h.orders _ }
  | insertCoupon c =>
      obtain ⟨-, -, rfl⟩ := apply_insertCoupon.mp happ
      exact { h with coupons := forall_mem_append_row h.coupons (hw (.coupon c) rfl) }
  | updateCoupon c v =>
      obtain ⟨-, -, rfl⟩ := apply_updateCoupon.mp happ
      exact { h with coupons := forall_mem_replaceBy _ h.coupons (hw (.coupon c) rfl) }
  | deleteCoupon x v =>
      obtain ⟨-, rfl⟩ := apply_deleteCoupon.mp happ
      exact { h with coupons := forall_mem_filter h.coupons _ }
  | insertPaymentMethod m =>
      obtain ⟨-, rfl⟩ := apply_insertPaymentMethod.mp happ
      exact { h with
        paymentMethods := forall_mem_append_row h.paymentMethods (hw (.paymentMethod m) rfl) }
  | updatePaymentMethod m v =>
      obtain ⟨-, rfl⟩ := apply_updatePaymentMethod.mp happ
      exact { h with
        paymentMethods := forall_mem_replaceBy _ h.paymentMethods (hw (.paymentMethod m) rfl) }
  | deletePaymentMethod x v =>
      obtain ⟨-, rfl⟩ := apply_deletePaymentMethod.mp happ
      exact { h with paymentMethods := forall_mem_filter h.paymentMethods _ }
  | insertReport r =>
      obtain ⟨-, -, rfl⟩ := apply_insertReport.mp happ
      exact ⟨h.coupons, h.paymentMethods, h.orders⟩
  | updateReport r v =>
      obtain ⟨-, -, rfl⟩ := apply_updateReport.mp happ
      exact ⟨h.coupons, h.paymentMethods, h.orders⟩
  | deleteReport x v =>
      obtain ⟨-, rfl⟩ := apply_deleteReport.mp happ
      exact ⟨h.coupons, h.paymentMethods, h.orders⟩
  | enqueue m =>
      obtain rfl := apply_enqueue.mp happ
      exact ⟨h.coupons, h.paymentMethods, h.orders⟩

theorem commit (h : s.RowsValid) {cs : ChangeSet} (hw : ∀ ch ∈ cs, ch.WritesValid)
    (ht : s.commit cs = .ok t) : t.RowsValid := by
  induction cs generalizing s with
  | nil =>
      rw [commit_nil, Except.ok.injEq] at ht
      exact ht ▸ h
  | cons ch cs ih =>
      obtain ⟨u, happ, hrest⟩ := commit_cons_eq_ok.mp ht
      exact ih (h.apply (hw ch List.mem_cons_self) happ)
        (fun ch' hch' => hw ch' (List.mem_cons_of_mem ch hch')) hrest

end Store.RowsValid

/-! ### What each operation writes -/

section Writes

variable {cs cs₀ : ChangeSet} {c c' : Coupon} {today : Date} {now : Instant}

theorem Change.writesValid_of_written {ch : Change} {r : Row} (hw : ch.written = some r)
    (hr : r.Valid) : ch.WritesValid := by
  intro r' hr'
  rw [hw, Option.some.injEq] at hr'
  exact hr' ▸ hr

theorem Change.writesValid_writeBack (hc : c.Valid) (hcode : c'.code = c.code)
    (hdiscount : c'.discountAmount = c.discountAmount) (hmax : c'.maxUsage = c.maxUsage)
    (v : Int) : (Change.updateCoupon c' v).WritesValid :=
  Change.writesValid_of_written rfl (show c'.Valid from
    ⟨hcode ▸ hc.code_length, hcode ▸ hc.code_chars, hdiscount ▸ hc.discount,
      hmax ▸ hc.maxUsage⟩)

theorem Coupon.stageApply_writesValid (h₀ : ∀ ch ∈ cs₀, ch.WritesValid) (hc : c.Valid)
    (h : stageApply cs₀ c today now = .ok (cs, c')) : ∀ ch ∈ cs, ch.WritesValid := by
  obtain ⟨-, -, -, -, rfl, rfl⟩ := stageApply_eq_ok.mp h
  rw [List.forall_mem_append, List.forall_mem_singleton]
  exact ⟨h₀, Change.writesValid_writeBack hc (by rfl) (by rfl) (by rfl) _⟩

theorem Coupon.stageRelease_writesValid (h₀ : ∀ ch ∈ cs₀, ch.WritesValid) (hc : c.Valid)
    (h : stageRelease cs₀ c now = .ok (cs, c')) : ∀ ch ∈ cs, ch.WritesValid := by
  obtain ⟨-, -, rfl, rfl⟩ := stageRelease_eq_ok.mp h
  rw [List.forall_mem_append, List.forall_mem_singleton]
  exact ⟨h₀, Change.writesValid_writeBack hc (by rfl) (by rfl) (by rfl) _⟩

theorem Change.writesValid_rewrite {o o' : RepairOrder} (ho : o.Valid)
    (htexts : o'.itemName = o.itemName ∧ o'.itemCondition = o.itemCondition ∧
      o'.issueDescription = o.issueDescription) (v : Int) :
    (Change.updateOrder o' v).WritesValid := by
  obtain ⟨hname, hcondition, hissue⟩ := htexts
  exact Change.writesValid_of_written rfl (show o'.Valid from
    ⟨hname ▸ ho.itemName, hcondition ▸ ho.itemCondition, hissue ▸ ho.issueDescription⟩)

theorem Change.writesValid_report (r : TechnicianReport) (v : Int) :
    (Change.updateReport r v).WritesValid :=
  Change.writesValid_of_written rfl trivial

theorem Change.writesValid_of_written_none {ch : Change} (h : ch.written = none) :
    ch.WritesValid := by
  intro r hr
  rw [h] at hr
  cases hr

variable {actor : Actor} {ctx : Context} {s : Store} (hs : s.RowsValid)
include hs

theorem Store.RowsValid.order_of_found {x : Uuid} {o : RepairOrder}
    (h : s.findOrder? x = some o) : o.Valid :=
  hs.orders o (mem_of_findOrder? h).1

theorem Store.RowsValid.coupon_of_found {x : Uuid} {c : Coupon}
    (h : s.findCoupon? x = some c) : c.Valid :=
  hs.coupons c (mem_of_findCoupon? h).1

theorem Store.RowsValid.coupon_of_code {code : String} {c : Coupon}
    (h : s.findCouponByCode? code = some c) : c.Valid :=
  hs.coupons c (List.mem_of_find?_eq_some h)

namespace TechnicianReport

theorem createDraft_writesValid {req : DraftRequest} {p : Plan TechnicianReport}
    (h : createDraft actor req ctx s = .ok p) : ∀ ch ∈ p.changes, ch.WritesValid := by
  obtain ⟨-, o, hfound, -, -, -, -, -, rfl⟩ := createDraft_eq_ok h
  intro ch hch
  simp only [List.mem_cons, List.not_mem_nil, or_false] at hch
  rcases hch with rfl | rfl
  · exact Change.writesValid_rewrite (hs.order_of_found hfound) (by exact ⟨rfl, rfl, rfl⟩) _
  · exact Change.writesValid_of_written rfl trivial

omit hs in
theorem updateDraft_writesValid {id : Uuid} {f : DraftFields} {p : Plan TechnicianReport}
    (h : updateDraft actor id f ctx s = .ok p) : ∀ ch ∈ p.changes, ch.WritesValid := by
  obtain ⟨-, r, -, -, -, -, -, rfl⟩ := updateDraft_eq_ok h
  simpa using Change.writesValid_report _ _

omit hs in
theorem deleteDraft_writesValid {id : Uuid} {p : Plan Unit}
    (h : deleteDraft actor id ctx s = .ok p) : ∀ ch ∈ p.changes, ch.WritesValid := by
  obtain ⟨-, r, -, -, -, rfl⟩ := deleteDraft_eq_ok h
  simpa using Change.writesValid_of_written_none rfl

omit hs in
theorem submit_writesValid {id : Uuid} {p : Plan TechnicianReport}
    (h : submit actor id ctx s = .ok p) : ∀ ch ∈ p.changes, ch.WritesValid := by
  obtain ⟨-, r, r', -, -, -, -, rfl⟩ := submit_eq_ok h
  simpa using Change.writesValid_report _ _

omit hs in
theorem decide_writesValid {action : ReportAction} {id : Uuid} {p : Plan TechnicianReport}
    (h : decide action actor id ctx s = .ok p) : ∀ ch ∈ p.changes, ch.WritesValid := by
  obtain ⟨-, r, o, r', -, -, -, -, -, rfl⟩ := decide_eq_ok h
  simpa using Change.writesValid_report _ _

theorem advanced_writesValid {x : Uuid} {o o' : RepairOrder} {stage : OrderStatus}
    (hfound : s.findOrder? x = some o) (hadvance : o.advance stage = .ok o') (v : Int) :
    (Change.updateOrder { o' with version := o'.version + 1, updatedAt := ctx.now }
      v).WritesValid := by
  obtain ⟨-, rfl⟩ := RepairOrder.advance_eq_ok.mp hadvance
  exact Change.writesValid_rewrite (hs.order_of_found hfound) (by exact ⟨rfl, rfl, rfl⟩) _

theorem startWork_writesValid {id : Uuid} {p : Plan TechnicianReport}
    (h : startWork actor id ctx s = .ok p) : ∀ ch ∈ p.changes, ch.WritesValid := by
  obtain ⟨-, r, o, r', o', -, -, horder, -, hadvance, -, -, rfl⟩ := startWork_eq_ok h
  intro ch hch
  simp only [List.mem_cons, List.not_mem_nil, or_false] at hch
  rcases hch with rfl | rfl
  · exact Change.writesValid_report _ _
  · exact advanced_writesValid hs horder hadvance _

theorem completeWork_writesValid {id : Uuid} {p : Plan TechnicianReport}
    (h : completeWork actor id ctx s = .ok p) : ∀ ch ∈ p.changes, ch.WritesValid := by
  obtain ⟨-, r, o, r', o', -, -, horder, -, hadvance, -, -, rfl⟩ := completeWork_eq_ok h
  intro ch hch
  simp only [List.mem_cons, List.not_mem_nil, or_false] at hch
  rcases hch with rfl | rfl | rfl
  · exact Change.writesValid_report _ _
  · exact advanced_writesValid hs horder hadvance _
  · exact Change.writesValid_of_written_none rfl

end TechnicianReport

namespace RepairOrder

theorem stageCouponChange_writesValid {current : Option Uuid} {requested : Option Coupon}
    (hreq : ∀ c, requested = some c → c.Valid) {couponId : Option Uuid}
    (h : stageCouponChange s ctx.today ctx.now current requested = .ok (cs, couponId)) :
    ∀ ch ∈ cs, ch.WritesValid := by
  have hnil : ∀ ch ∈ ([] : ChangeSet), ch.WritesValid := by simp
  rcases stageCouponChange_eq_ok h with ⟨-, -, rfl, -⟩ | ⟨new, -, -, rfl, -⟩ |
    ⟨new, new', hnew, -, hstage, -⟩ |
    ⟨x, new, old, new', old', -, hnew, -, hold, hswap, -⟩ |
    ⟨x, -, -, -, ⟨-, rfl⟩ | ⟨old, old', hold, hstage⟩⟩
  · exact hnil
  · exact hnil
  · exact Coupon.stageApply_writesValid hnil (hreq new hnew) hstage
  · obtain ⟨between, happly, hrelease⟩ := Coupon.stageSwap_eq_ok.mp hswap
    exact Coupon.stageRelease_writesValid
      (Coupon.stageApply_writesValid hnil (hreq new hnew) happly) (hs.coupon_of_found hold)
      hrelease
  · exact hnil
  · exact Coupon.stageRelease_writesValid hnil (hs.coupon_of_found hold) hstage

theorem create_writesValid {req : OrderRequest} {p : Plan RepairOrder}
    (h : create actor req ctx s = .ok p) : ∀ ch ∈ p.changes, ch.WritesValid := by
  obtain ⟨-, hvalid, -, cs, couponId, hcoupon, hchanges, hanswer⟩ := create_eq_ok h
  obtain ⟨hname, hcondition, hissue⟩ := OrderDetails.keptTexts hvalid
  have hinsert : (Change.insertOrder p.answer).WritesValid :=
    Change.writesValid_of_written rfl (show p.answer.Valid by
      rw [hanswer]
      exact ⟨hname, hcondition, hissue⟩)
  have hcs : ∀ ch ∈ cs, ch.WritesValid := by
    rcases hcoupon with ⟨-, rfl, -⟩ | ⟨code, c, c', -, hfound, hstage, -⟩
    · simp
    · exact Coupon.stageApply_writesValid (by simp) (hs.coupon_of_code hfound) hstage
  rw [hchanges, List.forall_mem_append, List.forall_mem_singleton]
  exact ⟨hcs, hinsert⟩

theorem update_writesValid {id : Uuid} {d : OrderDetails} {p : Plan RepairOrder}
    (h : update actor id d ctx s = .ok p) : ∀ ch ∈ p.changes, ch.WritesValid := by
  obtain ⟨o, -, hvalid, -, requested, cs, couponId, hreq, hchange, -, hchanges, hanswer⟩ :=
    update_eq_ok h
  obtain ⟨hname, hcondition, hissue⟩ := OrderDetails.keptTexts hvalid
  have hcs := stageCouponChange_writesValid hs (fun c hc => by
    rcases hreq with ⟨-, h⟩ | ⟨code, c', -, hfound, h⟩
    · cases h.symm.trans hc
    · cases h.symm.trans hc
      exact hs.coupon_of_code hfound) hchange
  have horder : (Change.updateOrder p.answer o.version).WritesValid :=
    Change.writesValid_of_written rfl (show p.answer.Valid by
      rw [hanswer]
      exact ⟨hname, hcondition, hissue⟩)
  rw [hchanges, List.forall_mem_append, List.forall_mem_singleton]
  exact ⟨hcs, horder⟩

theorem delete_writesValid {id : Uuid} {p : Plan Unit} (h : delete actor id ctx s = .ok p) :
    ∀ ch ∈ p.changes, ch.WritesValid := by
  have hdelete : ∀ x v, (Change.deleteOrder x v).WritesValid :=
    fun _ _ => Change.writesValid_of_written_none rfl
  obtain ⟨o, -, ⟨-, hchanges⟩ | ⟨c, cs, c', hfound, hstage, hchanges⟩⟩ :=
    delete_eq_ok h <;> rw [hchanges]
  · simpa using hdelete _ _
  · obtain ⟨x, -, hx⟩ := Option.bind_eq_some_iff.mp hfound
    rw [List.forall_mem_append, List.forall_mem_singleton]
    exact ⟨Coupon.stageRelease_writesValid (by simp) (hs.coupon_of_found hx) hstage,
      hdelete _ _⟩

end RepairOrder

omit hs in
theorem Coupon.create_writesValid {req : CouponRequest} {p : Plan Coupon}
    (h : create actor req ctx s = .ok p) : ∀ ch ∈ p.changes, ch.WritesValid := by
  obtain ⟨-, hvalid, -, hchanges, hanswer⟩ := create_eq_ok h
  obtain ⟨hcode, hpos, hmax, -⟩ := requestValid_eq_ok.mp hvalid
  obtain ⟨hlength, hchars⟩ := isCouponCode_eq_true hcode
  rw [hchanges, List.forall_mem_singleton]
  exact Change.writesValid_of_written rfl (show p.answer.Valid by
    rw [hanswer]
    exact ⟨hlength, hchars, hpos, hmax⟩)

omit hs in
theorem Coupon.update_writesValid {id : Uuid} {req : CouponRequest} {p : Plan Coupon}
    (h : update actor id req ctx s = .ok p) : ∀ ch ∈ p.changes, ch.WritesValid := by
  obtain ⟨-, hvalid, c, -, -, -, -, hchanges, hanswer⟩ := update_eq_ok h
  obtain ⟨hcode, hpos, hmax, -⟩ := requestValid_eq_ok.mp hvalid
  obtain ⟨hlength, hchars⟩ := isCouponCode_eq_true hcode
  rw [hchanges, List.forall_mem_singleton]
  exact Change.writesValid_of_written rfl (show p.answer.Valid by
    rw [hanswer]
    exact ⟨hlength, hchars, hpos, hmax⟩)

omit hs in
theorem Coupon.delete_writesValid {id : Uuid} {p : Plan Unit}
    (h : delete actor id ctx s = .ok p) : ∀ ch ∈ p.changes, ch.WritesValid := by
  obtain ⟨-, c, -, -, hchanges⟩ := delete_eq_ok h
  simpa [hchanges] using Change.writesValid_of_written_none rfl

omit hs in
theorem PaymentMethod.create_writesValid {req : PaymentMethodRequest} {p : Plan PaymentMethod}
    (h : create actor req ctx s = .ok p) : ∀ ch ∈ p.changes, ch.WritesValid := by
  simp only [create, requireAdmin, bind_eq_ok, lift_refusal_eq_ok, exists_unit_iff,
    pure_eq_ok] at h
  obtain ⟨-, hvalid, rfl⟩ := h
  rw [List.forall_mem_singleton]
  exact Change.writesValid_of_written rfl (PaymentMethodRequest.valid_withRequest hvalid _)

omit hs in
theorem PaymentMethod.update_writesValid {id : Uuid} {req : PaymentMethodRequest}
    {p : Plan PaymentMethod} (h : update actor id req ctx s = .ok p) :
    ∀ ch ∈ p.changes, ch.WritesValid := by
  obtain ⟨-, hvalid, m, -, -, hchanges, hanswer⟩ := update_eq_ok h
  rw [hchanges, List.forall_mem_singleton]
  exact Change.writesValid_of_written rfl (show p.answer.Valid by
    rw [hanswer]
    exact (PaymentMethodRequest.valid_withRequest hvalid m).restamp _ _)

omit hs in
theorem PaymentMethod.delete_writesValid {id : Uuid} {p : Plan Unit}
    (h : delete actor id ctx s = .ok p) : ∀ ch ∈ p.changes, ch.WritesValid := by
  obtain ⟨-, m, -, -, hchanges⟩ := delete_eq_ok h
  simpa [hchanges] using Change.writesValid_of_written_none rfl

end Writes

theorem Command.plan_writesValid {c : Command} {ctx : Context} {s : Store} {cs : ChangeSet}
    (hs : s.RowsValid) (hplan : c.plan ctx s = .ok cs) : ∀ ch ∈ cs, ch.WritesValid := by
  cases hread : c.readsOnly
  · cases c <;> simp only [readsOnly, Bool.true_eq_false] at hread <;>
      obtain ⟨p, hp, rfl⟩ := staged_eq_ok.mp hplan
    case createDraft => exact TechnicianReport.createDraft_writesValid hs hp
    case updateDraft => exact TechnicianReport.updateDraft_writesValid hp
    case deleteDraft => exact TechnicianReport.deleteDraft_writesValid hp
    case submitDraft => exact TechnicianReport.submit_writesValid hp
    case acceptSubmission => exact TechnicianReport.decide_writesValid hp
    case rejectSubmission => exact TechnicianReport.decide_writesValid hp
    case startWork => exact TechnicianReport.startWork_writesValid hs hp
    case completeWork => exact TechnicianReport.completeWork_writesValid hs hp
    case createOrder => exact RepairOrder.create_writesValid hs hp
    case updateOrder => exact RepairOrder.update_writesValid hs hp
    case deleteOrder => exact RepairOrder.delete_writesValid hs hp
    case createCoupon => exact Coupon.create_writesValid hp
    case updateCoupon => exact Coupon.update_writesValid hp
    case deleteCoupon => exact Coupon.delete_writesValid hp
    case createPaymentMethod => exact PaymentMethod.create_writesValid hp
    case updatePaymentMethod => exact PaymentMethod.update_writesValid hp
    case deletePaymentMethod => exact PaymentMethod.delete_writesValid hp
  · rw [plan_eq_nil_of_readsOnly hread hplan]
    simp

theorem Command.run_rowsValid (c : Command) (ctx : Context) {s : Store} (hs : s.RowsValid) :
    (c.run ctx s).RowsValid := by
  rcases c.run_cases ctx s with hkeep | ⟨cs, hplan, hc⟩
  · rwa [hkeep]
  · exact hs.commit (c.plan_writesValid hs hplan) hc

/-- Every store the service reaches keeps its rows checked, by induction on the commands that
reach it. -/
theorem Reachable.rowsValid {s : Store} (hs : Reachable s) : s.RowsValid := by
  induction hs with
  | empty => exact Store.RowsValid.empty
  | step c ctx _ ih => exact c.run_rowsValid ctx ih

/-- However commands run from the empty store, every stored coupon has a code of 6 to 12
upper-case ASCII letters or digits, a discount of at least one and a limit of at least one use;
every stored payment method has a name, a provider and an account name that are trimmed, not
empty and at most 100 characters, and an account number of ASCII digits, 10 to 16 of them for a
bank account and 10 to 23 for an electronic wallet; every stored order has an item name and an
item condition of at most 100 characters and an issue description of at most 500, each trimmed
and not empty. -/
theorem stored_rows_pass_their_checks (steps : List (Command × Context)) :
    let s := Command.runAll steps Store.empty
    (∀ c ∈ s.coupons, c.Valid) ∧ (∀ m ∈ s.paymentMethods, m.Valid) ∧
      ∀ o ∈ s.orders, o.Valid := by
  intro s
  have hs : s.RowsValid := (Reachable.empty.of_runAll steps).rowsValid
  exact ⟨hs.coupons, hs.paymentMethods, hs.orders⟩

/-- A coupon created in the empty store is stored, with a code that passes its checks. -/
theorem created_coupon_passes_its_checks :
    let ctx : Context := ⟨⟨2030, 1, 1⟩, ⟨60, 0⟩, Uuid.ofNat 1⟩
    let steps :=
      [(Command.createCoupon ⟨Uuid.ofNat 7, .admin⟩ ⟨"WELCOME10", 500, 3, none⟩, ctx)]
    let c : Coupon := ⟨Uuid.ofNat 1, "WELCOME10", 500, 3, 0, none, 0, ⟨60, 0⟩, ⟨60, 0⟩⟩
    c ∈ (Command.runAll steps Store.empty).coupons ∧ c.Valid := by
  intro ctx steps c
  have hstored : (Command.runAll steps Store.empty).coupons = [c] := by rfl
  have hmem : c ∈ (Command.runAll steps Store.empty).coupons := by
    rw [hstored]
    exact List.mem_singleton_self c
  exact ⟨hmem, (stored_rows_pass_their_checks steps).1 c hmem⟩

end RepairDesk
