import RepairDesk.Report.Workflow
import RepairDesk.Coupon.Catalogue
import RepairDesk.Payment.Catalogue
import RepairDesk.Proofs.Commit

/-! What each operation plans: one lemma per operation that writes, from which later proofs start. -/

namespace RepairDesk

open Numeric

section Staging

theorem addWord_eq_ok_iff {bits : Nat} {a b n : Int} :
    addWord bits a b = .ok n ↔ fitsWord bits (a + b) ∧ n = a + b := by
  unfold addWord
  split <;> simp_all [eq_comm]

theorem subWord_eq_ok_iff {bits : Nat} {a b n : Int} :
    subWord bits a b = .ok n ↔ fitsWord bits (a - b) ∧ n = a - b := by
  unfold subWord
  split <;> simp_all [eq_comm]

theorem nextVersion_eq_ok {v v' : Int} :
    nextVersion v = .ok v' ↔ fitsWord 64 (v + 1) ∧ v' = v + 1 :=
  addWord_eq_ok_iff

theorem found_eq_ok {α : Type} {entity : Entity} {key : String} {x : Option α} {a : α} :
    found entity key x = .ok a ↔ x = some a := by
  cases x <;> simp [found]

theorem requireRole_eq_ok {role : Role} {what : String} {actor : Actor} {u : Unit} :
    requireRole role what actor = .ok u ↔ actor.role = role := by
  unfold requireRole forbidden
  split <;> simp_all

namespace ChangeSet

variable {cs cs' : ChangeSet} {now : Instant}

theorem updateOrder_eq_ok {o o' : RepairOrder} :
    cs.updateOrder now o = .ok (cs', o') ↔ fitsWord 64 (o.version + 1) ∧
      o' = { o with version := o.version + 1, updatedAt := now } ∧
      cs' = cs ++ [.updateOrder o' o.version] := by
  simp only [updateOrder, bind_eq_ok, pure_eq_ok, nextVersion_eq_ok]
  constructor
  · rintro ⟨v, ⟨hfit, rfl⟩, h⟩
    simp only [Prod.mk.injEq] at h
    obtain ⟨rfl, rfl⟩ := h
    exact ⟨hfit, rfl, rfl⟩
  · rintro ⟨hfit, rfl, rfl⟩
    exact ⟨_, ⟨hfit, rfl⟩, rfl⟩

theorem updateCoupon_eq_ok {c c' : Coupon} :
    cs.updateCoupon now c = .ok (cs', c') ↔ fitsWord 64 (c.version + 1) ∧
      c' = { c with version := c.version + 1, updatedAt := now } ∧
      cs' = cs ++ [.updateCoupon c' c.version] := by
  simp only [updateCoupon, bind_eq_ok, pure_eq_ok, nextVersion_eq_ok]
  constructor
  · rintro ⟨v, ⟨hfit, rfl⟩, h⟩
    simp only [Prod.mk.injEq] at h
    obtain ⟨rfl, rfl⟩ := h
    exact ⟨hfit, rfl, rfl⟩
  · rintro ⟨hfit, rfl, rfl⟩
    exact ⟨_, ⟨hfit, rfl⟩, rfl⟩

theorem updatePaymentMethod_eq_ok {m m' : PaymentMethod} :
    cs.updatePaymentMethod now m = .ok (cs', m') ↔ fitsWord 64 (m.version + 1) ∧
      m' = { m with version := m.version + 1, updatedAt := now } ∧
      cs' = cs ++ [.updatePaymentMethod m' m.version] := by
  simp only [updatePaymentMethod, bind_eq_ok, pure_eq_ok, nextVersion_eq_ok]
  constructor
  · rintro ⟨v, ⟨hfit, rfl⟩, h⟩
    simp only [Prod.mk.injEq] at h
    obtain ⟨rfl, rfl⟩ := h
    exact ⟨hfit, rfl, rfl⟩
  · rintro ⟨hfit, rfl, rfl⟩
    exact ⟨_, ⟨hfit, rfl⟩, rfl⟩

theorem updateReport_eq_ok {r r' : TechnicianReport} :
    cs.updateReport r = .ok (cs', r') ↔ fitsWord 64 (r.version + 1) ∧
      r' = { r with version := r.version + 1 } ∧ cs' = cs ++ [.updateReport r' r.version] := by
  simp only [updateReport, bind_eq_ok, pure_eq_ok, nextVersion_eq_ok]
  constructor
  · rintro ⟨v, ⟨hfit, rfl⟩, h⟩
    simp only [Prod.mk.injEq] at h
    obtain ⟨rfl, rfl⟩ := h
    exact ⟨hfit, rfl, rfl⟩
  · rintro ⟨hfit, rfl, rfl⟩
    exact ⟨_, ⟨hfit, rfl⟩, rfl⟩

end ChangeSet

theorem ReportStatus.advance_eq_ok {st next : ReportStatus} {a : ReportAction} :
    st.advance a = .ok next ↔ st.next? a = some next := by
  unfold ReportStatus.advance
  split <;> simp_all

theorem TechnicianReport.apply_eq_ok {r r' : TechnicianReport} {a : ReportAction}
    {now : Instant} :
    r.apply a now = .ok r' ↔ ∃ next, r.status.next? a = some next ∧ r.checkFor a = .ok () ∧
      r' = { r with status := next, lastUpdatedAt := now } := by
  simp only [TechnicianReport.apply, ReportStatus.advance_eq_ok, bind_eq_ok, pure_eq_ok,
    exists_unit_iff]
  exact exists_congr fun _ => and_congr_right fun _ => and_congr_right fun _ => eq_comm

theorem RepairOrder.advance_eq_ok {o o' : RepairOrder} {next : OrderStatus} :
    o.advance next = .ok o' ↔
      o.status.canAdvanceTo next = true ∧ o' = { o with status := next } := by
  unfold RepairOrder.advance
  split
  · rename_i hadvance
    simp only [Except.ok.injEq, hadvance, true_and]
    exact eq_comm
  · rename_i hstuck
    simp [hstuck]

@[simp] theorem TechnicianReport.merge_reportId (r : TechnicianReport) (f : DraftFields) :
    (r.merge f).reportId = r.reportId := rfl

@[simp] theorem TechnicianReport.merge_repairOrderId (r : TechnicianReport) (f : DraftFields) :
    (r.merge f).repairOrderId = r.repairOrderId := rfl

@[simp] theorem TechnicianReport.merge_technicianId (r : TechnicianReport) (f : DraftFields) :
    (r.merge f).technicianId = r.technicianId := rfl

@[simp] theorem TechnicianReport.merge_status (r : TechnicianReport) (f : DraftFields) :
    (r.merge f).status = r.status := rfl

@[simp] theorem TechnicianReport.merge_version (r : TechnicianReport) (f : DraftFields) :
    (r.merge f).version = r.version := rfl

end Staging

namespace TechnicianReport

variable {actor : Actor} {ctx : Context} {s : Store}

theorem loadOwned_eq_ok {id : Uuid} {r : TechnicianReport} :
    loadOwned s actor id = .ok r ↔
      actor.role = .technician ∧ s.findReport? id = some r ∧ r.technicianId = actor.id := by
  simp only [loadOwned, requireTechnician, load, ensureOwner, bind_eq_ok, requireRole_eq_ok,
    found_eq_ok, pure_eq_ok, exists_unit_iff]
  constructor
  · rintro ⟨hrole, r', hfound, howner, rfl⟩
    split at howner
    · exact ⟨hrole, hfound, by assumption⟩
    · simp [forbidden] at howner
  · rintro ⟨hrole, hfound, howner⟩
    exact ⟨hrole, r, hfound, by simp [howner], rfl⟩

theorem createDraft_eq_ok {req : DraftRequest} {p : Plan TechnicianReport}
    (h : createDraft actor req ctx s = .ok p) :
    actor.role = .technician ∧ ∃ o, s.findOrder? req.repairOrderId = some o ∧
      o.technicianId = actor.id ∧ o.status = .pendingConfirmation ∧
      s.hasActiveReport o.id = false ∧ req.fields.validate = .ok () ∧
      fitsWord 64 (o.version + 1) ∧
      p = { changes := [.updateOrder { o with version := o.version + 1, updatedAt := ctx.now }
                          o.version,
                        .insertReport ((draft ctx.freshId o.id actor.id ctx.now).merge req.fields)],
            answer := (draft ctx.freshId o.id actor.id ctx.now).merge req.fields,
            audit := audited .createDraft
              ((draft ctx.freshId o.id actor.id ctx.now).merge req.fields) actor } := by
  simp [createDraft, requireTechnician, RepairOrder.load, bind_eq_ok, map_eq_ok,
    lift_refusal_eq_ok, lift_overflow_eq_ok, requireRole_eq_ok, found_eq_ok,
    ChangeSet.updateOrder_eq_ok, forbidden, invalid, exists_unit_iff,
    apply_ite (· = Except.ok p), throw, throwThe, MonadExceptOf.throw] at h
  obtain ⟨hrole, o, hfound, htech, hpending, hidle, hvalid, hfit, rfl⟩ := h
  exact ⟨hrole, o, hfound, htech, hpending, hidle, hvalid, hfit, rfl⟩

theorem updateDraft_eq_ok {id : Uuid} {f : DraftFields} {p : Plan TechnicianReport}
    (h : updateDraft actor id f ctx s = .ok p) :
    actor.role = .technician ∧ ∃ r, s.findReport? id = some r ∧ r.technicianId = actor.id ∧
      r.status = .draft ∧ f.validate = .ok () ∧ fitsWord 64 (r.version + 1) ∧
      p = { changes := [.updateReport
                          { r.merge f with lastUpdatedAt := ctx.now, version := r.version + 1 }
                          r.version],
            answer := { r.merge f with lastUpdatedAt := ctx.now, version := r.version + 1 },
            audit := audited .updateDraft
              { r.merge f with lastUpdatedAt := ctx.now, version := r.version + 1 } actor } := by
  simp only [updateDraft, bind_eq_ok, lift_refusal_eq_ok, lift_overflow_eq_ok, loadOwned_eq_ok,
    ReportStatus.ensureModifiable, Prod.exists, ChangeSet.updateReport_eq_ok, pure_eq_ok,
    exists_unit_iff] at h
  obtain ⟨r, ⟨hrole, hfound, howner⟩, hmodifiable, hvalid, cs, r', ⟨hfit, rfl, rfl⟩, rfl⟩ := h
  split at hmodifiable
  · rename_i hdraft
    simp only [ReportStatus.technicianCanModify, beq_iff_eq] at hdraft
    exact ⟨hrole, r, hfound, howner, hdraft, hvalid, hfit, rfl⟩
  · cases hmodifiable

theorem deleteDraft_eq_ok {id : Uuid} {p : Plan Unit} (h : deleteDraft actor id ctx s = .ok p) :
    actor.role = .technician ∧ ∃ r, s.findReport? id = some r ∧ r.technicianId = actor.id ∧
      r.status = .draft ∧
      p = { changes := [.deleteReport r.reportId r.version], answer := (),
            audit := audited .deleteDraft r actor } := by
  simp only [deleteDraft, bind_eq_ok, lift_refusal_eq_ok, loadOwned_eq_ok,
    ReportStatus.ensureModifiable, pure_eq_ok, exists_unit_iff] at h
  obtain ⟨r, ⟨hrole, hfound, howner⟩, hmodifiable, rfl⟩ := h
  split at hmodifiable
  · rename_i hdraft
    simp only [ReportStatus.technicianCanModify, beq_iff_eq] at hdraft
    exact ⟨hrole, r, hfound, howner, hdraft, rfl⟩
  · cases hmodifiable

theorem submit_eq_ok {id : Uuid} {p : Plan TechnicianReport} (h : submit actor id ctx s = .ok p) :
    actor.role = .technician ∧ ∃ r r', s.findReport? id = some r ∧ r.technicianId = actor.id ∧
      r.apply .submit ctx.now = .ok r' ∧ fitsWord 64 (r'.version + 1) ∧
      p = { changes := [.updateReport { r' with version := r'.version + 1 } r'.version],
            answer := { r' with version := r'.version + 1 },
            audit := audited .submitDraft { r' with version := r'.version + 1 } actor } := by
  simp only [submit, bind_eq_ok, lift_refusal_eq_ok, lift_overflow_eq_ok, loadOwned_eq_ok,
    Prod.exists, ChangeSet.updateReport_eq_ok, pure_eq_ok] at h
  obtain ⟨r, ⟨hrole, hfound, howner⟩, r', hmove, cs, w, ⟨hfit, rfl, rfl⟩, rfl⟩ := h
  exact ⟨hrole, r, r', hfound, howner, hmove, hfit, rfl⟩

theorem decide_eq_ok {action : ReportAction} {id : Uuid} {p : Plan TechnicianReport}
    (h : decide action actor id ctx s = .ok p) :
    actor.role = .customer ∧ ∃ r o r', s.findReport? id = some r ∧
      s.findOrder? r.repairOrderId = some o ∧ o.customerId = actor.id ∧
      r.apply action ctx.now = .ok r' ∧ fitsWord 64 (r'.version + 1) ∧
      p = { changes := [.updateReport { r' with version := r'.version + 1 } r'.version],
            answer := { r' with version := r'.version + 1 },
            audit := audited (if action = .reject then .rejectSubmission else .acceptSubmission)
              { r' with version := r'.version + 1 } actor } := by
  simp [decide, requireCustomer, load, RepairOrder.load, bind_eq_ok, map_eq_ok,
    lift_refusal_eq_ok, lift_overflow_eq_ok, requireRole_eq_ok, found_eq_ok,
    ChangeSet.updateReport_eq_ok, forbidden, apply_ite (· = Except.ok p)] at h
  obtain ⟨hrole, r, hfound, o, horder, hmine, r', hmove, hfit, rfl⟩ := h
  exact ⟨hrole, r, o, r', hfound, horder, hmine, hmove, hfit, rfl⟩

theorem startWork_eq_ok {id : Uuid} {p : Plan TechnicianReport}
    (h : startWork actor id ctx s = .ok p) :
    actor.role = .technician ∧ ∃ r o r' o', s.findReport? id = some r ∧
      r.technicianId = actor.id ∧ s.findOrder? r.repairOrderId = some o ∧
      r.apply .startWork ctx.now = .ok r' ∧ o.advance .inProgress = .ok o' ∧
      fitsWord 64 (r'.version + 1) ∧ fitsWord 64 (o'.version + 1) ∧
      p = { changes := [.updateReport { r' with version := r'.version + 1 } r'.version,
                        .updateOrder { o' with version := o'.version + 1, updatedAt := ctx.now }
                          o'.version],
            answer := { r' with version := r'.version + 1 },
            audit := audited .startWork { r' with version := r'.version + 1 } actor } := by
  simp only [startWork, bind_eq_ok, lift_refusal_eq_ok, lift_overflow_eq_ok, loadOwned_eq_ok,
    RepairOrder.load, found_eq_ok, Prod.exists, ChangeSet.updateReport_eq_ok,
    ChangeSet.updateOrder_eq_ok, pure_eq_ok] at h
  obtain ⟨r, ⟨hrole, hfound, howner⟩, o, horder, r', hmove, o', hadvance, cs, w,
    ⟨hfitReport, rfl, rfl⟩, cs', w', ⟨hfitOrder, rfl, rfl⟩, rfl⟩ := h
  exact ⟨hrole, r, o, r', o', hfound, howner, horder, hmove, hadvance, hfitReport, hfitOrder, rfl⟩

theorem completeWork_eq_ok {id : Uuid} {p : Plan TechnicianReport}
    (h : completeWork actor id ctx s = .ok p) :
    actor.role = .technician ∧ ∃ r o r' o', s.findReport? id = some r ∧
      r.technicianId = actor.id ∧ s.findOrder? r.repairOrderId = some o ∧
      r.apply .complete ctx.now = .ok r' ∧ o.advance .completed = .ok o' ∧
      fitsWord 64 (r'.version + 1) ∧ fitsWord 64 (o'.version + 1) ∧
      p = { changes := [.updateReport { r' with version := r'.version + 1 } r'.version,
                        .updateOrder { o' with version := o'.version + 1, updatedAt := ctx.now }
                          o'.version,
                        .enqueue ⟨ctx.freshId,
                          { repairOrderId := o'.id, technicianId := r'.technicianId,
                            amount := r'.estimatedCost.getD 0, completedAt := r'.lastUpdatedAt },
                          ctx.now⟩],
            answer := { r' with version := r'.version + 1 },
            audit := audited .completeWork { r' with version := r'.version + 1 } actor } := by
  simp only [completeWork, bind_eq_ok, lift_refusal_eq_ok, lift_overflow_eq_ok, loadOwned_eq_ok,
    RepairOrder.load, found_eq_ok, Prod.exists, ChangeSet.updateReport_eq_ok,
    ChangeSet.updateOrder_eq_ok, pure_eq_ok] at h
  obtain ⟨r, ⟨hrole, hfound, howner⟩, o, horder, r', hmove, o', hadvance, cs, w,
    ⟨hfitReport, rfl, rfl⟩, cs', w', ⟨hfitOrder, rfl, rfl⟩, rfl⟩ := h
  exact ⟨hrole, r, o, r', o', hfound, howner, horder, hmove, hadvance, hfitReport, hfitOrder,
    by simp⟩

end TechnicianReport

namespace Coupon

variable {cs cs' : ChangeSet} {today : Date} {now : Instant}

theorem stageApply_eq_ok {c c' : Coupon} :
    stageApply cs c today now = .ok (cs', c') ↔
      c.isExpired today = false ∧ c.isExhausted = false ∧ fitsWord 32 (c.usageCount + 1) ∧
      fitsWord 64 (c.version + 1) ∧
      c' = { c with usageCount := c.usageCount + 1, version := c.version + 1, updatedAt := now } ∧
      cs' = cs ++ [.updateCoupon c' c.version] := by
  simp only [stageApply]
  cases hexpired : c.isExpired today <;> cases hexhausted : c.isExhausted <;>
    simp [bind_eq_ok, lift_overflow_eq_ok, addWord_eq_ok_iff, ChangeSet.updateCoupon_eq_ok,
      throw, throwThe, MonadExceptOf.throw]

theorem stageRelease_eq_ok {c c' : Coupon} :
    stageRelease cs c now = .ok (cs', c') ↔
      fitsWord 32 (c.usageCount - 1) ∧ fitsWord 64 (c.version + 1) ∧
      c' = { c with usageCount := max (c.usageCount - 1) 0, version := c.version + 1,
                    updatedAt := now } ∧
      cs' = cs ++ [.updateCoupon c' c.version] := by
  simp [stageRelease, bind_eq_ok, lift_overflow_eq_ok, subWord_eq_ok_iff,
    ChangeSet.updateCoupon_eq_ok]

theorem stageSwap_eq_ok {new old new' old' : Coupon} :
    stageSwap cs new old today now = .ok (cs', new', old') ↔
      ∃ between, stageApply cs new today now = .ok (between, new') ∧
        stageRelease between old now = .ok (cs', old') := by
  simp only [stageSwap, bind_eq_ok, Prod.exists, pure_eq_ok, Prod.mk.injEq]
  constructor
  · rintro ⟨between, new'', hnew, cs'', old'', hold, rfl, rfl, rfl⟩
    exact ⟨between, hnew, hold⟩
  · rintro ⟨between, hnew, hold⟩
    exact ⟨between, new', hnew, cs', old', hold, rfl, rfl, rfl⟩

theorem requestValid_eq_ok {r : CouponRequest} {u : Unit} :
    r.validate today = .ok u ↔ isCouponCode r.code = true ∧ 0 < r.discountAmount ∧
      1 ≤ r.maxUsage ∧ r.validUntil.any (· < today) = false := by
  simp only [CouponRequest.validate, ite_bind_eq_ok, invalid]
  split <;> simp_all [pure_eq_ok]

theorem create_eq_ok {actor : Actor} {r : CouponRequest} {ctx : Context} {s : Store}
    {p : Plan Coupon} (h : create actor r ctx s = .ok p) :
    actor.role = .admin ∧ r.validate ctx.today = .ok () ∧ ensureCodeFree s r.code none = .ok () ∧
      p.changes = [.insertCoupon p.answer] ∧
      p.answer = { id := ctx.freshId, code := r.code, discountAmount := r.discountAmount,
                   maxUsage := r.maxUsage, usageCount := 0, validUntil := r.validUntil,
                   version := 0, createdAt := ctx.now, updatedAt := ctx.now } := by
  simp only [create, requireAdmin, bind_eq_ok, lift_refusal_eq_ok, requireRole_eq_ok,
    exists_unit_iff, pure_eq_ok] at h
  obtain ⟨hrole, hvalid, hfree, rfl⟩ := h
  exact ⟨hrole, hvalid, hfree, rfl, rfl⟩

theorem update_eq_ok {actor : Actor} {id : Uuid} {r : CouponRequest} {ctx : Context} {s : Store}
    {p : Plan Coupon} (h : update actor id r ctx s = .ok p) :
    actor.role = .admin ∧ r.validate ctx.today = .ok () ∧
      ∃ c, s.findCoupon? id = some c ∧ c.usageCount ≤ r.maxUsage ∧
        (r.code ≠ c.code → ensureCodeFree s r.code (some c.id) = .ok ()) ∧
        fitsWord 64 (c.version + 1) ∧
        p.changes = [.updateCoupon p.answer c.version] ∧
        p.answer = { c with code := r.code, discountAmount := r.discountAmount,
                            maxUsage := r.maxUsage, validUntil := r.validUntil,
                            version := c.version + 1, updatedAt := ctx.now } := by
  simp only [update, requireAdmin, load, bind_eq_ok, lift_refusal_eq_ok, lift_overflow_eq_ok,
    requireRole_eq_ok, found_eq_ok, exists_unit_iff, ite_bind_eq_ok, throw, throwThe,
    MonadExceptOf.throw, reduceCtorEq, imp_false, Int.not_lt] at h
  obtain ⟨hrole, hvalid, c, hfound, hbound, hfree, ⟨cs, c'⟩, hstage, h⟩ := h
  rw [ChangeSet.updateCoupon_eq_ok] at hstage
  obtain ⟨hfit, rfl, rfl⟩ := hstage
  rw [pure_eq_ok] at h
  subst h
  exact ⟨hrole, hvalid, c, hfound, hbound, hfree, hfit, rfl, rfl⟩

theorem delete_eq_ok {actor : Actor} {id : Uuid} {ctx : Context} {s : Store} {p : Plan Unit}
    (h : delete actor id ctx s = .ok p) :
    actor.role = .admin ∧ ∃ c, s.findCoupon? id = some c ∧ c.usageCount ≤ 0 ∧
      p.changes = [.deleteCoupon c.id c.version] := by
  simp only [delete, requireAdmin, load, bind_eq_ok, lift_refusal_eq_ok, requireRole_eq_ok,
    found_eq_ok, exists_unit_iff, ite_bind_eq_ok, throw, throwThe, MonadExceptOf.throw,
    reduceCtorEq, imp_false, gt_iff_lt, Int.not_lt, pure_eq_ok] at h
  obtain ⟨hrole, c, hfound, hunused, rfl⟩ := h
  exact ⟨hrole, c, hfound, hunused, rfl⟩

end Coupon

namespace RepairOrder

variable {actor : Actor} {ctx : Context} {s : Store}

theorem ensurePaymentMethod_eq_ok {id : Uuid} {u : Unit} :
    ensurePaymentMethod s id = .ok u ↔ (s.findPaymentMethod? id).isSome := by
  unfold ensurePaymentMethod invalid
  split <;> simp_all

theorem loadCouponByCode_eq_ok {code : String} {c : Coupon} :
    loadCouponByCode s code = .ok c ↔ s.findCouponByCode? (Text.trimBlank code) = some c := by
  simp [loadCouponByCode, found_eq_ok]

theorem loadEditable_eq_ok {id : Uuid} {o : RepairOrder} :
    loadEditable s actor id = .ok o ↔
      actor.role = .customer ∧ s.findOrder? id = some o ∧ o.customerId = actor.id ∧
        o.status = .pendingConfirmation ∧ s.hasActiveReport o.id = false := by
  simp [loadEditable, requireCustomer, load, bind_eq_ok, requireRole_eq_ok, found_eq_ok,
    pure_eq_ok, forbidden, invalid, throw, throwThe, MonadExceptOf.throw,
    apply_ite (· = Except.ok o)]

theorem stageCouponChange_eq_ok {today : Date} {now : Instant} {current : Option Uuid}
    {requested : Option Coupon} {cs : ChangeSet} {couponId : Option Uuid}
    (h : stageCouponChange s today now current requested = .ok (cs, couponId)) :
    (current = none ∧ requested = none ∧ cs = [] ∧ couponId = none) ∨
    (∃ new, current = some new.id ∧ requested = some new ∧ cs = [] ∧ couponId = some new.id) ∨
    (∃ new new', requested = some new ∧
      (current = none ∨ ∃ x, current = some x ∧ x ≠ new.id ∧ s.findCoupon? x = none) ∧
      Coupon.stageApply [] new today now = .ok (cs, new') ∧ couponId = some new.id) ∨
    (∃ x new old new' old', current = some x ∧ requested = some new ∧ x ≠ new.id ∧
      s.findCoupon? x = some old ∧ Coupon.stageSwap [] new old today now = .ok (cs, new', old') ∧
      couponId = some new.id) ∨
    (∃ x, current = some x ∧ requested = none ∧ couponId = none ∧
      ((s.findCoupon? x = none ∧ cs = []) ∨
        ∃ old old', s.findCoupon? x = some old ∧
          Coupon.stageRelease [] old now = .ok (cs, old'))) := by
  unfold stageCouponChange at h
  rcases current with _ | x <;> rcases requested with _ | new
  · simp only [pure_eq_ok, Prod.mk.injEq] at h
    obtain ⟨rfl, rfl⟩ := h
    exact .inl ⟨rfl, rfl, rfl, rfl⟩
  · simp only [bind_eq_ok, Prod.exists, pure_eq_ok, Prod.mk.injEq] at h
    obtain ⟨cs', new', hstage, rfl, rfl⟩ := h
    have hid : new'.id = new.id := by
      rw [Coupon.stageApply_eq_ok] at hstage
      rw [hstage.2.2.2.2.1]
    exact .inr (.inr (.inl ⟨new, new', rfl, .inl rfl, hstage, by rw [hid]⟩))
  · cases hfound : s.findCoupon? x with
    | none =>
        simp only [hfound, pure_eq_ok, Prod.mk.injEq] at h
        obtain ⟨rfl, rfl⟩ := h
        exact .inr (.inr (.inr (.inr ⟨x, rfl, rfl, rfl, .inl ⟨hfound, rfl⟩⟩)))
    | some old =>
        simp only [hfound, bind_eq_ok, Prod.exists, pure_eq_ok, Prod.mk.injEq] at h
        obtain ⟨cs', old', hstage, rfl, rfl⟩ := h
        exact .inr (.inr (.inr (.inr ⟨x, rfl, rfl, rfl, .inr ⟨old, old', hfound, hstage⟩⟩)))
  · by_cases hsame : x = new.id
    · simp only [hsame, ite_true, pure_eq_ok, Prod.mk.injEq] at h
      obtain ⟨rfl, rfl⟩ := h
      exact .inr (.inl ⟨new, by rw [hsame], rfl, rfl, rfl⟩)
    · cases hfound : s.findCoupon? x with
      | none =>
          simp only [hsame, ite_false, hfound, bind_eq_ok, Prod.exists, pure_eq_ok,
            Prod.mk.injEq] at h
          obtain ⟨cs', new', hstage, rfl, rfl⟩ := h
          have hid : new'.id = new.id := by
            rw [Coupon.stageApply_eq_ok] at hstage
            rw [hstage.2.2.2.2.1]
          exact .inr (.inr (.inl ⟨new, new', rfl, .inr ⟨x, rfl, hsame, hfound⟩, hstage,
            by rw [hid]⟩))
      | some old =>
          simp only [hsame, ite_false, hfound, bind_eq_ok, Prod.exists, pure_eq_ok,
            Prod.mk.injEq] at h
          obtain ⟨cs', new', old', hstage, rfl, rfl⟩ := h
          have hid : new'.id = new.id := by
            obtain ⟨between, hnew, -⟩ := Coupon.stageSwap_eq_ok.mp hstage
            rw [Coupon.stageApply_eq_ok] at hnew
            rw [hnew.2.2.2.2.1]
          exact .inr (.inr (.inr (.inl ⟨x, new, old, new', old', rfl, rfl, hsame, hfound, hstage,
            by rw [hid]⟩)))

theorem stageCouponChange_coupons {today : Date} {now : Instant} {current : Option Uuid}
    {requested : Option Coupon} {cs : ChangeSet} {couponId : Option Uuid}
    (h : stageCouponChange s today now current requested = .ok (cs, couponId)) :
    ∀ c ∈ cs, ∃ w v, c = .updateCoupon w v := by
  rcases stageCouponChange_eq_ok h with ⟨-, -, rfl, -⟩ | ⟨new, -, -, rfl, -⟩ |
    ⟨new, new', -, -, hstage, -⟩ | ⟨x, new, old, new', old', -, -, -, -, hswap, -⟩ |
    ⟨x, -, -, -, ⟨-, rfl⟩ | ⟨old, old', -, hstage⟩⟩
  case inr.inr.inl =>
    obtain ⟨-, -, -, -, -, rfl⟩ := Coupon.stageApply_eq_ok.mp hstage
    simp
  case inr.inr.inr.inl =>
    obtain ⟨between, happly, hrelease⟩ := Coupon.stageSwap_eq_ok.mp hswap
    obtain ⟨-, -, -, -, -, rfl⟩ := Coupon.stageApply_eq_ok.mp happly
    obtain ⟨-, -, -, rfl⟩ := Coupon.stageRelease_eq_ok.mp hrelease
    simp
  case inr.inr.inr.inr.inr =>
    obtain ⟨-, -, -, rfl⟩ := Coupon.stageRelease_eq_ok.mp hstage
    simp
  all_goals simp

theorem create_eq_ok {req : OrderRequest} {p : Plan RepairOrder}
    (h : create actor req ctx s = .ok p) :
    actor.role = .customer ∧ req.details.validate ctx.today = .ok () ∧
      (s.findPaymentMethod? req.details.paymentMethodId).isSome ∧
      ∃ cs couponId,
        ((req.details.couponCode = none ∧ cs = [] ∧ couponId = none) ∨
          ∃ code c c', req.details.couponCode = some code ∧
            s.findCouponByCode? (Text.trimBlank code) = some c ∧
            Coupon.stageApply [] c ctx.today ctx.now = .ok (cs, c') ∧ couponId = some c.id) ∧
        p.changes = cs ++ [.insertOrder p.answer] ∧
        p.answer = withDetails
          { id := ctx.freshId, customerId := actor.id, technicianId := req.technicianId,
            status := .pendingConfirmation, itemName := "", itemCondition := "",
            issueDescription := "", desiredServiceDate := req.details.desiredServiceDate,
            paymentMethodId := req.details.paymentMethodId, couponId, version := 0,
            createdAt := ctx.now, updatedAt := ctx.now } req.details := by
  cases hcode : req.details.couponCode with
  | none =>
      simp only [create, hcode, requireCustomer, bind_eq_ok, lift_refusal_eq_ok,
        requireRole_eq_ok, ensurePaymentMethod_eq_ok, pure_eq_ok, exists_unit_iff] at h
      obtain ⟨hrole, hvalid, hpay, _, rfl, rfl⟩ := h
      exact ⟨hrole, hvalid, hpay, [], none, .inl ⟨rfl, rfl, rfl⟩, rfl, rfl⟩
  | some code =>
      simp only [create, hcode, requireCustomer, bind_eq_ok, lift_refusal_eq_ok,
        requireRole_eq_ok, ensurePaymentMethod_eq_ok, loadCouponByCode_eq_ok, Prod.exists,
        pure_eq_ok, Prod.mk.injEq, exists_unit_iff] at h
      obtain ⟨hrole, hvalid, hpay, c, hfound, cs, c', hstage, _, _, ⟨rfl, rfl⟩, rfl⟩ := h
      have hid : c'.id = c.id := by
        rw [Coupon.stageApply_eq_ok] at hstage
        rw [hstage.2.2.2.2.1]
      refine ⟨hrole, hvalid, hpay, cs, some c.id, .inr ⟨code, c, c', rfl, hfound, hstage, rfl⟩,
        ?_, ?_⟩ <;> simp [hid]

theorem update_eq_ok {id : Uuid} {d : OrderDetails} {p : Plan RepairOrder}
    (h : update actor id d ctx s = .ok p) :
    ∃ o, loadEditable s actor id = .ok o ∧ d.validate ctx.today = .ok () ∧
      (d.paymentMethodId ≠ o.paymentMethodId → (s.findPaymentMethod? d.paymentMethodId).isSome) ∧
      ∃ requested cs couponId,
        ((d.couponCode = none ∧ requested = none) ∨
          ∃ code c, d.couponCode = some code ∧
            s.findCouponByCode? (Text.trimBlank code) = some c ∧ requested = some c) ∧
        stageCouponChange s ctx.today ctx.now o.couponId requested = .ok (cs, couponId) ∧
        fitsWord 64 (o.version + 1) ∧
        p.changes = cs ++ [.updateOrder p.answer o.version] ∧
        p.answer = { o.withDetails d with
          couponId := couponId, version := o.version + 1, updatedAt := ctx.now } := by
  -- the requested coupon is looked up in a match that carries the rest of the steps
  cases hcode : d.couponCode <;>
  simp only [update, hcode, bind_eq_ok, lift_refusal_eq_ok, lift_overflow_eq_ok, exists_unit_iff,
    ite_bind_eq_ok,
    ensurePaymentMethod_eq_ok, loadCouponByCode_eq_ok, pure_eq_ok] at h
  case none =>
    obtain ⟨o, hload, hvalid, hpay, _, rfl, ⟨cs, couponId⟩, hchange, ⟨cs', o'⟩, hstage, rfl⟩ := h
    rw [ChangeSet.updateOrder_eq_ok] at hstage
    obtain ⟨hfit, rfl, rfl⟩ := hstage
    exact ⟨o, hload, hvalid, hpay, none, cs, couponId, .inl ⟨rfl, rfl⟩, hchange,
      by simpa [withDetails] using hfit, by simp [withDetails], by simp [withDetails]⟩
  case some code =>
    obtain ⟨o, hload, hvalid, hpay, c, hfound, _, rfl, ⟨cs, couponId⟩, hchange, ⟨cs', o'⟩, hstage,
      rfl⟩ := h
    rw [ChangeSet.updateOrder_eq_ok] at hstage
    obtain ⟨hfit, rfl, rfl⟩ := hstage
    exact ⟨o, hload, hvalid, hpay, some c, cs, couponId, .inr ⟨code, c, rfl, hfound, rfl⟩, hchange,
      by simpa [withDetails] using hfit, by simp [withDetails], by simp [withDetails]⟩

theorem delete_eq_ok {id : Uuid} {p : Plan Unit} (h : delete actor id ctx s = .ok p) :
    ∃ o, loadEditable s actor id = .ok o ∧
      ((o.couponId.bind s.findCoupon? = none ∧ p.changes = [.deleteOrder o.id o.version]) ∨
        ∃ c cs c', o.couponId.bind s.findCoupon? = some c ∧
          Coupon.stageRelease [] c ctx.now = .ok (cs, c') ∧
          p.changes = cs ++ [.deleteOrder o.id o.version]) := by
  simp only [delete, bind_eq_ok, lift_refusal_eq_ok] at h
  obtain ⟨o, hload, h⟩ := h
  refine ⟨o, hload, ?_⟩
  cases hfound : o.couponId.bind s.findCoupon? with
  | none =>
      simp only [hfound, bind_eq_ok, pure_eq_ok] at h
      obtain ⟨_, rfl, rfl⟩ := h
      exact .inl ⟨rfl, rfl⟩
  | some c =>
      simp only [hfound, bind_eq_ok, pure_eq_ok] at h
      obtain ⟨⟨cs, c'⟩, hstage, _, rfl, rfl⟩ := h
      exact .inr ⟨c, cs, c', rfl, hstage, rfl⟩

end RepairOrder

namespace PaymentMethod

variable {actor : Actor} {ctx : Context} {s : Store}

theorem create_eq_ok {r : PaymentMethodRequest} {p : Plan PaymentMethod}
    (h : create actor r ctx s = .ok p) :
    actor.role = .admin ∧ r.validate = .ok () ∧ p.changes = [.insertPaymentMethod p.answer] ∧
      p.answer.id = ctx.freshId := by
  simp only [create, requireAdmin, bind_eq_ok, lift_refusal_eq_ok, requireRole_eq_ok,
    exists_unit_iff, pure_eq_ok] at h
  obtain ⟨hrole, hvalid, rfl⟩ := h
  exact ⟨hrole, hvalid, rfl, rfl⟩

theorem update_eq_ok {id : Uuid} {r : PaymentMethodRequest} {p : Plan PaymentMethod}
    (h : update actor id r ctx s = .ok p) :
    actor.role = .admin ∧ r.validate = .ok () ∧
      ∃ m, s.findPaymentMethod? id = some m ∧ fitsWord 64 (m.version + 1) ∧
        p.changes = [.updatePaymentMethod p.answer m.version] ∧
        p.answer = { m.withRequest r with version := m.version + 1, updatedAt := ctx.now } := by
  simp only [update, requireAdmin, load, bind_eq_ok, lift_refusal_eq_ok, lift_overflow_eq_ok,
    requireRole_eq_ok, found_eq_ok, exists_unit_iff] at h
  obtain ⟨hrole, hvalid, m, hfound, ⟨cs, m'⟩, hstage, h⟩ := h
  rw [ChangeSet.updatePaymentMethod_eq_ok] at hstage
  obtain ⟨hfit, rfl, rfl⟩ := hstage
  rw [pure_eq_ok] at h
  subst h
  exact ⟨hrole, hvalid, m, hfound, by simpa [withRequest] using hfit, by simp [withRequest],
    by simp [withRequest]⟩

theorem delete_eq_ok {id : Uuid} {p : Plan Unit} (h : delete actor id ctx s = .ok p) :
    actor.role = .admin ∧ ∃ m, s.findPaymentMethod? id = some m ∧
      s.paymentMethodInUse m.id = false ∧ p.changes = [.deletePaymentMethod m.id m.version] := by
  simp only [delete, requireAdmin, load, bind_eq_ok, lift_refusal_eq_ok, requireRole_eq_ok,
    found_eq_ok, exists_unit_iff, ite_bind_eq_ok, throw, throwThe, MonadExceptOf.throw,
    reduceCtorEq, imp_false, Bool.not_eq_true, pure_eq_ok] at h
  obtain ⟨hrole, m, hfound, hunused, rfl⟩ := h
  exact ⟨hrole, m, hfound, hunused, rfl⟩

end PaymentMethod

section Refusals

/-! A refusal for the order's stage while starting or completing work. -/

variable {s : Store} {actor : Actor} {id : Uuid} {step : OrderStep} {x : Uuid} {st : OrderStatus}

theorem requireRole_ne_orderState {role : Role} {what : String} :
    requireRole role what actor ≠ .error (.orderState step x st) := by
  unfold requireRole forbidden
  split <;> simp

theorem found_ne_orderState {α : Type} {e : Entity} {key : String} {row : Option α} :
    found e key row ≠ .error (.orderState step x st) := by
  cases row <;> simp [found]

theorem TechnicianReport.loadOwned_ne_orderState :
    loadOwned s actor id ≠ .error (.orderState step x st) := by
  intro h
  simp only [loadOwned, bind_eq_error] at h
  rcases h with h | ⟨_, _, h | ⟨r, _, h | ⟨_, _, h⟩⟩⟩
  · exact requireRole_ne_orderState h
  · exact found_ne_orderState h
  · unfold ensureOwner forbidden at h
    split at h <;> cases h
  · cases h

theorem TechnicianReport.apply_ne_orderState {r : TechnicianReport} {a : ReportAction}
    {now : Instant} : r.apply a now ≠ .error (.orderState step x st) := by
  intro h
  simp only [TechnicianReport.apply, bind_eq_error] at h
  rcases h with h | ⟨_, _, h | ⟨_, _, h⟩⟩
  · unfold ReportStatus.advance at h
    split at h <;> cases h
  · cases a <;> simp only [checkFor, checkSubmission, checkWorkStart] at h <;>
      (try split_ifs at h) <;> cases h
  · cases h

theorem RepairOrder.advance_eq_error {o : RepairOrder} {next : OrderStatus} {e : WorkflowError}
    (h : o.advance next = .error e) : o.status.canAdvanceTo next = false := by
  unfold RepairOrder.advance at h
  split at h
  · cases h
  · rename_i hadvance
    simpa using hadvance

theorem TechnicianReport.orderState_of_advance {β : Type} {a : ReportAction} {now : Instant}
    {stage : OrderStatus} {k : TechnicianReport → RepairOrder → Except Failure β}
    (hk : ∀ r o, k r o ≠ .error (.refused (.orderState step x st)))
    (h : (do
      let r ← loadOwned s actor id
      let o ← RepairOrder.load s r.repairOrderId
      let r' ← r.apply a now
      let o' ← o.advance stage
      k r' o' : Except Failure β) = .error (.refused (.orderState step x st))) :
    ∃ r o next, s.findReport? id = some r ∧ s.findOrder? r.repairOrderId = some o ∧
      r.status.next? a = some next ∧ o.status.canAdvanceTo stage = false := by
  simp only [bind_eq_error, lift_refusal_eq_error, lift_refusal_eq_ok, Failure.refused.injEq,
    RepairOrder.load, found_eq_ok] at h
  rcases h with ⟨e, he, rfl⟩ | ⟨r, hr, ⟨e, he, rfl⟩ | ⟨o, ho, ⟨e, he, rfl⟩ | ⟨r', hr', h⟩⟩⟩
  · exact absurd he loadOwned_ne_orderState
  · exact absurd he found_ne_orderState
  · exact absurd he apply_ne_orderState
  obtain ⟨-, hfound, -⟩ := loadOwned_eq_ok.mp hr
  obtain ⟨next, hnext, -, -⟩ := apply_eq_ok.mp hr'
  rcases h with ⟨e, he, rfl⟩ | ⟨o', -, h⟩
  · exact ⟨r, o, next, hfound, ho, hnext, RepairOrder.advance_eq_error he⟩
  · exact absurd h (hk r' o')

theorem TechnicianReport.startWork_eq_orderState {ctx : Context}
    (h : startWork actor id ctx s = .error (.refused (.orderState step x st))) :
    ∃ r o next, s.findReport? id = some r ∧ s.findOrder? r.repairOrderId = some o ∧
      r.status.next? .startWork = some next ∧ o.status.canAdvanceTo .inProgress = false := by
  refine orderState_of_advance ?_ h
  intro r o hk
  simp [bind_eq_error, map_eq_error, lift_overflow_eq_error] at hk

theorem TechnicianReport.completeWork_eq_orderState {ctx : Context}
    (h : completeWork actor id ctx s = .error (.refused (.orderState step x st))) :
    ∃ r o next, s.findReport? id = some r ∧ s.findOrder? r.repairOrderId = some o ∧
      r.status.next? .complete = some next ∧ o.status.canAdvanceTo .completed = false := by
  refine orderState_of_advance ?_ h
  intro r o hk
  simp [bind_eq_error, map_eq_error, lift_overflow_eq_error] at hk

end Refusals

end RepairDesk
