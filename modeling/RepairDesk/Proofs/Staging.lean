import RepairDesk.Proofs.Service
import RepairDesk.Proofs.Keys

namespace RepairDesk

open Tables Store

def Change.StagedFrom (s₀ : Store) (fresh : Uuid) (c : Change) : Prop :=
  match c.expects with
  | some (e, x, v) =>
      (s₀.findRow? e x).map Row.version = some v ∧ ∀ r, c.written = some r → r.version = v + 1
  | none => ∀ e x, c.target = some (e, x) → x = fresh

/-- A change set as an operation stages it: each change staged from the store read, and no row
written twice. -/
structure ChangeSet.StagedFrom (s₀ : Store) (fresh : Uuid) (cs : ChangeSet) : Prop where
  each : ∀ c ∈ cs, c.StagedFrom s₀ fresh
  distinct : (cs.filterMap Change.target).Nodup

namespace Change

variable {c : Change} {s₀ : Store} {fresh : Uuid} {e : Entity} {x : Uuid} {v : Int}

theorem target_of_expects (h : c.expects = some (e, x, v)) : c.target = some (e, x) := by
  cases c <;> simp_all [expects, target]

theorem StagedFrom.read (h : c.StagedFrom s₀ fresh) (hc : c.expects = some (e, x, v)) :
    (s₀.findRow? e x).map Row.version = some v := by
  rw [StagedFrom, hc] at h
  exact h.1

theorem StagedFrom.bump (h : c.StagedFrom s₀ fresh) (hc : c.expects = some (e, x, v)) {r : Row}
    (hw : c.written = some r) : r.version = v + 1 := by
  rw [StagedFrom, hc] at h
  exact h.2 r hw

theorem StagedFrom.eq_fresh (h : c.StagedFrom s₀ fresh) (hc : c.expects = none)
    (ht : c.target = some (e, x)) : x = fresh := by
  rw [StagedFrom, hc] at h
  exact h e x ht

end Change

namespace ChangeSet.StagedFrom

variable {s₀ : Store} {fresh : Uuid} {cs cs₁ cs₂ : ChangeSet}

theorem nil : ChangeSet.StagedFrom s₀ fresh [] := ⟨by simp, by simp⟩

theorem single {c : Change} (h : c.StagedFrom s₀ fresh) : ChangeSet.StagedFrom s₀ fresh [c] := by
  refine ⟨by simpa using h, ?_⟩
  cases htarget : c.target <;> simp [htarget]

theorem append (h₁ : cs₁.StagedFrom s₀ fresh) (h₂ : cs₂.StagedFrom s₀ fresh)
    (hdisjoint : ∀ a ∈ cs₁.filterMap Change.target, a ∉ cs₂.filterMap Change.target) :
    (cs₁ ++ cs₂).StagedFrom s₀ fresh := by
  refine ⟨fun c hc => ?_, ?_⟩
  · rcases List.mem_append.mp hc with hc | hc
    · exact h₁.each c hc
    · exact h₂.each c hc
  · rw [List.filterMap_append, List.nodup_append]
    exact ⟨h₁.distinct, h₂.distinct, fun a ha b hb hab => hdisjoint a ha (hab ▸ hb)⟩

end ChangeSet.StagedFrom

namespace Store

variable {s t : Store} {fresh : Uuid}

/-- The store `t` follows `s` away from the identifier `fresh`: every other row stored in `t`
was stored in `s`, at a version no higher, and at the same version it is the same row. -/
def MovesOn (fresh : Uuid) (s t : Store) : Prop :=
  ∀ e x r', x ≠ fresh → t.findRow? e x = some r' →
    ∃ r, s.findRow? e x = some r ∧ r.version ≤ r'.version ∧ (r.version = r'.version → r = r')

theorem MovesOn.refl (s : Store) : MovesOn fresh s s :=
  fun _ _ r' _ h => ⟨r', h, Int.le_refl _, fun _ => rfl⟩

theorem MovesOn.trans {u : Store} (h₁ : MovesOn fresh s t) (h₂ : MovesOn fresh t u) :
    MovesOn fresh s u := by
  intro e x r'' hx hu
  obtain ⟨r', ht, hle', heq'⟩ := h₂ e x r'' hx hu
  obtain ⟨r, hs, hle, heq⟩ := h₁ e x r' hx ht
  refine ⟨r, hs, Int.le_trans hle hle', fun hv => ?_⟩
  have hv' : r'.version = r''.version := Int.le_antisymm hle' (hv ▸ hle)
  rw [heq (hv.trans hv'.symm), heq' hv']

theorem MovesOn.apply {s₀ : Store} {c : Change} (hstaged : c.StagedFrom s₀ fresh)
    (h : s.apply c = .ok t) : MovesOn fresh s t := by
  intro e x r' hx ht
  rw [findRow?_apply h] at ht
  split at ht
  · rename_i htarget
    cases hexp : c.expects with
    | none => exact absurd (Change.StagedFrom.eq_fresh hstaged hexp htarget) hx
    | some exp =>
        obtain ⟨e', x', v⟩ := exp
        rw [Change.target_of_expects hexp, Option.some_inj, Prod.mk.injEq] at htarget
        obtain ⟨rfl, rfl⟩ := htarget
        obtain ⟨r, hr, hrv⟩ := Option.map_eq_some_iff.mp (version_eq_of_apply h hexp)
        have hbump : r'.version = v + 1 := Change.StagedFrom.bump hstaged hexp ht
        refine ⟨r, hr, by omega, fun hv => ?_⟩
        omega
  · exact ⟨r', ht, Int.le_refl _, fun _ => rfl⟩

theorem MovesOn.commit {s₀ : Store} {cs : ChangeSet} (hstaged : ∀ c ∈ cs, c.StagedFrom s₀ fresh)
    (h : s.commit cs = .ok t) : MovesOn fresh s t := by
  induction cs generalizing s with
  | nil =>
      rw [commit_nil, Except.ok.injEq] at h
      subst h
      exact MovesOn.refl s
  | cons c cs ih =>
      obtain ⟨u, happly, hrest⟩ := commit_cons_eq_ok.mp h
      exact (MovesOn.apply (hstaged c (List.mem_cons_self ..)) happly).trans
        (ih (fun c' hc' => hstaged c' (List.mem_cons_of_mem _ hc')) hrest)

theorem commit_eq_error_of_stale {cs : ChangeSet} (hdistinct : (cs.filterMap Change.target).Nodup)
    {c : Change} (hc : c ∈ cs) {e : Entity} {x : Uuid} {v : Int}
    (hexp : c.expects = some (e, x, v)) (hstale : (s.findRow? e x).map Row.version ≠ some v) :
    ∃ err, s.commit cs = .error err := by
  induction cs generalizing s with
  | nil => cases hc
  | cons c' cs ih =>
      rw [commit_cons]
      cases happly : s.apply c' with
      | error err => exact ⟨err, rfl⟩
      | ok t =>
          rcases List.mem_cons.mp hc with rfl | hrest
          · exact absurd (version_eq_of_apply happly hexp) hstale
          -- the earlier change writes another row, so the stale row is still stale after it
          have hmem : (e, x) ∈ cs.filterMap Change.target :=
            List.mem_filterMap.mpr ⟨c, hrest, Change.target_of_expects hexp⟩
          have hother : c'.target ≠ some (e, x) := by
            intro htarget
            rw [List.filterMap_cons, htarget, List.nodup_cons] at hdistinct
            exact hdistinct.1 hmem
          have hnodup : (cs.filterMap Change.target).Nodup := by
            rw [List.filterMap_cons] at hdistinct
            cases htarget : c'.target with
            | none => simpa [htarget] using hdistinct
            | some a =>
                rw [htarget] at hdistinct
                exact (List.nodup_cons.mp hdistinct).2
          exact ih hnodup hrest (by rwa [findRow?_apply_of_target_ne happly hother])

end Store

/-! ### What each operation stages -/

section Rows

/-! A row rewritten or deleted at the version read. -/

variable {s : Store} {fresh id : Uuid}

theorem stagedFrom_updateOrder {o w : RepairOrder} (hfound : s.findOrder? id = some o)
    (hid : w.id = o.id) (hv : w.version = o.version + 1) :
    ChangeSet.StagedFrom s fresh [.updateOrder w o.version] := by
  have hkey : o.id = id := (mem_of_findOrder? hfound).2
  exact .single (by simp [Change.StagedFrom, Change.expects, Change.written, Row.version, hid,
    hkey, hfound, hv])

theorem stagedFrom_deleteOrder {o : RepairOrder} (hfound : s.findOrder? id = some o) :
    ChangeSet.StagedFrom s fresh [.deleteOrder o.id o.version] := by
  have hkey : o.id = id := (mem_of_findOrder? hfound).2
  exact .single (by simp [Change.StagedFrom, Change.expects, Change.written, Row.version, hkey,
    hfound])

theorem stagedFrom_updateCoupon {c w : Coupon} (hfound : s.findCoupon? id = some c)
    (hid : w.id = c.id) (hv : w.version = c.version + 1) :
    ChangeSet.StagedFrom s fresh [.updateCoupon w c.version] := by
  have hkey : c.id = id := (mem_of_findCoupon? hfound).2
  exact .single (by simp [Change.StagedFrom, Change.expects, Change.written, Row.version, hid,
    hkey, hfound, hv])

theorem stagedFrom_deleteCoupon {c : Coupon} (hfound : s.findCoupon? id = some c) :
    ChangeSet.StagedFrom s fresh [.deleteCoupon c.id c.version] := by
  have hkey : c.id = id := (mem_of_findCoupon? hfound).2
  exact .single (by simp [Change.StagedFrom, Change.expects, Change.written, Row.version, hkey,
    hfound])

theorem stagedFrom_updatePaymentMethod {m w : PaymentMethod}
    (hfound : s.findPaymentMethod? id = some m) (hid : w.id = m.id)
    (hv : w.version = m.version + 1) :
    ChangeSet.StagedFrom s fresh [.updatePaymentMethod w m.version] := by
  have hkey : m.id = id := (mem_of_findPaymentMethod? hfound).2
  exact .single (by simp [Change.StagedFrom, Change.expects, Change.written, Row.version, hid,
    hkey, hfound, hv])

theorem stagedFrom_deletePaymentMethod {m : PaymentMethod}
    (hfound : s.findPaymentMethod? id = some m) :
    ChangeSet.StagedFrom s fresh [.deletePaymentMethod m.id m.version] := by
  have hkey : m.id = id := (mem_of_findPaymentMethod? hfound).2
  exact .single (by simp [Change.StagedFrom, Change.expects, Change.written, Row.version, hkey,
    hfound])

theorem stagedFrom_updateReport {r w : TechnicianReport} (hfound : s.findReport? id = some r)
    (hid : w.reportId = r.reportId) (hv : w.version = r.version + 1) :
    ChangeSet.StagedFrom s fresh [.updateReport w r.version] := by
  have hkey : r.reportId = id := (mem_of_findReport? hfound).2
  exact .single (by simp [Change.StagedFrom, Change.expects, Change.written, Row.version, hid,
    hkey, hfound, hv])

theorem stagedFrom_deleteReport {r : TechnicianReport} (hfound : s.findReport? id = some r) :
    ChangeSet.StagedFrom s fresh [.deleteReport r.reportId r.version] := by
  have hkey : r.reportId = id := (mem_of_findReport? hfound).2
  exact .single (by simp [Change.StagedFrom, Change.expects, Change.written, Row.version, hkey,
    hfound])

theorem stagedFrom_enqueue {m : OutboxMessage} : ChangeSet.StagedFrom s fresh [.enqueue m] :=
  .single (by simp [Change.StagedFrom, Change.expects, Change.target])

end Rows

namespace TechnicianReport

variable {actor : Actor} {ctx : Context} {s : Store}

theorem createDraft_stagedFrom {req : DraftRequest} {p : Plan TechnicianReport}
    (h : createDraft actor req ctx s = .ok p) : p.changes.StagedFrom s ctx.freshId := by
  obtain ⟨-, o, hfound, -, -, -, -, -, rfl⟩ := createDraft_eq_ok h
  show ChangeSet.StagedFrom _ _ ([_] ++ [_])
  refine .append (stagedFrom_updateOrder hfound rfl rfl) (.single ?_) (by simp [Change.target])
  simp [Change.StagedFrom, Change.expects, Change.target, draft]

theorem updateDraft_stagedFrom {id : Uuid} {f : DraftFields} {p : Plan TechnicianReport}
    (h : updateDraft actor id f ctx s = .ok p) : p.changes.StagedFrom s ctx.freshId := by
  obtain ⟨-, r, hfound, -, -, -, -, rfl⟩ := updateDraft_eq_ok h
  exact stagedFrom_updateReport hfound rfl rfl

theorem deleteDraft_stagedFrom {id : Uuid} {p : Plan Unit}
    (h : deleteDraft actor id ctx s = .ok p) : p.changes.StagedFrom s ctx.freshId := by
  obtain ⟨-, r, hfound, -, -, rfl⟩ := deleteDraft_eq_ok h
  exact stagedFrom_deleteReport hfound

theorem submit_stagedFrom {id : Uuid} {p : Plan TechnicianReport}
    (h : submit actor id ctx s = .ok p) : p.changes.StagedFrom s ctx.freshId := by
  obtain ⟨-, r, r', hfound, -, hmove, -, rfl⟩ := submit_eq_ok h
  obtain ⟨next, -, -, rfl⟩ := apply_eq_ok.mp hmove
  exact stagedFrom_updateReport (r := r) hfound rfl rfl

theorem decide_stagedFrom {action : ReportAction} {id : Uuid} {p : Plan TechnicianReport}
    (h : decide action actor id ctx s = .ok p) : p.changes.StagedFrom s ctx.freshId := by
  obtain ⟨-, r, o, r', hfound, -, -, hmove, -, rfl⟩ := decide_eq_ok h
  obtain ⟨next, -, -, rfl⟩ := apply_eq_ok.mp hmove
  exact stagedFrom_updateReport (r := r) hfound rfl rfl

theorem startWork_stagedFrom {id : Uuid} {p : Plan TechnicianReport}
    (h : startWork actor id ctx s = .ok p) : p.changes.StagedFrom s ctx.freshId := by
  obtain ⟨-, r, o, r', o', hfound, -, horder, hmove, hadvance, -, -, rfl⟩ := startWork_eq_ok h
  obtain ⟨next, -, -, rfl⟩ := apply_eq_ok.mp hmove
  obtain ⟨-, rfl⟩ := RepairOrder.advance_eq_ok.mp hadvance
  show ChangeSet.StagedFrom _ _ ([_] ++ [_])
  exact .append (stagedFrom_updateReport (r := r) hfound rfl rfl)
    (stagedFrom_updateOrder (o := o) horder rfl rfl) (by simp [Change.target])

theorem completeWork_stagedFrom {id : Uuid} {p : Plan TechnicianReport}
    (h : completeWork actor id ctx s = .ok p) : p.changes.StagedFrom s ctx.freshId := by
  obtain ⟨-, r, o, r', o', hfound, -, horder, hmove, hadvance, -, -, rfl⟩ := completeWork_eq_ok h
  obtain ⟨next, -, -, rfl⟩ := apply_eq_ok.mp hmove
  obtain ⟨-, rfl⟩ := RepairOrder.advance_eq_ok.mp hadvance
  show ChangeSet.StagedFrom _ _ ([_] ++ [_] ++ [_])
  refine .append (.append (stagedFrom_updateReport (r := r) hfound rfl rfl)
    (stagedFrom_updateOrder (o := o) horder rfl rfl) (by simp [Change.target]))
    stagedFrom_enqueue ?_
  simp [Change.target]

end TechnicianReport

namespace Coupon

variable {cs₀ cs : ChangeSet} {c c' : Coupon} {today : Date} {now : Instant}

theorem stageApply_changes (h : stageApply cs₀ c today now = .ok (cs, c')) :
    cs = cs₀ ++ [.updateCoupon c' c.version] ∧ c'.id = c.id ∧ c'.version = c.version + 1 := by
  obtain ⟨-, -, -, -, rfl, rfl⟩ := stageApply_eq_ok.mp h
  exact ⟨rfl, rfl, rfl⟩

theorem stageRelease_changes (h : stageRelease cs₀ c now = .ok (cs, c')) :
    cs = cs₀ ++ [.updateCoupon c' c.version] ∧ c'.id = c.id ∧ c'.version = c.version + 1 := by
  obtain ⟨-, -, rfl, rfl⟩ := stageRelease_eq_ok.mp h
  exact ⟨rfl, rfl, rfl⟩

variable {actor : Actor} {ctx : Context} {s : Store}

theorem create_stagedFrom {r : CouponRequest} {p : Plan Coupon} (h : create actor r ctx s = .ok p) :
    p.changes.StagedFrom s ctx.freshId := by
  obtain ⟨-, -, -, hchanges, hanswer⟩ := create_eq_ok h
  rw [hchanges]
  exact .single (by simp [Change.StagedFrom, Change.expects, Change.target, hanswer])

theorem update_stagedFrom {id : Uuid} {r : CouponRequest} {p : Plan Coupon}
    (h : update actor id r ctx s = .ok p) : p.changes.StagedFrom s ctx.freshId := by
  obtain ⟨-, -, c, hfound, -, -, -, hchanges, hanswer⟩ := update_eq_ok h
  rw [hchanges]
  exact stagedFrom_updateCoupon hfound (by rw [hanswer]) (by rw [hanswer])

theorem delete_stagedFrom {id : Uuid} {p : Plan Unit} (h : delete actor id ctx s = .ok p) :
    p.changes.StagedFrom s ctx.freshId := by
  obtain ⟨-, c, hfound, -, hchanges⟩ := delete_eq_ok h
  rw [hchanges]
  exact stagedFrom_deleteCoupon hfound

end Coupon

namespace RepairOrder

variable {actor : Actor} {ctx : Context} {s : Store}

theorem create_stagedFrom (hkeyed : Keyed s) {req : OrderRequest} {p : Plan RepairOrder}
    (h : create actor req ctx s = .ok p) : p.changes.StagedFrom s ctx.freshId := by
  obtain ⟨-, -, -, cs, couponId, hcoupon, hchanges, hanswer⟩ := create_eq_ok h
  have hinsert : ChangeSet.StagedFrom s ctx.freshId [.insertOrder p.answer] :=
    .single (by simp [Change.StagedFrom, Change.expects, Change.target, hanswer, withDetails])
  rw [hchanges]
  rcases hcoupon with ⟨-, rfl, -⟩ | ⟨code, c, c', -, hcode, hstage, -⟩
  · exact hinsert
  · have hfound : s.findCoupon? c.id = some c :=
      hkeyed.findCoupon?_eq_some (List.mem_of_find?_eq_some hcode)
    obtain ⟨rfl, hid, hv⟩ := Coupon.stageApply_changes hstage
    exact .append (stagedFrom_updateCoupon hfound hid hv) hinsert (by simp [Change.target])

theorem update_stagedFrom (hkeyed : Keyed s) {id : Uuid} {d : OrderDetails}
    {p : Plan RepairOrder} (h : update actor id d ctx s = .ok p) :
    p.changes.StagedFrom s ctx.freshId := by
  obtain ⟨o, hload, -, -, requested, cs, couponId, hrequested, hchange, -, hchanges, hanswer⟩ :=
    update_eq_ok h
  obtain ⟨-, hfound, -, -, -⟩ := loadEditable_eq_ok.mp hload
  have horder : ChangeSet.StagedFrom s ctx.freshId [.updateOrder p.answer o.version] :=
    stagedFrom_updateOrder hfound (by rw [hanswer]; rfl) (by rw [hanswer])
  -- a requested coupon was found by its code, so it is stored under its identifier
  have hreq : ∀ c, requested = some c → s.findCoupon? c.id = some c := by
    rintro c rfl
    rcases hrequested with ⟨-, h⟩ | ⟨code, c', -, hcode, h⟩
    · cases h
    · obtain rfl := Option.some_inj.mp h
      exact hkeyed.findCoupon?_eq_some (List.mem_of_find?_eq_some hcode)
  rw [hchanges]
  rcases stageCouponChange_eq_ok hchange with ⟨-, -, rfl, -⟩ | ⟨new, -, -, rfl, -⟩ |
    ⟨new, new', hnew, -, hstage, -⟩ | ⟨x, new, old, new', old', -, hnew, hne, hold, hswap, -⟩ |
    ⟨x, -, -, -, ⟨-, rfl⟩ | ⟨old, old', hold, hstage⟩⟩
  case inl => exact horder
  case inr.inl => exact horder
  case inr.inr.inl =>
    obtain ⟨rfl, hid, hv⟩ := Coupon.stageApply_changes hstage
    exact .append (stagedFrom_updateCoupon (hreq new hnew) hid hv) horder (by simp [Change.target])
  case inr.inr.inr.inl =>
    obtain ⟨between, happly, hrelease⟩ := Coupon.stageSwap_eq_ok.mp hswap
    obtain ⟨rfl, hnewid, hnewv⟩ := Coupon.stageApply_changes happly
    obtain ⟨rfl, holdid, holdv⟩ := Coupon.stageRelease_changes hrelease
    have hkey : old.id = x := (mem_of_findCoupon? hold).2
    refine .append (.append (stagedFrom_updateCoupon (hreq new hnew) hnewid hnewv)
      (stagedFrom_updateCoupon hold holdid holdv) ?_) horder (by simp [Change.target])
    simp [Change.target, hnewid, holdid, hkey, Ne.symm hne]
  case inr.inr.inr.inr.inl => exact horder
  case inr.inr.inr.inr.inr =>
    obtain ⟨rfl, hid, hv⟩ := Coupon.stageRelease_changes hstage
    exact .append (stagedFrom_updateCoupon hold hid hv) horder (by simp [Change.target])

theorem delete_stagedFrom {id : Uuid} {p : Plan Unit} (h : delete actor id ctx s = .ok p) :
    p.changes.StagedFrom s ctx.freshId := by
  obtain ⟨o, hload, hcases⟩ := delete_eq_ok h
  obtain ⟨-, hfound, -, -, -⟩ := loadEditable_eq_ok.mp hload
  rcases hcases with ⟨-, hchanges⟩ | ⟨c, cs, c', hc, hstage, hchanges⟩
  · rw [hchanges]
    exact stagedFrom_deleteOrder hfound
  · rw [hchanges]
    obtain ⟨x, -, hx⟩ := Option.bind_eq_some_iff.mp hc
    obtain ⟨rfl, hid, hv⟩ := Coupon.stageRelease_changes hstage
    exact .append (stagedFrom_updateCoupon hx hid hv) (stagedFrom_deleteOrder hfound)
      (by simp [Change.target])

end RepairOrder

namespace PaymentMethod

variable {actor : Actor} {ctx : Context} {s : Store}

theorem create_stagedFrom {r : PaymentMethodRequest} {p : Plan PaymentMethod}
    (h : create actor r ctx s = .ok p) : p.changes.StagedFrom s ctx.freshId := by
  obtain ⟨-, -, hchanges, hid⟩ := create_eq_ok h
  rw [hchanges]
  exact .single (by simp [Change.StagedFrom, Change.expects, Change.target, hid])

theorem update_stagedFrom {id : Uuid} {r : PaymentMethodRequest} {p : Plan PaymentMethod}
    (h : update actor id r ctx s = .ok p) : p.changes.StagedFrom s ctx.freshId := by
  obtain ⟨-, -, m, hfound, -, hchanges, hanswer⟩ := update_eq_ok h
  rw [hchanges]
  exact stagedFrom_updatePaymentMethod hfound (by rw [hanswer]; rfl) (by rw [hanswer])

theorem delete_stagedFrom {id : Uuid} {p : Plan Unit} (h : delete actor id ctx s = .ok p) :
    p.changes.StagedFrom s ctx.freshId := by
  obtain ⟨-, m, hfound, -, hchanges⟩ := delete_eq_ok h
  rw [hchanges]
  exact stagedFrom_deletePaymentMethod hfound

end PaymentMethod

/-- Every plan a command makes is staged from the store it read. -/
theorem Command.plan_stagedFrom {c : Command} {ctx : Context} {s : Store} {cs : ChangeSet}
    (hkeyed : Keyed s) (hplan : c.plan ctx s = .ok cs) : cs.StagedFrom s ctx.freshId := by
  cases hread : c.readsOnly
  · cases c <;> simp only [Command.readsOnly, Bool.true_eq_false] at hread <;>
      obtain ⟨p, hp, rfl⟩ := staged_eq_ok.mp hplan
    case createDraft => exact TechnicianReport.createDraft_stagedFrom hp
    case updateDraft => exact TechnicianReport.updateDraft_stagedFrom hp
    case deleteDraft => exact TechnicianReport.deleteDraft_stagedFrom hp
    case submitDraft => exact TechnicianReport.submit_stagedFrom hp
    case acceptSubmission => exact TechnicianReport.decide_stagedFrom hp
    case rejectSubmission => exact TechnicianReport.decide_stagedFrom hp
    case startWork => exact TechnicianReport.startWork_stagedFrom hp
    case completeWork => exact TechnicianReport.completeWork_stagedFrom hp
    case createOrder => exact RepairOrder.create_stagedFrom hkeyed hp
    case updateOrder => exact RepairOrder.update_stagedFrom hkeyed hp
    case deleteOrder => exact RepairOrder.delete_stagedFrom hp
    case createCoupon => exact Coupon.create_stagedFrom hp
    case updateCoupon => exact Coupon.update_stagedFrom hp
    case deleteCoupon => exact Coupon.delete_stagedFrom hp
    case createPaymentMethod => exact PaymentMethod.create_stagedFrom hp
    case updatePaymentMethod => exact PaymentMethod.update_stagedFrom hp
    case deletePaymentMethod => exact PaymentMethod.delete_stagedFrom hp
  · rw [Command.plan_eq_nil_of_readsOnly hread hplan]
    exact .nil

end RepairDesk
