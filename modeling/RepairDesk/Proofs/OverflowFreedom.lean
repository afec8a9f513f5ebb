import RepairDesk.Proofs.Headroom
import RepairDesk.Proofs.ReportFields

namespace RepairDesk

open Numeric Tables Store

/-- The numbers a command carries lie within the words its request types hold, where the service
stores them: a cost estimate and a coupon's discount at most the greatest 64-bit value, a usage
limit at most the greatest 32-bit value. -/
def Command.ArgsFit : Command → Prop
  | .createDraft _ req => ∀ cost ∈ req.fields.estimatedCost, cost ≤ wordMax 64
  | .updateDraft _ _ f => ∀ cost ∈ f.estimatedCost, cost ≤ wordMax 64
  | .createCoupon _ r | .updateCoupon _ _ r => r.discountAmount ≤ wordMax 64 ∧ r.maxUsage ≤ wordMax 32
  | _ => True

theorem Command.ArgsFit.limitsFit {c : Command} (h : c.ArgsFit) : c.LimitsFit := by
  cases c <;> simp_all [Command.ArgsFit, Command.LimitsFit]

def Change.WritesInWords (ch : Change) : Prop :=
  ∀ r, ch.written = some r → r.InWords ∧ (ch.expects = none → r.version = 0)

/-! ### What each operation writes -/

section Writes

variable {cs cs₀ : ChangeSet} {c c' : Coupon} {today : Date} {now : Instant}

theorem Change.writesInWords_writeBack (hc : (Row.coupon c).InWords)
    (hdiscount : c'.discountAmount = c.discountAmount) (v : Int) :
    (Change.updateCoupon c' v).WritesInWords := by
  intro r hr
  simp only [Change.written, Option.some.injEq] at hr
  subst hr
  simpa [Row.InWords, Change.expects, hdiscount] using hc

theorem Coupon.stageApply_writesInWords (h₀ : ∀ ch ∈ cs₀, ch.WritesInWords)
    (hc : (Row.coupon c).InWords) (h : stageApply cs₀ c today now = .ok (cs, c')) :
    ∀ ch ∈ cs, ch.WritesInWords := by
  obtain ⟨-, -, -, -, rfl, rfl⟩ := stageApply_eq_ok.mp h
  rw [List.forall_mem_append, List.forall_mem_singleton]
  exact ⟨h₀, Change.writesInWords_writeBack hc (by rfl) _⟩

theorem Coupon.stageRelease_writesInWords (h₀ : ∀ ch ∈ cs₀, ch.WritesInWords)
    (hc : (Row.coupon c).InWords) (h : stageRelease cs₀ c now = .ok (cs, c')) :
    ∀ ch ∈ cs, ch.WritesInWords := by
  obtain ⟨-, -, rfl, rfl⟩ := stageRelease_eq_ok.mp h
  rw [List.forall_mem_append, List.forall_mem_singleton]
  exact ⟨h₀, Change.writesInWords_writeBack hc (by rfl) _⟩

variable {actor : Actor} {ctx : Context} {s : Store} {top : Nat} (hs : s.WithinWords top)
include hs

namespace TechnicianReport

omit hs in
theorem createDraft_writesInWords {req : DraftRequest}
    (hfit : ∀ cost ∈ req.fields.estimatedCost, cost ≤ wordMax 64) {p : Plan TechnicianReport}
    (h : createDraft actor req ctx s = .ok p) : ∀ ch ∈ p.changes, ch.WritesInWords := by
  obtain ⟨-, o, -, -, -, -, hvalid, -, rfl⟩ := createDraft_eq_ok h
  obtain ⟨-, -, hcost, -⟩ := DraftFields.validate_eq_ok.mp hvalid
  intro ch hch
  simp only [List.mem_cons, List.not_mem_nil, or_false] at hch
  rcases hch with rfl | rfl <;> intro r hr <;>
    simp only [Change.written, Option.some.injEq] at hr <;> subst hr
  · simp [Row.InWords, Change.expects]
  · refine ⟨fun cost hmem => ?_, fun _ => rfl⟩
    simp only [merge, draft, Option.or_none] at hmem
    exact ⟨hcost cost hmem, hfit cost hmem⟩

theorem updateDraft_writesInWords {id : Uuid} {f : DraftFields}
    (hfit : ∀ cost ∈ f.estimatedCost, cost ≤ wordMax 64) {p : Plan TechnicianReport}
    (h : updateDraft actor id f ctx s = .ok p) : ∀ ch ∈ p.changes, ch.WritesInWords := by
  obtain ⟨-, r, hfound, -, -, hvalid, -, rfl⟩ := updateDraft_eq_ok h
  obtain ⟨-, -, hcost, -⟩ := DraftFields.validate_eq_ok.mp hvalid
  have hstored := hs.report_inWords hfound
  rw [List.forall_mem_singleton]
  intro w hw
  simp only [Change.written, Option.some.injEq] at hw
  subst hw
  refine ⟨fun cost hmem => ?_, by simp [Change.expects]⟩
  rcases Option.or_eq_some_iff.mp hmem with hgiven | ⟨-, hkept⟩
  · exact ⟨hcost cost hgiven, hfit cost hgiven⟩
  · exact hstored cost hkept

omit hs in
theorem moved_writesInWords {r r' : TechnicianReport} {a : ReportAction}
    (hstored : (Row.report r).InWords) (hmove : r.apply a ctx.now = .ok r') (v : Int) :
    (Change.updateReport { r' with version := r'.version + 1 } v).WritesInWords := by
  obtain ⟨next, -, -, rfl⟩ := apply_eq_ok.mp hmove
  intro w hw
  simp only [Change.written, Option.some.injEq] at hw
  subst hw
  exact ⟨hstored, by simp [Change.expects]⟩

omit hs in
theorem deleteDraft_writesInWords {id : Uuid} {p : Plan Unit}
    (h : deleteDraft actor id ctx s = .ok p) : ∀ ch ∈ p.changes, ch.WritesInWords := by
  obtain ⟨-, r, -, -, -, rfl⟩ := deleteDraft_eq_ok h
  simp [Change.WritesInWords, Change.written]

theorem submit_writesInWords {id : Uuid} {p : Plan TechnicianReport}
    (h : submit actor id ctx s = .ok p) : ∀ ch ∈ p.changes, ch.WritesInWords := by
  obtain ⟨-, r, r', hfound, -, hmove, -, rfl⟩ := submit_eq_ok h
  simpa using moved_writesInWords (hs.report_inWords hfound) hmove _

theorem decide_writesInWords {action : ReportAction} {id : Uuid} {p : Plan TechnicianReport}
    (h : decide action actor id ctx s = .ok p) : ∀ ch ∈ p.changes, ch.WritesInWords := by
  obtain ⟨-, r, o, r', hfound, -, -, hmove, -, rfl⟩ := decide_eq_ok h
  simpa using moved_writesInWords (hs.report_inWords hfound) hmove _

theorem startWork_writesInWords {id : Uuid} {p : Plan TechnicianReport}
    (h : startWork actor id ctx s = .ok p) : ∀ ch ∈ p.changes, ch.WritesInWords := by
  obtain ⟨-, r, o, r', o', hfound, -, -, hmove, -, -, -, rfl⟩ := startWork_eq_ok h
  intro ch hch
  simp only [List.mem_cons, List.not_mem_nil, or_false] at hch
  rcases hch with rfl | rfl
  · exact moved_writesInWords (hs.report_inWords hfound) hmove r'.version
  · simp [Change.WritesInWords, Change.written, Change.expects, Row.InWords]

theorem completeWork_writesInWords {id : Uuid} {p : Plan TechnicianReport}
    (h : completeWork actor id ctx s = .ok p) : ∀ ch ∈ p.changes, ch.WritesInWords := by
  obtain ⟨-, r, o, r', o', hfound, -, -, hmove, -, -, -, rfl⟩ := completeWork_eq_ok h
  intro ch hch
  simp only [List.mem_cons, List.not_mem_nil, or_false] at hch
  rcases hch with rfl | rfl | rfl
  · exact moved_writesInWords (hs.report_inWords hfound) hmove r'.version
  · simp [Change.WritesInWords, Change.written, Change.expects, Row.InWords]
  · simp [Change.WritesInWords, Change.written]

end TechnicianReport

namespace RepairOrder

variable (hk : Keyed s)
include hk

theorem coupon_inWords_of_code {code : String} (h : s.findCouponByCode? code = some c) :
    (Row.coupon c).InWords :=
  hs.coupon_inWords (hk.findCoupon?_eq_some (mem_of_findCouponByCode? h))

omit hk in
theorem stageCouponChange_writesInWords {current : Option Uuid} {requested : Option Coupon}
    (hreq : ∀ c, requested = some c → (Row.coupon c).InWords) {couponId : Option Uuid}
    (h : stageCouponChange s ctx.today ctx.now current requested = .ok (cs, couponId)) :
    ∀ ch ∈ cs, ch.WritesInWords := by
  have hnil : ∀ ch ∈ ([] : ChangeSet), ch.WritesInWords := by simp
  rcases stageCouponChange_eq_ok h with ⟨-, -, rfl, -⟩ | ⟨new, -, -, rfl, -⟩ |
    ⟨new, new', hnew, -, hstage, -⟩ | ⟨x, new, old, new', old', -, hnew, -, hold, hswap, -⟩ |
    ⟨x, -, -, -, ⟨-, rfl⟩ | ⟨old, old', hold, hstage⟩⟩
  · exact hnil
  · exact hnil
  · exact Coupon.stageApply_writesInWords hnil (hreq new hnew) hstage
  · obtain ⟨between, happly, hrelease⟩ := Coupon.stageSwap_eq_ok.mp hswap
    exact Coupon.stageRelease_writesInWords
      (Coupon.stageApply_writesInWords hnil (hreq new hnew) happly) (hs.coupon_inWords hold)
      hrelease
  · exact hnil
  · exact Coupon.stageRelease_writesInWords hnil (hs.coupon_inWords hold) hstage

theorem create_writesInWords {req : OrderRequest} {p : Plan RepairOrder}
    (h : create actor req ctx s = .ok p) : ∀ ch ∈ p.changes, ch.WritesInWords := by
  obtain ⟨-, -, -, cs, couponId, hcoupon, hchanges, hanswer⟩ := create_eq_ok h
  have hinsert : (Change.insertOrder p.answer).WritesInWords := by
    intro w hw
    simp only [Change.written, Option.some.injEq] at hw
    subst hw
    simp [Row.InWords, Row.version, hanswer, withDetails]
  have hcs : ∀ ch ∈ cs, ch.WritesInWords := by
    rcases hcoupon with ⟨-, rfl, -⟩ | ⟨code, c, c', -, hfound, hstage, -⟩
    · simp
    · exact Coupon.stageApply_writesInWords (by simp) (coupon_inWords_of_code hs hk hfound) hstage
  rw [hchanges, List.forall_mem_append, List.forall_mem_singleton]
  exact ⟨hcs, hinsert⟩

theorem update_writesInWords {id : Uuid} {d : OrderDetails} {p : Plan RepairOrder}
    (h : update actor id d ctx s = .ok p) : ∀ ch ∈ p.changes, ch.WritesInWords := by
  obtain ⟨o, -, -, -, requested, cs, couponId, hreq, hchange, -, hchanges, -⟩ := update_eq_ok h
  have hcs := stageCouponChange_writesInWords hs (fun c hc => by
    rcases hreq with ⟨-, h⟩ | ⟨code, c', -, hfound, h⟩
    · cases h.symm.trans hc
    · cases h.symm.trans hc
      exact coupon_inWords_of_code hs hk hfound) hchange
  rw [hchanges, List.forall_mem_append, List.forall_mem_singleton]
  exact ⟨hcs, by simp [Change.WritesInWords, Change.written, Change.expects, Row.InWords]⟩

omit hk in
theorem delete_writesInWords {id : Uuid} {p : Plan Unit} (h : delete actor id ctx s = .ok p) :
    ∀ ch ∈ p.changes, ch.WritesInWords := by
  obtain ⟨o, -, ⟨-, hchanges⟩ | ⟨c, cs, c', hfound, hstage, hchanges⟩⟩ := delete_eq_ok h <;>
    rw [hchanges]
  · simp [Change.WritesInWords, Change.written]
  · obtain ⟨x, -, hx⟩ := Option.bind_eq_some_iff.mp hfound
    rw [List.forall_mem_append, List.forall_mem_singleton]
    exact ⟨Coupon.stageRelease_writesInWords (by simp) (hs.coupon_inWords hx) hstage,
      by simp [Change.WritesInWords, Change.written]⟩

end RepairOrder

omit hs in
theorem Coupon.create_writesInWords {req : CouponRequest} (hfit : req.discountAmount ≤ wordMax 64)
    {p : Plan Coupon} (h : create actor req ctx s = .ok p) : ∀ ch ∈ p.changes, ch.WritesInWords := by
  obtain ⟨-, hvalid, -, hchanges, hanswer⟩ := create_eq_ok h
  obtain ⟨-, hpos, -, -⟩ := requestValid_eq_ok.mp hvalid
  rw [hchanges, List.forall_mem_singleton]
  intro w hw
  simp only [Change.written, Option.some.injEq] at hw
  subst hw
  simp [Row.InWords, Row.version, hanswer, hpos, hfit]

omit hs in
theorem Coupon.update_writesInWords {id : Uuid} {req : CouponRequest}
    (hfit : req.discountAmount ≤ wordMax 64) {p : Plan Coupon}
    (h : update actor id req ctx s = .ok p) : ∀ ch ∈ p.changes, ch.WritesInWords := by
  obtain ⟨-, hvalid, c, -, -, -, -, hchanges, hanswer⟩ := update_eq_ok h
  obtain ⟨-, hpos, -, -⟩ := requestValid_eq_ok.mp hvalid
  rw [hchanges, List.forall_mem_singleton]
  intro w hw
  simp only [Change.written, Option.some.injEq] at hw
  subst hw
  simp [Row.InWords, Change.expects, hanswer, hpos, hfit]

omit hs in
theorem Coupon.delete_writesInWords {id : Uuid} {p : Plan Unit}
    (h : delete actor id ctx s = .ok p) : ∀ ch ∈ p.changes, ch.WritesInWords := by
  obtain ⟨-, c, -, -, hchanges⟩ := delete_eq_ok h
  simp [hchanges, Change.WritesInWords, Change.written]

omit hs in
theorem PaymentMethod.create_writesInWords {req : PaymentMethodRequest} {p : Plan PaymentMethod}
    (h : create actor req ctx s = .ok p) : ∀ ch ∈ p.changes, ch.WritesInWords := by
  simp only [create, requireAdmin, bind_eq_ok, lift_refusal_eq_ok, exists_unit_iff,
    pure_eq_ok] at h
  obtain ⟨-, -, rfl⟩ := h
  simp [Change.WritesInWords, Change.written, Row.InWords, Row.version, withRequest]

omit hs in
theorem PaymentMethod.update_writesInWords {id : Uuid} {req : PaymentMethodRequest}
    {p : Plan PaymentMethod} (h : update actor id req ctx s = .ok p) :
    ∀ ch ∈ p.changes, ch.WritesInWords := by
  obtain ⟨-, -, m, -, -, hchanges, -⟩ := update_eq_ok h
  simp [hchanges, Change.WritesInWords, Change.written, Change.expects, Row.InWords]

omit hs in
theorem PaymentMethod.delete_writesInWords {id : Uuid} {p : Plan Unit}
    (h : delete actor id ctx s = .ok p) : ∀ ch ∈ p.changes, ch.WritesInWords := by
  obtain ⟨-, m, -, -, hchanges⟩ := delete_eq_ok h
  simp [hchanges, Change.WritesInWords, Change.written]

end Writes

theorem Command.plan_writesInWords {c : Command} {ctx : Context} {s : Store} {top : Nat}
    {cs : ChangeSet} (hk : Keyed s) (hs : s.WithinWords top) (hfit : c.ArgsFit)
    (hplan : c.plan ctx s = .ok cs) : ∀ ch ∈ cs, ch.WritesInWords := by
  cases hread : c.readsOnly
  · cases c <;> simp only [readsOnly, Bool.true_eq_false] at hread <;>
      obtain ⟨p, hp, rfl⟩ := staged_eq_ok.mp hplan
    case createDraft => exact TechnicianReport.createDraft_writesInWords hfit hp
    case updateDraft => exact TechnicianReport.updateDraft_writesInWords hs hfit hp
    case deleteDraft => exact TechnicianReport.deleteDraft_writesInWords hp
    case submitDraft => exact TechnicianReport.submit_writesInWords hs hp
    case acceptSubmission => exact TechnicianReport.decide_writesInWords hs hp
    case rejectSubmission => exact TechnicianReport.decide_writesInWords hs hp
    case startWork => exact TechnicianReport.startWork_writesInWords hs hp
    case completeWork => exact TechnicianReport.completeWork_writesInWords hs hp
    case createOrder => exact RepairOrder.create_writesInWords hs hk hp
    case updateOrder => exact RepairOrder.update_writesInWords hs hk hp
    case deleteOrder => exact RepairOrder.delete_writesInWords hs hp
    case createCoupon => exact Coupon.create_writesInWords hfit.1 hp
    case updateCoupon => exact Coupon.update_writesInWords hfit.1 hp
    case deleteCoupon => exact Coupon.delete_writesInWords hp
    case createPaymentMethod => exact PaymentMethod.create_writesInWords hp
    case updatePaymentMethod => exact PaymentMethod.update_writesInWords hp
    case deletePaymentMethod => exact PaymentMethod.delete_writesInWords hp
  · rw [plan_eq_nil_of_readsOnly hread hplan]
    simp

/-! ### A commit raises every version by at most one -/

namespace Store.WithinWords

variable {s t : Store} {top : Nat} {fresh : Uuid}

theorem findRow?_empty (e : Entity) (x : Uuid) : Store.empty.findRow? e x = none := by
  cases e <;> rfl

theorem empty : Store.empty.WithinWords 0 where
  versions h := by rw [findRow?_empty] at h; cases h
  fields h := by rw [findRow?_empty] at h; cases h
  coupons c hc := by cases hc

theorem written_bounds (hs : s.WithinWords top) {ch : Change} (hst : ch.StagedFrom s fresh)
    (hw : ch.WritesInWords) {r : Row} (hr : ch.written = some r) :
    (0 ≤ r.version ∧ r.version ≤ top + 1) ∧ r.InWords := by
  obtain ⟨hin, hzero⟩ := hw r hr
  refine ⟨?_, hin⟩
  cases hexp : ch.expects with
  | none =>
      rw [hzero hexp]
      omega
  | some exp =>
      obtain ⟨e, x, v⟩ := exp
      obtain ⟨q, hq, hqv⟩ := Option.map_eq_some_iff.mp (hst.read hexp)
      have hbump : r.version = v + 1 := hst.bump hexp hr
      obtain ⟨h0, hle⟩ := hs.versions hq
      omega

theorem rows_of_commit (hs : s.WithinWords top) {cs : ChangeSet}
    (hstaged : ∀ ch ∈ cs, ch.StagedFrom s fresh) (hw : ∀ ch ∈ cs, ch.WritesInWords) :
    ∀ {u : Store}, (∀ e x r, u.findRow? e x = some r →
        (0 ≤ r.version ∧ r.version ≤ top + 1) ∧ r.InWords) →
      u.commit cs = .ok t → ∀ e x r, t.findRow? e x = some r →
        (0 ≤ r.version ∧ r.version ≤ top + 1) ∧ r.InWords := by
  induction cs with
  | nil =>
      intro u hu hc
      rw [commit_nil, Except.ok.injEq] at hc
      exact hc ▸ hu
  | cons ch cs ih =>
      intro u hu hc
      obtain ⟨u', happ, hrest⟩ := commit_cons_eq_ok.mp hc
      refine ih (fun ch' h => hstaged ch' (List.mem_cons_of_mem _ h))
        (fun ch' h => hw ch' (List.mem_cons_of_mem _ h)) (fun e x r hr => ?_) hrest
      -- the applied change leaves every row but its own, and writes its own within bounds
      rw [findRow?_apply happ] at hr
      split at hr
      · exact written_bounds hs (hstaged ch List.mem_cons_self) (hw ch List.mem_cons_self) hr
      · exact hu e x r hr

theorem commit (hs : s.WithinWords top) (hk : Keyed s) {cs : ChangeSet}
    (hstaged : ∀ ch ∈ cs, ch.StagedFrom s fresh) (hw : ∀ ch ∈ cs, ch.WritesInWords)
    (hb : cs.CouponsBounded) (hc : s.commit cs = .ok t) : t.WithinWords (top + 1) := by
  have hrows := rows_of_commit hs hstaged hw (fun e x r hr =>
    ⟨⟨(hs.versions hr).1, by have := (hs.versions hr).2; omega⟩, hs.fields hr⟩) hc
  refine ⟨fun hr => ?_, fun hr => (hrows _ _ _ hr).2, fun b hmem => ?_⟩
  · exact_mod_cast (hrows _ _ _ hr).1
  · rcases coupon_of_commit hk hc hmem with hold | ⟨ch, hch, hw⟩
    · exact hs.coupons b hold
    · exact hb ch hch b hw

end Store.WithinWords

/-! ### Runs -/

namespace Command

def commitsChanges (c : Command) (ctx : Context) (s : Store) : Bool :=
  match c.plan ctx s with
  | .ok cs => !cs.isEmpty && (s.commit cs).isOk
  | .error _ => false

/-- How many commands of a run, one after another from a store, commit changes. -/
def commitCount : List (Command × Context) → Store → Nat
  | [], _ => 0
  | step :: steps, s =>
    (if step.1.commitsChanges step.2 s then 1 else 0) + commitCount steps (step.1.run step.2 s)

theorem commitsChanges_cases (c : Command) (ctx : Context) (s : Store) :
    (c.commitsChanges ctx s = false ∧ c.run ctx s = s) ∨
      (c.commitsChanges ctx s = true ∧
        ∃ cs, c.plan ctx s = .ok cs ∧ s.commit cs = .ok (c.run ctx s)) := by
  cases hplan : c.plan ctx s with
  | error f => exact .inl ⟨by simp [commitsChanges, hplan], by simp [run, hplan]⟩
  | ok cs =>
      cases hcommit : s.commit cs with
      | error e => exact .inl ⟨by simp [commitsChanges, hplan, hcommit, Except.isOk,
          Except.toBool], by simp [run, hplan, hcommit]⟩
      | ok t =>
          cases cs with
          | nil =>
              rw [commit_nil, Except.ok.injEq] at hcommit
              subst hcommit
              exact .inl ⟨by simp [commitsChanges, hplan], by simp [run, hplan]⟩
          | cons ch rest =>
              refine .inr ⟨by simp [commitsChanges, hplan, hcommit, Except.isOk, Except.toBool],
                _, rfl, ?_⟩
              simp [run, hplan, hcommit]

theorem run_withinWords {c : Command} {ctx : Context} {s : Store} {top : Nat} (hreach : Reachable s)
    (hs : s.WithinWords top) (hfit : c.ArgsFit) :
    (c.run ctx s).WithinWords (top + if c.commitsChanges ctx s then 1 else 0) := by
  rcases c.commitsChanges_cases ctx s with ⟨hno, hkeep⟩ | ⟨hyes, cs, hplan, hcommit⟩
  · rw [hno, hkeep]
    exact hs
  · rw [hyes, if_pos rfl]
    have hk := hreach.consistent.keyed
    exact hs.commit hk (plan_stagedFrom hk hplan).each (plan_writesInWords hk hs hfit hplan)
      (plan_couponsBounded hs.coupons hfit.limitsFit hplan) hcommit

/-- Along a run the bound on versions grows by the number of commands that commit changes, by
induction on the run. -/
theorem runAll_withinWords (steps : List (Command × Context)) {s : Store} {top : Nat}
    (hreach : Reachable s) (hs : s.WithinWords top) (hfit : ∀ st ∈ steps, st.1.ArgsFit) :
    (runAll steps s).WithinWords (top + commitCount steps s) := by
  induction steps generalizing s top with
  | nil => simpa [commitCount, runAll] using hs
  | cons st steps ih =>
      have hnext := ih (hreach.step st.1 st.2) (run_withinWords hreach hs (hfit st List.mem_cons_self))
        fun st' h => hfit st' (List.mem_cons_of_mem _ h)
      rw [Nat.add_assoc] at hnext
      exact hnext

end Command

/-- Along any run from the empty store of commands whose numbers fit their words, with fewer
commits than the greatest 64-bit value: every version is at most the number of commits, every
coupon's count is not negative and its discount positive, every cost estimate is not negative,
and then no operation of the service fails by overflow. -/
theorem runs_within_words_never_overflow (steps : List (Command × Context))
    (hfit : ∀ st ∈ steps, st.1.ArgsFit)
    (hcount : (Command.commitCount steps Store.empty : Int) < wordMax 64) :
    let s := Command.runAll steps Store.empty
    (∀ e x r, s.findRow? e x = some r →
      0 ≤ r.version ∧ r.version ≤ Command.commitCount steps Store.empty) ∧
    (∀ c ∈ s.coupons, 0 ≤ c.usageCount ∧ 0 < c.discountAmount) ∧
    (∀ r ∈ s.reports, ∀ cost ∈ r.estimatedCost, 0 ≤ cost) ∧
    ∀ (c : Command) (ctx : Context), Except.Avoids Failure.IsOverflow (c.operation ctx s) := by
  intro s
  have hs : s.WithinWords (Command.commitCount steps Store.empty) := by
    simpa using Command.runAll_withinWords steps Reachable.empty Store.WithinWords.empty hfit
  have hk : Keyed s := (Reachable.empty.of_runAll steps).consistent.keyed
  refine ⟨fun e x r hr => hs.versions hr, fun c hc => ⟨(hs.coupons c hc).1, ?_⟩,
    fun r hr cost hcost => ?_, fun c ctx => Command.operation_avoids_overflow ctx s hk hs hcount c⟩
  · exact (hs.coupon_inWords (hk.findCoupon?_eq_some hc)).1
  · exact (hs.report_inWords (hk.findReport?_eq_some hr) cost hcost).1

/-- Where the service's checked arithmetic can overflow. Taking a use of a coupon whose count and
limit are 32-bit words runs only below the limit, so the count always has room, and the step
overflows exactly when the coupon is live and below its limit at the greatest 64-bit version.
Along any run from the empty store of commands whose numbers fit their words, with fewer commits
than the greatest 64-bit value, every version is at most the number of commits, every count is
not negative, every discount positive and every cost estimate not negative, and no operation of
the service overflows. On rows of any words: giving a use back overflows in the count exactly at
the least 32-bit count and otherwise only at the greatest version, a discounted view overflows
exactly when the cost less the discount leaves the 64-bit range, and each staged update exactly at
the greatest 64-bit version. -/
theorem overflow_only_at_word_edges :
    (∀ (cs : ChangeSet) (c : Coupon) (today : Date) (now : Instant),
      fitsWord 32 c.usageCount → fitsWord 32 c.maxUsage → fitsWord 64 c.version →
      (c.isExhausted = false → fitsWord 32 (c.usageCount + 1)) ∧
      ∀ o, Coupon.stageApply cs c today now = .error (.overflow o) ↔
        c.isExpired today = false ∧ c.isExhausted = false ∧ c.version = wordMax 64 ∧ o = .add) ∧
    (∀ steps : List (Command × Context), (∀ st ∈ steps, st.1.ArgsFit) →
      (Command.commitCount steps Store.empty : Int) < wordMax 64 →
      let s := Command.runAll steps Store.empty
      (∀ e x r, s.findRow? e x = some r →
        0 ≤ r.version ∧ r.version ≤ Command.commitCount steps Store.empty) ∧
      (∀ c ∈ s.coupons, 0 ≤ c.usageCount ∧ 0 < c.discountAmount) ∧
      (∀ r ∈ s.reports, ∀ cost ∈ r.estimatedCost, 0 ≤ cost) ∧
      ∀ (c : Command) (ctx : Context), Except.Avoids Failure.IsOverflow (c.operation ctx s)) ∧
    (∀ (cs : ChangeSet) (c : Coupon) (now : Instant) (f : Failure),
      fitsWord 32 c.usageCount → fitsWord 64 c.version →
      (Coupon.stageRelease cs c now = .error f ↔
        (c.usageCount = wordMin 32 ∧ f = .overflow .sub) ∨
          (c.usageCount ≠ wordMin 32 ∧ c.version = wordMax 64 ∧ f = .overflow .add))) ∧
    (∀ (v : ReportView) (discount : Int) (e : Overflow),
      v.withDiscount discount = .error e ↔
        ∃ cost, v.estimatedCost = some cost ∧ ¬ fitsWord 64 (cost - discount) ∧ e = .sub) ∧
    (∀ (cs : ChangeSet) (now : Instant) (e : Overflow),
      (∀ o : RepairOrder, fitsWord 64 o.version →
        (cs.updateOrder now o = .error e ↔ o.version = wordMax 64 ∧ e = .add)) ∧
      (∀ c : Coupon, fitsWord 64 c.version →
        (cs.updateCoupon now c = .error e ↔ c.version = wordMax 64 ∧ e = .add)) ∧
      (∀ m : PaymentMethod, fitsWord 64 m.version →
        (cs.updatePaymentMethod now m = .error e ↔ m.version = wordMax 64 ∧ e = .add)) ∧
      (∀ r : TechnicianReport, fitsWord 64 r.version →
        (cs.updateReport r = .error e ↔ r.version = wordMax 64 ∧ e = .add))) :=
  ⟨fun _ _ _ _ hcount hmax hv =>
      ⟨Coupon.fits_succ_of_not_exhausted hcount hmax, fun _ =>
        Coupon.stageApply_eq_overflow_iff hcount hmax hv⟩,
    runs_within_words_never_overflow,
    fun _ _ _ _ hcount hv => Coupon.stageRelease_eq_error_iff hcount hv,
    fun _ _ _ => ReportView.withDiscount_eq_error_iff,
    fun _ _ _ => ⟨fun _ hv => ChangeSet.updateOrder_eq_error_iff hv,
      fun _ hv => ChangeSet.updateCoupon_eq_error_iff hv,
      fun _ hv => ChangeSet.updatePaymentMethod_eq_error_iff hv,
      fun _ hv => ChangeSet.updateReport_eq_error_iff hv⟩⟩

/-- A run that books an order on one coupon, moves it to another and drafts a priced report
on it commits six times, and the store it leaves keeps every version within those six commits
and overflows in no operation. -/
theorem booking_run_stays_within_words :
    let today : Date := ⟨2026, 1, 1⟩
    let admin : Actor := ⟨Uuid.ofNat 7, .admin⟩
    let customer : Actor := ⟨Uuid.ofNat 2, .customer⟩
    let technician : Actor := ⟨Uuid.ofNat 3, .technician⟩
    let at_ (k : Nat) : Context := ⟨today, ⟨k, 0⟩, Uuid.sequential 1 k⟩
    let details (code : String) : OrderDetails :=
      ⟨"Espresso machine", "Used", "Leaks from the group head", ⟨2026, 3, 1⟩,
        Uuid.sequential 1 1, some code⟩
    let steps : List (Command × Context) :=
      [(.createPaymentMethod admin ⟨"Card", .bankTransfer, "Bank", "1234567890", "Ada"⟩, at_ 1),
       (.createCoupon admin ⟨"SPRING10", 500, 3, none⟩, at_ 2),
       (.createCoupon admin ⟨"SUMMER20", 800, 3, none⟩, at_ 3),
       (.createOrder customer ⟨technician.id, details "SPRING10"⟩, at_ 4),
       (.updateOrder customer (Uuid.sequential 1 4) (details "SUMMER20"), at_ 5),
       (.createDraft technician ⟨Uuid.sequential 1 4, { estimatedCost := some 150000 }⟩, at_ 6)]
    let s := Command.runAll steps Store.empty
    Command.commitCount steps Store.empty = 6 ∧
      (∀ e x r, s.findRow? e x = some r → 0 ≤ r.version ∧ r.version ≤ 6) ∧
      ∀ (c : Command) (ctx : Context), Except.Avoids Failure.IsOverflow (c.operation ctx s) := by
  intro today admin customer technician at_ details steps s
  have hcount : Command.commitCount steps Store.empty = 6 := by
    decide +kernel
  have hfit : ∀ st ∈ steps, st.1.ArgsFit := by
    simp [steps, Command.ArgsFit, wordMax]
  obtain ⟨hversions, -, -, havoid⟩ :=
    overflow_only_at_word_edges.2.1 steps hfit (by rw [hcount]; decide)
  refine ⟨hcount, fun e x r hr => ?_, havoid⟩
  have hversion := hversions e x r hr
  rw [hcount] at hversion
  exact_mod_cast hversion

end RepairDesk
