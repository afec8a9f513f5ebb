import RepairDesk.Proofs.Keys

namespace RepairDesk

open Tables Store

def ReportStatus.orderStage : ReportStatus → OrderStatus
  | .inProgress => .inProgress
  | .completed => .completed
  | _ => .pendingConfirmation

namespace ReportStatus

@[simp] theorem orderStage_eq_inProgress {st : ReportStatus} :
    st.orderStage = .inProgress ↔ st = .inProgress := by
  cases st <;> simp [orderStage]

@[simp] theorem orderStage_eq_completed {st : ReportStatus} :
    st.orderStage = .completed ↔ st = .completed := by
  cases st <;> simp [orderStage]

@[simp] theorem orderStage_eq_pendingConfirmation {st : ReportStatus} :
    st.orderStage = .pendingConfirmation ↔
      st = .draft ∨ st = .submitted ∨ st = .approved ∨ st = .rejected := by
  cases st <;> simp [orderStage]

end ReportStatus

/-- The lifecycle invariant of an order table and a report table. -/
structure Lifecycle (os : List RepairOrder) (rs : List TechnicianReport) : Prop where
  /-- Two active reports of one order are one report. -/
  single : ∀ r ∈ rs, ∀ q ∈ rs, r.repairOrderId = q.repairOrderId → r.status ≠ .rejected →
    q.status ≠ .rejected → r.reportId = q.reportId
  /-- An active report is about a stored order, and by that order's technician. -/
  assigned : ∀ r ∈ rs, r.status ≠ .rejected →
    ∃ o ∈ os, o.id = r.repairOrderId ∧ o.technicianId = r.technicianId
  /-- An order is at the stage of its active report. -/
  mirrors : ∀ r ∈ rs, r.status ≠ .rejected → ∀ o ∈ os, o.id = r.repairOrderId →
    o.status = r.status.orderStage
  /-- An order past confirmation has an active report. -/
  idle : ∀ o ∈ os, o.status ≠ .pendingConfirmation →
    ∃ r ∈ rs, r.repairOrderId = o.id ∧ r.status ≠ .rejected

namespace Lifecycle

variable {os : List RepairOrder} {rs : List TechnicianReport}

theorem empty : Lifecycle [] [] where
  single := by simp
  assigned := by simp
  mirrors := by simp
  idle := by simp

theorem counterpart {o o' : RepairOrder} (hko : (os.map (·.id)).Nodup) (ho : o ∈ os)
    (hoid : o'.id = o.id) (htech : o'.technicianId = o.technicianId) {o₀ : RepairOrder}
    (ho₀ : o₀ ∈ os) : ∃ o₁ ∈ replaceBy (·.id) o' os, o₁.id = o₀.id ∧
      o₁.technicianId = o₀.technicianId := by
  by_cases hkey : o₀.id = o'.id
  · have hsame : o₀ = o := eq_of_key_eq _ hko ho₀ ho (hkey.trans hoid)
    exact ⟨o', mem_replaceBy_self _ ho₀ hkey, hkey.symm, by rw [htech, hsame]⟩
  · exact ⟨o₀, mem_replaceBy_of_key_ne _ ho₀ hkey, rfl, rfl⟩

theorem move (h : Lifecycle os rs) (hko : (os.map (·.id)).Nodup)
    (hkr : (rs.map (·.reportId)).Nodup) {r r' : TechnicianReport} {o o' : RepairOrder}
    (hr : r ∈ rs) (hactive : r.status ≠ .rejected) (ho : o ∈ os) (hor : o.id = r.repairOrderId)
    (hid : r'.reportId = r.reportId) (hfor : r'.repairOrderId = r.repairOrderId)
    (hby : r'.technicianId = r.technicianId) (hoid : o'.id = o.id)
    (htech : o'.technicianId = o.technicianId) (hstage : o'.status = r'.status.orderStage) :
    Lifecycle (replaceBy (·.id) o' os) (replaceBy (·.reportId) r' rs) := by
  have hsrc : ∀ q ∈ replaceBy (·.reportId) r' rs,
      (q ∈ rs ∧ q.reportId ≠ r.reportId) ∨ q = r' := by
    intro q hq
    rcases (mem_replaceBy _).mp hq with ⟨hq, hne⟩ | ⟨rfl, _⟩
    · exact .inl ⟨hq, hid ▸ hne⟩
    · exact .inr rfl
  have hr' : r' ∈ replaceBy (·.reportId) r' rs := mem_replaceBy_self _ hr hid.symm
  refine ⟨?_, ?_, ?_, ?_⟩
  · intro q₁ hq₁ q₂ hq₂ hsame ha₁ ha₂
    rcases hsrc q₁ hq₁ with ⟨hold₁, -⟩ | rfl <;> rcases hsrc q₂ hq₂ with ⟨hold₂, -⟩ | rfl
    · exact h.single q₁ hold₁ q₂ hold₂ hsame ha₁ ha₂
    · rw [hid]
      exact h.single q₁ hold₁ r hr (hsame.trans hfor) ha₁ hactive
    · rw [hid]
      exact h.single r hr q₂ hold₂ (hfor.symm.trans hsame) hactive ha₂
    · rfl
  · intro q hq ha
    rcases hsrc q hq with ⟨hold, -⟩ | rfl
    · obtain ⟨o₀, ho₀, hid₀, htech₀⟩ := h.assigned q hold ha
      obtain ⟨o₁, ho₁, hid₁, htech₁⟩ := counterpart hko ho hoid htech ho₀
      exact ⟨o₁, ho₁, hid₁.trans hid₀, htech₁.trans htech₀⟩
    · obtain ⟨o₀, ho₀, hid₀, htech₀⟩ := h.assigned r hr hactive
      obtain ⟨o₁, ho₁, hid₁, htech₁⟩ := counterpart hko ho hoid htech ho₀
      exact ⟨o₁, ho₁, hid₁.trans (hid₀.trans hfor.symm), htech₁.trans (htech₀.trans hby.symm)⟩
  · intro q hq ha o₂ ho₂ hid₂
    rcases hsrc q hq with ⟨hold, hne⟩ | rfl
    · -- an old active report is about another order than the moved one
      have hqo : q.repairOrderId ≠ o.id := fun heq =>
        hne (h.single q hold r hr (heq.trans hor) ha hactive)
      rcases (mem_replaceBy _).mp ho₂ with ⟨hold₂, -⟩ | ⟨rfl, -⟩
      · exact h.mirrors q hold ha o₂ hold₂ hid₂
      · exact absurd (hid₂.symm.trans hoid) hqo
    · rcases (mem_replaceBy _).mp ho₂ with ⟨-, hne⟩ | ⟨rfl, -⟩
      · exact absurd (hid₂.trans (hfor.trans (hor.symm.trans hoid.symm))) hne
      · exact hstage
  · intro o₂ ho₂ hpend
    rcases (mem_replaceBy _).mp ho₂ with ⟨hold, hne⟩ | ⟨rfl, -⟩
    · obtain ⟨q, hq, hqid, ha⟩ := h.idle o₂ hold hpend
      have hqr : q.reportId ≠ r.reportId := by
        intro heq
        have hsame : q = r := eq_of_key_eq _ hkr hq hr heq
        subst hsame
        exact hne (hqid.symm.trans (hor.symm.trans hoid.symm))
      exact ⟨q, mem_replaceBy_of_key_ne _ hq (hid ▸ hqr), hqid, ha⟩
    · have ha : r'.status ≠ .rejected := by
        intro hrej
        rw [hstage, hrej] at hpend
        exact hpend rfl
      exact ⟨r', hr', hfor.trans (hor.symm.trans hoid.symm), ha⟩

theorem replace_report (h : Lifecycle os rs) (hko : (os.map (·.id)).Nodup)
    (hkr : (rs.map (·.reportId)).Nodup) {r r' : TechnicianReport} (hr : r ∈ rs)
    (hactive : r.status ≠ .rejected) (hid : r'.reportId = r.reportId)
    (hfor : r'.repairOrderId = r.repairOrderId) (hby : r'.technicianId = r.technicianId)
    (hstage : r'.status.orderStage = r.status.orderStage) :
    Lifecycle os (replaceBy (·.reportId) r' rs) := by
  obtain ⟨o, ho, hor, -⟩ := h.assigned r hr hactive
  have hstatus : o.status = r'.status.orderStage := by
    rw [hstage]
    exact h.mirrors r hr hactive o ho hor
  have hmove := h.move hko hkr hr hactive ho hor hid hfor hby rfl rfl hstatus
  rwa [replaceBy_of_mem _ hko ho] at hmove

theorem replace_order (h : Lifecycle os rs) (hko : (os.map (·.id)).Nodup) {o o' : RepairOrder}
    (ho : o ∈ os) (hoid : o'.id = o.id) (htech : o'.technicianId = o.technicianId)
    (hstatus : o'.status = o.status) : Lifecycle (replaceBy (·.id) o' os) rs := by
  refine ⟨h.single, ?_, ?_, ?_⟩
  · intro q hq ha
    obtain ⟨o₀, ho₀, hid₀, htech₀⟩ := h.assigned q hq ha
    obtain ⟨o₁, ho₁, hid₁, htech₁⟩ := counterpart hko ho hoid htech ho₀
    exact ⟨o₁, ho₁, hid₁.trans hid₀, htech₁.trans htech₀⟩
  · intro q hq ha o₂ ho₂ hid₂
    rcases (mem_replaceBy _).mp ho₂ with ⟨hold, -⟩ | ⟨rfl, -⟩
    · exact h.mirrors q hq ha o₂ hold hid₂
    · rw [hstatus]
      exact h.mirrors q hq ha o ho (hoid.symm.trans hid₂)
  · intro o₂ ho₂ hpend
    rcases (mem_replaceBy _).mp ho₂ with ⟨hold, -⟩ | ⟨rfl, -⟩
    · exact h.idle o₂ hold hpend
    · obtain ⟨q, hq, hqid, ha⟩ := h.idle o ho (hstatus ▸ hpend)
      exact ⟨q, hq, hqid.trans hoid.symm, ha⟩

theorem append_report (h : Lifecycle os rs) (hko : (os.map (·.id)).Nodup) {o : RepairOrder}
    {r : TechnicianReport} (ho : o ∈ os)
    (hfree : ∀ q ∈ rs, q.repairOrderId = o.id → q.status = .rejected)
    (hfor : r.repairOrderId = o.id) (hby : r.technicianId = o.technicianId)
    (hstage : o.status = r.status.orderStage) : Lifecycle os (rs ++ [r]) := by
  have hsrc : ∀ q ∈ rs ++ [r], q ∈ rs ∨ q = r := by
    intro q hq
    simpa using hq
  refine ⟨?_, ?_, ?_, ?_⟩
  · intro q₁ hq₁ q₂ hq₂ hsame ha₁ ha₂
    rcases hsrc q₁ hq₁ with hold₁ | rfl <;> rcases hsrc q₂ hq₂ with hold₂ | rfl
    · exact h.single q₁ hold₁ q₂ hold₂ hsame ha₁ ha₂
    · exact absurd (hfree q₁ hold₁ (hsame.trans hfor)) ha₁
    · exact absurd (hfree q₂ hold₂ (hsame.symm.trans hfor)) ha₂
    · rfl
  · intro q hq ha
    rcases hsrc q hq with hold | rfl
    · exact h.assigned q hold ha
    · exact ⟨o, ho, hfor.symm, hby.symm⟩
  · intro q hq ha o₂ ho₂ hid₂
    rcases hsrc q hq with hold | rfl
    · exact h.mirrors q hold ha o₂ ho₂ hid₂
    · have hsame : o₂ = o := eq_of_key_eq _ hko ho₂ ho (hid₂.trans hfor)
      rw [hsame, hstage]
  · intro o₂ ho₂ hpend
    obtain ⟨q, hq, hqid, ha⟩ := h.idle o₂ ho₂ hpend
    exact ⟨q, List.mem_append_left _ hq, hqid, ha⟩

theorem append_order (h : Lifecycle os rs) {o : RepairOrder} (hfresh : ∀ q ∈ os, q.id ≠ o.id)
    (hpending : o.status = .pendingConfirmation) : Lifecycle (os ++ [o]) rs := by
  have hsrc : ∀ q ∈ os ++ [o], q ∈ os ∨ q = o := by
    intro q hq
    simpa using hq
  refine ⟨h.single, ?_, ?_, ?_⟩
  · intro q hq ha
    obtain ⟨o₀, ho₀, hid₀, htech₀⟩ := h.assigned q hq ha
    exact ⟨o₀, List.mem_append_left _ ho₀, hid₀, htech₀⟩
  · intro q hq ha o₂ ho₂ hid₂
    rcases hsrc o₂ ho₂ with hold | rfl
    · exact h.mirrors q hq ha o₂ hold hid₂
    · -- no active report can name a key no stored order has
      obtain ⟨o₀, ho₀, hid₀, -⟩ := h.assigned q hq ha
      exact absurd (hid₀.trans hid₂.symm) (hfresh o₀ ho₀)
  · intro o₂ ho₂ hpend
    rcases hsrc o₂ ho₂ with hold | rfl
    · exact h.idle o₂ hold hpend
    · exact absurd hpending hpend

theorem erase_order (h : Lifecycle os rs) {x : Uuid}
    (hfree : ∀ q ∈ rs, q.repairOrderId = x → q.status = .rejected) :
    Lifecycle (os.filter (·.id != x)) rs := by
  refine ⟨h.single, ?_, ?_, ?_⟩
  · intro q hq ha
    obtain ⟨o₀, ho₀, hid₀, htech₀⟩ := h.assigned q hq ha
    have hne : o₀.id ≠ x := fun heq => ha (hfree q hq (hid₀.symm.trans heq))
    exact ⟨o₀, List.mem_filter.mpr ⟨ho₀, by simpa using hne⟩, hid₀, htech₀⟩
  · intro q hq ha o₂ ho₂ hid₂
    exact h.mirrors q hq ha o₂ (List.mem_filter.mp ho₂).1 hid₂
  · intro o₂ ho₂ hpend
    exact h.idle o₂ (List.mem_filter.mp ho₂).1 hpend

theorem erase_report (h : Lifecycle os rs) (hkr : (rs.map (·.reportId)).Nodup)
    {r : TechnicianReport} (hr : r ∈ rs) (hstage : r.status.orderStage = .pendingConfirmation) :
    Lifecycle os (rs.filter (·.reportId != r.reportId)) := by
  have hold : ∀ q ∈ rs.filter (·.reportId != r.reportId), q ∈ rs := fun q hq =>
    (List.mem_filter.mp hq).1
  refine ⟨?_, ?_, ?_, ?_⟩
  · intro q₁ hq₁ q₂ hq₂
    exact h.single q₁ (hold q₁ hq₁) q₂ (hold q₂ hq₂)
  · intro q hq
    exact h.assigned q (hold q hq)
  · intro q hq
    exact h.mirrors q (hold q hq)
  · intro o₂ ho₂ hpend
    obtain ⟨q, hq, hqid, ha⟩ := h.idle o₂ ho₂ hpend
    have hne : q.reportId ≠ r.reportId := by
      intro heq
      have hsame : q = r := eq_of_key_eq _ hkr hq hr heq
      subst hsame
      exact hpend ((h.mirrors q hq ha o₂ ho₂ hqid.symm).trans hstage)
    exact ⟨q, List.mem_filter.mpr ⟨hq, by simpa using hne⟩, hqid, ha⟩

theorem countP_active_le_one (h : Lifecycle os rs) (hkr : (rs.map (·.reportId)).Nodup)
    (x : Uuid) : rs.countP (fun r => r.repairOrderId == x && r.status != .rejected) ≤ 1 := by
  rw [List.countP_eq_length_filter]
  have hsub := (List.filter_sublist (p := fun r => r.repairOrderId == x && r.status != .rejected)
    (l := rs))
  have hnodup := (hsub.map (·.reportId)).nodup hkr
  match hl : rs.filter (fun r => r.repairOrderId == x && r.status != .rejected) with
  | [] => rw [hl]; simp
  | [_] => rw [hl]; simp
  | a :: b :: rest =>
      -- two active reports of one order share a key, which unique keys forbid
      have ha : a ∈ rs.filter (fun r => r.repairOrderId == x && r.status != .rejected) := by
        simp [hl]
      have hb : b ∈ rs.filter (fun r => r.repairOrderId == x && r.status != .rejected) := by
        simp [hl]
      simp only [List.mem_filter, Bool.and_eq_true, beq_iff_eq, bne_iff_ne, ne_eq] at ha hb
      have hsame := h.single a ha.1 b hb.1 (ha.2.1.trans hb.2.1.symm) ha.2.2 hb.2.2
      rw [hl] at hnodup
      simp only [List.map_cons, List.nodup_cons, List.mem_cons, not_or] at hnodup
      exact absurd hsame hnodup.1.1

/-- An order is in progress, or completed, exactly when a report for it is. -/
theorem stage_iff (h : Lifecycle os rs) {o : RepairOrder} (ho : o ∈ os) {st : ReportStatus}
    (hst : st = .inProgress ∨ st = .completed) :
    o.status = st.orderStage ↔ ∃ r ∈ rs, r.repairOrderId = o.id ∧ r.status = st := by
  have hnonrejected : st ≠ .rejected := by rcases hst with rfl | rfl <;> decide
  constructor
  · intro hstage
    have hmoved : o.status ≠ .pendingConfirmation := by
      rw [hstage]
      rcases hst with rfl | rfl <;> decide
    obtain ⟨r, hr, hid, hactive⟩ := h.idle o ho hmoved
    have hmirror := h.mirrors r hr hactive o ho hid.symm
    rw [hstage] at hmirror
    refine ⟨r, hr, hid, ?_⟩
    rcases hst with rfl | rfl
    · exact (ReportStatus.orderStage_eq_inProgress.mp hmirror.symm)
    · exact (ReportStatus.orderStage_eq_completed.mp hmirror.symm)
  · rintro ⟨r, hr, hid, rfl⟩
    exact h.mirrors r hr hnonrejected o ho hid.symm

theorem pending_iff (h : Lifecycle os rs) {o : RepairOrder} (ho : o ∈ os) :
    o.status = .pendingConfirmation ↔
      (∀ r ∈ rs, r.repairOrderId = o.id → r.status = .rejected) ∨
      ∃ r ∈ rs, r.repairOrderId = o.id ∧
        (r.status = .draft ∨ r.status = .submitted ∨ r.status = .approved) := by
  constructor
  · intro hpending
    by_cases hall : ∀ r ∈ rs, r.repairOrderId = o.id → r.status = .rejected
    · exact .inl hall
    · push Not at hall
      obtain ⟨r, hr, hid, hactive⟩ := hall
      have hmirror := h.mirrors r hr hactive o ho hid.symm
      rw [hpending, eq_comm, ReportStatus.orderStage_eq_pendingConfirmation] at hmirror
      exact .inr ⟨r, hr, hid, by tauto⟩
  · rintro (hall | ⟨r, hr, hid, hst⟩)
    · by_contra hmoved
      obtain ⟨r, hr, hid, hactive⟩ := h.idle o ho hmoved
      exact hactive (hall r hr hid)
    · have hactive : r.status ≠ .rejected := by rcases hst with h | h | h <;> simp [h]
      rw [h.mirrors r hr hactive o ho hid.symm, ReportStatus.orderStage_eq_pendingConfirmation]
      tauto

end Lifecycle

end RepairDesk
