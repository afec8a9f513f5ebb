import RepairDesk.Proofs.Plans
import RepairDesk.Proofs.Consistency

namespace RepairDesk

open Tables Store

namespace ReportStatus

theorem ne_rejected_of_next? {st next : ReportStatus} {a : ReportAction}
    (h : st.next? a = some next) : st ≠ .rejected := by
  rintro rfl
  cases a <;> simp [next?] at h

theorem orderStage_next? {st next : ReportStatus} {a : ReportAction}
    (h : st.next? a = some next) (hstart : a ≠ .startWork) (hcomplete : a ≠ .complete) :
    next.orderStage = st.orderStage := by
  cases st <;> cases a <;> simp [next?] at h <;> first | (subst h; rfl) | contradiction

theorem next?_startWork {st next : ReportStatus} (h : st.next? .startWork = some next) :
    st = .approved ∧ next = .inProgress := by
  cases st <;> simp [next?] at h
  exact ⟨rfl, h.symm⟩

theorem next?_complete {st next : ReportStatus} (h : st.next? .complete = some next) :
    st = .inProgress ∧ next = .completed := by
  cases st <;> simp [next?] at h
  exact ⟨rfl, h.symm⟩

end ReportStatus

variable {s₀ s₁ s₂ : Store} {actor : Actor} {ctx : Context}

theorem report_move_commit (h₁ : Consistent s₁) (hev : Evolves s₀ s₁) {r r' : TechnicianReport}
    (hc : s₁.commit [.updateReport r' r.version] = .ok s₂)
    (hr₀ : s₀.findReport? r.reportId = some r) (hactive : r.status ≠ .rejected)
    (hid : r'.reportId = r.reportId) (hfor : r'.repairOrderId = r.repairOrderId)
    (hby : r'.technicianId = r.technicianId)
    (hstage : r'.status.orderStage = r.status.orderStage) :
    Consistent s₂ ∧ KeepsActivity s₁ s₂ := by
  have hkeyed := h₁.keyed.commit hc
  have hu := commit_singleton_eq_ok.mp hc
  obtain ⟨hv, -, rfl⟩ := apply_updateReport.mp hu
  have hr : r ∈ s₁.reports := (mem_of_findReport? (hev.findReport_eq hr₀ (hid ▸ hv))).1
  refine ⟨⟨hkeyed, ?_, h₁.ledger⟩, KeepsActivity.of_replace hr hactive hfor rfl⟩
  exact h₁.lifecycle.replace_report h₁.keyed.orders h₁.keyed.reports hr hactive hid hfor hby hstage

theorem updateDraft_commit (h₁ : Consistent s₁) (hev : Evolves s₀ s₁) {id : Uuid}
    {f : DraftFields} {p : Plan TechnicianReport}
    (hp : TechnicianReport.updateDraft actor id f ctx s₀ = .ok p)
    (hc : s₁.commit p.changes = .ok s₂) : Consistent s₂ ∧ KeepsActivity s₁ s₂ := by
  obtain ⟨-, r, hfound, -, hdraft, -, -, rfl⟩ := TechnicianReport.updateDraft_eq_ok hp
  have hr₀ : s₀.findReport? r.reportId = some r := (mem_of_findReport? hfound).2 ▸ hfound
  exact report_move_commit h₁ hev (r := r) hc hr₀ (by rw [hdraft]; decide) rfl rfl rfl rfl

theorem submit_commit (h₁ : Consistent s₁) (hev : Evolves s₀ s₁) {id : Uuid}
    {p : Plan TechnicianReport} (hp : TechnicianReport.submit actor id ctx s₀ = .ok p)
    (hc : s₁.commit p.changes = .ok s₂) : Consistent s₂ ∧ KeepsActivity s₁ s₂ := by
  obtain ⟨-, r, r', hfound, -, hmove, -, rfl⟩ := TechnicianReport.submit_eq_ok hp
  obtain ⟨next, hnext, -, rfl⟩ := TechnicianReport.apply_eq_ok.mp hmove
  have hr₀ : s₀.findReport? r.reportId = some r := (mem_of_findReport? hfound).2 ▸ hfound
  exact report_move_commit h₁ hev (r := r) hc hr₀ (ReportStatus.ne_rejected_of_next? hnext)
    rfl rfl rfl (ReportStatus.orderStage_next? hnext (by decide) (by decide))

theorem decide_commit (h₁ : Consistent s₁) (hev : Evolves s₀ s₁) {action : ReportAction}
    (haction : action = .approve ∨ action = .reject) {id : Uuid} {p : Plan TechnicianReport}
    (hp : TechnicianReport.decide action actor id ctx s₀ = .ok p)
    (hc : s₁.commit p.changes = .ok s₂) : Consistent s₂ ∧ KeepsActivity s₁ s₂ := by
  obtain ⟨-, r, -, r', hfound, -, -, hmove, -, rfl⟩ := TechnicianReport.decide_eq_ok hp
  obtain ⟨next, hnext, -, rfl⟩ := TechnicianReport.apply_eq_ok.mp hmove
  have hr₀ : s₀.findReport? r.reportId = some r := (mem_of_findReport? hfound).2 ▸ hfound
  have hstage : next.orderStage = r.status.orderStage := by
    rcases haction with rfl | rfl <;>
      exact ReportStatus.orderStage_next? hnext (by decide) (by decide)
  exact report_move_commit h₁ hev (r := r) hc hr₀ (ReportStatus.ne_rejected_of_next? hnext)
    rfl rfl rfl hstage

theorem deleteDraft_commit (h₁ : Consistent s₁) (hev : Evolves s₀ s₁) {id : Uuid}
    {p : Plan Unit} (hp : TechnicianReport.deleteDraft actor id ctx s₀ = .ok p)
    (hc : s₁.commit p.changes = .ok s₂) : Consistent s₂ ∧ KeepsActivity s₁ s₂ := by
  have hkeyed := h₁.keyed.commit hc
  obtain ⟨-, r, hfound, -, hdraft, rfl⟩ := TechnicianReport.deleteDraft_eq_ok hp
  have hu := commit_singleton_eq_ok.mp hc
  obtain ⟨hv, rfl⟩ := apply_deleteReport.mp hu
  have hr₀ : s₀.findReport? r.reportId = some r := (mem_of_findReport? hfound).2 ▸ hfound
  have hr : r ∈ s₁.reports := (mem_of_findReport? (hev.findReport_eq hr₀ hv)).1
  refine ⟨⟨hkeyed, ?_, h₁.ledger⟩, KeepsActivity.of_filter rfl⟩
  exact h₁.lifecycle.erase_report h₁.keyed.reports hr (by rw [hdraft]; rfl)

theorem work_move_commit (h₁ : Consistent s₁) (hev : Evolves s₀ s₁) {r r' : TechnicianReport}
    {o o' : RepairOrder} {es : ChangeSet}
    (hc : s₁.commit (.updateReport r' r.version :: .updateOrder o' o.version :: es) = .ok s₂)
    (hes : es = [] ∨ ∃ m, es = [.enqueue m])
    (hr₀ : s₀.findReport? r.reportId = some r) (ho₀ : s₀.findOrder? o.id = some o)
    (hactive : r.status ≠ .rejected) (hor : o.id = r.repairOrderId)
    (hid : r'.reportId = r.reportId) (hfor : r'.repairOrderId = r.repairOrderId)
    (hby : r'.technicianId = r.technicianId) (hoid : o'.id = o.id)
    (htech : o'.technicianId = o.technicianId) (hcoupon : o'.couponId = o.couponId)
    (hstage : o'.status = r'.status.orderStage) : Consistent s₂ ∧ KeepsActivity s₁ s₂ := by
  have hkeyed := h₁.keyed.commit hc
  obtain ⟨u, hu, hc⟩ := commit_cons_eq_ok.mp hc
  obtain ⟨t, ht, hc⟩ := commit_cons_eq_ok.mp hc
  obtain ⟨hvr, -, rfl⟩ := apply_updateReport.mp hu
  obtain ⟨hvo, rfl⟩ := apply_updateOrder.mp ht
  -- the outbox event, if any, touches no table of the invariant
  have htables : s₂.orders = replaceBy (·.id) o' s₁.orders ∧
      s₂.reports = replaceBy (·.reportId) r' s₁.reports ∧ s₂.coupons = s₁.coupons := by
    rcases hes with rfl | ⟨m, rfl⟩
    · rw [commit_nil, Except.ok.injEq] at hc
      subst hc
      exact ⟨rfl, rfl, rfl⟩
    · have hw := commit_singleton_eq_ok.mp hc
      obtain rfl := apply_enqueue.mp hw
      exact ⟨rfl, rfl, rfl⟩
  have hr : r ∈ s₁.reports := (mem_of_findReport? (hev.findReport_eq hr₀ (hid ▸ hvr))).1
  have ho : o ∈ s₁.orders := (mem_of_findOrder? (hev.findOrder_eq ho₀ (hoid ▸ hvo))).1
  refine ⟨⟨hkeyed, ?_, ?_⟩, KeepsActivity.of_replace hr hactive hfor htables.2.1⟩
  · rw [htables.1, htables.2.1]
    exact h₁.lifecycle.move h₁.keyed.orders h₁.keyed.reports hr hactive ho hor hid hfor hby hoid
      htech hstage
  · rw [htables.1, htables.2.2]
    exact h₁.ledger.replace_order h₁.keyed.orders ho hoid hcoupon

theorem startWork_commit (h₁ : Consistent s₁) (hev : Evolves s₀ s₁) {id : Uuid}
    {p : Plan TechnicianReport} (hp : TechnicianReport.startWork actor id ctx s₀ = .ok p)
    (hc : s₁.commit p.changes = .ok s₂) : Consistent s₂ ∧ KeepsActivity s₁ s₂ := by
  obtain ⟨-, r, o, r', o', hfound, -, horder, hmove, hadvance, -, -, rfl⟩ :=
    TechnicianReport.startWork_eq_ok hp
  obtain ⟨next, hnext, -, rfl⟩ := TechnicianReport.apply_eq_ok.mp hmove
  obtain ⟨-, rfl⟩ := RepairOrder.advance_eq_ok.mp hadvance
  have hr₀ : s₀.findReport? r.reportId = some r := (mem_of_findReport? hfound).2 ▸ hfound
  have hor := (mem_of_findOrder? horder).2
  exact work_move_commit h₁ hev (r := r) (o := o) hc (.inl rfl) hr₀ (hor ▸ horder)
    (ReportStatus.ne_rejected_of_next? hnext) hor rfl rfl rfl rfl rfl rfl
    (by simp [(ReportStatus.next?_startWork hnext).2, ReportStatus.orderStage])

theorem completeWork_commit (h₁ : Consistent s₁) (hev : Evolves s₀ s₁) {id : Uuid}
    {p : Plan TechnicianReport} (hp : TechnicianReport.completeWork actor id ctx s₀ = .ok p)
    (hc : s₁.commit p.changes = .ok s₂) : Consistent s₂ ∧ KeepsActivity s₁ s₂ := by
  obtain ⟨-, r, o, r', o', hfound, -, horder, hmove, hadvance, -, -, rfl⟩ :=
    TechnicianReport.completeWork_eq_ok hp
  obtain ⟨next, hnext, -, rfl⟩ := TechnicianReport.apply_eq_ok.mp hmove
  obtain ⟨-, rfl⟩ := RepairOrder.advance_eq_ok.mp hadvance
  have hr₀ : s₀.findReport? r.reportId = some r := (mem_of_findReport? hfound).2 ▸ hfound
  have hor := (mem_of_findOrder? horder).2
  exact work_move_commit h₁ hev (r := r) (o := o) hc (.inr ⟨_, rfl⟩) hr₀ (hor ▸ horder)
    (ReportStatus.ne_rejected_of_next? hnext) hor rfl rfl rfl rfl rfl rfl
    (by simp [(ReportStatus.next?_complete hnext).2, ReportStatus.orderStage])

theorem createDraft_commit (h₁ : Consistent s₁) (hev : Evolves s₀ s₁) {req : DraftRequest}
    {p : Plan TechnicianReport} (hp : TechnicianReport.createDraft actor req ctx s₀ = .ok p)
    (hc : s₁.commit p.changes = .ok s₂) : Consistent s₂ ∧ KeepsActivity s₁ s₂ := by
  have hkeyed := h₁.keyed.commit hc
  obtain ⟨-, o, hfound, htech, hpending, hfree, -, -, rfl⟩ :=
    TechnicianReport.createDraft_eq_ok hp
  obtain ⟨u, hu, hc⟩ := commit_cons_eq_ok.mp hc
  have ht := commit_singleton_eq_ok.mp hc
  obtain ⟨hv, rfl⟩ := apply_updateOrder.mp hu
  obtain ⟨-, -, rfl⟩ := apply_insertReport.mp ht
  -- the order is the row read: no active report, awaiting confirmation
  have h₀o : s₀.findOrder? o.id = some o := (mem_of_findOrder? hfound).2 ▸ hfound
  have h₁o : s₁.findOrder? o.id = some o := hev.findOrder_eq h₀o hv
  have ho : o ∈ s₁.orders := (mem_of_findOrder? h₁o).1
  have hfree₁ := hev.no_active h₀o h₁o ((mem_of_findOrder? hfound).2 ▸ hfree)
  have hko := h₁.keyed.orders
  refine ⟨⟨hkeyed, ?_, ?_⟩, ?_⟩
  · refine Lifecycle.append_report ?_ (nodup_replaceBy _ hko) (mem_replaceBy_self _ ho rfl)
      (hasActiveReport_eq_false.mp hfree₁) ?_ ?_ ?_
    · exact h₁.lifecycle.replace_order hko ho rfl rfl rfl
    · simp [TechnicianReport.draft]
    · simp [TechnicianReport.draft, htech]
    · simp [TechnicianReport.draft, hpending, ReportStatus.orderStage]
  · exact h₁.ledger.replace_order hko ho rfl rfl
  · refine KeepsActivity.of_append rfl fun o₁ h₁o₁ h₂o₁ => ?_
    simp only [TechnicianReport.merge_repairOrderId, TechnicianReport.draft, h₁o,
      Option.some_inj] at h₁o₁ h₂o₁
    subst h₁o₁
    -- after the commit the order's key finds the rewritten order
    simp only [findOrder?] at h₁o h₂o₁
    rw [find?_replaceBy_eq _ (by simp [h₁o])] at h₂o₁
    simp only [ite_true, Option.some_inj] at h₂o₁
    have hversion := congrArg RepairOrder.version h₂o₁
    dsimp only at hversion
    omega

end RepairDesk
