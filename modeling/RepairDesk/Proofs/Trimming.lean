import Mathlib.Data.List.DropRight
import RepairDesk.Text.Blank

namespace RepairDesk.Text

/-- `cs` is `core` with blanks before and after it. -/
def Padded (core cs : List Char) : Prop :=
  ∃ before after, (∀ c ∈ before, isBlank c) ∧ (∀ c ∈ after, isBlank c) ∧
    cs = before ++ core ++ after

/-- Neither end of `cs` is blank. -/
def Unpadded (cs : List Char) : Prop :=
  (∀ c ∈ cs.head?, isBlank c = false) ∧ (∀ c ∈ cs.getLast?, isBlank c = false)

theorem padded_refl (cs : List Char) : Padded cs cs :=
  ⟨[], [], by simp, by simp, by simp⟩

theorem unpadded_of_forall {cs : List Char} (h : ∀ c ∈ cs, isBlank c = false) : Unpadded cs :=
  ⟨fun c hc => h c (List.mem_of_mem_head? hc), fun c hc => h c (List.mem_of_mem_getLast? hc)⟩

theorem unpadded_map_iff {f : Char → Char} (hf : ∀ c, isBlank (f c) = isBlank c)
    {cs : List Char} : Unpadded (cs.map f) ↔ Unpadded cs := by
  simp [Unpadded, List.head?_map, List.getLast?_map, hf]

theorem isBlank_eq_false_of_graphicAscii (c : Char) (low : 0x21 ≤ c.toNat)
    (high : c.toNat < 0x7F) : isBlank c = false := by
  simp only [isBlank, Bool.or_eq_false_iff, Bool.and_eq_false_iff, decide_eq_false_iff_not,
    beq_eq_false_iff_ne]
  omega

theorem trimBlankList_eq_rdropWhile (cs : List Char) :
    trimBlankList cs = (cs.dropWhile isBlank).rdropWhile isBlank := rfl

/-! ### The trimmed form -/

theorem padded_trimBlankList (cs : List Char) : Padded (trimBlankList cs) cs := by
  refine ⟨cs.takeWhile isBlank, (cs.dropWhile isBlank).rtakeWhile isBlank,
    fun c hc => List.mem_takeWhile_imp hc, fun c hc => List.mem_rtakeWhile_imp hc, ?_⟩
  rw [List.append_assoc, trimBlankList_eq_rdropWhile, List.rdropWhile_append_rtakeWhile,
    List.takeWhile_append_dropWhile]

theorem unpadded_trimBlankList (cs : List Char) : Unpadded (trimBlankList cs) := by
  rw [trimBlankList_eq_rdropWhile]
  constructor
  · -- the first character kept is the first one `dropWhile` stopped at
    intro c hc
    have hne : (cs.dropWhile isBlank).rdropWhile isBlank ≠ [] := by rintro h; simp [h] at hc
    rw [List.head?_eq_some_head hne, Option.mem_some_iff] at hc
    subst hc
    rw [List.IsPrefix.head (List.rdropWhile_prefix isBlank _) hne]
    exact List.head_dropWhile_not isBlank _
  · intro c hc
    have hne : (cs.dropWhile isBlank).rdropWhile isBlank ≠ [] := by rintro h; simp [h] at hc
    rw [List.getLast?_eq_some_getLast hne, Option.mem_some_iff] at hc
    subst hc
    simpa using List.rdropWhile_last_not isBlank _ hne

theorem rdropWhile_append_of_blank {cs after : List Char} (h : ∀ c ∈ after, isBlank c) :
    (cs ++ after).rdropWhile isBlank = cs.rdropWhile isBlank := by
  rw [List.rdropWhile, List.rdropWhile, List.reverse_append,
    List.dropWhile_append_of_pos (by simpa using h)]

theorem trimBlankList_of_padded {core cs : List Char} (hpad : Padded core cs)
    (hcore : Unpadded core) : trimBlankList cs = core := by
  obtain ⟨before, after, hbefore, hafter, rfl⟩ := hpad
  rw [trimBlankList_eq_rdropWhile, List.append_assoc, List.dropWhile_append_of_pos hbefore]
  cases core with
  | nil => simp [List.dropWhile_eq_nil_iff.2 hafter]
  | cons c rest =>
    -- the core's first character stops the front drop, its last one the back drop
    have hc : isBlank c = false := hcore.1 c rfl
    rw [List.cons_append, List.dropWhile_cons_of_neg (by simp [hc]), ← List.cons_append,
      rdropWhile_append_of_blank hafter, List.rdropWhile_eq_self_iff]
    intro hne
    simpa using hcore.2 _ (List.getLast?_eq_some_getLast hne)

/-- The trimmed form is the one core with blanks around it whose ends are not blank. -/
theorem trimBlankList_eq_iff {cs core : List Char} :
    trimBlankList cs = core ↔ Padded core cs ∧ Unpadded core := by
  constructor
  · rintro rfl
    exact ⟨padded_trimBlankList cs, unpadded_trimBlankList cs⟩
  · rintro ⟨hpad, hcore⟩
    exact trimBlankList_of_padded hpad hcore

/-! ### Consequences -/

theorem trimBlankList_trimBlankList (cs : List Char) :
    trimBlankList (trimBlankList cs) = trimBlankList cs :=
  trimBlankList_of_padded (padded_refl _) (unpadded_trimBlankList cs)

theorem trimBlank_trimBlank (s : String) : trimBlank (trimBlank s) = trimBlank s := by
  simp only [trimBlank, String.toList_ofList, trimBlankList_trimBlankList]

theorem trimBlank_of_unpadded {s : String} (h : Unpadded s.toList) : trimBlank s = s := by
  rw [trimBlank, trimBlankList_of_padded (padded_refl _) h, String.ofList_toList]

theorem trimBlankList_pad {before cs after : List Char} (hbefore : ∀ c ∈ before, isBlank c)
    (hafter : ∀ c ∈ after, isBlank c) :
    trimBlankList (before ++ cs ++ after) = trimBlankList cs := by
  obtain ⟨front, back, hfront, hback, hcs⟩ := padded_trimBlankList cs
  refine trimBlankList_of_padded ⟨before ++ front, back ++ after, ?_, ?_, ?_⟩
    (unpadded_trimBlankList cs)
  · simp only [List.mem_append]
    rintro c (hc | hc)
    · exact hbefore c hc
    · exact hfront c hc
  · simp only [List.mem_append]
    rintro c (hc | hc)
    · exact hback c hc
    · exact hafter c hc
  · conv_lhs => rw [hcs]
    simp

theorem trimBlank_pad {before s after : String} (hbefore : isBlankText before = true)
    (hafter : isBlankText after = true) : trimBlank (before ++ s ++ after) = trimBlank s := by
  simp only [isBlankText, List.all_eq_true] at hbefore hafter
  simp only [trimBlank, String.toList_append, trimBlankList_pad hbefore hafter]

theorem trimBlankList_map {f : Char → Char} (hf : ∀ c, isBlank (f c) = isBlank c)
    (cs : List Char) : trimBlankList (cs.map f) = (trimBlankList cs).map f := by
  have hblank : isBlank ∘ f = isBlank := funext hf
  simp only [trimBlankList_eq_rdropWhile, List.rdropWhile, List.dropWhile_map, hblank,
    ← List.map_reverse]

end RepairDesk.Text
