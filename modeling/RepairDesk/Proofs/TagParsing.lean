import Mathlib
import RepairDesk.Proofs.Trimming
import RepairDesk.Report.Basic

namespace RepairDesk

namespace Text

/-! ### ASCII case -/

def EqIgnoreAsciiCase (s t : String) : Prop :=
  s.toList.map Char.toLower = t.toList.map Char.toLower

instance (s t : String) : Decidable (EqIgnoreAsciiCase s t) :=
  inferInstanceAs (Decidable (_ = _))

theorem upperAscii_eq_map_toUpper (s : String) :
    upperAscii s = String.ofList (s.toList.map Char.toUpper) := by
  unfold upperAscii
  congr 2
  funext c
  by_cases hl : c.isLower
  · have hrange : ('a' ≤ c && c ≤ 'z') = true := by
      simpa [Char.isLower, Char.le_def] using hl
    rw [if_pos hrange, Char.toUpper_eq_of_isLower hl]
  · have hrange : ('a' ≤ c && c ≤ 'z') = false := by
      simpa [Char.isLower, Char.le_def] using hl
    rw [if_neg (by simp [hrange]), Char.toUpper_eq_of_not_isLower hl]

theorem map_toUpper_eq_map_toLower_toUpper (cs : List Char) :
    cs.map Char.toUpper = (cs.map Char.toLower).map Char.toUpper := by
  simp [List.map_map, Function.comp_def]

theorem upperAscii_eq_of_eqIgnoreAsciiCase {s t : String} (h : EqIgnoreAsciiCase s t) :
    upperAscii s = upperAscii t := by
  rw [upperAscii_eq_map_toUpper, upperAscii_eq_map_toUpper, map_toUpper_eq_map_toLower_toUpper,
    h, ← map_toUpper_eq_map_toLower_toUpper]

theorem eqIgnoreAsciiCase_of_upperAscii_eq {s u : String} (h : upperAscii s = u) :
    EqIgnoreAsciiCase s u := by
  have hmap : u.toList = s.toList.map Char.toUpper := by
    rw [← h, upperAscii_eq_map_toUpper, String.toList_ofList]
  simp [EqIgnoreAsciiCase, hmap, List.map_map, Function.comp_def]

theorem isBlank_eq_false_of_isAlpha {c : Char} (h : c.isAlpha) : isBlank c = false := by
  have hrange : 65 ≤ c.toNat ∧ c.toNat ≤ 90 ∨ 97 ≤ c.toNat ∧ c.toNat ≤ 122 := by
    simpa [Char.isAlpha, Char.isUpper, Char.isLower, UInt32.le_iff_toNat_le] using h
  exact isBlank_eq_false_of_graphicAscii c (by omega) (by omega)

theorem isBlank_toLower (c : Char) : isBlank c.toLower = isBlank c := by
  by_cases hu : c.isUpper
  · have halpha : c.isAlpha := by simp [Char.isAlpha, hu]
    rw [isBlank_eq_false_of_isAlpha halpha, isBlank_eq_false_of_isAlpha (by simpa using halpha)]
  · rw [Char.toLower_eq_of_not_isUpper hu]

theorem eqIgnoreAsciiCase_trimBlank {s t : String} (h : EqIgnoreAsciiCase s t) :
    EqIgnoreAsciiCase (trimBlank s) (trimBlank t) := by
  simp only [EqIgnoreAsciiCase, trimBlank, String.toList_ofList,
    ← trimBlankList_map isBlank_toLower] at h ⊢
  rw [h]

/-! ### The normal form -/

/-- `s` spells `u`: it is `u`, up to the case of ASCII letters, with blanks around it. -/
def Spells (s u : String) : Prop :=
  ∃ core, Padded core s.toList ∧ EqIgnoreAsciiCase (String.ofList core) u

theorem upperAscii_trimBlank_pad {before s after : String} (hbefore : isBlankText before = true)
    (hafter : isBlankText after = true) :
    upperAscii (trimBlank (before ++ s ++ after)) = upperAscii (trimBlank s) := by
  rw [trimBlank_pad hbefore hafter]

theorem upperAscii_trimBlank_congr {s t : String} (h : EqIgnoreAsciiCase s t) :
    upperAscii (trimBlank s) = upperAscii (trimBlank t) :=
  upperAscii_eq_of_eqIgnoreAsciiCase (eqIgnoreAsciiCase_trimBlank h)

theorem upperAscii_trimBlank_eq_iff_spells {s u : String} (hu : upperAscii u = u)
    (hun : Unpadded u.toList) : upperAscii (trimBlank s) = u ↔ Spells s u := by
  constructor
  · intro h
    exact ⟨trimBlankList s.toList, padded_trimBlankList _, eqIgnoreAsciiCase_of_upperAscii_eq h⟩
  · rintro ⟨core, hpad, hcase⟩
    -- a core that lower-cases like `u` has ends as unpadded as `u`'s
    have hcore : Unpadded core := by
      have hlower := (unpadded_map_iff isBlank_toLower).2 hun
      rw [← hcase, String.toList_ofList] at hlower
      exact (unpadded_map_iff isBlank_toLower).1 hlower
    have htrim : trimBlank s = String.ofList core := by
      rw [trimBlank, trimBlankList_of_padded hpad hcore]
    rw [htrim, upperAscii_eq_of_eqIgnoreAsciiCase hcase, hu]

end Text

/-! ### Lookup by code -/

section Codes

variable {α : Type} {l : List α} {code : α → String} {s : String}

theorem find?_code_eq_some_iff (hinj : Function.Injective code) {t : α} (ht : t ∈ l) :
    l.find? (fun x => code x == s) = some t ↔ code t = s := by
  constructor
  · intro h
    simpa using List.find?_some h
  · intro hs
    obtain ⟨x, hx⟩ : ∃ x, l.find? (fun x => code x == s) = some x :=
      Option.isSome_iff_exists.1 (List.find?_isSome.2 ⟨t, ht, by simpa using hs⟩)
    have hxs : code x = s := by simpa using List.find?_some hx
    rw [hx, hinj (hxs.trans hs.symm)]

theorem find?_code_eq_none_iff (hall : ∀ t, t ∈ l) :
    l.find? (fun x => code x == s) = none ↔ ∀ t, code t ≠ s := by
  simp [List.find?_eq_none, hall]

end Codes

/-! ### Stages -/

namespace ReportStatus

theorem mem_all (t : ReportStatus) : t ∈ all := by
  cases t <;> simp [all]

theorem ofCode?_code (t : ReportStatus) : ofCode? t.code = some t := by
  cases t <;> decide

theorem code_injective : Function.Injective code := by
  intro a b h
  have hread : some a = some b := by rw [← ofCode?_code a, ← ofCode?_code b, h]
  exact Option.some.inj hread

theorem ofCode?_eq_some_iff {s : String} {t : ReportStatus} : ofCode? s = some t ↔ t.code = s :=
  find?_code_eq_some_iff code_injective (mem_all t)

theorem ofCode?_eq_none_iff {s : String} :
    ofCode? s = none ↔ ∀ t : ReportStatus, t.code ≠ s :=
  find?_code_eq_none_iff mem_all

theorem parse_eq_ok_iff {s : String} {t : ReportStatus} :
    parse s = .ok t ↔ Text.upperAscii (Text.trimBlank s) = t.code := by
  unfold parse
  cases h : ofCode? (Text.upperAscii (Text.trimBlank s)) with
  | none =>
    simp only [reduceCtorEq, false_iff]
    intro heq
    exact ofCode?_eq_none_iff.1 h t heq.symm
  | some u =>
    rw [ofCode?_eq_some_iff] at h
    simp only [Except.ok.injEq, ← h]
    exact code_injective.eq_iff.symm

theorem parse_eq_error_iff {s : String} :
    (∀ t : ReportStatus, Text.upperAscii (Text.trimBlank s) ≠ t.code) ↔
      parse s = .error (.validation ("unknown report status: " ++ s)) := by
  unfold parse
  cases h : ofCode? (Text.upperAscii (Text.trimBlank s)) with
  | none =>
    simp only [iff_true]
    intro t heq
    exact ofCode?_eq_none_iff.1 h t heq.symm
  | some u =>
    rw [ofCode?_eq_some_iff] at h
    simp only [reduceCtorEq, iff_false, not_forall, not_not]
    exact ⟨u, h.symm⟩

theorem parse_eq_ok_congr {s s' : String}
    (h : Text.upperAscii (Text.trimBlank s') = Text.upperAscii (Text.trimBlank s))
    (t : ReportStatus) : parse s' = .ok t ↔ parse s = .ok t := by
  rw [parse_eq_ok_iff, parse_eq_ok_iff, h]

theorem upperAscii_code (t : ReportStatus) : Text.upperAscii t.code = t.code := by
  cases t <;> decide

theorem unpadded_code (t : ReportStatus) : Text.Unpadded t.code.toList := by
  have hall : t.code.toList.all (fun c => !Text.isBlank c) = true := by cases t <;> decide
  exact Text.unpadded_of_forall (by simpa using hall)

theorem parse_code (t : ReportStatus) : parse t.code = .ok t := by
  rw [parse_eq_ok_iff, Text.trimBlank_of_unpadded (unpadded_code t), upperAscii_code]

theorem parse_eq_ok_iff_spells {s : String} {t : ReportStatus} :
    parse s = .ok t ↔ Text.Spells s t.code := by
  rw [parse_eq_ok_iff,
    Text.upperAscii_trimBlank_eq_iff_spells (upperAscii_code t) (unpadded_code t)]

end ReportStatus

/-! ### Roles -/

namespace Role

theorem mem_all (r : Role) : r ∈ all := by
  cases r <;> simp [all]

theorem ofCode?_code (r : Role) : ofCode? r.code = some r := by
  cases r <;> decide

theorem code_injective : Function.Injective code := by
  intro a b h
  have hread : some a = some b := by rw [← ofCode?_code a, ← ofCode?_code b, h]
  exact Option.some.inj hread

theorem ofCode?_eq_some_iff {s : String} {r : Role} : ofCode? s = some r ↔ r.code = s :=
  find?_code_eq_some_iff code_injective (mem_all r)

theorem ofCode?_eq_none_iff {s : String} : ofCode? s = none ↔ ∀ r : Role, r.code ≠ s :=
  find?_code_eq_none_iff mem_all

theorem parse_eq_ok_iff {s : String} {r : Role} :
    parse s = .ok r ↔ Text.upperAscii (Text.trimBlank s) = r.code := by
  unfold parse
  dsimp only
  cases h : ofCode? (Text.upperAscii (Text.trimBlank s)) with
  | none =>
    simp only [reduceCtorEq, false_iff]
    intro heq
    exact ofCode?_eq_none_iff.1 h r heq.symm
  | some u =>
    rw [ofCode?_eq_some_iff] at h
    simp only [Except.ok.injEq, ← h]
    exact code_injective.eq_iff.symm

theorem parse_eq_error_iff {s : String} :
    (∀ r : Role, Text.upperAscii (Text.trimBlank s) ≠ r.code) ↔
      parse s = .error (.validation ("unknown role: " ++ Text.upperAscii (Text.trimBlank s))) := by
  unfold parse
  dsimp only
  cases h : ofCode? (Text.upperAscii (Text.trimBlank s)) with
  | none =>
    simp only [iff_true]
    intro r heq
    exact ofCode?_eq_none_iff.1 h r heq.symm
  | some u =>
    rw [ofCode?_eq_some_iff] at h
    simp only [reduceCtorEq, iff_false, not_forall, not_not]
    exact ⟨u, h.symm⟩

theorem parse_congr {s s' : String}
    (h : Text.upperAscii (Text.trimBlank s') = Text.upperAscii (Text.trimBlank s)) :
    parse s' = parse s := by
  simp only [parse, h]

theorem upperAscii_code (r : Role) : Text.upperAscii r.code = r.code := by
  cases r <;> decide

theorem unpadded_code (r : Role) : Text.Unpadded r.code.toList := by
  have hall : r.code.toList.all (fun c => !Text.isBlank c) = true := by cases r <;> decide
  exact Text.unpadded_of_forall (by simpa using hall)

theorem parse_eq_ok_iff_spells {s : String} {r : Role} :
    parse s = .ok r ↔ Text.Spells s r.code := by
  rw [parse_eq_ok_iff,
    Text.upperAscii_trimBlank_eq_iff_spells (upperAscii_code r) (unpadded_code r)]

end Role

/-! ### The readers -/

/-- A stage is read exactly from the texts whose trimmed, ASCII-upper-cased form is its code, and
any other text is refused as invalid input; roles likewise. Each stage's code reads back, and
blanks around a text or a change of case of its ASCII letters change neither which stage or
role it reads as, nor, for roles, the refusal. -/
theorem tag_readers_accept_exactly_their_codes :
    (∀ (s : String) (t : ReportStatus),
      ReportStatus.parse s = .ok t ↔ Text.upperAscii (Text.trimBlank s) = t.code) ∧
    (∀ s : String, (∀ t : ReportStatus, Text.upperAscii (Text.trimBlank s) ≠ t.code) ↔
      ReportStatus.parse s = .error (.validation ("unknown report status: " ++ s))) ∧
    (∀ (s : String) (r : Role),
      Role.parse s = .ok r ↔ Text.upperAscii (Text.trimBlank s) = r.code) ∧
    (∀ s : String, (∀ r : Role, Text.upperAscii (Text.trimBlank s) ≠ r.code) ↔
      Role.parse s = .error (.validation ("unknown role: " ++
        Text.upperAscii (Text.trimBlank s)))) ∧
    (∀ t : ReportStatus, ReportStatus.parse t.code = .ok t) ∧
    (∀ before s after : String, Text.isBlankText before = true →
      Text.isBlankText after = true →
      (∀ t, ReportStatus.parse (before ++ s ++ after) = .ok t ↔
        ReportStatus.parse s = .ok t) ∧
      Role.parse (before ++ s ++ after) = Role.parse s) ∧
    (∀ s s' : String, Text.EqIgnoreAsciiCase s s' →
      (∀ t, ReportStatus.parse s' = .ok t ↔ ReportStatus.parse s = .ok t) ∧
      Role.parse s' = Role.parse s) := by
  refine ⟨fun _ _ => ReportStatus.parse_eq_ok_iff, fun _ => ReportStatus.parse_eq_error_iff,
    fun _ _ => Role.parse_eq_ok_iff, fun _ => Role.parse_eq_error_iff, ReportStatus.parse_code,
    ?_, ?_⟩
  · intro before s after hbefore hafter
    have hnorm := Text.upperAscii_trimBlank_pad (s := s) hbefore hafter
    exact ⟨ReportStatus.parse_eq_ok_congr hnorm, Role.parse_congr hnorm⟩
  · intro s s' hcase
    have hnorm := (Text.upperAscii_trimBlank_congr hcase).symm
    exact ⟨ReportStatus.parse_eq_ok_congr hnorm, Role.parse_congr hnorm⟩

/-- A stage in mixed case between a no-break space and a tab is read, and a role in mixed case
is read as its upper-case code is. -/
theorem padded_mixed_case_tags_read :
    Text.isBlankText " " = true ∧ Text.isBlankText "\t" = true ∧
      ReportStatus.parse (" " ++ "In_Progress" ++ "\t") = .ok .inProgress ∧
      Text.EqIgnoreAsciiCase "TECHNICIAN" "tEcHnIcIaN" ∧
      Role.parse "tEcHnIcIaN" = .ok .technician := by
  obtain ⟨-, -, -, -, -, hpad, hcase⟩ := tag_readers_accept_exactly_their_codes
  have hbefore : Text.isBlankText " " = true := by decide
  have hafter : Text.isBlankText "\t" = true := by decide
  have hvariant : Text.EqIgnoreAsciiCase "TECHNICIAN" "tEcHnIcIaN" := by decide
  refine ⟨hbefore, hafter, ?_, hvariant, ?_⟩
  · exact ((hpad " " "In_Progress" "\t" hbefore hafter).1 .inProgress).2 (by decide)
  · rw [(hcase "TECHNICIAN" "tEcHnIcIaN" hvariant).2]
    decide

end RepairDesk
