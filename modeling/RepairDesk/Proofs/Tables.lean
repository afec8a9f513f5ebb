import Mathlib.Data.List.Nodup
import RepairDesk.Store.Basic

/-! Tables as keyed lists, edited by appending, replacing and erasing rows by key. -/

namespace RepairDesk.Tables

open Store

section Keyed

variable {α : Type} (key : α → Uuid)

theorem key_eq_of_find?_eq_some {rows : List α} {x : Uuid} {r : α}
    (h : rows.find? (fun r => key r == x) = some r) : key r = x ∧ r ∈ rows := by
  have hkey := List.find?_some h
  exact ⟨by simpa using hkey, List.mem_of_find?_eq_some h⟩

theorem find?_eq_none_iff {rows : List α} {x : Uuid} :
    rows.find? (fun r => key r == x) = none ↔ ∀ r ∈ rows, key r ≠ x := by
  simp

theorem find?_eq_some_of_mem {rows : List α} (hnodup : (rows.map key).Nodup) {r : α}
    (hr : r ∈ rows) : rows.find? (fun q => key q == key r) = some r := by
  obtain ⟨q, hq⟩ : ∃ q, rows.find? (fun q => key q == key r) = some q := by
    apply Option.isSome_iff_exists.mp
    rw [List.find?_isSome]
    exact ⟨r, hr, by simp⟩
  obtain ⟨hkey, hmem⟩ := key_eq_of_find?_eq_some key hq
  rw [hq, List.inj_on_of_nodup_map hnodup hmem hr hkey]

theorem eq_of_key_eq {rows : List α} (hnodup : (rows.map key).Nodup) {r q : α}
    (hr : r ∈ rows) (hq : q ∈ rows) (hkey : key r = key q) : r = q :=
  List.inj_on_of_nodup_map hnodup hr hq hkey

/-! ### Replacing the rows of a key -/

@[simp] theorem map_key_replaceBy (row : α) (rows : List α) :
    (replaceBy key row rows).map key = rows.map key := by
  simp only [replaceBy, List.map_map]
  apply List.map_congr_left
  intro r _
  by_cases hkey : key r = key row <;> simp [hkey]

theorem find?_replaceBy (row : α) (rows : List α) (x : Uuid) :
    (replaceBy key row rows).find? (fun r => key r == x) =
      (rows.find? (fun r => key r == x)).map fun r => if key r == key row then row else r := by
  simp only [replaceBy, List.find?_map]
  congr 2
  funext r
  by_cases hkey : key r = key row <;> simp [hkey]

theorem find?_replaceBy_of_ne {row : α} (rows : List α) {x : Uuid} (hx : x ≠ key row) :
    (replaceBy key row rows).find? (fun r => key r == x) = rows.find? (fun r => key r == x) := by
  rw [find?_replaceBy]
  cases hfound : rows.find? (fun r => key r == x) with
  | none => rfl
  | some r =>
      have hkey := (key_eq_of_find?_eq_some key hfound).1
      simp [hkey, hx]

theorem find?_replaceBy_eq {row : α} {rows : List α}
    (hfound : (rows.find? (fun r => key r == key row)).isSome) (x : Uuid) :
    (replaceBy key row rows).find? (fun r => key r == x) =
      if key row = x then some row else rows.find? (fun r => key r == x) := by
  split
  · rename_i hx
    subst hx
    obtain ⟨r, hr⟩ := Option.isSome_iff_exists.mp hfound
    simp [find?_replaceBy, hr, (key_eq_of_find?_eq_some key hr).1]
  · rename_i hx
    exact find?_replaceBy_of_ne key rows (Ne.symm hx)

theorem replaceBy_replaceBy_of_key_eq {a b : α} (hkey : key a = key b) (rows : List α) :
    replaceBy key a (replaceBy key b rows) = replaceBy key a rows := by
  simp only [replaceBy, List.map_map]
  apply List.map_congr_left
  intro r _
  by_cases hr : key r = key b
  · simp [hr, hkey]
  · simp [hr, hkey]

theorem replaceBy_comm {a b : α} (hkey : key a ≠ key b) (rows : List α) :
    replaceBy key a (replaceBy key b rows) = replaceBy key b (replaceBy key a rows) := by
  simp only [replaceBy, List.map_map]
  apply List.map_congr_left
  intro r _
  by_cases hb : key r = key b
  · simp [hb, Ne.symm hkey]
  · by_cases ha : key r = key a
    · simp [ha, hkey]
    · simp [hb, ha]

theorem mem_replaceBy {row r : α} {rows : List α} :
    r ∈ replaceBy key row rows ↔
      (r ∈ rows ∧ key r ≠ key row) ∨ (r = row ∧ ∃ q ∈ rows, key q = key row) := by
  simp only [replaceBy, List.mem_map]
  constructor
  · rintro ⟨q, hq, rfl⟩
    by_cases hkey : key q = key row
    · exact .inr ⟨by simp [hkey], q, hq, hkey⟩
    · exact .inl ⟨by simpa [hkey] using hq, by simp [hkey]⟩
  · rintro (⟨hr, hkey⟩ | ⟨rfl, q, hq, hkey⟩)
    · exact ⟨r, hr, by simp [hkey]⟩
    · exact ⟨q, hq, by simp [hkey]⟩

theorem mem_replaceBy_of_key_ne {row r : α} {rows : List α} (hr : r ∈ rows)
    (hkey : key r ≠ key row) : r ∈ replaceBy key row rows :=
  (mem_replaceBy key).mpr (.inl ⟨hr, hkey⟩)

theorem mem_replaceBy_self {row : α} {rows : List α} {q : α} (hq : q ∈ rows)
    (hkey : key q = key row) : row ∈ replaceBy key row rows :=
  (mem_replaceBy key).mpr (.inr ⟨rfl, q, hq, hkey⟩)

theorem replaceBy_of_mem {row : α} {rows : List α} (hnodup : (rows.map key).Nodup)
    (hrow : row ∈ rows) : replaceBy key row rows = rows := by
  conv => rhs; rw [← List.map_id rows]
  apply List.map_congr_left
  intro r hr
  by_cases hkey : key r = key row
  · simp [eq_of_key_eq key hnodup hr hrow hkey]
  · simp [hkey]

theorem nodup_replaceBy {row : α} {rows : List α} (hnodup : (rows.map key).Nodup) :
    ((replaceBy key row rows).map key).Nodup := by
  rwa [map_key_replaceBy]

theorem replaceBy_cons (row q : α) (rows : List α) :
    replaceBy key row (q :: rows) =
      (if key q = key row then row else q) :: replaceBy key row rows := by
  simp [replaceBy]

theorem replaceBy_of_forall_key_ne (row : α) {rows : List α}
    (h : ∀ z ∈ rows, key z ≠ key row) : replaceBy key row rows = rows := by
  conv => rhs; rw [← List.map_id rows]
  apply List.map_congr_left
  intro z hz
  simp [h z hz]

theorem countP_replaceBy (p : α → Bool) {row r : α} {rows : List α}
    (hnodup : (rows.map key).Nodup) (hr : r ∈ rows) (hkey : key r = key row) :
    (replaceBy key row rows).countP p + (if p r then 1 else 0) =
      rows.countP p + (if p row then 1 else 0) := by
  induction rows with
  | nil => simp at hr
  | cons q rows ih =>
      simp only [List.map_cons, List.nodup_cons, List.mem_map] at hnodup
      rw [replaceBy_cons, List.countP_cons, List.countP_cons]
      rcases List.mem_cons.mp hr with rfl | hr
      · have hsame := replaceBy_of_forall_key_ne key row fun z hz hz' =>
          hnodup.1 ⟨z, hz, hz'.trans hkey.symm⟩
        simp only [hkey, ite_true, hsame]
        omega
      · have hq : key q ≠ key row := fun hq => hnodup.1 ⟨r, hr, hkey.trans hq.symm⟩
        have := ih hnodup.2 hr
        simp only [hq, ite_false]
        omega

theorem filter_replaceBy_of_not (p : α → Bool) {row r : α} {rows : List α}
    (hnodup : (rows.map key).Nodup) (hr : r ∈ rows) (hkey : key r = key row)
    (hold : p r = false) (hnew : p row = false) :
    (replaceBy key row rows).filter p = rows.filter p := by
  induction rows with
  | nil => simp at hr
  | cons q rows ih =>
      simp only [List.map_cons, List.nodup_cons, List.mem_map] at hnodup
      rw [replaceBy_cons]
      rcases List.mem_cons.mp hr with rfl | hr
      · have hsame := replaceBy_of_forall_key_ne key row fun z hz hz' =>
          hnodup.1 ⟨z, hz, hz'.trans hkey.symm⟩
        simp [hkey, hsame, hold, hnew]
      · have hq : key q ≠ key row := fun hq => hnodup.1 ⟨r, hr, hkey.trans hq.symm⟩
        simp [List.filter_cons, hq, ih hnodup.2 hr]

theorem filter_replaceBy_perm (p : α → Bool) {row r : α} {rows : List α}
    (hnodup : (rows.map key).Nodup) (hr : r ∈ rows) (hkey : key r = key row)
    (hold : p r = false) (hnew : p row = true) :
    ((replaceBy key row rows).filter p).Perm (rows.filter p ++ [row]) := by
  induction rows with
  | nil => simp at hr
  | cons q rows ih =>
      simp only [List.map_cons, List.nodup_cons, List.mem_map] at hnodup
      rw [replaceBy_cons]
      rcases List.mem_cons.mp hr with rfl | hr
      · have hsame := replaceBy_of_forall_key_ne key row fun z hz hz' =>
          hnodup.1 ⟨z, hz, hz'.trans hkey.symm⟩
        simp only [hkey, ite_true, hsame, List.filter_cons, hnew, hold, Bool.false_eq_true]
        exact (List.perm_append_singleton _ _).symm
      · have hq : key q ≠ key row := fun hq => hnodup.1 ⟨r, hr, hkey.trans hq.symm⟩
        have hrest := ih hnodup.2 hr
        simp only [hq, ite_false, List.filter_cons]
        split
        · exact hrest.cons q
        · exact hrest

/-! ### Dropping the rows of a key -/

theorem find?_filter_key_ne (rows : List α) (x y : Uuid) :
    (rows.filter (fun r => key r != y)).find? (fun r => key r == x) =
      if y = x then none else rows.find? (fun r => key r == x) := by
  rw [List.find?_filter]
  split
  · rename_i hxy
    subst hxy
    simp
  · rename_i hxy
    congr 1
    funext r
    by_cases hr : key r = x
    · simp [hr, Ne.symm hxy]
    · simp [hr]

theorem nodup_filter {p : α → Bool} {rows : List α} (hnodup : (rows.map key).Nodup) :
    ((rows.filter p).map key).Nodup :=
  (List.filter_sublist.map key).nodup hnodup

theorem countP_filter_key_ne (p : α → Bool) {r : α} {rows : List α}
    (hnodup : (rows.map key).Nodup) (hr : r ∈ rows) :
    (rows.filter (fun q => key q != key r)).countP p + (if p r then 1 else 0) =
      rows.countP p := by
  induction rows with
  | nil => simp at hr
  | cons q rows ih =>
      simp only [List.map_cons, List.nodup_cons, List.mem_map] at hnodup
      rcases List.mem_cons.mp hr with rfl | hr
      · have hrest : rows.filter (fun z => key z != key r) = rows := by
          rw [List.filter_eq_self]
          intro z hz
          simpa using fun h => hnodup.1 ⟨z, hz, h⟩
        simp only [List.filter_cons, bne_self_eq_false, Bool.false_eq_true, ite_false, hrest,
          List.countP_cons]
      · have hq : key q ≠ key r := fun hq => hnodup.1 ⟨r, hr, hq.symm⟩
        have := ih hnodup.2 hr
        simp only [List.filter_cons, bne_iff_ne, ne_eq, hq, not_false_eq_true, ite_true,
          List.countP_cons]
        omega

/-! ### Appending a row -/

theorem find?_append_row_of_ne {row : α} (rows : List α) {x : Uuid} (hx : x ≠ key row) :
    (rows ++ [row]).find? (fun r => key r == x) = rows.find? (fun r => key r == x) := by
  simp [List.find?_append, Ne.symm hx]

theorem find?_append_row_eq {row : α} {rows : List α}
    (hnew : rows.find? (fun r => key r == key row) = none) (x : Uuid) :
    (rows ++ [row]).find? (fun r => key r == x) =
      if key row = x then some row else rows.find? (fun r => key r == x) := by
  split
  · rename_i hx
    subst hx
    simp [List.find?_append, hnew]
  · rename_i hx
    exact find?_append_row_of_ne key rows (Ne.symm hx)

theorem nodup_append_row {row : α} {rows : List α} (hnodup : (rows.map key).Nodup)
    (hfresh : ∀ r ∈ rows, key r ≠ key row) : ((rows ++ [row]).map key).Nodup := by
  rw [List.map_append, List.nodup_append]
  refine ⟨hnodup, by simp, ?_⟩
  simp only [List.mem_map, List.map_cons, List.map_nil, List.mem_singleton]
  rintro _ ⟨r, hr, rfl⟩ _ rfl
  exact hfresh r hr

end Keyed

end RepairDesk.Tables
