namespace RepairDesk.Text

/-- Is the code point of `c` inside one of the inclusive ranges? -/
def inRanges (ranges : List (Nat × Nat)) (c : Char) : Bool :=
  ranges.any fun (low, high) => low ≤ c.toNat && c.toNat ≤ high

@[simp] theorem inRanges_nil (c : Char) : inRanges [] c = false := rfl

theorem inRanges_cons (low high : Nat) (ranges : List (Nat × Nat)) (c : Char) :
    inRanges ((low, high) :: ranges) c =
      ((low ≤ c.toNat && c.toNat ≤ high) || inRanges ranges c) := rfl

theorem inRanges_eq_false_of_lt (ranges : List (Nat × Nat)) (c : Char)
    (h : ∀ r ∈ ranges, c.toNat < r.1) : inRanges ranges c = false := by
  induction ranges with
  | nil => rfl
  | cons r rest ih =>
      obtain ⟨low, high⟩ := r
      have hlow : c.toNat < low := h (low, high) (by simp)
      have hrest := ih fun r' mem => h r' (by simp [mem])
      rw [inRanges_cons, hrest]
      simp only [Bool.or_false, Bool.and_eq_false_iff, decide_eq_false_iff_not, Nat.not_le]
      exact Or.inl hlow

end RepairDesk.Text
