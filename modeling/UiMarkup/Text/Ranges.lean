/-!
# UiMarkup.Text.Ranges

Character classes given as tables of code point ranges.  A table lists its
ranges in ascending order without overlap, so membership is decided by one
walk that ends at the first range beyond the character.  What the walk finds
lies inside a listed range (`exists_of_inRanges`).
-/

namespace UiMarkup.Text

/-- A closed range of code points: first and last. -/
abbrev Range := Nat × Nat

/-- Whether the code point `n` lies in one of the ranges of an ascending
table. -/
def inRanges (n : Nat) : List Range → Bool
  | [] => false
  | (first, last) :: rest => if n < first then false else n ≤ last || inRanges n rest

/-! ## membership -/

/-- What the walk finds lies inside a listed range. -/
theorem exists_of_inRanges {n : Nat} {rs : List Range} (h : inRanges n rs = true) :
    ∃ r ∈ rs, r.1 ≤ n ∧ n ≤ r.2 := by
  induction rs with
  | nil => simp [inRanges] at h
  | cons r rest ih =>
    obtain ⟨first, last⟩ := r
    by_cases hlt : n < first
    · simp [inRanges, hlt] at h
    · by_cases hle : n ≤ last
      · exact ⟨(first, last), List.mem_cons_self, by simp; omega, hle⟩
      · simp [inRanges, hlt, hle] at h
        obtain ⟨r, hr, hb⟩ := ih h
        exact ⟨r, List.mem_cons_of_mem _ hr, hb⟩

end UiMarkup.Text
