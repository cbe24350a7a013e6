/-!
# Ranges of code points

A set of characters, given by the ranges of its code points with their ends included. The search
for a code point ends at the first range above it, so it needs ranges that ascend;
`covers_iff` says that it is exact for those.
-/

namespace EightBit

/-- Ranges of code points, ends included. -/
abbrev Ranges := List (Nat × Nat)

namespace Ranges

/-- Whether a code point lies in one of the ranges, which have to ascend. -/
def covers (code : Nat) : Ranges → Bool
  | [] => false
  | (low, high) :: rest => low ≤ code && (code ≤ high || covers code rest)

/-- The ranges start at `bound` or later, each is in order, and each ends below the next. -/
def ascendingFrom (bound : Nat) : Ranges → Bool
  | [] => true
  | (low, high) :: rest => bound ≤ low && low ≤ high && ascendingFrom (high + 1) rest

theorem le_of_ascendingFrom {bound : Nat} {ranges : Ranges}
    (h : ascendingFrom bound ranges) : ∀ range ∈ ranges, bound ≤ range.1 := by
  induction ranges generalizing bound with
  | nil => simp
  | cons first rest ih =>
    simp only [ascendingFrom, Bool.and_eq_true, decide_eq_true_eq] at h
    obtain ⟨⟨hlow, hhigh⟩, hrest⟩ := h
    intro range hmem
    rcases List.mem_cons.1 hmem with rfl | hlater
    · exact hlow
    · have := ih hrest range hlater
      omega

/-- In ascending ranges the search finds the range that holds a code point. -/
theorem covers_iff {bound code : Nat} {ranges : Ranges} (h : ascendingFrom bound ranges) :
    covers code ranges ↔ ∃ range ∈ ranges, range.1 ≤ code ∧ code ≤ range.2 := by
  induction ranges generalizing bound with
  | nil => simp [covers]
  | cons first rest ih =>
    simp only [ascendingFrom, Bool.and_eq_true, decide_eq_true_eq] at h
    obtain ⟨⟨_, hhigh⟩, hrest⟩ := h
    simp only [covers, Bool.and_eq_true, Bool.or_eq_true, decide_eq_true_eq, ih hrest]
    constructor
    · rintro ⟨hle, hin | ⟨range, hmem, hin⟩⟩
      · exact ⟨first, List.mem_cons_self, hle, hin⟩
      · exact ⟨range, List.mem_cons_of_mem _ hmem, hin⟩
    · rintro ⟨range, hmem, hin⟩
      rcases List.mem_cons.1 hmem with rfl | hlater
      · exact ⟨hin.1, .inl hin.2⟩
      · have := le_of_ascendingFrom hrest range hlater
        exact ⟨by omega, .inr ⟨range, hlater, hin⟩⟩

end Ranges

end EightBit
