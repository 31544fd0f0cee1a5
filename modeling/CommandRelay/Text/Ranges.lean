/-!
# Ranges of characters

A class of characters as the ranges of their code points.
-/

namespace CommandRelay.Text

/-- Ranges of code points, each given by its first and its last one. -/
abbrev Ranges := List (Nat × Nat)

/-- Whether a character lies in one of the ranges. -/
def Ranges.contains (ranges : Ranges) (c : Char) : Bool :=
  ranges.any fun (low, high) => low ≤ c.toNat && c.toNat ≤ high

theorem Ranges.contains_of_mem {ranges : Ranges} {low high : Nat} {c : Char}
    (h : (low, high) ∈ ranges) (hlow : low ≤ c.toNat) (hhigh : c.toNat ≤ high) :
    ranges.contains c = true := by
  unfold Ranges.contains
  exact List.any_eq_true.2 ⟨(low, high), h, by simp [hlow, hhigh]⟩

end CommandRelay.Text
