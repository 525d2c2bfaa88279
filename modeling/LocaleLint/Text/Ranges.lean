import LocaleLint.Text.Basic

namespace LocaleLint.Text

abbrev Ranges := Array (Nat × Nat)

def Ranges.has (rs : Ranges) (c : Char) : Bool :=
  rs.any fun r => r.1 ≤ c.toNat && c.toNat ≤ r.2

theorem Ranges.has_iff {rs : Ranges} {c : Char} :
    rs.has c = true ↔ ∃ r ∈ rs, r.1 ≤ c.toNat ∧ c.toNat ≤ r.2 := by
  unfold has
  rw [← Array.any_toList, List.any_eq_true]
  simp

end LocaleLint.Text
