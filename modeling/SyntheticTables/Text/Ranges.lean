/-
  Character properties given as inclusive ranges of code points.
-/

namespace SyntheticTables.Text

/-- Whether the character lies in one of the ranges; the tables are short enough to be gone through
    from the start. -/
def inRanges (table : List (Nat × Nat)) (c : Char) : Bool :=
  table.any fun r => r.1 ≤ c.toNat && c.toNat ≤ r.2

end SyntheticTables.Text
