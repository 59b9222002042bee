import VoidScript.Text

/-!
Classes of characters, given as ranges of code points.
-/

namespace VoidScript.Text

/-- Closed ranges of code points, in ascending order. -/
abbrev Class := List (Nat × Nat)

def Class.holds (ranges : Class) (c : Char) : Bool :=
  ranges.any fun (first, last) => first ≤ c.toNat && c.toNat ≤ last

end VoidScript.Text
