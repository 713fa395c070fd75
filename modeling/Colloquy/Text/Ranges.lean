/-! # Ranges of code points

Classes of characters are given as inclusive ranges of code points.
-/
set_option autoImplicit false

namespace Colloquy.Text

def inRanges (ranges : List (Nat × Nat)) (n : Nat) : Bool :=
  ranges.any fun r => r.1 ≤ n && n ≤ r.2

end Colloquy.Text
