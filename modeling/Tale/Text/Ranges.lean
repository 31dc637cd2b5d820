/-! Classes of characters given as ascending ranges of code points, as the tables of the Unicode
character database give them. -/

set_option autoImplicit false

namespace Tale.Text

abbrev CharRange := Nat × Nat

def inRanges (ranges : List CharRange) (code : Nat) : Bool :=
  ranges.any fun (first, last) => first ≤ code && code ≤ last

end Tale.Text
