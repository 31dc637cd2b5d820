/-! White space in the sense of the Unicode property of that name, and the removal of it from
the ends of a text. A line of a script, the payload after a marker and the input of a player
are all trimmed by this one notion. -/

set_option autoImplicit false

namespace Tale.Text

/-- The characters with the Unicode property `White_Space`. -/
def isBlank (c : Char) : Bool :=
  (0x09 ≤ c.val && c.val ≤ 0x0D) || c.val == 0x20 || c.val == 0x85 || c.val == 0xA0 ||
  c.val == 0x1680 || (0x2000 ≤ c.val && c.val ≤ 0x200A) || c.val == 0x2028 || c.val == 0x2029 ||
  c.val == 0x202F || c.val == 0x205F || c.val == 0x3000

def dropEnd (drop : Char → Bool) (text : List Char) : List Char :=
  (text.reverse.dropWhile drop).reverse

def trimStart (text : List Char) : List Char := text.dropWhile isBlank

def trimEnd (text : List Char) : List Char := dropEnd isBlank text

def trim (text : List Char) : List Char := trimEnd (trimStart text)

def trimMark (mark : Char) (text : List Char) : List Char :=
  dropEnd (· == mark) (text.dropWhile (· == mark))

end Tale.Text
