/-! Sizes and places in texts. A span counts bytes of the UTF-8 form, which is how tools that
read diagnostics count. -/

set_option autoImplicit false

namespace Tale.Text

def byteSize (text : List Char) : Nat :=
  text.foldl (fun size c => size + c.utf8Size) 0

end Tale.Text

namespace Tale

/-- A range of byte positions, from the first to just before the second. -/
structure Span where
  start : Nat
  stop : Nat
  deriving DecidableEq, Repr

def Span.shift (offset : Nat) (span : Span) : Span :=
  ⟨span.start + offset, span.stop + offset⟩

end Tale
