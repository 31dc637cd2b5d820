import Tale.Host.Pattern.Folding
import Tale.Text.Blank
import Tale.Host.Pattern.WordClasses

/-! Sets of characters that a pattern can ask for. -/

set_option autoImplicit false

namespace Tale.Host.Pattern

inductive CharSet where
  | none
  | any
  | range (first last : Char)
  | digit
  | space
  | word
  | letter
  | union (first second : CharSet)
  | both (first second : CharSet)
  | complement (set : CharSet)
  | caseless (set : CharSet)
  deriving Repr

namespace CharSet

def single (c : Char) : CharSet := range c c

def ofRuns (runs : List (Char × Char)) : CharSet :=
  runs.foldl (fun set (first, last) => union set (range first last)) none

def isDigit (c : Char) : Bool :=
  if c.val < 0x80 then c.isDigit else Text.inRanges digitRanges c.toNat

def isLetter (c : Char) : Bool :=
  if c.val < 0x80 then c.isAlpha else Text.inRanges letterRanges c.toNat

def isWord (c : Char) : Bool :=
  if c.val < 0x80 then c.isAlphanum || c == '_' else Text.inRanges wordRanges c.toNat

/-- Membership. A set without regard to case holds all variants of its members. -/
def contains : CharSet → Char → Bool
  | none, _ => false
  | any, _ => true
  | range first last, c => first ≤ c && c ≤ last
  | digit, c => isDigit c
  | space, c => Text.isBlank c
  | word, c => isWord c
  | letter, c => isLetter c
  | union first second, c => first.contains c || second.contains c
  | both first second, c => first.contains c && second.contains c
  | complement set, c => !set.contains c
  | caseless set, c => (caseVariants c).any set.contains

def weight : CharSet → Nat
  | none => 1
  | any => 10
  | range _ _ => 1
  | digit => 60
  | space => 10
  | word => 300
  | letter => 300
  | union first second => first.weight + second.weight
  | both first second => first.weight + second.weight
  | complement set => 10 + set.weight
  | caseless set => 2 * set.weight

end CharSet

end Tale.Host.Pattern
