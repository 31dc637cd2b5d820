/-! Numerals in base ten. Reading takes ASCII digits alone, of any number, and a sign where the
kind of number has one; it is exact, and a value outside the range is refused. -/

set_option autoImplicit false

namespace Tale.Text

/-- The value of a row of digits; an empty row has none. -/
def numeral? (text : List Char) : Option Nat :=
  if text.isEmpty || !text.all Char.isDigit then none else some (Nat.ofDigitChars 10 text 0)

def natural? : List Char → Option Nat
  | '+' :: digits => numeral? digits
  | digits => numeral? digits

def integer? : List Char → Option Int
  | '-' :: digits => (numeral? digits).map fun n => -(n : Int)
  | '+' :: digits => (numeral? digits).map fun n => (n : Int)
  | digits => (numeral? digits).map fun n => (n : Int)

/-- The word with a given value, if the value fits into 64 bits with a sign. -/
def word64? (value : Int) : Option Int64 :=
  if Int64.minValue.toInt ≤ value ∧ value ≤ Int64.maxValue.toInt then some (Int64.ofInt value) else none

def naturalDigits (value : Nat) : List Char := Nat.toDigits 10 value

def integerDigits (value : Int) : List Char :=
  if value < 0 then '-' :: naturalDigits value.natAbs else naturalDigits value.natAbs

end Tale.Text
