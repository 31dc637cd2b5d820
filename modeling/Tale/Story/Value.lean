import Tale.Text.Decimal

/-! Values of story variables. -/

set_option autoImplicit false

namespace Tale

inductive Value where
  | bool (value : Bool)
  | int (value : Int64)
  | str (value : String)
  deriving DecidableEq, Repr

namespace Value

/-- A value counts as true unless it is `false`, zero or the empty text. -/
def isTruthy : Value → Bool
  | bool value => value
  | int value => value != 0
  | str value => !value.isEmpty

def shown : Value → List Char
  | bool true => "true".toList
  | bool false => "false".toList
  | int value => Text.integerDigits value.toInt
  | str value => value.toList

end Value

end Tale
