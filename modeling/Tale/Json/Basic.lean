/-! Data in the JSON format. A member of an object keeps its place and may occur twice; which of
two members counts is for the reader of a particular shape to say. -/

set_option autoImplicit false

namespace Tale

/-- A value of the format. A text that escapes half of a surrogate pair is well formed but holds
no string: it is `unpaired`, and as the name of a member it is `none`. A number that is not
written as an integer is kept as it was written. -/
inductive Json where
  | null
  | bool (value : Bool)
  | integer (value : Int)
  | decimal (written : String)
  | string (text : String)
  | unpaired
  | array (items : List Json)
  | object (members : List (Option String × Json))
  deriving Repr, Inhabited

namespace Json

def record (members : List (String × Json)) : Json :=
  object (members.map fun (name, value) => (some name, value))

end Json

end Tale
