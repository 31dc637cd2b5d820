import Tale.Filter

/-! Outcomes of commands that succeed, and of those that fail with a complaint. -/

set_option autoImplicit false

namespace Tale.Filter.Outcome

def success (output : List UInt8) : Outcome := ⟨output, [], .exit 0⟩

def failure (status : Nat) (complaint : String) : Outcome :=
  ⟨[], Text.encode complaint, .exit status⟩

end Tale.Filter.Outcome
