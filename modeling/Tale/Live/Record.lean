/-! The record of the decisions made in a session, in the order in which they were made. -/

set_option autoImplicit false

namespace Tale.Live

structure Record where
  decisions : List Nat
  deriving DecidableEq, Repr

namespace Record

def empty : Record := ⟨[]⟩

def push (record : Record) (index : Nat) : Record := ⟨record.decisions ++ [index]⟩

def take (record : Record) : List Nat × Record := (record.decisions, empty)

end Record

end Tale.Live
