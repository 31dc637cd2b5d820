import Tale.Dictionary
import Tale.Story.Value

/-! Compiled stories. An artifact is what a compiler hands to a player: knots by name, each a list
of steps, and the variables with their first values. -/

set_option autoImplicit false

namespace Tale

inductive Target where
  | knot (name : String)
  | ending
  deriving DecidableEq, Repr

/-- A choice as a story offers it. The `id` tells it from every other choice of the story. -/
structure ChoicePoint where
  id : String
  text : String
  sticky : Bool
  condition : Option String
  target : Target
  deriving DecidableEq, Repr

inductive Step where
  | text (words : String)
  | divert (target : Target)
  | set (name : String) (value : Value)
  | choices (points : List ChoicePoint)
  deriving DecidableEq, Repr

structure Knot where
  steps : List Step
  deriving DecidableEq, Repr, Inhabited

structure Artifact where
  format : UInt32
  start : String
  knots : Dictionary String Knot
  globals : Dictionary String Value
  deriving DecidableEq

inductive StoryError where
  | unsupportedFormat (found : UInt32)
  | unknownKnot (name : String)
  | choiceOutOfRange (index : Nat) (available : Nat)
  | unreadable
  deriving DecidableEq, Repr

namespace Artifact

/-- The knot that holds what stands before the first knot line. -/
def rootKnot : String := "_root"

def currentFormat : UInt32 := 1

/-- An artifact has the known format and starts in a knot that exists. -/
def validate (artifact : Artifact) : Except StoryError Unit :=
  if artifact.format ≠ currentFormat then .error (.unsupportedFormat artifact.format)
  else if artifact.knots.contains artifact.start then .ok ()
  else .error (.unknownKnot artifact.start)

end Artifact

def StoryError.message : StoryError → String
  | unsupportedFormat found =>
    "unsupported artifact format " ++ toString found.toNat ++
      " (expected " ++ toString Artifact.currentFormat.toNat ++ ")"
  | unknownKnot name => "unknown knot: \"" ++ name ++ "\""
  | choiceOutOfRange index available =>
    "choice index " ++ toString index ++ " is out of range (" ++ toString available ++
      " choices available)"
  | unreadable => "invalid artifact"

def Step.targets : Step → List Target
  | divert target => [target]
  | choices points => points.map ChoicePoint.target
  | text _ => []
  | set _ _ => []

end Tale
