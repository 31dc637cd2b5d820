import Tale.Story.Artifact
import Tale.Story.Placeholder

/-! A story as it is played. It always stands settled: a paragraph is ready, or choices are on
offer, or it has ended. Between two such states it takes silent steps, assignments and diverts, of
which it takes only so many before it gives up on a loop. -/

set_option autoImplicit false

namespace Tale

structure Offer where
  index : Nat
  text : String
  id : String
  target : Target
  deriving DecidableEq, Repr

structure Position where
  knot : String
  ahead : List Step
  deriving DecidableEq, Repr

structure Story where
  artifact : Artifact
  position : Option Position
  pending : Option String
  offers : List Offer
  visits : Dictionary String Nat
  taken : OrderedSet String
  bindings : Dictionary String Value
  deriving DecidableEq

namespace Story

/-- How many silent steps a story takes before it stops. -/
def silentBound : Nat := 10000

def canContinue (story : Story) : Bool := story.pending.isSome

def hasEnded (story : Story) : Bool :=
  story.position.isNone && story.pending.isNone && story.offers.isEmpty

def currentKnot? (story : Story) : Option String := story.position.map Position.knot

def visitCount (story : Story) (knot : String) : Nat := (story.visits.find? knot).getD 0

def enter (story : Story) (knot : String) : Story :=
  { story with
    visits := story.visits.insert knot (story.visitCount knot + 1)
    position := some ⟨knot, ((story.artifact.knots.find? knot).map Knot.steps).getD []⟩ }

def interpolate (story : Story) (text : String) : String :=
  String.ofList (Placeholder.interpolate
    (fun name => (story.bindings.find? name).map Value.shown) text.toList)

/-- A condition names a variable, or else a knot that must have been entered. -/
def holds (story : Story) (condition : String) : Bool :=
  match story.bindings.find? condition with
  | some value => value.isTruthy
  | none => 0 < story.visitCount condition

/-- A choice is offered unless it was taken before, or its condition does not hold. -/
def isOffered (story : Story) (point : ChoicePoint) : Bool :=
  (point.sticky || !story.taken.contains point.id) && point.condition.all story.holds

def offersOf (story : Story) (points : List ChoicePoint) : List Offer :=
  (points.filter story.isOffered).zipIdx.map fun (point, index) =>
    ⟨index, story.interpolate point.text, point.id, point.target⟩

inductive Motion where
  | settled (story : Story)
  | moving (story : Story)

def advance (story : Story) : Motion :=
  match story.position with
  | none => .settled story
  | some ⟨_, []⟩ => .settled { story with position := none }
  | some ⟨knot, .text words :: ahead⟩ =>
    .settled { story with
      position := some ⟨knot, ahead⟩
      pending := some (story.interpolate words) }
  | some ⟨knot, .set name value :: ahead⟩ =>
    .moving { story with
      position := some ⟨knot, ahead⟩
      bindings := story.bindings.insert name value }
  | some ⟨_, .divert (.knot name) :: _⟩ => .moving (story.enter name)
  | some ⟨_, .divert .ending :: _⟩ => .settled { story with position := none }
  | some ⟨knot, .choices points :: ahead⟩ =>
    let offers := story.offersOf points
    -- A block that offers nothing ends the story; else it stands before the block.
    .settled { story with
      offers := offers
      position := if offers.isEmpty then none else some ⟨knot, .choices points :: ahead⟩ }

def settleWithin : Nat → Story → Story
  | 0, story => { story with position := none }
  | bound + 1, story =>
    match story.advance with
    | .settled story => story
    | .moving story => settleWithin bound story

def settle (story : Story) : Story := settleWithin silentBound story

def missingKnot? (artifact : Artifact) : Option String :=
  let targets := artifact.knots.values.flatMap fun knot => knot.steps.flatMap Step.targets
  targets.findSome? fun target =>
    match target with
    | .knot name => if artifact.knots.contains name then none else some name
    | .ending => none

/-- Begin a story, if every knot that it leads to exists. -/
def start (artifact : Artifact) : Except StoryError Story := do
  artifact.validate
  match missingKnot? artifact with
  | some name => .error (.unknownKnot name)
  | none =>
    let story : Story :=
      ⟨artifact, none, none, [], Dictionary.empty, Dictionary.empty, artifact.globals⟩
    .ok (story.enter artifact.start).settle

def continueLine (story : Story) : Option String × Story :=
  match story.pending with
  | none => (none, story)
  | some line => (some line, { story with pending := none }.settle)

def readWithin : Nat → Story → List String × Story
  | 0, story => ([], story)
  | bound + 1, story =>
    match story.continueLine with
    | (none, story) => ([], story)
    | (some line, story) =>
      let (lines, story) := readWithin bound story
      (line :: lines, story)

def textSteps (artifact : Artifact) : Nat :=
  (artifact.knots.values.flatMap Knot.steps).countP fun step => match step with
    | .text _ => true
    | _ => false

/-- Read every paragraph up to the next choice or the end. No paragraph comes twice on the way, so
as many are read as there are steps that make one; if the story goes on after that, it would go on
for ever. -/
def continueMaximally (story : Story) : List String × Story :=
  story.readWithin (textSteps story.artifact)

def choose (story : Story) (index : Nat) : Except StoryError Story :=
  match story.offers[index]? with
  | none => .error (.choiceOutOfRange index story.offers.length)
  | some offer =>
    let story := { story with
      offers := []
      taken := OrderedSet.insert story.taken offer.id }
    match offer.target with
    | .knot name => .ok (story.enter name).settle
    | .ending => .ok { story with position := none }.settle

end Story

end Tale
