import Tale.Proofs.Story.Phases

/-! Stories with their history.

A play records what happens in a story: knots are entered, variables assigned, choices faced and
taken. The recording takes the steps of the story itself, so the story of a play is the story that was
played. What a history says about the variables and the choices is read off its events alone.
-/

set_option autoImplicit false

namespace Tale

inductive Event where
  | entered (knot : String)
  | assigned (name : String) (value : Value)
  /-- The story comes to the choices of a knot and offers some of them. -/
  | faced (knot : String) (offers : List Offer)
  /-- The choice with a number among all those of a knot is taken. -/
  | took (knot : String) (number : Nat)
  deriving DecidableEq

structure Play where
  story : Story
  past : List Event

namespace Story

def passing (story : Story) (points : List ChoicePoint) : List (ChoicePoint × Nat) :=
  points.zipIdx.filter fun choice => story.isOffered choice.1

def event? (story : Story) : Option Event :=
  match story.position with
  | some ⟨_, .set name value :: _⟩ => some (.assigned name value)
  | some ⟨_, .divert (.knot name) :: _⟩ => some (.entered name)
  | some ⟨knot, .choices points :: _⟩ => some (.faced knot (story.offersOf points))
  | _ => none

def taken? (story : Story) (index : Nat) : Option Event :=
  match story.position with
  | some ⟨knot, .choices points :: _⟩ =>
    (story.passing points)[index]?.map fun choice => .took knot choice.2
  | _ => none

theorem offersOf_eq (story : Story) (points : List ChoicePoint) :
    story.offersOf points = (story.passing points).zipIdx.map fun offered =>
      ⟨offered.2, story.interpolate offered.1.1.text, offered.1.1.id, offered.1.1.target⟩ := by
  have passing : points.filter story.isOffered = (story.passing points).map Prod.fst := by
    conv_lhs => rw [← List.zipIdx_map_fst 0 points, List.filter_map]
    rfl
  rw [offersOf, passing, List.zipIdx_map, List.map_map]
  rfl

end Story

namespace Play

open Story

/-! ## Recording -/

def settleWithin : Nat → Play → Play
  | 0, play => ⟨{ play.story with position := none }, play.past⟩
  | bound + 1, play =>
    let past := play.story.event?.toList ++ play.past
    match play.story.advance with
    | .settled story => ⟨story, past⟩
    | .moving story => settleWithin bound ⟨story, past⟩

def settle (play : Play) : Play := settleWithin silentBound play

def start (artifact : Artifact) : Play :=
  settle ⟨(blank artifact).enter artifact.start, [.entered artifact.start]⟩

def next (play : Play) : Play :=
  if play.story.canContinue then settle ⟨{ play.story with pending := none }, play.past⟩ else play

def choose (play : Play) (index : Nat) : Play :=
  match play.story.offers[index]? with
  | none => play
  | some offer =>
    let past := (play.story.taken? index).toList ++ play.past
    match offer.target with
    | .knot name => settle ⟨(play.story.taking offer).enter name, .entered name :: past⟩
    | .ending => settle ⟨{ play.story.taking offer with position := none }, past⟩

def perform (play : Play) : Call → Play
  | .continueLine => play.next
  | .continueMaximally => next^[textSteps play.story.artifact] play
  | .choose index => play.choose index

theorem settleWithin_story (bound : Nat) (play : Play) :
    (settleWithin bound play).story = Story.settleWithin bound play.story := by
  induction bound generalizing play with
  | zero => rfl
  | succ bound ih =>
    simp only [settleWithin, Story.settleWithin]
    cases play.story.advance with
    | settled story => rfl
    | moving story => exact ih _

theorem start_story {artifact : Artifact} {story : Story} (started : Story.start artifact = .ok story) :
    (start artifact).story = story := by
  rw [(start_eq_ok_iff.mp started).2.2]
  exact settleWithin_story ..

theorem next_story (play : Play) : play.next.story = play.story.next := by
  unfold next
  split
  · next ready =>
    rw [next_of_ready ready]
    exact settleWithin_story ..
  · next silent => rw [next_of_silent (by simpa using silent)]

theorem iterate_next_story (play : Play) (count : Nat) :
    (next^[count] play).story = Story.next^[count] play.story := by
  induction count with
  | zero => rfl
  | succ count ih => rw [Function.iterate_succ_apply', Function.iterate_succ_apply', next_story, ih]

theorem perform_story (play : Play) (call : Call) :
    (play.perform call).story = play.story.perform call := by
  cases call with
  | continueLine => exact next_story play
  | continueMaximally =>
    simp only [perform, Story.perform, continueMaximally, readWithin_snd]
    exact iterate_next_story ..
  | choose index =>
    simp only [perform, choose, Story.perform, choose_eq]
    cases play.story.offers[index]? with
    | none => rfl
    | some offer =>
      dsimp only
      cases offer.target with
      | knot name => exact settleWithin_story ..
      | ending => exact settleWithin_story ..

theorem run_story (play : Play) (calls : List Call) :
    (calls.foldl perform play).story = calls.foldl Story.perform play.story := by
  induction calls generalizing play with
  | nil => rfl
  | cons call rest ih => rw [List.foldl_cons, List.foldl_cons, ih, perform_story]

end Play

/-! ## What the past says -/

namespace Past

variable (declared : String → Option Value) (past : List Event)

def given? (name : String) : Event → Option Value
  | .assigned other value => if other = name then some value else none
  | _ => none

def value (name : String) : Option Value := (past.findSome? (given? name)).or (declared name)

def holds (condition : String) : Bool :=
  match value declared past condition with
  | some value => value.isTruthy
  | none => decide (.entered condition ∈ past)

def isOpen (knot : String) (choice : ChoicePoint × Nat) : Bool :=
  (choice.1.sticky || decide (.took knot choice.2 ∉ past)) &&
    choice.1.condition.all (holds declared past)

def interpolate (text : String) : String :=
  String.ofList (Placeholder.interpolate
    (fun name => (value declared past name).map Value.shown) text.toList)

def offers (knot : String) (points : List ChoicePoint) : List Offer :=
  (points.zipIdx.filter (isOpen declared past knot)).zipIdx.map fun offered =>
    ⟨offered.2, interpolate declared past offered.1.1.text, offered.1.1.id, offered.1.1.target⟩

theorem exists_offer {declared : String → Option Value} {past : List Event} {knot : String}
    {points : List ChoicePoint} {point : ChoicePoint} {number : Nat}
    (found : points[number]? = some point) (stands : isOpen declared past knot (point, number)) :
    ∃ offer ∈ offers declared past knot points, offer.id = point.id := by
  have listed : (point, number) ∈ points.zipIdx.filter (isOpen declared past knot) :=
    List.mem_filter.mpr ⟨List.mem_zipIdx_iff_getElem?.mpr found, stands⟩
  obtain ⟨index, there⟩ := List.mem_iff_getElem?.mp listed
  have numbered : ((point, number), index) ∈
      (points.zipIdx.filter (isOpen declared past knot)).zipIdx :=
    List.mem_zipIdx_iff_getElem?.mpr there
  exact ⟨_, List.mem_map_of_mem numbered, rfl⟩

end Past

/-- An event is what the past allows: what is offered are the open choices, and a choice that is taken
was one of them. -/
def Event.Follows (declared : String → Option Value) (points : String → List ChoicePoint)
    (past : List Event) : Event → Prop
  | .faced knot offers => offers = Past.offers declared past knot (points knot)
  | .took knot number => (∃ offers earlier, past = .faced knot offers :: earlier) ∧
    ∃ point, (points knot)[number]? = some point ∧ Past.isOpen declared past knot (point, number)
  | .entered _ | .assigned _ _ => True

/-- All choices of a knot stand in one block, and no two choices of the artifact share an id. -/
structure Artifact.Labelled (artifact : Artifact) (points : String → List ChoicePoint) : Prop where
  block : ∀ knot choices, Step.choices choices ∈ artifact.stepsOf knot → choices = points knot
  apart : ∀ (first second : String) (number other : Nat) (point same : ChoicePoint),
    (points first)[number]? = some point → (points second)[other]? = some same →
      point.id = same.id → first = second ∧ number = other

end Tale
