import Tale.Proofs.Story.Halting

/-! Loops of silent steps.

Left alone, a story would take silent steps until one settles it, or for ever. Which step comes next
depends on where the story stands and on nothing that it met on the way, so a story that comes to a place
again goes round for ever. A story with fewer silent steps than it takes in a row has come to some place
again before it gives up. So it gives up on endless loops alone.
-/

set_option autoImplicit false

namespace Tale

def Step.isSilent : Step → Bool
  | .set _ _ | .divert _ => true
  | .text _ | .choices _ => false

def Artifact.silentSteps (artifact : Artifact) : Nat :=
  (artifact.knots.values.flatMap Knot.steps).countP Step.isSilent

namespace Story

/-! ## Silent steps without a bound -/

def movesFor : Nat → Story → Option Story
  | 0, story => some story
  | count + 1, story =>
    match story.advance with
    | .settled _ => none
    | .moving after => movesFor count after

/-- Silent steps go on for ever. -/
def Endless (story : Story) : Prop := ∀ count, (movesFor count story).isSome

/-- Where a story is settled that takes as many silent steps as it comes to. -/
inductive Settles : Story → Story → Prop where
  | settled {story after : Story} (stops : story.advance = .settled after) : Settles story after
  | moving {story between after : Story} (moves : story.Moves between)
      (onward : Settles between after) : Settles story after

variable {story : Story}

theorem movesFor_add (first second : Nat) (story : Story) :
    movesFor (first + second) story = (movesFor first story).bind (movesFor second) := by
  induction first generalizing story with
  | zero => rw [Nat.zero_add, movesFor, Option.bind_some]
  | succ first ih =>
    rw [Nat.succ_add, movesFor, movesFor]
    cases story.advance with
    | settled after => rfl
    | moving after => exact ih after

theorem isSome_movesFor_of_le {count more : Nat} (le : count ≤ more)
    (moves : (movesFor more story).isSome) : (movesFor count story).isSome := by
  obtain ⟨rest, rfl⟩ := Nat.exists_eq_add_of_le le
  rw [movesFor_add] at moves
  exact Option.isSome_of_isSome_bind moves

theorem Settles.unique {after other : Story} (settles : story.Settles after)
    (again : story.Settles other) : after = other := by
  induction settles with
  | settled stops =>
    cases again with
    | settled stopsToo => exact Motion.settled.inj (stops.symm.trans stopsToo)
    | moving moves => cases stops.symm.trans moves
  | moving moves onward ih =>
    cases again with
    | settled stops => cases stops.symm.trans moves
    | moving movesToo onwardToo =>
      cases moves.symm.trans movesToo
      exact ih onwardToo

theorem Settles.not_endless {after : Story} (settles : story.Settles after) : ¬ story.Endless := by
  induction settles with
  | settled stops =>
    intro endless
    have one := endless 1
    rw [movesFor, stops] at one
    cases one
  | moving moves onward ih =>
    refine fun endless => ih fun count => ?_
    have later := endless (count + 1)
    rw [movesFor, moves] at later
    exact later

/-- A bounded row of silent steps that comes to an end ends where an unbounded one does. -/
theorem settles_settleWithin {bound : Nat} (stops : movesFor bound story = none) :
    story.Settles (settleWithin bound story) := by
  induction bound generalizing story with
  | zero => cases stops
  | succ bound ih =>
    rw [settleWithin]
    cases led : story.advance with
    | settled after => exact .settled led
    | moving after =>
      rw [movesFor, led] at stops
      exact .moving led (ih stops)

theorem halt_ne_gaveUp (story : Story) : story.halt ≠ .gaveUp := by
  unfold halt
  split
  · exact nofun
  · exact nofun
  · split <;> exact nofun
  · exact nofun

theorem haltWithin_eq_gaveUp_iff (bound : Nat) (story : Story) :
    haltWithin bound story = .gaveUp ↔ (movesFor bound story).isSome := by
  induction bound generalizing story with
  | zero => exact iff_of_true rfl rfl
  | succ bound ih =>
    rw [haltWithin, movesFor]
    cases story.advance with
    | settled after => exact iff_of_false (halt_ne_gaveUp story) Bool.false_ne_true
    | moving after => exact ih after

/-! ## Coming to a place again -/

/-- From one place silent steps go equally far, whatever was met before. -/
theorem isSome_movesFor_abreast {first second : Story} (abreast : Abreast first second)
    (silent : first.canContinue = false) (silentToo : second.canContinue = false) (count : Nat) :
    (movesFor count first).isSome = (movesFor count second).isSome := by
  induction count generalizing first second with
  | zero => rfl
  | succ count ih =>
    have step := advance_abreast abreast silent silentToo
    rw [movesFor, movesFor]
    cases led : first.advance with
    | settled after =>
      cases ledToo : second.advance with
      | settled afterToo => rfl
      | moving afterToo => simp only [led, ledToo] at step
    | moving after =>
      cases ledToo : second.advance with
      | settled afterToo => simp only [led, ledToo] at step
      | moving afterToo =>
        simp only [led, ledToo] at step
        exact ih step.1 step.2.1 step.2.2

/-- Silent steps that lead to one place twice never end. -/
theorem endless_of_return_silently {earlier later : Nat} (order : earlier < later)
    {first second : Story} (reached : movesFor earlier story = some first)
    (returned : movesFor later story = some second) (abreast : Abreast first second)
    (silent : first.canContinue = false) (silentToo : second.canContinue = false) :
    story.Endless := by
  intro count
  induction count using Nat.strong_induction_on with
  | _ count ih =>
    rcases Nat.lt_or_ge later count with beyond | within
    · -- What comes behind the second visit came behind the first one already.
      have before := ih (earlier + (count - later)) (by omega)
      rw [movesFor_add, reached, Option.bind_some] at before
      rw [show count = later + (count - later) by omega, movesFor_add, returned, Option.bind_some,
        ← isSome_movesFor_abreast abreast silent silentToo]
      exact before
    · exact isSome_movesFor_of_le within (returned ▸ rfl)

/-! ## The places before silent steps -/

def headIsSilent (ahead : List Step) : Bool := ahead.head?.any Step.isSilent

def silentPlaces (artifact : Artifact) : List Position :=
  artifact.knots.entries.flatMap fun (name, knot) =>
    (knot.steps.tails.filter headIsSilent).map (Position.mk name)

theorem length_filter_tails (steps : List Step) :
    (steps.tails.filter headIsSilent).length = steps.countP Step.isSilent := by
  induction steps with
  | nil => rfl
  | cons step rest ih =>
    rw [List.tails_cons, List.filter_cons, List.countP_cons, ← ih]
    cases silent : step.isSilent <;> simp [headIsSilent, silent]

theorem length_silentPlaces (artifact : Artifact) :
    (silentPlaces artifact).length = artifact.silentSteps :=
  length_places artifact length_filter_tails

theorem Moves.headIsSilent {after : Story} (moves : story.Moves after) :
    ∃ place, story.position = some place ∧ Story.headIsSilent place.ahead := by
  revert moves
  unfold Moves
  fun_cases advance story with
  | case4 knot name value ahead stands => exact fun _ => ⟨_, stands, rfl⟩
  | case5 knot name ahead stands => exact fun _ => ⟨_, stands, rfl⟩
  | case1 | case2 | case3 | case6 | case7 =>
    intro led
    cases led

theorem mem_silentPlaces {after : Story} (placed : story.Placed) (moves : story.Moves after) :
    ∃ place ∈ silentPlaces story.artifact, story.position = some place := by
  obtain ⟨⟨knot, ahead⟩, stands, silent⟩ := moves.headIsSilent
  have some : ahead ≠ [] := by
    rintro rfl
    cases silent
  obtain ⟨content, listed, within⟩ := exists_knot_of_ahead (placed.ahead knot ahead stands) some
  refine ⟨⟨knot, ahead⟩, ?_, stands⟩
  refine List.mem_flatMap.mpr ⟨_, listed, List.mem_map_of_mem (List.mem_filter.mpr ⟨?_, silent⟩)⟩
  exact (List.mem_tails _ _).mpr within

theorem movesFor_placed {count : Nat} {after : Story} (placed : story.Placed)
    (silent : story.canContinue = false) (moved : movesFor count story = some after) :
    after.Placed ∧ after.canContinue = false ∧ after.artifact = story.artifact := by
  induction count generalizing story with
  | zero =>
    cases moved
    exact ⟨placed, silent, rfl⟩
  | succ count ih =>
    have step := advance_placed placed silent
    rw [movesFor] at moved
    cases led : story.advance with
    | settled between =>
      rw [led] at moved
      cases moved
    | moving between =>
      simp only [led] at step moved
      obtain ⟨placedThere, same, silentThere⟩ := step
      obtain ⟨placedAfter, silentAfter, sameAfter⟩ := ih placedThere silentThere moved
      exact ⟨placedAfter, silentAfter, sameAfter.trans same⟩

theorem exists_silentPlace {count : Nat} (placed : story.Placed) (silent : story.canContinue = false)
    (moves : (movesFor (count + 1) story).isSome) :
    ∃ place ∈ silentPlaces story.artifact, (movesFor count story).bind position = some place := by
  rw [movesFor_add] at moves
  obtain ⟨between, moved⟩ := Option.isSome_iff_exists.mp (Option.isSome_of_isSome_bind moves)
  obtain ⟨placedThere, -, same⟩ := movesFor_placed placed silent moved
  rw [moved, Option.bind_some, movesFor] at moves
  cases led : between.advance with
  | settled after =>
    rw [led] at moves
    cases moves
  | moving after =>
    rw [moved, Option.bind_some, ← same]
    exact mem_silentPlaces placedThere led

theorem endless_of_same_place {earlier later : Nat} (placed : story.Placed)
    (silent : story.canContinue = false) (order : earlier < later)
    (moves : (movesFor later story).isSome)
    (same : (movesFor earlier story).bind position = (movesFor later story).bind position) :
    story.Endless := by
  obtain ⟨here, moved⟩ := Option.isSome_iff_exists.mp (isSome_movesFor_of_le order.le moves)
  obtain ⟨there, movedThere⟩ := Option.isSome_iff_exists.mp moves
  rw [moved, movedThere, Option.bind_some, Option.bind_some] at same
  obtain ⟨-, silentHere, artifact⟩ := movesFor_placed placed silent moved
  obtain ⟨-, silentThere, artifactThere⟩ := movesFor_placed placed silent movedThere
  exact endless_of_return_silently order moved movedThere ⟨artifact.trans artifactThere.symm, same⟩
    silentHere silentThere

/-- A story that takes more silent steps than there are in its artifact goes on for ever. -/
theorem endless_of_many {bound : Nat} (placed : story.Placed) (silent : story.canContinue = false)
    (few : story.artifact.silentSteps < bound) (moves : (movesFor bound story).isSome) :
    story.Endless := by
  have stands (count : Nat) (within : count < bound) :
      ∃ place ∈ silentPlaces story.artifact, (movesFor count story).bind position = some place :=
    exists_silentPlace placed silent (isSome_movesFor_of_le (Nat.succ_le_of_lt within) moves)
  -- There are fewer places than steps, so two steps are taken from one place.
  rw [← length_silentPlaces] at few
  obtain ⟨earlier, later, order, within, same⟩ := exists_same_place few _ stands
  exact endless_of_same_place placed silent order (isSome_movesFor_of_le within.le moves) same

/-! ## Giving up -/

/-- With fewer silent steps than it takes before it gives up, a story gives up exactly if its silent
steps would go on for ever, and is settled otherwise where they end. -/
theorem gaveUp_iff_endless (placed : story.Placed) (silent : story.canContinue = false)
    (few : story.artifact.silentSteps < silentBound) :
    story.settledBy = .gaveUp ↔ story.Endless := by
  rw [settledBy, haltWithin_eq_gaveUp_iff]
  exact ⟨endless_of_many placed silent few, fun endless => endless silentBound⟩

theorem settles_iff (placed : story.Placed) (silent : story.canContinue = false)
    (few : story.artifact.silentSteps < silentBound) {after : Story} :
    story.Settles after ↔ ¬ story.Endless ∧ story.settle = after := by
  have settles (finite : ¬ story.Endless) : story.Settles story.settle := by
    rw [← gaveUp_iff_endless placed silent few, settledBy, haltWithin_eq_gaveUp_iff,
      Option.not_isSome_iff_eq_none] at finite
    exact settles_settleWithin finite
  constructor
  · intro stops
    exact ⟨stops.not_endless, (settles stops.not_endless).unique stops⟩
  · rintro ⟨finite, rfl⟩
    exact settles finite

/-- Where a story that is asked to go on begins to take silent steps: behind the paragraph that was
read, or where an offer leads. -/
inductive Departs (story : Story) : Story → Prop where
  | reading (ready : story.canContinue) : Departs story { story with pending := none }
  | following {offer : Offer} {name : String} (offered : offer ∈ story.offers)
      (leads : offer.target = .knot name) : Departs story ((story.taking offer).enter name)
  | leaving {offer : Offer} (offered : offer ∈ story.offers) (leads : offer.target = .ending) :
      Departs story { story.taking offer with position := none }

theorem Settled.departs {origin : Story} (settled : story.Settled) (departs : story.Departs origin) :
    origin.Sound ∧ origin.Idle ∧ origin.artifact = story.artifact := by
  cases departs with
  | reading ready =>
    exact ⟨settled.toSound.withoutPending, ⟨rfl, settled.alone_of_ready ready⟩, rfl⟩
  | following offered leads =>
    obtain ⟨sound, idle⟩ := settled.taking_enter offered leads
    exact ⟨sound, idle, rfl⟩
  | leaving offered leads =>
    have silent := settled.silent_of_offered offered
    exact ⟨⟨.of_ended rfl silent, settled.closed, .of_ended rfl⟩, ⟨silent, rfl⟩, rfl⟩

/-- A call that changes a story lets it go on from such a place; reading as far as possible is reading
paragraph after paragraph. -/
theorem perform_cases (story : Story) {call : Call} (single : call ≠ .continueMaximally) :
    story.perform call = story ∨ ∃ origin, story.Departs origin ∧ story.perform call = origin.settle := by
  cases call with
  | continueMaximally => exact absurd rfl single
  | continueLine =>
    by_cases ready : story.canContinue
    · exact .inr ⟨_, .reading ready, next_of_ready ready⟩
    · exact .inl (next_of_silent (by simpa using ready))
  | choose index =>
    simp only [perform, choose_eq]
    cases found : story.offers[index]? with
    | none => exact .inl rfl
    | some offer =>
      have offered := List.mem_of_getElem? found
      cases leads : offer.target with
      | knot name => exact .inr ⟨_, .following offered leads, by simp only [leads]⟩
      | ending => exact .inr ⟨_, .leaving offered leads, by simp only [leads]⟩

theorem position_of_gaveUp {bound : Nat} (gaveUp : haltWithin bound story = .gaveUp) :
    (settleWithin bound story).position = none := by
  induction bound generalizing story with
  | zero => rfl
  | succ bound ih =>
    rw [haltWithin] at gaveUp
    rw [settleWithin]
    cases led : story.advance with
    | settled after =>
      rw [led] at gaveUp
      exact absurd gaveUp (halt_ne_gaveUp story)
    | moving after =>
      rw [led] at gaveUp
      exact ih gaveUp

/-- However a story is played whose artifact has fewer silent steps than the bound, from wherever it
takes silent steps, at the beginning or in a call, it gives up exactly if they would never end. Otherwise
it is settled where unbounded silent steps first settle it, in the very same state. -/
theorem settle_gives_up_on_loops {artifact : Artifact} {story : Story}
    (started : start artifact = .ok story) (few : artifact.silentSteps < silentBound)
    (calls : List Call) :
    let reached := calls.foldl perform story
    (∀ call, call ≠ .continueMaximally → reached.perform call = reached ∨
      ∃ origin, reached.Departs origin ∧ reached.perform call = origin.settle) ∧
    ∀ origin, (origin = (blank artifact).enter artifact.start ∨ reached.Departs origin) →
      ∀ state, Relation.ReflTransGen Moves origin state →
        (state.settledBy = .gaveUp ↔ state.Endless) ∧ (state.Endless → state.settle.hasEnded) ∧
          ∀ after, state.Settles after ↔ ¬ state.Endless ∧ state.settle = after := by
  intro reached
  refine ⟨fun call single => perform_cases reached single, fun origin departs state moved => ?_⟩
  obtain ⟨valid, closed, -⟩ := start_eq_ok_iff.mp started
  have begins : origin.Sound ∧ origin.Idle ∧ origin.artifact = artifact := by
    rcases departs with rfl | departs
    · obtain ⟨sound, idle⟩ := blank_enter_sound closed (Artifact.validate_eq_ok_iff.mp valid).2
      exact ⟨sound, idle, rfl⟩
    · obtain ⟨first, same⟩ := start_settled started
      obtain ⟨settled, sameAfter⟩ := first.run calls
      obtain ⟨sound, idle, sameThere⟩ := settled.departs departs
      exact ⟨sound, idle, sameThere.trans (sameAfter.trans same)⟩
  obtain ⟨sound, idle, same⟩ := begins
  obtain ⟨soundThere, idleThere, sameThere⟩ := moves_sound sound idle moved
  rw [← same, ← sameThere] at few
  have gaveUp := gaveUp_iff_endless soundThere.placed idleThere.silent few
  refine ⟨gaveUp, fun endless => ?_, fun after => settles_iff soundThere.placed idleThere.silent few⟩
  have settled : state.settle.Settled := (settleWithin_settled soundThere idleThere).1
  exact settled.hasEnded_iff.mpr (position_of_gaveUp (gaveUp.mpr endless))

def whirl : Artifact where
  format := Artifact.currentFormat
  start := Artifact.rootKnot
  knots := ⟨[("_root", ⟨[.text "A boat.", .choices [⟨"_root.0", "Drift", false, none, .knot "whirl"⟩,
      ⟨"_root.1", "Row", false, none, .knot "shore"⟩]]⟩),
    ("eddy", ⟨[.divert (.knot "whirl")]⟩),
    ("shore", ⟨[.set "dry" (.bool true), .text "The shore."]⟩),
    ("whirl", ⟨[.set "dizzy" (.bool true), .divert (.knot "eddy")]⟩)], by decide⟩
  globals := .empty

/-- The boat that drifts is given up for lost; the one that is rowed arrives. -/
theorem whirl_gives_up : ∃ story, start whirl = .ok story ∧ whirl.silentSteps < silentBound ∧
    let reached := [Call.continueLine].foldl perform story
    let drifting := (reached.taking ⟨0, "Drift", "_root.0", .knot "whirl"⟩).enter "whirl"
    let rowing := (reached.taking ⟨1, "Row", "_root.1", .knot "shore"⟩).enter "shore"
    (drifting.settledBy = .gaveUp ∧ drifting.settle.hasEnded) ∧
      rowing.Settles rowing.settle ∧ rowing.settle.pending = some "The shore." := by
  have started : start whirl = .ok ((blank whirl).enter whirl.start).settle := rfl
  have few : whirl.silentSteps < silentBound := by decide
  refine ⟨_, started, few, ?_⟩
  intro reached drifting rowing
  obtain ⟨-, right⟩ := settle_gives_up_on_loops started few [.continueLine]
  have drifts : reached.Departs drifting := .following (by decide) rfl
  have rows : reached.Departs rowing := .following (by decide) rfl
  obtain ⟨gaveUp, ended, -⟩ := right drifting (.inr drifts) _ .refl
  obtain ⟨gaveUpToo, -, settles⟩ := right rowing (.inr rows) _ .refl
  -- The eddy leads back to the whirl.
  have endless : drifting.Endless :=
    endless_of_return_silently (by decide : 0 < 3) rfl rfl ⟨rfl, rfl⟩ rfl rfl
  have arrives : ¬ rowing.Endless := mt gaveUpToo.mpr (by decide)
  exact ⟨⟨gaveUp.mpr endless, ended endless⟩, (settles _).mpr ⟨arrives, rfl⟩, rfl⟩

end Story

end Tale
