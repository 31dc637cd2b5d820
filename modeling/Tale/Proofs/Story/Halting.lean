import Tale.Proofs.Story.Phases

/-! Why a story stands still.

A course is a story together with what stopped it last: a paragraph, choices, or one of the ways in which
a story ends. The story of a course is the story that was played. A story leaves a knot behind only by a
divert, by a choice or by running off its end, so a knot off which it runs has no last step that leads on.
-/

set_option autoImplicit false

namespace Tale

/-- What stops a story. -/
inductive Halt where
  | paragraph
  | offers
  /-- The last step of a knot was taken, and it led nowhere else. -/
  | ranOff (knot : String)
  /-- A divert or a choice led to the end. -/
  | led
  /-- None of the choices of a knot was open. -/
  | exhausted (knot : String)
  /-- Too many silent steps were taken. -/
  | gaveUp
  deriving DecidableEq, Repr

def Halt.IsEnd : Halt → Prop
  | .paragraph | .offers => False
  | .ranOff _ | .led | .exhausted _ | .gaveUp => True

def Step.Stays : Step → Prop
  | .text _ | .set _ _ => True
  | .divert _ | .choices _ => False

/-- The last step of a knot does not lead on, or it has no step at all. -/
def Artifact.RunsOut (artifact : Artifact) (knot : String) : Prop :=
  ∀ step ∈ (artifact.stepsOf knot).getLast?, step.Stays

structure Course where
  story : Story
  halt : Halt

namespace Story

def halt (story : Story) : Halt :=
  match story.position with
  | some ⟨knot, []⟩ => .ranOff knot
  | some ⟨_, .text _ :: _⟩ => .paragraph
  | some ⟨knot, .choices points :: _⟩ =>
    if (story.offersOf points).isEmpty then .exhausted knot else .offers
  | _ => .led

def haltWithin : Nat → Story → Halt
  | 0, _ => .gaveUp
  | bound + 1, story =>
    match story.advance with
    | .settled _ => story.halt
    | .moving after => haltWithin bound after

def settledBy (story : Story) : Halt := haltWithin silentBound story

/-- The story stands at the beginning of its knot, or behind a step that does not lead elsewhere. -/
def Arrived (story : Story) : Prop :=
  ∀ knot ahead, story.position = some ⟨knot, ahead⟩ → ahead = story.artifact.stepsOf knot ∨
    ∃ step : Step, step.Stays ∧ step :: ahead <:+ story.artifact.stepsOf knot

end Story

namespace Course

open Story

/-! ## Playing -/

def start (artifact : Artifact) : Course :=
  let story := (blank artifact).enter artifact.start
  ⟨story.settle, story.settledBy⟩

def next (course : Course) : Course where
  story := course.story.next
  halt := if course.story.canContinue then { course.story with pending := none }.settledBy else course.halt

def choose (course : Course) (index : Nat) : Course where
  story := course.story.perform (.choose index)
  halt :=
    match course.story.offers[index]? with
    | none => course.halt
    | some offer =>
      match offer.target with
      | .knot name => ((course.story.taking offer).enter name).settledBy
      | .ending => { course.story.taking offer with position := none }.settledBy

def perform (course : Course) : Call → Course
  | .continueLine => course.next
  | .continueMaximally => next^[textSteps course.story.artifact] course
  | .choose index => course.choose index

theorem start_story {artifact : Artifact} {story : Story} (started : Story.start artifact = .ok story) :
    (start artifact).story = story :=
  (start_eq_ok_iff.mp started).2.2.symm

theorem iterate_next_story (course : Course) (count : Nat) :
    (next^[count] course).story = Story.next^[count] course.story := by
  induction count with
  | zero => rfl
  | succ count ih => rw [Function.iterate_succ_apply', Function.iterate_succ_apply', next, ih]

/-- Minding what stops a story does not interfere with it. -/
theorem perform_story (course : Course) (call : Call) :
    (course.perform call).story = course.story.perform call := by
  cases call with
  | continueLine | choose index => rfl
  | continueMaximally =>
    simp only [perform, Story.perform, continueMaximally, readWithin_snd]
    exact iterate_next_story ..

theorem run_story (course : Course) (calls : List Call) :
    (calls.foldl perform course).story = calls.foldl Story.perform course.story := by
  induction calls generalizing course with
  | nil => rfl
  | cons call rest ih => rw [List.foldl_cons, List.foldl_cons, ih, perform_story]

end Course

/-! ## Explanations -/

namespace Story

variable {story : Story}

theorem Arrived.of_ended (ended : story.position = none) : story.Arrived := by
  intro knot ahead stands
  rw [ended] at stands
  cases stands

theorem enter_arrived (story : Story) (knot : String) : (story.enter knot).Arrived := by
  intro place ahead stands
  cases stands
  exact .inl rfl

theorem Placed.arrived {after : Story} (placed : story.Placed) {knot : String} {step : Step}
    {ahead : List Step} (stands : story.position = some ⟨knot, step :: ahead⟩) (stays : step.Stays)
    (standsAfter : after.position = some ⟨knot, ahead⟩) (artifact : after.artifact = story.artifact) :
    after.Arrived := by
  intro place rest found
  cases standsAfter.symm.trans found
  exact .inr ⟨step, stays, artifact ▸ placed.ahead _ _ stands⟩

theorem Arrived.runsOut (arrived : story.Arrived) {knot : String}
    (stands : story.position = some ⟨knot, []⟩) : story.artifact.RunsOut knot := by
  intro step last
  rcases arrived knot [] stands with none | ⟨other, stays, before, all⟩
  · rw [← none] at last
    cases last
  · rw [← all, List.getLast?_concat] at last
    cases last
    exact stays

end Story

namespace Course

open Story

/-- What stopped a story is what it shows; where it ran off a knot, that knot runs out. -/
def Explained (course : Course) : Prop :=
  match course.halt with
  | .paragraph => course.story.canContinue
  | .offers => course.story.offers ≠ []
  | .ranOff knot => course.story.hasEnded ∧ course.story.artifact.knots.contains knot ∧
    course.story.artifact.RunsOut knot
  | .led | .exhausted _ | .gaveUp => course.story.hasEnded

structure Sensible (course : Course) : Prop where
  settled : course.story.Settled
  arrived : course.story.Arrived
  explained : course.Explained

theorem hasEnded_of_idle {story : Story} (idle : story.Idle) :
    { story with position := none }.hasEnded := by
  have silent : story.pending = none := by simpa [canContinue] using idle.silent
  simp [hasEnded, silent, idle.alone]

theorem advance_explained {story : Story} (sound : story.Sound) (idle : story.Idle)
    (arrived : story.Arrived) :
    match story.advance with
    | .settled after => after.Arrived ∧ Explained ⟨after, story.halt⟩
    | .moving after => after.Arrived := by
  fun_cases advance story with
  | case1 gone =>
    have stopped : story.halt = .led := by simp [Story.halt, gone]
    have ended : story.hasEnded := by
      have silent : story.pending = none := by simpa [canContinue] using idle.silent
      simp [hasEnded, gone, silent, idle.alone]
    rw [stopped]
    exact ⟨arrived, ended⟩
  | case2 knot stands =>
    have stopped : story.halt = .ranOff knot := by simp [Story.halt, stands]
    rw [stopped]
    exact ⟨.of_ended rfl, hasEnded_of_idle idle, (sound.known _ stands).1, arrived.runsOut stands⟩
  | case3 knot words ahead stands =>
    have stopped : story.halt = .paragraph := by simp [Story.halt, stands]
    rw [stopped]
    exact ⟨sound.placed.arrived stands trivial rfl rfl, rfl⟩
  | case4 knot name value ahead stands => exact sound.placed.arrived stands trivial rfl rfl
  | case5 knot name ahead stands => exact enter_arrived story name
  | case6 knot ahead stands =>
    have stopped : story.halt = .led := by simp [Story.halt, stands]
    rw [stopped]
    exact ⟨.of_ended rfl, hasEnded_of_idle idle⟩
  | case7 knot points ahead stands offers =>
    by_cases nothing : offers.isEmpty
    · have stopped : story.halt = .exhausted knot := by
        simp only [Story.halt, stands]
        exact if_pos nothing
      have alone : offers = [] := List.isEmpty_iff.mp nothing
      rw [stopped]
      refine ⟨.of_ended (if_pos nothing), ?_⟩
      have silent : story.pending = none := by simpa [canContinue] using idle.silent
      simp [Explained, hasEnded, alone, silent]
    · have stopped : story.halt = .offers := by
        simp only [Story.halt, stands]
        exact if_neg nothing
      rw [stopped]
      refine ⟨fun place rest found => ?_, fun none => nothing (List.isEmpty_iff.mpr none)⟩
      -- The story stays before the block.
      cases (if_neg nothing).symm.trans found
      exact arrived _ _ stands

/-- Silent steps end with a reason. -/
theorem settleWithin_sensible {bound : Nat} {story : Story} (sound : story.Sound) (idle : story.Idle)
    (arrived : story.Arrived) : Sensible ⟨settleWithin bound story, haltWithin bound story⟩ := by
  suffices explained : (settleWithin bound story).Arrived ∧
      Explained ⟨settleWithin bound story, haltWithin bound story⟩ from
    ⟨(settleWithin_settled sound idle).1, explained.1, explained.2⟩
  induction bound generalizing story with
  | zero => exact ⟨.of_ended rfl, hasEnded_of_idle idle⟩
  | succ bound ih =>
    have step := advance_settled sound idle
    have reason := advance_explained sound idle arrived
    simp only [settleWithin, haltWithin]
    cases led : story.advance with
    | settled after => simpa only [led] using reason
    | moving after =>
      simp only [led] at step reason
      exact ih step.1 step.2.1 reason

theorem start_sensible {artifact : Artifact} {story : Story}
    (started : Story.start artifact = .ok story) : (start artifact).Sensible := by
  obtain ⟨valid, closed, -⟩ := start_eq_ok_iff.mp started
  obtain ⟨sound, idle⟩ := blank_enter_sound closed (Artifact.validate_eq_ok_iff.mp valid).2
  exact settleWithin_sensible sound idle (enter_arrived _ _)

namespace Sensible

variable {course : Course}

theorem next (sensible : course.Sensible) : course.next.Sensible := by
  have settled := sensible.settled
  unfold Course.next
  split
  · next ready =>
    rw [next_of_ready ready]
    exact settleWithin_sensible settled.toSound.withoutPending ⟨rfl, settled.alone_of_ready ready⟩
      sensible.arrived
  · next silent =>
    rw [next_of_silent (by simpa using silent)]
    exact sensible

theorem iterate_next (sensible : course.Sensible) (count : Nat) : (Course.next^[count] course).Sensible := by
  induction count with
  | zero => exact sensible
  | succ count ih =>
    rw [Function.iterate_succ_apply']
    exact ih.next

theorem choose (sensible : course.Sensible) (index : Nat) : (course.choose index).Sensible := by
  have settled := sensible.settled
  simp only [Course.choose, Story.perform, choose_eq]
  cases found : course.story.offers[index]? with
  | none => exact sensible
  | some offer =>
    have member := List.mem_of_getElem? found
    cases leads : offer.target with
    | knot name =>
      obtain ⟨sound, idle⟩ := settled.taking_enter member leads
      simp only [leads]
      exact settleWithin_sensible sound idle (enter_arrived _ _)
    | ending =>
      have silent := settled.silent_of_offered member
      simp only [leads]
      exact settleWithin_sensible ⟨.of_ended rfl silent, settled.closed, .of_ended rfl⟩ ⟨silent, rfl⟩
        (.of_ended rfl)

theorem perform (sensible : course.Sensible) (call : Call) : (course.perform call).Sensible := by
  cases call with
  | continueLine => exact sensible.next
  | continueMaximally => exact sensible.iterate_next _
  | choose index => exact sensible.choose index

theorem run (sensible : course.Sensible) (calls : List Call) :
    (calls.foldl Course.perform course).Sensible := by
  induction calls generalizing course with
  | nil => exact sensible
  | cons call rest ih => exact ih (sensible.perform call)

theorem hasEnded_iff (sensible : course.Sensible) : course.story.hasEnded ↔ course.halt.IsEnd := by
  have settled := sensible.settled
  have explained := sensible.explained
  unfold Explained at explained
  cases halted : course.halt with
  | paragraph =>
    rw [halted] at explained
    refine iff_of_false (fun ended => ?_) id
    have gone := settled.hasEnded_iff.mp ended
    cases settled.inPhase with
    | reading _ _ stands => simp [gone] at stands
    | choosing silent | ended silent => cases explained.symm.trans silent
  | offers =>
    rw [halted] at explained
    refine iff_of_false (fun ended => ?_) id
    have gone := settled.hasEnded_iff.mp ended
    cases settled.inPhase with
    | choosing _ _ stands => simp [gone] at stands
    | reading _ alone | ended _ alone => exact explained alone
  | ranOff knot =>
    rw [halted] at explained
    exact iff_of_true explained.1 trivial
  | led | exhausted | gaveUp =>
    rw [halted] at explained
    exact iff_of_true explained trivial

end Sensible

end Course

end Tale
