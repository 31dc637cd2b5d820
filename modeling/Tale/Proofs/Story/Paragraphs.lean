import Tale.Proofs.Story.Loops

/-! The paragraphs of a story and the steps that they come from.

A paragraph that is ready is the text of the step right behind which the story stands. A story that
comes behind one text step for a second time without a choice between goes round for ever. So
reading either never ends, or it takes every text step once at most.
-/

set_option autoImplicit false

namespace Tale

structure StepPlace where
  knot : String
  number : Nat
  deriving DecidableEq, Repr

def Artifact.step? (artifact : Artifact) (place : StepPlace) : Option Step :=
  (artifact.stepsOf place.knot)[place.number]?

namespace Story

inductive ReadsAll : Story → List String → Story → Prop where
  | done {story after : Story} (read : story.continueLine = (none, after)) : ReadsAll story [] after
  | line {story between after : Story} {line : String} {lines : List String}
      (read : story.continueLine = (some line, between)) (onward : ReadsAll between lines after) :
      ReadsAll story (line :: lines) after

/-- A paragraph is ready that a text step made: the story stands right behind that step, and the
paragraph is its text with the placeholders filled in. -/
structure ReadyFrom (story : Story) (place : StepPlace) (line : String) : Prop where
  pending : story.pending = some line
  stands : story.position =
    some ⟨place.knot, (story.artifact.stepsOf place.knot).drop (place.number + 1)⟩
  made : ∃ words, story.artifact.step? place = some (.text words) ∧ line = story.interpolate words

def Sourced (story : Story) : Prop :=
  ∀ line, story.pending = some line → ∃ place, story.ReadyFrom place line

/-! ## Where a ready paragraph comes from -/

theorem Sourced.of_silent {story : Story} (silent : story.canContinue = false) : story.Sourced := by
  intro line waits
  simp [canContinue, waits] at silent

theorem advance_sourced {story after : Story} (placed : story.Placed)
    (silent : story.canContinue = false) (settled : story.advance = .settled after) :
    after.Sourced := by
  revert settled
  fun_cases advance story with
  | case4 | case5 =>
    intro settled
    cases settled
  | case1 | case2 | case6 =>
    rintro ⟨⟩
    exact .of_silent silent
  | case7 knot points ahead stands offers =>
    rintro ⟨⟩
    exact .of_silent silent
  | case3 knot words ahead stands =>
    rintro ⟨⟩ line ⟨⟩
    obtain ⟨before, all⟩ := placed.ahead knot _ stands
    refine ⟨⟨knot, before.length⟩, rfl, ?_, words, ?_, rfl⟩
    · simp [← all, List.drop_append]
    · simp [Artifact.step?, ← all]

theorem settleWithin_sourced {bound : Nat} {story : Story} (placed : story.Placed)
    (silent : story.canContinue = false) : (settleWithin bound story).Sourced := by
  induction bound generalizing story with
  | zero => exact .of_silent silent
  | succ bound ih =>
    have step := advance_placed placed silent
    rw [settleWithin]
    cases led : story.advance with
    | settled after => exact advance_sourced placed silent led
    | moving after =>
      rw [led] at step
      exact ih step.1 step.2.2

/-! ## What holds wherever a story is settled -/

section Everywhere

variable {motive : Story → Prop}
  (settles : ∀ origin : Story, origin.Sound → origin.Idle → motive origin.settle) {story : Story}

include settles

theorem Settled.perform_everywhere (settled : story.Settled) (holds : motive story) {call : Call}
    (single : call ≠ .continueMaximally) : motive (story.perform call) := by
  rcases perform_cases story single with same | ⟨origin, departs, same⟩
  · rw [same]
    exact holds
  · obtain ⟨sound, idle, -⟩ := settled.departs departs
    rw [same]
    exact settles origin sound idle

theorem Settled.iterate_next_everywhere (settled : story.Settled) (holds : motive story)
    (count : Nat) : motive (Story.next^[count] story) := by
  induction count with
  | zero => exact holds
  | succ count ih =>
    rw [Function.iterate_succ_apply']
    have single : Call.continueLine ≠ .continueMaximally := nofun
    exact (settled.iterate_next count).1.perform_everywhere settles ih single

/-- What holds wherever silent steps settle a story holds of every story that is played. -/
theorem run_everywhere {artifact : Artifact} (started : start artifact = .ok story)
    (calls : List Call) : motive (calls.foldl perform story) := by
  obtain ⟨settled, -⟩ := start_settled started
  have begun : motive story := by
    obtain ⟨valid, closed, rfl⟩ := start_eq_ok_iff.mp started
    obtain ⟨sound, idle⟩ := blank_enter_sound closed (Artifact.validate_eq_ok_iff.mp valid).2
    exact settles _ sound idle
  clear started
  induction calls generalizing story with
  | nil => exact begun
  | cons call rest ih =>
    refine ih (settled.perform call).1 ?_
    by_cases whole : call = .continueMaximally
    · rw [whole, perform, continueMaximally, readWithin_snd]
      exact settled.iterate_next_everywhere settles begun _
    · exact settled.perform_everywhere settles begun whole

end Everywhere

/-! ## Reading without a bound -/

theorem ReadsAll.unique {story after last : Story} {lines others : List String}
    (reads : story.ReadsAll lines after) (again : story.ReadsAll others last) :
    others = lines ∧ last = after := by
  induction reads generalizing others with
  | done read =>
    cases again with
    | done readToo =>
      cases read.symm.trans readToo
      exact ⟨rfl, rfl⟩
    | line readToo => cases read.symm.trans readToo
  | line read onward ih =>
    cases again with
    | done readToo => cases read.symm.trans readToo
    | line readToo onwardToo =>
      cases read.symm.trans readToo
      obtain ⟨rfl, rfl⟩ := ih onwardToo
      exact ⟨rfl, rfl⟩

theorem ReadsAll.readsOut {story after : Story} {lines : List String}
    (reads : story.ReadsAll lines after) : story.ReadsOut := by
  induction reads with
  | @done story after read =>
    refine ⟨0, ?_⟩
    cases waits : story.pending with
    | none => simp [canContinue, waits]
    | some line => simp [continueLine, waits] at read
  | line read onward ih =>
    obtain ⟨count, silent⟩ := ih
    refine ⟨count + 1, ?_⟩
    rw [Function.iterate_succ_apply, next, read]
    exact silent

theorem readsAll_readWithin {bound : Nat} {story : Story}
    (ends : (next^[bound] story).canContinue = false) :
    story.ReadsAll (story.readWithin bound).1 (story.readWithin bound).2 := by
  induction bound generalizing story with
  | zero =>
    have none : story.pending = none := by simpa [canContinue] using ends
    exact .done (by simp [readWithin, continueLine, none])
  | succ bound ih =>
    rw [Function.iterate_succ_apply] at ends
    rw [readWithin]
    rcases read : story.continueLine with ⟨_ | line, between⟩
    · exact .done read
    · rw [next, read] at ends
      exact .line read (ih ends)

/-- The paragraphs that are read are those that are ready on the way. -/
theorem getElem?_readWithin (bound : Nat) (story : Story) (index : Nat) :
    (story.readWithin bound).1[index]? =
      if index < bound then (next^[index] story).pending else none := by
  induction bound generalizing story index with
  | zero => simp [readWithin]
  | succ bound ih =>
    rw [readWithin]
    cases waits : story.pending with
    | none =>
      have silent : story.canContinue = false := by simp [canContinue, waits]
      simp [continueLine, waits, iterate_next_of_silent silent]
    | some line =>
      cases index with
      | zero => simp [continueLine, waits]
      | succ index =>
        have onward := ih story.next index
        simp only [next, continueLine, waits] at onward
        simp [continueLine, waits, onward, Function.iterate_succ_apply, next]

theorem length_readWithin_le (bound : Nat) (story : Story) :
    (story.readWithin bound).1.length ≤ bound := by
  rw [← List.getElem?_eq_none_iff, getElem?_readWithin, if_neg (Nat.lt_irrefl bound)]

/-! ## Once or for ever -/

/-- A text step that makes a second paragraph makes the story go round for ever. -/
theorem endless_of_same_source {story : Story} (placed : story.Placed) {earlier later : Nat}
    (order : earlier < later) {place : StepPlace} {line other : String}
    (here : (next^[earlier] story).ReadyFrom place line)
    (there : (next^[later] story).ReadyFrom place other) (count : Nat) :
    (next^[count] story).canContinue := by
  have artifacts : (next^[earlier] story).artifact = (next^[later] story).artifact :=
    (iterate_next_placed placed earlier).2.trans (iterate_next_placed placed later).2.symm
  have positions : (next^[earlier] story).position = (next^[later] story).position := by
    rw [here.stands, there.stands, artifacts]
  have ready : (next^[later] story).canContinue := by simp [canContinue, there.pending]
  exact endless_of_return order ready ⟨artifacts, positions⟩ count

theorem ReadyFrom.unique {story : Story} (placed : story.Placed) {bound : Nat}
    (ends : (next^[bound] story).canContinue = false) {first second : Nat} {place : StepPlace}
    {line other : String} (here : (next^[first] story).ReadyFrom place line)
    (there : (next^[second] story).ReadyFrom place other) : first = second := by
  have finite {earlier later : Nat} (order : earlier < later) {line other : String}
      (here : (next^[earlier] story).ReadyFrom place line)
      (there : (next^[later] story).ReadyFrom place other) : False :=
    Bool.noConfusion (ends.symm.trans (endless_of_same_source placed order here there bound))
  rcases Nat.lt_trichotomy first second with order | same | order
  · exact (finite order here there).elim
  · exact same
  · exact (finite order there here).elim

theorem getElem?_readWithin_iff {story : Story} {bound : Nat}
    (sourced : ∀ count, (next^[count] story).Sourced)
    (ends : (next^[bound] story).canContinue = false) (index : Nat) (line : String) :
    (story.readWithin bound).1[index]? = some line ↔
      ∃ place, (next^[index] story).ReadyFrom place line := by
  rw [getElem?_readWithin]
  constructor
  · intro read
    split at read
    · exact sourced index line read
    · cases read
  · rintro ⟨place, ready⟩
    rw [if_pos, ready.pending]
    -- Beyond the bound nothing is ready any more.
    by_contra beyond
    have readyHere : (next^[index] story).canContinue := by simp [canContinue, ready.pending]
    have before := ready_before (Nat.not_lt.mp beyond) readyHere
    exact Bool.noConfusion (ends.symm.trans before)

/-- Wherever a story is that is played, it reads on for ever if it still does after as many
paragraphs as its artifact has text steps. Otherwise reading ends, with no more paragraphs than text
steps; each paragraph comes from a text step, and no text step makes two of them. -/
theorem reading_bounded_or_endless {artifact : Artifact} {story : Story}
    (started : start artifact = .ok story) (calls : List Call) :
    let reached := calls.foldl perform story
    let bound := textSteps artifact
    ((next^[bound] reached).canContinue →
      (∀ count, (next^[count] reached).canContinue) ∧
      ∀ lines after, ¬ reached.ReadsAll lines after) ∧
    ((next^[bound] reached).canContinue = false → ∃ lines after,
      reached.continueMaximally = (lines, after) ∧
      (∀ others last, reached.ReadsAll others last ↔ others = lines ∧ last = after) ∧
      lines.length ≤ bound ∧
      (∀ index line, lines[index]? = some line ↔
        ∃ place, (next^[index] reached).ReadyFrom place line) ∧
      ∀ first second place line other, (next^[first] reached).ReadyFrom place line →
        (next^[second] reached).ReadyFrom place other → first = second) := by
  intro reached bound
  obtain ⟨begun, same⟩ := start_settled started
  obtain ⟨settled, sameAfter⟩ := begun.run calls
  have placed : reached.Placed := settled.placed
  have bounded : textSteps reached.artifact = bound := by rw [sameAfter, same]
  constructor
  · intro ready
    obtain ⟨earlier, later, order, within, returned⟩ := exists_return placed (bounded ▸ ready)
    have endless := endless_of_return order (ready_before (bounded ▸ within) ready) returned
    refine ⟨endless, fun lines after reads => ?_⟩
    obtain ⟨count, silent⟩ := reads.readsOut
    exact Bool.noConfusion (silent.symm.trans (endless count))
  · intro ends
    have reads := readsAll_readWithin ends
    have settles (origin : Story) (sound : origin.Sound) (idle : origin.Idle) :
        origin.settle.Sourced := settleWithin_sourced sound.placed idle.silent
    have sourced (count : Nat) : (next^[count] reached).Sourced :=
      settled.iterate_next_everywhere settles (run_everywhere settles started calls) count
    refine ⟨(reached.readWithin bound).1, (reached.readWithin bound).2, ?_, fun others last => ?_,
      length_readWithin_le bound reached, getElem?_readWithin_iff sourced ends,
      fun first second place line other here there => here.unique placed ends there⟩
    · rw [continueMaximally, bounded]
    · refine ⟨reads.unique, ?_⟩
      rintro ⟨rfl, rfl⟩
      exact reads

def lakeside : Artifact where
  format := Artifact.currentFormat
  start := Artifact.rootKnot
  knots := ⟨[("_root", ⟨[.text "A lake.", .choices [⟨"_root.0", "Rest", false, none, .knot "bench"⟩,
      ⟨"_root.1", "Walk", false, none, .knot "shore"⟩]]⟩),
    ("bench", ⟨[.text "A bench.", .set "shade" (.str "willow"), .text "Under a {shade}."]⟩),
    ("shore", ⟨[.text "Reeds.", .divert (.knot "shore")]⟩)], by decide⟩
  globals := .empty

/-- There is an end to what is read on the bench, and none to what is read on the shore. -/
theorem lakeside_bounded_or_endless : ∃ story, start lakeside = .ok story ∧
    let resting := [Call.continueLine, .choose 0].foldl perform story
    let walking := [Call.continueLine, .choose 1].foldl perform story
    textSteps lakeside = 4 ∧
    (∃ after, resting.ReadsAll ["A bench.", "Under a willow."] after) ∧
    (∀ lines after, ¬ walking.ReadsAll lines after) ∧ (next^[1000] walking).canContinue := by
  have started : start lakeside = .ok ((blank lakeside).enter lakeside.start).settle := rfl
  refine ⟨_, started, ?_⟩
  intro resting walking
  obtain ⟨-, ends⟩ := reading_bounded_or_endless started [.continueLine, .choose 0]
  obtain ⟨endless, -⟩ := reading_bounded_or_endless started [.continueLine, .choose 1]
  obtain ⟨lines, after, whole, reads, -⟩ := ends (by decide)
  obtain ⟨onward, never⟩ := endless (by decide)
  have read : resting.continueMaximally.1 = ["A bench.", "Under a willow."] := by decide
  rw [whole] at read
  exact ⟨by decide, ⟨after, (reads _ _).mpr ⟨read.symm, rfl⟩⟩, never, onward 1000⟩

end Story

end Tale
