import Mathlib.Data.List.Infix
import Mathlib.Data.Finset.Card
import Mathlib.Logic.Function.Iterate
import Tale.Proofs.Dictionary
import Tale.Story.Run

/-! Reading a story up to its next choice.

Which step a story takes next depends on where it stands and on nothing that it met on the way, so
two paragraphs from one place are followed by the same steps for ever. A story that reads out at all
therefore does so within as many paragraphs as its artifact has text steps, which is the bound that
`continueMaximally` reads to.
-/

set_option autoImplicit false

namespace Tale

def Artifact.stepsOf (artifact : Artifact) (knot : String) : List Step :=
  ((artifact.knots.find? knot).map Knot.steps).getD []

namespace Story

/-- The story after one more paragraph, or the story itself if none is ready. -/
def next (story : Story) : Story := story.continueLine.2

def ReadsOut (story : Story) : Prop := ∃ count, (next^[count] story).canContinue = false

/-! ## Where a story may stand -/

/-- A story stands before the last steps of a knot, and right behind the text step of a paragraph
that is ready. -/
structure Placed (story : Story) : Prop where
  ahead : ∀ knot ahead, story.position = some ⟨knot, ahead⟩ →
    ahead <:+ story.artifact.stepsOf knot
  behindText : story.canContinue → ∃ knot words ahead, story.position = some ⟨knot, ahead⟩ ∧
    Step.text words :: ahead <:+ story.artifact.stepsOf knot

theorem Placed.of_ended {story : Story} (ended : story.position = none)
    (silent : story.canContinue = false) : story.Placed where
  ahead knot ahead stands := by simp [ended] at stands
  behindText ready := by simp [silent] at ready

theorem Placed.of_silent {story : Story} {knot : String} {ahead : List Step}
    (stands : story.position = some ⟨knot, ahead⟩) (silent : story.canContinue = false)
    (within : ahead <:+ story.artifact.stepsOf knot) : story.Placed where
  ahead other rest found := by
    rw [stands] at found
    cases found
    exact within
  behindText ready := by simp [silent] at ready

theorem enter_placed (story : Story) (knot : String) (silent : story.canContinue = false) :
    (story.enter knot).Placed :=
  .of_silent rfl silent (List.suffix_refl _)

/-- What a step can lead to from a place where no paragraph is ready. -/
theorem advance_placed {story : Story} (placed : story.Placed)
    (silent : story.canContinue = false) :
    match story.advance with
    | .settled after => after.Placed ∧ after.artifact = story.artifact
    | .moving after => after.Placed ∧ after.artifact = story.artifact ∧ after.canContinue = false := by
  -- Only a text step makes a paragraph ready, and it leaves the story right behind itself.
  have shorter {knot step rest} (stands : story.position = some ⟨knot, step :: rest⟩) :
      rest <:+ story.artifact.stepsOf knot :=
    (List.suffix_cons step rest).trans (placed.ahead _ _ stands)
  fun_cases advance story with
  | case1 => exact ⟨placed, rfl⟩
  | case2 knot stands => exact ⟨.of_ended rfl silent, rfl⟩
  | case3 knot words ahead stands =>
    refine ⟨⟨?_, fun _ => ⟨knot, words, ahead, rfl, placed.ahead _ _ stands⟩⟩, rfl⟩
    rintro other rest found
    cases found
    exact shorter stands
  | case4 knot name value ahead stands => exact ⟨.of_silent rfl silent (shorter stands), rfl, silent⟩
  | case5 knot name ahead stands => exact ⟨enter_placed story name silent, rfl, silent⟩
  | case6 knot ahead stands => exact ⟨.of_ended rfl silent, rfl⟩
  | case7 knot points ahead stands offers =>
    refine ⟨?_, rfl⟩
    by_cases nothing : offers.isEmpty
    · exact .of_ended (by simp [nothing]) silent
    · exact .of_silent (by simp [nothing]) silent (placed.ahead _ _ stands)

theorem settleWithin_placed {bound : Nat} {story : Story} (placed : story.Placed)
    (silent : story.canContinue = false) :
    (settleWithin bound story).Placed ∧ (settleWithin bound story).artifact = story.artifact := by
  induction bound generalizing story with
  | zero => exact ⟨.of_ended rfl silent, rfl⟩
  | succ bound ih =>
    have step := advance_placed placed silent
    simp only [settleWithin]
    cases led : story.advance with
    | settled after => simpa only [led] using step
    | moving after =>
      simp only [led] at step
      obtain ⟨rest, same⟩ := ih step.1 step.2.2
      exact ⟨rest, same.trans step.2.1⟩

theorem start_placed {artifact : Artifact} {story : Story}
    (started : Story.start artifact = .ok story) :
    story.Placed ∧ story.artifact = artifact := by
  simp only [start, bind, Except.bind] at started
  split at started
  · cases started
  · split at started
    · cases started
    · cases started
      exact settleWithin_placed (enter_placed _ _ rfl) rfl

/-! ## Reading on -/

theorem next_of_silent {story : Story} (silent : story.canContinue = false) :
    story.next = story := by
  have empty : story.pending = none := by simpa [canContinue] using silent
  simp [next, continueLine, empty]

theorem next_of_ready {story : Story} (ready : story.canContinue) :
    story.next = { story with pending := none }.settle := by
  obtain ⟨line, waits⟩ := Option.isSome_iff_exists.mp ready
  simp [next, continueLine, waits]

theorem Placed.withoutPending {story : Story} (placed : story.Placed) :
    { story with pending := none }.Placed where
  ahead := placed.ahead
  behindText ready := by simp [canContinue] at ready

theorem next_placed {story : Story} (placed : story.Placed) :
    story.next.Placed ∧ story.next.artifact = story.artifact := by
  by_cases ready : story.canContinue
  · rw [next_of_ready ready]
    exact settleWithin_placed placed.withoutPending rfl
  · rw [next_of_silent (by simpa using ready)]
    exact ⟨placed, rfl⟩

theorem iterate_next_placed {story : Story} (placed : story.Placed) (count : Nat) :
    (next^[count] story).Placed ∧ (next^[count] story).artifact = story.artifact := by
  induction count with
  | zero => exact ⟨placed, rfl⟩
  | succ count ih =>
    rw [Function.iterate_succ_apply']
    obtain ⟨later, same⟩ := next_placed ih.1
    exact ⟨later, same.trans ih.2⟩

theorem iterate_next_of_silent {story : Story} (silent : story.canContinue = false) (count : Nat) :
    next^[count] story = story :=
  Function.iterate_fixed (next_of_silent silent) count

theorem readWithin_snd (bound : Nat) (story : Story) :
    (story.readWithin bound).2 = next^[bound] story := by
  induction bound generalizing story with
  | zero => rfl
  | succ bound ih =>
    simp only [readWithin, Function.iterate_succ_apply]
    cases waits : story.pending with
    | none =>
      have silent : story.canContinue = false := by simp [canContinue, waits]
      simp [continueLine, waits, next_of_silent silent, iterate_next_of_silent silent]
    | some line => simp [next, continueLine, waits, ih]

theorem readWithin_of_silent {story : Story} (silent : story.canContinue = false) (bound : Nat) :
    story.readWithin bound = ([], story) := by
  have empty : story.pending = none := by simpa [canContinue] using silent
  cases bound with
  | zero => rfl
  | succ bound => simp [readWithin, continueLine, empty]

theorem ready_before {story : Story} {count before : Nat} (le : before ≤ count)
    (ready : (next^[count] story).canContinue) : (next^[before] story).canContinue := by
  by_contra silent
  have stays := iterate_next_of_silent (Bool.not_eq_true _ ▸ silent) (count - before)
  rw [← Function.iterate_add_apply, Nat.sub_add_cancel le] at stays
  exact silent (stays ▸ ready)

/-! ## Paragraphs from one place -/

/-- Two stories of one artifact that stand at one place, whatever they met on the way there. -/
structure Abreast (first second : Story) : Prop where
  artifact : first.artifact = second.artifact
  position : first.position = second.position

/-- What lies ahead of two stories: both go on and stay abreast, or neither goes on. -/
def Alike (first second : Story) : Prop :=
  first.canContinue = second.canContinue ∧ (first.canContinue → Abreast first second)

theorem advance_abreast {first second : Story} (abreast : Abreast first second)
    (silent : first.canContinue = false) (silent' : second.canContinue = false) :
    match first.advance, second.advance with
    | .settled after, .settled after' => Alike after after'
    | .moving after, .moving after' =>
      Abreast after after' ∧ after.canContinue = false ∧ after'.canContinue = false
    | _, _ => False := by
  obtain ⟨sameArtifact, samePosition⟩ := abreast
  have quiet : Alike { first with position := none } { second with position := none } :=
    ⟨silent.trans silent'.symm, fun _ => ⟨sameArtifact, rfl⟩⟩
  cases stands : first.position with
  | none =>
    simp only [advance, stands, ← samePosition]
    exact ⟨silent.trans silent'.symm, fun _ => ⟨sameArtifact, samePosition⟩⟩
  | some position =>
    obtain ⟨knot, ahead⟩ := position
    cases ahead with
    | nil => simpa only [advance, stands, ← samePosition] using quiet
    | cons step ahead =>
      cases step with
      | text words =>
        simp only [advance, stands, ← samePosition]
        exact ⟨rfl, fun _ => ⟨sameArtifact, rfl⟩⟩
      | set name value =>
        simp only [advance, stands, ← samePosition]
        exact ⟨⟨sameArtifact, rfl⟩, silent, silent'⟩
      | divert target =>
        cases target with
        | knot name =>
          simp only [advance, stands, ← samePosition]
          exact ⟨⟨sameArtifact, by simp [enter, sameArtifact]⟩, silent, silent'⟩
        | ending => simpa only [advance, stands, ← samePosition] using quiet
      | choices points =>
        -- The offers may differ, but a story never reads on past a choice block.
        simp only [advance, stands, ← samePosition]
        refine ⟨silent.trans silent'.symm, fun ready => ?_⟩
        exact absurd ready (Bool.eq_false_iff.mp silent)

theorem settleWithin_alike {bound : Nat} {first second : Story} (abreast : Abreast first second)
    (silent : first.canContinue = false) (silent' : second.canContinue = false) :
    Alike (settleWithin bound first) (settleWithin bound second) := by
  induction bound generalizing first second with
  | zero => exact ⟨silent.trans silent'.symm, fun _ => ⟨abreast.artifact, rfl⟩⟩
  | succ bound ih =>
    have step := advance_abreast abreast silent silent'
    simp only [settleWithin]
    cases led : first.advance with
    | settled after =>
      cases led' : second.advance with
      | settled after' => simpa only [led, led'] using step
      | moving after' => simp only [led, led'] at step
    | moving after =>
      cases led' : second.advance with
      | settled after' => simp only [led, led'] at step
      | moving after' =>
        simp only [led, led'] at step
        exact ih step.1 step.2.1 step.2.2

theorem next_alike {first second : Story} (alike : Alike first second) :
    Alike first.next second.next := by
  obtain ⟨same, abreast⟩ := alike
  by_cases ready : first.canContinue
  · rw [next_of_ready ready, next_of_ready (same ▸ ready)]
    have side := abreast ready
    exact settleWithin_alike ⟨side.artifact, side.position⟩ rfl rfl
  · have silent : first.canContinue = false := by simpa using ready
    rw [next_of_silent silent, next_of_silent (same ▸ silent)]
    exact ⟨same, abreast⟩

theorem iterate_next_alike {first second : Story} (alike : Alike first second) (count : Nat) :
    Alike (next^[count] first) (next^[count] second) := by
  induction count with
  | zero => exact alike
  | succ count ih =>
    simp only [Function.iterate_succ_apply']
    exact next_alike ih

/-- A story that comes to a place where it was before, ready all the way, reads on for ever. -/
theorem endless_of_return {story : Story} {earlier later : Nat} (order : earlier < later)
    (ready : (next^[later] story).canContinue)
    (returned : Abreast (next^[earlier] story) (next^[later] story)) (count : Nat) :
    (next^[count] story).canContinue := by
  have alike : Alike (next^[earlier] story) (next^[later] story) :=
    ⟨(ready_before order.le ready).trans ready.symm, fun _ => returned⟩
  induction count using Nat.strong_induction_on with
  | _ count ih =>
    rcases Nat.lt_or_ge later count with beyond | within
    · -- What comes after the return came after the first visit already.
      have same := (iterate_next_alike alike (count - later)).1
      rw [← Function.iterate_add_apply, ← Function.iterate_add_apply,
        Nat.sub_add_cancel beyond.le] at same
      exact same ▸ ih (count - later + earlier) (by omega)
    · exact ready_before within ready

/-! ## The places behind the text steps -/

def isText : Step → Bool
  | .text _ => true
  | _ => false

def textTails : List Step → List (List Step)
  | [] => []
  | .text _ :: ahead => ahead :: textTails ahead
  | _ :: ahead => textTails ahead

def textPlaces (artifact : Artifact) : List Position :=
  artifact.knots.entries.flatMap fun (name, knot) => (textTails knot.steps).map (Position.mk name)

theorem mem_textTails {words : String} {ahead steps : List Step}
    (behind : Step.text words :: ahead <:+ steps) : ahead ∈ textTails steps := by
  induction steps with
  | nil => simp at behind
  | cons step rest ih =>
    rcases List.suffix_cons_iff.mp behind with same | later
    · cases same
      exact List.mem_cons_self
    · cases step with
      | text _ => exact List.mem_cons_of_mem _ (ih later)
      | divert _ => exact ih later
      | set _ _ => exact ih later
      | choices _ => exact ih later

theorem length_textTails (steps : List Step) :
    (textTails steps).length = steps.countP isText := by
  induction steps with
  | nil => rfl
  | cons step rest ih => cases step <;> simp [textTails, List.countP_cons, isText, ih]

theorem length_places (artifact : Artifact) {pick : List Step → List (List Step)} {fits : Step → Bool}
    (counted : ∀ steps, (pick steps).length = steps.countP fits) :
    (artifact.knots.entries.flatMap fun (name, knot) =>
      (pick knot.steps).map (Position.mk name)).length =
        (artifact.knots.values.flatMap Knot.steps).countP fits := by
  rw [Dictionary.values]
  induction artifact.knots.entries with
  | nil => rfl
  | cons entry rest ih =>
    simp only [List.flatMap_cons, List.map_cons, List.length_append, List.length_map,
      List.countP_append, counted, ih]

theorem length_textPlaces (artifact : Artifact) :
    (textPlaces artifact).length = textSteps artifact :=
  length_places artifact length_textTails

theorem exists_knot_of_ahead {artifact : Artifact} {knot : String} {ahead : List Step}
    (within : ahead <:+ artifact.stepsOf knot) (some : ahead ≠ []) :
    ∃ content, (knot, content) ∈ artifact.knots.entries ∧ ahead <:+ content.steps := by
  cases found : artifact.knots.find? knot with
  | none => simp [Artifact.stepsOf, found, some] at within
  | some content =>
    simp only [Artifact.stepsOf, found, Option.map_some, Option.getD_some] at within
    exact ⟨content, Dictionary.find?_eq_some_iff.mp found, within⟩

theorem exists_textPlace {story : Story} (placed : story.Placed) (ready : story.canContinue) :
    ∃ place ∈ textPlaces story.artifact, story.position = some place := by
  obtain ⟨knot, words, ahead, stands, behind⟩ := placed.behindText ready
  obtain ⟨content, listed, within⟩ := exists_knot_of_ahead behind (List.cons_ne_nil _ _)
  refine ⟨⟨knot, ahead⟩, ?_, stands⟩
  exact List.mem_flatMap.mpr ⟨_, listed, List.mem_map_of_mem (mem_textTails within)⟩

/-- Whoever stands at more times than there are places has been at some place twice. -/
theorem exists_same_place {places : List Position} {times : Nat} (fewer : places.length < times)
    (visit : Nat → Option Position)
    (stands : ∀ count < times, ∃ place ∈ places, visit count = some place) :
    ∃ earlier later, earlier < later ∧ later < times ∧ visit earlier = visit later := by
  have cards : (places.map some).toFinset.card < (Finset.range times).card := by
    rw [Finset.card_range]
    refine (List.toFinset_card_le _).trans_lt ?_
    rwa [List.length_map]
  have visits (count : Nat) (within : count ∈ Finset.range times) :
      visit count ∈ (places.map some).toFinset := by
    obtain ⟨place, member, same⟩ := stands count (Finset.mem_range.mp within)
    rw [same, List.mem_toFinset]
    exact List.mem_map_of_mem member
  obtain ⟨first, firstIn, second, secondIn, apart, same⟩ :=
    Finset.exists_ne_map_eq_of_card_lt_of_maps_to cards visits
  rw [Finset.mem_range] at firstIn secondIn
  rcases Nat.lt_or_gt_of_ne apart with order | order
  · exact ⟨first, second, order, secondIn, same⟩
  · exact ⟨second, first, order, firstIn, same.symm⟩

theorem exists_return {story : Story} (placed : story.Placed)
    (ready : (next^[textSteps story.artifact] story).canContinue) :
    ∃ earlier later, earlier < later ∧ later ≤ textSteps story.artifact ∧
      Abreast (next^[earlier] story) (next^[later] story) := by
  have stands (count : Nat) (within : count < textSteps story.artifact + 1) :
      ∃ place ∈ textPlaces story.artifact, (next^[count] story).position = some place := by
    obtain ⟨later, same⟩ := iterate_next_placed placed count
    exact same ▸ exists_textPlace later (ready_before (Nat.le_of_lt_succ within) ready)
  -- There is one more reading than there are places.
  have fewer : (textPlaces story.artifact).length < textSteps story.artifact + 1 :=
    Nat.lt_succ_of_le (length_textPlaces story.artifact).le
  obtain ⟨earlier, later, order, within, same⟩ := exists_same_place fewer _ stands
  have artifacts : (next^[earlier] story).artifact = (next^[later] story).artifact :=
    (iterate_next_placed placed earlier).2.trans (iterate_next_placed placed later).2.symm
  exact ⟨earlier, later, order, Nat.le_of_lt_succ within, artifacts, same⟩

/-! ## Reading up to a choice -/

theorem continueMaximally_placed {story : Story} (placed : story.Placed) :
    story.continueMaximally.2.Placed ∧ story.continueMaximally.2.artifact = story.artifact := by
  rw [continueMaximally, readWithin_snd]
  exact iterate_next_placed placed _

/-- If reading comes to an end at all, then `continueMaximally` reads to that end. -/
theorem continueMaximally_silent {story : Story} (placed : story.Placed) (ends : story.ReadsOut) :
    story.continueMaximally.2.canContinue = false := by
  rw [continueMaximally, readWithin_snd]
  by_contra unfinished
  have ready := (Bool.not_eq_false _).mp unfinished
  -- What is not read within the bound is read for ever.
  obtain ⟨earlier, later, order, within, returned⟩ := exists_return placed ready
  obtain ⟨count, silent⟩ := ends
  have endless := endless_of_return order (ready_before within ready) returned count
  exact Bool.noConfusion (silent.symm.trans endless)

theorem continueMaximally_of_silent {story : Story} (silent : story.canContinue = false) :
    story.continueMaximally = ([], story) :=
  readWithin_of_silent silent _

theorem choose_placed {story chosen : Story} {index : Nat}
    (silent : story.canContinue = false) (taken : story.choose index = .ok chosen) :
    chosen.Placed ∧ chosen.artifact = story.artifact := by
  simp only [choose] at taken
  split at taken
  · cases taken
  · split at taken
    · cases taken
      exact settleWithin_placed (enter_placed _ _ silent) silent
    · cases taken
      exact settleWithin_placed (.of_ended rfl silent) silent

theorem choose_ok_iff {story : Story} {index : Nat} :
    (∃ chosen, story.choose index = .ok chosen) ↔ index < story.offers.length := by
  constructor
  · rintro ⟨chosen, taken⟩
    by_contra beyond
    simp [choose, List.getElem?_eq_none (Nat.not_lt.mp beyond)] at taken
  · intro within
    simp only [choose, List.getElem?_eq_getElem within]
    split <;> exact ⟨_, rfl⟩

end Story

end Tale
