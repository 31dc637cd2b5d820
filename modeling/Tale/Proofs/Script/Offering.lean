import Tale.Proofs.Except
import Tale.Proofs.Script.ChoiceLines
import Tale.Proofs.Script.Startable
import Tale.Proofs.Story.Choices

/-! The choices that a compiled story offers.

Its choices can be told apart by their ids, and its variables have the values of their declarations, so
what it offers follows from its choice lines and from what happened in the play. A choice line that is
not sticky is taken at most once, and no other line hides it.
-/

set_option autoImplicit false

namespace Tale.Script

open Story

variable {row : List Entry}

theorem Block.eq_pointsOf {knot : String} {steps : List Step} {lines : List ChoiceLine}
    (block : Block knot steps lines) {points : List ChoicePoint} (member : .choices points ∈ steps) :
    points = pointsOf knot lines := by
  by_cases empty : lines = []
  · exact absurd trivial (block.without empty _ member)
  · obtain ⟨rest, rfl, apart⟩ := block.last empty
    rcases List.mem_cons.mp member with here | later
    · cases here
      rfl
    · exact absurd trivial (apart _ later)

theorem Faultless.labelled (faultless : Faultless row) :
    (assemble row).artifact.Labelled fun knot => pointsOf knot (choiceLines row knot) where
  block knot choices member := by
    cases found : (assemble row).artifact.knots.find? knot with
    | none => simp [Artifact.stepsOf, found] at member
    | some content =>
      simp only [Artifact.stepsOf, found, Option.map_some, Option.getD_some] at member
      obtain ⟨held, listed, same⟩ := Dictionary.exists_of_find? found
      cases Std.LawfulEqCmp.eq_of_compare same
      rw [(faultless.knot_built listed).2, List.mem_reverse] at member
      exact (block_built faultless.knotsOnce knot).eq_pointsOf member
  apart first second number other point same found foundToo alike := by
    rw [getElem?_pointsOf] at found foundToo
    obtain ⟨line, -, rfl⟩ := Option.map_eq_some_iff.mp found
    obtain ⟨lineToo, -, rfl⟩ := Option.map_eq_some_iff.mp foundToo
    exact choiceId_inj alike

def declaredValue (row : List Entry) (name : String) : Option Value :=
  ((declarations (itemsIn row)).find? fun declaration => declaration.1 = name).map Prod.snd

theorem Faultless.find?_globals (faultless : Faultless row) :
    (assemble row).artifact.globals.find? = declaredValue row := by
  have once := faultless.variablesOnce
  funext name
  ext value
  change (assemble row).globals.find? name = some value ↔ _
  rw [find?_globals_iff once, declaredValue, Option.map_eq_some_iff]
  constructor
  · intro listed
    have there : ((declarations (itemsIn row)).find? fun declaration =>
        declaration.1 = name).isSome := by
      rw [List.find?_isSome]
      exact ⟨(name, value), listed, by simp⟩
    obtain ⟨declaration, found⟩ := Option.isSome_iff_exists.mp there
    have same : declaration.1 = name := by simpa using List.find?_some found
    refine ⟨declaration, found, ?_⟩
    rw [List.inj_on_of_nodup_map once (List.mem_of_find?_eq_some found) listed same]
  · rintro ⟨⟨other, held⟩, found, rfl⟩
    have same : other = name := by simpa using List.find?_some found
    rw [← same]
    exact List.mem_of_find?_eq_some found

/-- Whatever is read and chosen, a compiled story offers the choice lines of the knot in which it stands
that the play so far leaves open, in reading order. What is taken was open, a line that is not sticky is
taken at most once, and a line that was not taken itself is offered whenever its condition holds. -/
theorem offers_follow_history {root : Path} {text : String} {includes : Includes}
    {artifact : Artifact} (compiled : (compile root text includes).artifact = some artifact)
    {story : Story} (started : Story.start artifact = .ok story) (calls : List Call) :
    let row := (readRoot includes root text).entries
    let points := fun knot => pointsOf knot (choiceLines row knot)
    let play := calls.foldl Play.perform (Play.start artifact)
    play.story = calls.foldl Story.perform story ∧
    (play.story.offers ≠ [] → ∃ knot earlier, play.story.currentKnot? = some knot ∧
      play.past = .faced knot play.story.offers :: earlier) ∧
    (∀ later knot offers earlier, play.past = later ++ .faced knot offers :: earlier →
      offers = Past.offers (declaredValue row) earlier knot (points knot)) ∧
    (∀ later knot number earlier, play.past = later ++ .took knot number :: earlier →
      ∃ point, (points knot)[number]? = some point ∧
        Past.isOpen (declaredValue row) earlier knot (point, number)) ∧
    (∀ knot number line, (choiceLines row knot)[number]? = some line → line.sticky = false →
      play.past.count (.took knot number) ≤ 1) ∧
    (∀ later knot offers earlier, play.past = later ++ .faced knot offers :: earlier →
      ∀ number line, (choiceLines row knot)[number]? = some line → .took knot number ∉ earlier →
        line.condition.all (Past.holds (declaredValue row) earlier) →
          ∃ offer ∈ offers, offer.id = choiceId knot number) := by
  intro row points play
  obtain ⟨faultless, rfl⟩ := outcome_eq_some_iff.mp compiled
  have recorded := (Play.start_recorded faultless.labelled started).run faultless.labelled calls
  rw [faultless.find?_globals] at recorded
  have follows := recorded.faithful.follows
  refine ⟨?_, ?_, ?_, ?_, ?_, ?_⟩
  · rw [← Play.start_story started]
    exact Play.run_story ..
  · intro some
    obtain ⟨knot, ahead, earlier, stands, last, -⟩ := recorded.standing some
    exact ⟨knot, earlier, by rw [currentKnot?, stands]; rfl, last⟩
  · exact fun later knot offers earlier split => follows later _ earlier split
  · exact fun later knot number earlier split => (follows later _ earlier split).2
  · intro knot number line listed once
    apply Play.count_le_one
    intro later earlier split again
    obtain ⟨-, point, found, isOpen⟩ := follows later _ earlier split
    rw [getElem?_pointsOf, listed] at found
    cases found
    simp [Past.isOpen, pointOf, once, again] at isOpen
  · intro later knot offers earlier split number line listed untaken holds
    have found : (points knot)[number]? = some (pointOf knot line number) := by
      rw [getElem?_pointsOf, listed, Option.map_some]
    have isOpen : Past.isOpen (declaredValue row) earlier knot (pointOf knot line number, number) := by
      rw [Past.isOpen, pointOf, holds]
      simp [untaken]
    rw [show offers = _ from follows later _ earlier split]
    exact Past.exists_offer found isOpen

def landingRules : Includes := includesFrom "" [("hall.tale", "== hall ==\n-> _root\n")]

def landingText : String :=
  "VAR lamp = false\n* \x7blamp\x7d Read -> hall\n* Light -> light\n+ \x7bhall\x7d Wait -> hall\n" ++
    "INCLUDE hall.tale\n== light ==\n~ lamp = true\n-> _root\n"

def landingCalls : List Call := [.choose 0, .choose 0]

/-- Then only waiting is left, and lighting the lamp was possible once. -/
theorem landing_offers_follow : ∃ artifact story,
    (compile "main.tale" landingText landingRules).artifact = some artifact ∧
    Story.start artifact = .ok story ∧
    (landingCalls.foldl Story.perform story).offers.map Offer.text = ["Wait"] ∧
    (landingCalls.foldl Play.perform (Play.start artifact)).story =
      landingCalls.foldl Story.perform story ∧
    (landingCalls.foldl Play.perform (Play.start artifact)).past.count (.took "_root" 1) ≤ 1 := by
  have played : ((compile "main.tale" landingText landingRules).artifact.bind fun artifact =>
      (Story.start artifact).toOption.map fun story =>
        (landingCalls.foldl Story.perform story).offers.map Offer.text) = some ["Wait"] := by
    decide +kernel
  have listed : (choiceLines (readRoot landingRules "main.tale" landingText).entries "_root")[1]? =
      some ⟨false, none, "Light", "light"⟩ := by decide +kernel
  obtain ⟨artifact, compiled, rest⟩ := Option.bind_eq_some_iff.mp played
  obtain ⟨story, started, offered⟩ := Option.map_eq_some_iff.mp rest
  have started := ok_of_toOption started
  obtain ⟨same, -, -, -, once, -⟩ := offers_follow_history compiled started landingCalls
  exact ⟨artifact, story, compiled, started, offered, same, once _ _ _ listed rfl⟩

end Tale.Script
