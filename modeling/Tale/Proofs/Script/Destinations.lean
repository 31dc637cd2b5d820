import Mathlib.Data.List.Forall2
import Tale.Proofs.Script.DeadEnds

/-! Where the names behind arrows lead.

The diverts and choices of a compiled knot are those that are written in it, in their order, without the
diverts that stand behind a choice. Each leads to the knot of its name, which a knot line declares unless it
is the root, but for two names that end the story. A knot line may have one of these two names as well, and
then nothing leads to its knot.
-/

set_option autoImplicit false

namespace Tale.Script

def Item.goal? : Item → Option String
  | .divert name => some name
  | .choice line => some line.target
  | _ => none

/-- A knot holds what a statement makes: a step that is reached, or a choice. -/
def Site.isKept (earlier : List Site) (site : Site) : Bool :=
  site.isReached earlier || site.item.choice?.isSome

def kept (sites : List Site) : List Site := sift Site.isKept sites

def goals (knot : String) (sites : List Site) : List String :=
  (sitesIn knot (kept sites)).filterMap (·.item.goal?)

def IsEnding (name : String) : Prop := name = "END" ∨ name = "DONE"

def Declares (includes : Includes) (root : Path) (text : String) (name : String) : Prop :=
  ∃ document ∈ documents includes root text, ∃ span, (.knot name, span) ∈ itemsOf document.text

/-- A target is found by the name that it is written with: it is the knot of this name if there is one,
and the end only if there is none. -/
structure FoundByName (declared : String → Prop) (name : String) (target : Target) : Prop where
  leads : declared name → target = .knot name
  ends : target = .ending → ¬ declared name

theorem target_of_isEnding {name : String} (ending : IsEnding name) : Draft.target name = .ending :=
  if_pos ending

theorem target_of_not_isEnding {name : String} (other : ¬ IsEnding name) :
    Draft.target name = .knot name := if_neg other

theorem foundByName_target_iff {declared : String → Prop} {name : String} :
    FoundByName declared name (Draft.target name) ↔ (IsEnding name → ¬ declared name) := by
  constructor
  · exact fun found ending => found.ends (target_of_isEnding ending)
  · intro apart
    by_cases ending : IsEnding name
    · have unknown := apart ending
      exact ⟨fun declared => absurd declared unknown, fun _ => unknown⟩
    · have leads := target_of_not_isEnding ending
      exact ⟨fun _ => leads, fun ends => by cases leads.symm.trans ends⟩

/-! ## The targets of a knot -/

theorem goals_concat (knot : String) (sites : List Site) (site : Site) :
    goals knot (sites ++ [site]) = goals knot sites ++
      if site.knot = knot ∧ site.isKept sites then site.item.goal?.toList else [] := by
  rw [goals, kept, sift_concat, ← kept]
  by_cases here : site.knot = knot <;> cases site.isKept sites <;>
    cases leads : site.item.goal? <;> simp [goals, sitesIn, here, leads]

theorem targets_knotOf (knot : String) (steps : List Step) (lines : List ChoiceLine) :
    (knotOf knot steps lines).flatMap Step.targets =
      steps.flatMap Step.targets ++ lines.map fun line => Draft.target line.target := by
  have points : (pointsOf knot lines).map ChoicePoint.target =
      lines.map fun line => Draft.target line.target := by
    refine List.ext_getElem? fun number => ?_
    rw [List.getElem?_map, getElem?_pointsOf, List.getElem?_map, Option.map_map]
    rfl
  rw [knotOf, List.flatMap_append]
  split
  · next none => simp [none]
  · simp [Step.targets, points]

theorem targets_of_step? {item : Item} {step : Step} (makes : item.step? = some step) :
    item.choice? = none ∧ step.targets = item.goal?.toList.map Draft.target := by
  cases item <;> cases makes <;> exact ⟨rfl, rfl⟩

theorem goal?_eq_of_step?_eq_none {item : Item} (makes : item.step? = none) :
    item.goal? = item.choice?.map ChoiceLine.target := by
  cases item <;> cases makes <;> rfl

theorem targets_eq (knot : String) (sites : List Site) :
    (knotOf knot ((sitesIn knot (reached sites)).filterMap (·.item.step?))
      ((sitesIn knot sites).filterMap (·.item.choice?))).flatMap Step.targets =
      (goals knot sites).map Draft.target := by
  rw [targets_knotOf]
  induction sites using List.reverseRecOn with
  | nil => rfl
  | append_singleton sites site ih =>
    rw [sitesIn_reached_concat, goals_concat, sitesIn_concat, List.map_append, ← ih]
    by_cases here : site.knot = knot
    · cases makes : site.item.step? with
      | none =>
        have goal := goal?_eq_of_step?_eq_none makes
        cases chosen : site.item.choice? <;> simp [here, goal, chosen, Site.isKept, Site.isReached, makes]
      | some step =>
        obtain ⟨unchosen, targets⟩ := targets_of_step? makes
        cases free : site.isBarred sites with
        | true => simp [here, unchosen, free, Site.isKept, Site.isReached]
        | false =>
          -- A step that is reached has no choice in front of it.
          have first : (sitesIn knot sites).filterMap (·.item.choice?) = [] := by
            have barred := isBarred_iff_choices sites site
            rw [here] at barred
            simpa [free] using barred
          simp [here, makes, unchosen, targets, free, first, Site.isKept, Site.isReached]
    · simp [here]

section Rows

variable {row : List Entry}

theorem exists_statement_of_mem_goals {knot name : String} (written : name ∈ goals knot (sitesOf row)) :
    ∃ file span item, Entry.statement file span item ∈ row ∧ item.goal? = some name := by
  obtain ⟨site, inside, leads⟩ := List.mem_filterMap.mp written
  have listed : site ∈ sitesOf row := (sift_sublist _ _).subset (List.mem_filter.mp inside).1
  obtain ⟨file, span, stated⟩ := exists_site_iff.mp ⟨site, listed, rfl⟩
  exact ⟨file, span, site.item, stated, leads⟩

/-- Every name in a knot ends the story, or is that of a knot. -/
theorem Faultless.goal_known (faultless : Faultless row) {knot name : String}
    (written : name ∈ goals knot (sitesOf row)) (other : ¬ IsEnding name) :
    name ∈ knotNames (itemsIn row) := by
  obtain ⟨file, span, item, stated, leads⟩ := exists_statement_of_mem_goals written
  have listed : item ∈ itemsIn row := List.mem_filterMap.mpr ⟨_, stated, rfl⟩
  have target : item.target? = some (.knot name) := by
    rw [← target_of_not_isEnding other]
    cases item <;> cases leads <;> rfl
  refine faultless.targets name (List.mem_filterMap.mpr ⟨item, listed, ?_⟩)
  rw [Item.mention?, target]
  rfl

end Rows

/-- In a compiled story the diverts and choices of each knot are, in their order, those that are written in
it. One that is written with a name leads to the knot of this name, which is there and, unless it is the
root, declared in some document, or the name is one of two that end the story. So all of them are found by
their names exactly if none is written with one of the two names while a knot of this name is declared. -/
theorem goals_found_iff {root : Path} {text : String} {includes : Includes} {artifact : Artifact}
    (compiled : (compile root text includes).artifact = some artifact) :
    let sites := sitesOf (readRoot includes root text).entries
    let declared := Declares includes root text
    let stored := fun knot => (artifact.stepsOf knot).flatMap Step.targets
    (∀ knot, List.Forall₂ (fun name target =>
      IsEnding name ∧ target = .ending ∨
        ¬ IsEnding name ∧ target = .knot name ∧ artifact.knots.contains name ∧
          (name = Artifact.rootKnot ∨ declared name)) (goals knot sites) (stored knot)) ∧
    ((∀ knot, List.Forall₂ (FoundByName declared) (goals knot sites) (stored knot)) ↔
      ∀ knot, ∀ name ∈ goals knot sites, IsEnding name → ¬ declared name) := by
  intro sites declared stored
  obtain ⟨faultless, rfl⟩ := outcome_eq_some_iff.mp compiled
  have same (knot : String) : stored knot = (goals knot sites).map Draft.target := by
    have steps := faultless.stepsOf_eq knot
    rw [choiceLines_eq] at steps
    change (Artifact.stepsOf _ knot).flatMap Step.targets = _
    rw [steps]
    exact targets_eq knot sites
  simp only [same, List.forall₂_map_right_iff, List.forall₂_same]
  constructor
  · intro knot name written
    by_cases ending : IsEnding name
    · exact .inl ⟨ending, target_of_isEnding ending⟩
    · have known := faultless.goal_known written ending
      refine .inr ⟨ending, target_of_not_isEnding ending, ?_, ?_⟩
      · exact Dictionary.contains_mapValues _ (((assemble_tallies _).knots name).mpr known)
      · refine (List.mem_cons.mp known).imp_right fun heading => ?_
        obtain ⟨file, span, stated⟩ := mem_headings_iff.mp heading
        obtain ⟨document, listed, -, line, -⟩ := (statement_mem_readRoot faultless.reports).mp stated
        exact ⟨document, listed, span, line⟩
  · exact forall_congr' fun knot => forall₂_congr fun name _ => foundByName_target_iff

def parlourRules : Includes := includesFrom "" [("cellar.tale", "== cellar ==\nDust. -> hall\n")]

def parlourText : String :=
  "-> hall\nINCLUDE cellar.tale\n== hall ==\n* Down -> cellar\n+ Out -> END\n-> nowhere_else\n" ++
    "== nowhere_else ==\n-> _root\n"

/-- All names are found, the root among them; no knot has the name of the end. -/
theorem parlour_goals_found : ∃ artifact,
    (compile "main.tale" parlourText parlourRules).artifact = some artifact ∧
    goals "hall" (sitesOf (readRoot parlourRules "main.tale" parlourText).entries) = ["cellar", "END"] ∧
    (artifact.stepsOf "hall").flatMap Step.targets = [.knot "cellar", .ending] ∧
    ∀ knot, List.Forall₂ (FoundByName (Declares parlourRules "main.tale" parlourText))
      (goals knot (sitesOf (readRoot parlourRules "main.tale" parlourText).entries))
      ((artifact.stepsOf knot).flatMap Step.targets) := by
  have targets : (compile "main.tale" parlourText parlourRules).artifact.map (fun artifact =>
      (artifact.stepsOf "hall").flatMap Step.targets) = some [.knot "cellar", .ending] := by
    decide +kernel
  obtain ⟨artifact, compiled, stored⟩ := Option.map_eq_some_iff.mp targets
  refine ⟨artifact, compiled, by decide +kernel, stored, (goals_found_iff compiled).2.mpr ?_⟩
  have unnamed : ∀ document ∈ documents parlourRules "main.tale" parlourText,
      ∀ item ∈ itemsOf document.text, item.1 ≠ .knot "END" ∧ item.1 ≠ .knot "DONE" := by
    decide +kernel
  rintro knot name - (rfl | rfl) ⟨document, listed, span, line⟩
  · exact (unnamed document listed _ line).1 rfl
  · exact (unnamed document listed _ line).2 rfl

def epilogueText : String := "Good night.\n-> END\n== END ==\nAn epilogue.\n-> DONE\n"

/-- The knot is declared and nothing is reported, but the divert with its name ends the story. -/
theorem epilogue_unreachable : ∃ artifact,
    (compileSource epilogueText).artifact = some artifact ∧
    (compileSource epilogueText).diagnostics = [] ∧
    Declares noIncludes sourcePath epilogueText "END" ∧
    artifact.stepsOf "_root" = [.text "Good night.", .divert .ending] ∧
    ¬ ∀ knot, List.Forall₂ (FoundByName (Declares noIncludes sourcePath epilogueText))
      (goals knot (sitesOf (readRoot noIncludes sourcePath epilogueText).entries))
      ((artifact.stepsOf knot).flatMap Step.targets) := by
  have steps : (compileSource epilogueText).artifact.map (·.stepsOf "_root") =
      some [.text "Good night.", .divert .ending] := by decide +kernel
  obtain ⟨artifact, compiled, stored⟩ := Option.map_eq_some_iff.mp steps
  have declared : Declares noIncludes sourcePath epilogueText "END" :=
    ⟨⟨sourcePath, epilogueText⟩, List.mem_cons_self, ⟨19, 28⟩, by decide +kernel⟩
  refine ⟨artifact, compiled, by decide +kernel, declared, stored, fun found => ?_⟩
  have written : goals "_root" (sitesOf (readRoot noIncludes sourcePath epilogueText).entries) =
      ["END"] := by decide +kernel
  have root := found "_root"
  rw [written, stored] at root
  obtain ⟨first, -⟩ := List.forall₂_cons.mp root
  exact first.ends rfl declared

end Tale.Script
