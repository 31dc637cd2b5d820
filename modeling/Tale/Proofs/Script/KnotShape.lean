import Tale.Proofs.Except
import Tale.Proofs.Script.Conservation

/-! The shape of compiled knots.

The choices of a knot stand in one block behind its other steps, whatever documents they come from. Their
ids are the name of the knot and a running number, so that no two choices of a story share one; and the
name of a knot is that of the one knot line which declares it.
-/

set_option autoImplicit false

namespace Tale

def Step.points : Step → List ChoicePoint
  | .choices points => points
  | _ => []

def Knot.points (knot : Knot) : List ChoicePoint := knot.steps.flatMap Step.points

namespace Script

/-! ## Names -/

theorem readName_eq_ok {role : Role} {text : List Char} {name : String}
    (read : readName role text = .ok name) : isName name.toList := by
  unfold readName at read
  split at read
  · next named =>
    cases read
    rwa [String.toList_ofList]
  · split at read <;> cases read

theorem isName_of_heading {text name : String} (read : Item.ofToken (.heading text) = .ok [.knot name]) :
    isName name.toList := by
  rw [Item.ofToken] at read
  obtain ⟨found, outcome, same⟩ := bind_eq_ok.mp read
  cases same
  exact readName_eq_ok outcome

theorem isName_of_knot {text name : String} {span : Span}
    (written : (.knot name, span) ∈ itemsOf text) : isName name.toList := by
  obtain ⟨⟨token, covered⟩, -, inside⟩ := List.mem_flatMap.mp written
  cases read : Item.ofToken token with
  | error fault => simp [read] at inside
  | ok items =>
    have member : Item.knot name ∈ items := by
      simp only [read, List.mem_map, Prod.mk.injEq] at inside
      obtain ⟨item, member, rfl, -⟩ := inside
      exact member
    rcases ofToken_cases read with ⟨other, -, rfl⟩ | ⟨other, heading, rfl, rfl⟩ | ⟨-, plain⟩
    · cases List.mem_singleton.mp member
    · cases List.mem_singleton.mp member
      exact isName_of_heading read
    · cases (plain _ member).2

section Rows

variable {row : List Entry}

theorem map_item_statementsIn (row : List Entry) :
    (statementsIn row).map Statement.item = itemsIn row := by
  rw [statementsIn, itemsIn, List.map_filterMap]
  refine congrArg (List.filterMap · row) (funext fun entry => ?_)
  cases entry <;> rfl

theorem count_headings (items : List Item) (name : String) :
    (headings items).count name = items.count (.knot name) := by
  rw [headings, List.count, List.countP_filterMap, List.count]
  refine List.countP_congr fun item _ => ?_
  cases item <;> simp [Item.heading?]

theorem Faultless.count_knot (faultless : Faultless row) {name : String} {knot : Knot}
    (listed : (name, knot) ∈ (assemble row).artifact.knots.entries) (apart : name ≠ Artifact.rootKnot) :
    (itemsIn row).count (.knot name) = 1 := by
  have made := (faultless.knot_built listed).1
  rw [← count_headings]
  exact List.count_eq_one_of_mem (List.nodup_cons.mp faultless.knotsOnce).2
    ((List.mem_cons.mp made).resolve_left apart)

/-! ## Blocks -/

theorem not_isChoices_of_step? {item : Item} {step : Step} (makes : item.step? = some step) :
    ¬ step.IsChoices := by
  cases item with
  | text | divert | assignment =>
    cases makes
    exact id
  | inclusion | declaration | knot | choice | note => cases makes

theorem points_knotOf {knot : String} {steps : List Step} (apart : ∀ step ∈ steps, ¬ step.IsChoices)
    (lines : List ChoiceLine) : (knotOf knot steps lines).flatMap Step.points = pointsOf knot lines := by
  have none : steps.flatMap Step.points = [] := by
    refine List.flatMap_eq_nil_iff.mpr fun step member => ?_
    cases step with
    | choices points => exact absurd trivial (apart _ member)
    | text | divert | set => rfl
  rw [knotOf, List.flatMap_append, none, List.nil_append]
  split
  · next empty =>
    rw [empty]
    rfl
  · exact List.append_nil _

theorem Faultless.knot_steps (faultless : Faultless row) {name : String} {knot : Knot}
    (listed : (name, knot) ∈ (assemble row).artifact.knots.entries) :
    ∃ plain, (∀ step ∈ plain, ¬ step.IsChoices) ∧ knot.steps = knotOf name plain (choiceLines row name) := by
  have steps := faultless.stepsOf_eq name
  rw [Artifact.stepsOf, Dictionary.find?_of_mem listed] at steps
  refine ⟨_, fun step member => ?_, steps⟩
  obtain ⟨site, -, makes⟩ := List.mem_filterMap.mp member
  exact not_isChoices_of_step? makes

theorem Faultless.points_eq (faultless : Faultless row) {name : String} {knot : Knot}
    (listed : (name, knot) ∈ (assemble row).artifact.knots.entries) :
    knot.points = pointsOf name (choiceLines row name) := by
  obtain ⟨plain, apart, steps⟩ := faultless.knot_steps listed
  rw [Knot.points, steps, points_knotOf apart]

/-! ## Ids -/

theorem map_id_pointsOf (knot : String) (lines : List ChoiceLine) :
    (pointsOf knot lines).map ChoicePoint.id = (List.range lines.length).map (choiceId knot) := by
  refine List.ext_getElem? fun number => ?_
  rw [List.getElem?_map, getElem?_pointsOf, List.getElem?_map, Option.map_map]
  by_cases within : number < lines.length
  · rw [List.getElem?_eq_getElem within, List.getElem?_range within]
    rfl
  · rw [List.getElem?_eq_none (Nat.not_lt.mp within),
      List.getElem?_eq_none (by simpa using Nat.not_lt.mp within)]
    rfl

theorem nodup_ids (knot : String) (lines : List ChoiceLine) :
    ((pointsOf knot lines).map ChoicePoint.id).Nodup := by
  rw [map_id_pointsOf]
  exact List.nodup_range.map fun first second same => (choiceId_inj same).2

theorem mem_ids {knot : String} {lines : List ChoiceLine} {id : String}
    (member : id ∈ (pointsOf knot lines).map ChoicePoint.id) : ∃ number, id = choiceId knot number := by
  rw [map_id_pointsOf] at member
  obtain ⟨number, -, rfl⟩ := List.mem_map.mp member
  exact ⟨number, rfl⟩

theorem Faultless.nodup_ids (faultless : Faultless row) :
    ((assemble row).artifact.knots.values.flatMap fun knot => knot.points.map ChoicePoint.id).Nodup := by
  rw [Dictionary.values, List.flatMap_map, List.nodup_flatMap]
  constructor
  · intro entry listed
    rw [faultless.points_eq listed]
    exact Script.nodup_ids _ _
  · refine (assemble row).artifact.knots.ascending.imp_of_mem fun {first second} here there below => ?_
    intro id (member : id ∈ first.2.points.map ChoicePoint.id)
      (again : id ∈ second.2.points.map ChoicePoint.id)
    rw [faultless.points_eq here] at member
    rw [faultless.points_eq there] at again
    obtain ⟨number, same⟩ := mem_ids member
    obtain ⟨other, sameToo⟩ := mem_ids again
    rw [(choiceId_inj (same.symm.trans sameToo)).1] at below
    cases Std.ReflCmp.compare_self.symm.trans below

end Rows

/-- In a compiled story every knot has its choices in one block behind all other steps, and no block if
it has none. They are those of its choice lines, in the order in which they are processed, and the `n`-th
has the name of the knot and `n` as its id, so that all ids of the story differ. Every knot but the root
has a valid name, and there is one knot line with it in all documents that were processed. -/
theorem compiled_knots_shaped {root : Path} {text : String} {includes : Includes} {artifact : Artifact}
    (compiled : (compile root text includes).artifact = some artifact) :
    let sites := sitesOf (readRoot includes root text).entries
    let declared := (documents includes root text).flatMap Document.statements
    (∀ name knot, (name, knot) ∈ artifact.knots.entries →
      (∃ plain, (∀ step ∈ plain, ¬ step.IsChoices) ∧
        (knot.steps = plain ∨ ∃ points, points ≠ [] ∧ knot.steps = plain ++ [.choices points])) ∧
      knot.points = pointsOf name ((sitesIn name sites).filterMap (·.item.choice?)) ∧
      (∀ (number : Nat) (point : ChoicePoint), knot.points[number]? = some point →
        point.id = name ++ "." ++ toString number) ∧
      (name ≠ Artifact.rootKnot → isName name.toList ∧
        (declared.map Statement.item).count (.knot name) = 1)) ∧
    (artifact.knots.values.flatMap fun knot => knot.points.map ChoicePoint.id).Nodup := by
  intro sites declared
  obtain ⟨faultless, rfl⟩ := outcome_eq_some_iff.mp compiled
  refine ⟨fun name knot listed => ?_, faultless.nodup_ids⟩
  have points := faultless.points_eq listed
  refine ⟨?_, ?_, fun number point found => ?_, fun apart => ?_⟩
  · obtain ⟨plain, free, steps⟩ := faultless.knot_steps listed
    refine ⟨plain, free, ?_⟩
    rw [steps, knotOf]
    split
    · exact .inl (List.append_nil _)
    · next some =>
      refine .inr ⟨_, fun none => some ?_, rfl⟩
      simpa [pointsOf] using none
  · rw [points, choiceLines_eq]
  · rw [points, getElem?_pointsOf] at found
    obtain ⟨line, -, rfl⟩ := Option.map_eq_some_iff.mp found
    rfl
  · obtain ⟨-, same⟩ := statementsIn_readRoot includes root text faultless.reports
    have once := faultless.count_knot listed apart
    rw [← map_item_statementsIn, (same.map Statement.item).count_eq] at once
    refine ⟨?_, once⟩
    obtain ⟨statement, written, said⟩ :=
      List.mem_map.mp (List.count_pos_iff.mp (once ▸ Nat.one_pos))
    obtain ⟨document, -, inside⟩ := List.mem_flatMap.mp written
    have line := (Document.mem_statements.mp inside).2.1
    rw [said] at line
    exact isName_of_knot line

def stairsRules : Includes :=
  includesFrom "" [("stairs.tale", "* Climb -> loft\n== loft ==\n+ Stay -> loft\n")]

def stairsText : String :=
  "-> hall\n== hall ==\n* Look -> END\nINCLUDE stairs.tale\n* Leave -> END\n"

/-- The choices of the hall are numbered through, the one of the loft begins anew. -/
theorem stairs_shaped : ∃ artifact,
    (compile "main.tale" stairsText stairsRules).artifact = some artifact ∧
    (artifact.knots.values.flatMap fun knot => knot.points.map ChoicePoint.id).Nodup ∧
    ∃ knot, ("hall", knot) ∈ artifact.knots.entries ∧
      knot.points.map ChoicePoint.text = ["Look", "Climb", "Leave"] ∧
      (∀ point, knot.points[2]? = some point → point.id = "hall.2") ∧
      (((documents stairsRules "main.tale" stairsText).flatMap Document.statements).map
        Statement.item).count (.knot "hall") = 1 := by
  have found : ((compile "main.tale" stairsText stairsRules).artifact.bind fun artifact =>
      (artifact.knots.find? "hall").map fun knot => knot.points.map ChoicePoint.text) =
        some ["Look", "Climb", "Leave"] := by decide +kernel
  obtain ⟨artifact, compiled, rest⟩ := Option.bind_eq_some_iff.mp found
  obtain ⟨knot, held, texts⟩ := Option.map_eq_some_iff.mp rest
  obtain ⟨knots, ids⟩ := compiled_knots_shaped compiled
  have listed := Dictionary.find?_eq_some_iff.mp held
  obtain ⟨-, -, numbered, declared⟩ := knots "hall" knot listed
  exact ⟨artifact, compiled, ids, knot, listed, texts, fun point at_ => numbered 2 point at_,
    (declared (by decide)).2⟩

end Script

end Tale
