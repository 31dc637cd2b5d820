import Tale.Proofs.Script.Placement
import Tale.Proofs.Story.History
import Tale.Proofs.Text

/-! The choices of a knot.

The choice lines of a knot, also those that come from other documents, make one block of choices at its
end, numbered in the order in which they are read. The number is the last part of the id of a choice
and contains no point, so no two choices of a story have the same id.
-/

set_option autoImplicit false

namespace Tale

def Step.IsChoices : Step → Prop
  | .choices _ => True
  | _ => False

namespace Script

def Item.choice? : Item → Option ChoiceLine
  | .choice line => some line
  | _ => none

def choiceLines (row : List Entry) (knot : String) : List ChoiceLine :=
  (itemsOfKnot knot (Cursor.start.placed row)).filterMap Item.choice?

def choiceId (knot : String) (number : Nat) : String :=
  knot ++ "." ++ String.ofList (Text.naturalDigits number)

def pointOf (knot : String) (line : ChoiceLine) (number : Nat) : ChoicePoint :=
  ⟨choiceId knot number, line.text, line.sticky, line.condition, Draft.target line.target⟩

def pointsOf (knot : String) (lines : List ChoiceLine) : List ChoicePoint :=
  lines.zipIdx.map fun numbered => pointOf knot numbered.1 numbered.2

theorem getElem?_pointsOf {knot : String} {lines : List ChoiceLine} {number : Nat} :
    (pointsOf knot lines)[number]? = lines[number]?.map fun line => pointOf knot line number := by
  simp [pointsOf, List.getElem?_zipIdx, Function.comp_def]

/-! ## Ids -/

theorem append_point_inj {first second digits others : List Char} (plain : '.' ∉ digits)
    (plainToo : '.' ∉ others) (same : first ++ '.' :: digits = second ++ '.' :: others) :
    first = second ∧ digits = others := by
  rcases List.append_eq_append_iff.mp same with ⟨more, longer, split⟩ | ⟨more, longer, split⟩ <;>
    cases more with
    | nil => simpa [longer, eq_comm] using split
    | cons c rest =>
      simp only [List.cons_append, List.cons.injEq] at split
      simp [split.2] at plain plainToo

theorem choiceId_inj {first second : String} {number other : Nat}
    (same : choiceId first number = choiceId second other) : first = second ∧ number = other := by
  have plain (value : Nat) : '.' ∉ Text.naturalDigits value := by
    intro member
    cases Text.isDigit_of_mem_naturalDigits member
  have characters : first.toList ++ '.' :: Text.naturalDigits number =
      second.toList ++ '.' :: Text.naturalDigits other := by
    simpa [choiceId] using congrArg String.toList same
  obtain ⟨knots, digits⟩ := append_point_inj (plain number) (plain other) characters
  exact ⟨String.toList_injective knots, Text.naturalDigits_injective digits⟩

/-! ## Blocks -/

/-- The steps of a knot, the latest first, end with the block of some choice lines, if there are any. -/
structure Block (knot : String) (steps : List Step) (lines : List ChoiceLine) : Prop where
  without : lines = [] → ∀ step ∈ steps, ¬ step.IsChoices
  last : lines ≠ [] → ∃ rest, steps = .choices (pointsOf knot lines) :: rest ∧
    ∀ step ∈ rest, ¬ step.IsChoices

theorem pointCount_eq_zero {step : Step} (apart : ¬ step.IsChoices) :
    Draft.pointCount step = 0 := by
  cases step with
  | choices points => exact absurd trivial apart
  | text | divert | set => rfl

theorem sum_pointCount_eq_zero {steps : List Step} (apart : ∀ step ∈ steps, ¬ step.IsChoices) :
    (steps.map Draft.pointCount).foldr (· + ·) 0 = 0 := by
  induction steps with
  | nil => rfl
  | cons step rest ih =>
    rw [List.map_cons, List.foldr_cons, pointCount_eq_zero (apart step List.mem_cons_self),
      ih fun other member => apart other (List.mem_cons_of_mem _ member)]

theorem withChoice_of_none {knot : String} {steps : List Step} {line : ChoiceLine}
    (apart : ∀ step ∈ steps, ¬ step.IsChoices) :
    withChoice knot steps line = .choices [pointOf knot line 0] :: steps := by
  have number := sum_pointCount_eq_zero apart
  unfold withChoice
  rw [number]
  cases steps with
  | nil => rfl
  | cons step rest =>
    cases step with
    | choices points => exact absurd trivial (apart _ List.mem_cons_self)
    | text | divert | set => rfl

theorem pointsOf_concat (knot : String) (lines : List ChoiceLine) (line : ChoiceLine) :
    pointsOf knot (lines ++ [line]) = pointsOf knot lines ++ [pointOf knot line lines.length] := by
  simp [pointsOf, List.zipIdx_append]

namespace Block

variable {knot : String} {steps : List Step} {lines : List ChoiceLine}

theorem withChoice (block : Block knot steps lines) (line : ChoiceLine) :
    Block knot (withChoice knot steps line) (lines ++ [line]) := by
  refine ⟨fun none => by simp at none, fun _ => ?_⟩
  by_cases empty : lines = []
  · have apart := block.without empty
    exact ⟨steps, by rw [withChoice_of_none apart, empty]; rfl, apart⟩
  · obtain ⟨rest, rfl, apart⟩ := block.last empty
    refine ⟨rest, ?_, apart⟩
    have number : ((Step.choices (pointsOf knot lines) :: rest).map Draft.pointCount).foldr
        (· + ·) 0 = lines.length := by
      rw [List.map_cons, List.foldr_cons, sum_pointCount_eq_zero apart]
      simp [Draft.pointCount, pointsOf]
    rw [Script.withChoice, number, pointsOf_concat]
    rfl

theorem behind (block : Block knot steps lines) {step : Step} (apart : ¬ step.IsChoices) :
    Block knot (behind steps step) lines := by
  by_cases empty : lines = []
  · have before := block.without empty
    refine ⟨fun _ => ?_, fun some => absurd empty some⟩
    intro other member
    unfold Script.behind at member
    split at member
    · exact before other member
    · rcases List.mem_cons.mp member with rfl | later
      · exact apart
      · exact before other later
  · obtain ⟨rest, rfl, before⟩ := block.last empty
    exact block

theorem grow (block : Block knot steps lines) {item : Item} (knotless : item.heading? = none) :
    Block knot (item.grow knot steps) (lines ++ item.choice?.toList) := by
  cases item with
  | knot name => cases knotless
  | choice line => exact block.withChoice line
  | text | divert | assignment => simpa [Item.choice?, Item.grow] using block.behind id
  | inclusion | declaration | note => simpa [Item.choice?, Item.grow] using block

theorem nil (knot : String) : Block knot [] [] where
  without _ _ member := nomatch member
  last some := absurd rfl some

end Block

/-! ## Rows -/

section Rows

variable {row : List Entry}

theorem current_mem_knotNames (once : (knotNames (itemsIn row)).Nodup) :
    (Cursor.start.after row).current ∈ knotNames (itemsIn row) := by
  rw [← (assemble_mirrors row once).current, ← (assemble_tallies row).knots]
  exact (assemble_tallies row).current

theorem placed_concat (row : List Entry) (entry : Entry) :
    Cursor.start.placed (row ++ [entry]) = Cursor.start.placed row ++
      (entry.item?.map fun item => ((Cursor.start.after (row ++ [entry])).current, item)).toList := by
  rw [Cursor.placed_append, Cursor.after_append]
  simp [Cursor.placed, Cursor.place?, Cursor.after]

theorem itemsOfKnot_eq_nil (once : (knotNames (itemsIn row)).Nodup) {knot : String}
    (unmade : knot ∉ knotNames (itemsIn row)) :
    itemsOfKnot knot (Cursor.start.placed row) = [] := by
  induction row using List.reverseRecOn with
  | nil => rfl
  | append_singleton row entry ih =>
    have within := knotNames_sublist row entry
    have elsewhere : (Cursor.start.after (row ++ [entry])).current ≠ knot := by
      rintro rfl
      exact unmade (current_mem_knotNames once)
    rw [placed_concat, itemsOfKnot_append,
      ih (once.sublist within) fun made => unmade (within.subset made)]
    cases entry.item? with
    | none => rfl
    | some item =>
      rw [Option.map_some, Option.toList_some, itemsOfKnot_singleton, if_neg elsewhere]
      rfl

theorem choiceLines_concat (row : List Entry) (entry : Entry) (knot : String) :
    choiceLines (row ++ [entry]) knot = choiceLines row knot ++
      (itemsOfKnot knot (entry.item?.map fun item =>
        ((Cursor.start.after (row ++ [entry])).current, item)).toList).filterMap Item.choice? := by
  rw [choiceLines, placed_concat, itemsOfKnot_append, List.filterMap_append]
  rfl

theorem unmade_of_heading {entry : Entry} (once : (knotNames (itemsIn (row ++ [entry]))).Nodup)
    {item : Item} (stated : entry.item? = some item) (heading : item.heading? ≠ none) {knot : String}
    (here : (Cursor.start.after (row ++ [entry])).current = knot) : knot ∉ knotNames (itemsIn row) := by
  cases entry with
  | report | opened | closed => cases stated
  | statement file span item =>
    cases stated
    cases item with
    | knot name =>
      rw [Cursor.after_append] at here
      rw [knotNames_statement] at once
      cases here
      exact (nodup_snoc.mp once).1
    | inclusion | declaration | text | divert | assignment | choice | note =>
      exact absurd rfl heading

/-- The choice lines of a knot make the block at its end. -/
theorem block_built (once : (knotNames (itemsIn row)).Nodup) (knot : String) :
    Block knot (built knot (itemsOfKnot knot (Cursor.start.placed row))) (choiceLines row knot) := by
  induction row using List.reverseRecOn with
  | nil => exact .nil knot
  | append_singleton row entry ih =>
    have within := knotNames_sublist row entry
    have before := ih (once.sublist within)
    rw [choiceLines_concat, placed_concat, itemsOfKnot_append, built_append]
    cases stated : entry.item? with
    | none => simpa [itemsOfKnot] using before
    | some item =>
      rw [Option.map_some, Option.toList_some, itemsOfKnot_singleton]
      by_cases here : (Cursor.start.after (row ++ [entry])).current = knot
      · rw [if_pos here]
        by_cases knotless : item.heading? = none
        · have line : [item].filterMap Item.choice? = item.choice?.toList := by
            cases chosen : item.choice? <;> simp [chosen]
          rw [line]
          exact before.grow knotless
        · -- The line that makes the knot is the first one that is placed in it.
          have nothing := itemsOfKnot_eq_nil (once.sublist within) (unmade_of_heading once stated knotless here)
          rw [choiceLines, nothing]
          cases item with
          | knot name => exact .nil knot
          | inclusion | declaration | text | divert | assignment | choice | note =>
            exact absurd rfl knotless
      · rw [if_neg here]
        simpa using before

end Rows

end Script

end Tale
