import Tale.Proofs.Script.Placement
import Tale.Proofs.Story.Closed

/-! Stories that were compiled can be begun.

A compiler checks the names that it met on the way, a player the steps of the finished story. The two
agree because every target of a step comes from a statement of the row, and every statement that leads
to a knot mentions it; steps that are given up behind a choice block take no mention with them.
-/

set_option autoImplicit false

namespace Tale

namespace Script

def targetsOf (steps : List Step) : List Target := steps.flatMap Step.targets

theorem targetsOf_behind {steps : List Step} {step : Step} {target : Target}
    (leads : target ∈ targetsOf (behind steps step)) :
    target ∈ targetsOf steps ∨ target ∈ step.targets := by
  unfold behind at leads
  split at leads
  · exact .inl leads
  · rw [targetsOf, List.flatMap_cons, List.mem_append] at leads
    exact leads.symm

theorem targetsOf_withChoice {knot : String} {steps : List Step} {line : ChoiceLine}
    {target : Target} (leads : target ∈ targetsOf (withChoice knot steps line)) :
    target ∈ targetsOf steps ∨ target = Draft.target line.target := by
  unfold withChoice at leads
  split at leads
  · simp only [targetsOf, List.flatMap_cons, Step.targets, List.map_append, List.map_cons,
      List.map_nil, List.mem_append, List.mem_singleton] at leads ⊢
    tauto
  · rw [targetsOf, List.flatMap_cons, List.mem_append] at leads
    exact leads.symm.imp_right List.mem_singleton.mp

theorem targetsOf_grow {knot : String} {steps : List Step} {item : Item} {target : Target}
    (leads : target ∈ targetsOf (item.grow knot steps)) :
    target ∈ targetsOf steps ∨ item.target? = some target := by
  cases item with
  | inclusion | declaration | note => exact .inl leads
  | knot name => cases leads
  | text words => exact .inl ((targetsOf_behind leads).resolve_right List.not_mem_nil)
  | assignment name value => exact .inl ((targetsOf_behind leads).resolve_right List.not_mem_nil)
  | divert name =>
    exact (targetsOf_behind leads).imp_right fun own => congrArg some (List.mem_singleton.mp own).symm
  | choice line => exact (targetsOf_withChoice leads).imp_right fun own => congrArg some own.symm

theorem targetsOf_built {knot : String} {items : List Item} {target : Target}
    (leads : target ∈ targetsOf (built knot items)) :
    ∃ item ∈ items, item.target? = some target := by
  induction items using List.reverseRecOn with
  | nil => cases leads
  | append_singleton items item ih =>
    rw [built_append] at leads
    rcases targetsOf_grow leads with earlier | own
    · obtain ⟨other, member, same⟩ := ih earlier
      exact ⟨other, List.mem_append_left _ member, same⟩
    · exact ⟨item, List.mem_append_right _ List.mem_cons_self, own⟩

/-- A row without an error makes a story that leads to its own knots only. -/
theorem Faultless.closed {row : List Entry} (faultless : Faultless row) :
    (assemble row).artifact.Closed := by
  have tallies := assemble_tallies row
  intro entry listed step inside target leads
  obtain ⟨-, steps⟩ := faultless.knot_built listed
  rw [steps, List.mem_reverse] at inside
  have built : target ∈ targetsOf (built entry.1 _) := List.mem_flatMap.mpr ⟨step, inside, leads⟩
  obtain ⟨item, placed, same⟩ := targetsOf_built built
  cases target with
  | ending => trivial
  | knot goal =>
    have mentions : goal ∈ mentioned (itemsIn row) := by
      refine List.mem_filterMap.mpr ⟨item, mem_items_of_mem_itemsOfKnot placed, ?_⟩
      rw [Item.mention?, same]
      rfl
    exact Dictionary.contains_mapValues _ ((tallies.knots goal).mpr (faultless.targets goal mentions))

/-- Every root, with every set of include rules, compiles to an artifact exactly if no error is
reported, and a story can be begun with every artifact that is made. -/
theorem compile_starts (root : Path) (text : String) (includes : Includes) :
    let pass := compile root text includes
    (pass.artifact.isSome ↔ ∀ diagnostic ∈ pass.diagnostics, diagnostic.severity ≠ .error) ∧
      ∀ artifact, pass.artifact = some artifact →
        artifact.format = Artifact.currentFormat ∧ artifact.knots.contains artifact.start ∧
          (∀ knot ∈ artifact.knots.values, ∀ step ∈ knot.steps, ∀ name, .knot name ∈ step.targets →
            artifact.knots.contains name) ∧
          ∃ story, Story.start artifact = .ok story := by
  intro pass
  constructor
  · have same : pass.artifact.isSome ↔ hasErrors pass.diagnostics = false := by
      change (if hasErrors pass.diagnostics then none else some _).isSome = true ↔ _
      cases hasErrors pass.diagnostics <;> simp
    rw [same]
    simp [hasErrors, Diagnostic.isError]
  · intro artifact made
    obtain ⟨faultless, rfl⟩ := outcome_eq_some_iff.mp made
    have closed := faultless.closed
    have root : (assemble (readRoot includes root text).entries).artifact.knots.contains
        Artifact.rootKnot :=
      Dictionary.contains_mapValues _ (((assemble_tallies _).knots _).mpr List.mem_cons_self)
    refine ⟨rfl, root, ?_, _, Story.start_eq_ok_iff.mpr ⟨?_, closed, rfl⟩⟩
    · intro knot listed step inside name leads
      obtain ⟨entry, member, rfl⟩ := List.mem_map.mp listed
      exact closed entry member step inside (.knot name) leads
    · exact Artifact.validate_eq_ok_iff.mpr ⟨rfl, root⟩

def approachRules : Includes := includesFrom "" [("gate.tale", "== gate ==\n* Knock -> END\n")]

def approachText : String := "INCLUDE gate.tale\n* Walk up -> gate\n-> gate\n"

/-- The root is compiled and can be begun; without the included knot it is not compiled. -/
theorem approach_starts :
    (∃ artifact, (compile "main.tale" approachText approachRules).artifact = some artifact ∧
      ∃ story, Story.start artifact = .ok story) ∧
    ∃ diagnostic ∈ (compileSource "* Walk up -> gate\n-> gate\n").diagnostics,
      diagnostic.severity = .error := by
  obtain ⟨made, accepted⟩ := compile_starts "main.tale" approachText approachRules
  constructor
  · have clean : ∀ diagnostic ∈ (compile "main.tale" approachText approachRules).diagnostics,
        diagnostic.severity ≠ .error := by decide +kernel
    obtain ⟨artifact, same⟩ := Option.isSome_iff_exists.mp (made.mpr clean)
    obtain ⟨-, -, -, begun⟩ := accepted artifact same
    exact ⟨artifact, same, begun⟩
  · decide +kernel

end Script

end Tale
