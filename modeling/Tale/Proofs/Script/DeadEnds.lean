import Tale.Proofs.Except
import Tale.Proofs.Script.Conservation
import Tale.Proofs.Story.Halting

/-! Dead ends are announced.

The compiler looks at the last step of every knot that was declared, once all documents are read, and
warns of those that lead nowhere else. A story runs off the end of no other knots, apart from the root,
which has no declaration.
-/

set_option autoImplicit false

namespace Tale.Script

variable {row : List Entry}

/-! ## Declarations -/

theorem state_origins (draft : Draft) (file : Path) (span : Span) {item : Item}
    (knotless : item.heading? = none) : (draft.state file span item).origins = draft.origins := by
  have added (draft : Draft) (step : Step) : (draft.addStep file span step).origins = draft.origins := by
    unfold Draft.addStep
    split <;> rfl
  have mentioned (target : Target) : (draft.mention file span target).origins = draft.origins := by
    cases target <;> rfl
  cases item with
  | knot name => cases knotless
  | text | assignment => exact added _ _
  | divert name => exact (added _ _).trans (mentioned _)
  | choice line =>
    rw [Draft.state, Draft.addChoice_eq]
    exact mentioned _
  | declaration name value =>
    obtain ⟨globals, diagnostics, same⟩ := Draft.declare_eq draft file span name value
    rw [Draft.state, same]
  | inclusion | note => rfl

theorem take_origins (draft : Draft) {entry : Entry}
    (undeclared : entry.item?.bind Item.heading? = none) : (draft.take entry).origins = draft.origins := by
  cases entry with
  | report diagnostic => rfl
  | opened => rfl
  | closed =>
    rw [Draft.take]
    split <;> rfl
  | statement file span item => exact state_origins draft file span undeclared

theorem exists_knot_of_heading {entry : Entry} {name : String}
    (heading : entry.item?.bind Item.heading? = some name) :
    ∃ file span, entry = .statement file span (.knot name) := by
  cases entry with
  | report | opened | closed => cases heading
  | statement file span item =>
    cases item with
    | knot other =>
      cases heading
      exact ⟨file, span, rfl⟩
    | inclusion | declaration | text | divert | assignment | choice | note => cases heading

theorem mem_headings_iff {name : String} : name ∈ headings (itemsIn row) ↔
    ∃ file span, Entry.statement file span (.knot name) ∈ row := by
  simp only [headings, itemsIn, List.mem_filterMap]
  constructor
  · rintro ⟨item, ⟨entry, member, stated⟩, heading⟩
    have declares : entry.item?.bind Item.heading? = some name := by rw [stated, Option.bind_some, heading]
    obtain ⟨file, span, rfl⟩ := exists_knot_of_heading declares
    exact ⟨file, span, member⟩
  · rintro ⟨file, span, member⟩
    exact ⟨.knot name, ⟨_, member, rfl⟩, rfl⟩

theorem find?_origins_iff (once : (knotNames (itemsIn row)).Nodup) {name : String} {file : Path}
    {span : Span} : (assemble row).origins.find? name = some (file, span) ↔
      Entry.statement file span (.knot name) ∈ row := by
  induction row using List.reverseRecOn with
  | nil => exact iff_of_false nofun nofun
  | append_singleton row entry ih =>
    have step : assemble (row ++ [entry]) = (assemble row).take entry := List.foldl_concat ..
    have before := ih (once.sublist (knotNames_sublist row entry))
    rw [step, List.mem_append, List.mem_singleton]
    cases heading : entry.item?.bind Item.heading? with
    | none =>
      rw [take_origins _ heading, before]
      refine (or_iff_left ?_).symm
      rintro rfl
      cases heading
    | some other =>
      obtain ⟨place, bytes, rfl⟩ := exists_knot_of_heading heading
      rw [knotNames_statement] at once
      have fresh : other ∉ knotNames (itemsIn row) := (nodup_snoc.mp once).1
      have new : ¬ (assemble row).knots.contains other :=
        mt ((assemble_tallies row).knots other).mp fresh
      have origins : ((assemble row).take (.statement place bytes (.knot other))).origins =
          (assemble row).origins.insert other (place, bytes) := by
        rw [Draft.take, Draft.state, Draft.beginKnot, if_neg new]
      rw [origins, Dictionary.find?_insert_eq]
      split
      · next same =>
        subst same
        have unknown : Entry.statement file span (.knot name) ∉ row := fun declared =>
          fresh (List.mem_cons_of_mem _ (mem_headings_iff.mpr ⟨file, span, declared⟩))
        simp [unknown, eq_comm]
      · next apart => simp [before, apart]

/-! ## Warnings -/

theorem Faultless.warns (faultless : Faultless row) {name : String} {file : Path} {span : Span}
    (declared : Entry.statement file span (.knot name) ∈ row)
    (runsOut : (assemble row).artifact.RunsOut name) :
    (Finding.unfinishedKnot name).inFile file span ∈ (assemble row).findings := by
  have origin := (find?_origins_iff faultless.knotsOnce).mpr declared
  have made : name ∈ knotNames (itemsIn row) :=
    List.mem_cons_of_mem _ (mem_headings_iff.mpr ⟨file, span, declared⟩)
  have steps := (assemble_mirrors row faultless.knotsOnce).knots name made
  have unfinished : Draft.isFinished (((assemble row).knots.find? name).getD []) = false := by
    unfold Artifact.RunsOut at runsOut
    rw [faultless.stepsOf_built, List.getLast?_reverse] at runsOut
    rw [steps, Option.getD_some]
    cases built : built name (itemsOfKnot name (Cursor.start.placed row)) with
    | nil => rfl
    | cons last rest =>
      have stays : last.Stays := runsOut last (by rw [built]; rfl)
      cases last with
      | text | set => rfl
      | divert | choices => cases stays
  refine List.mem_append_right _ (List.mem_map.mpr ⟨(name, file, span), ?_, rfl⟩)
  exact List.mem_filter.mpr ⟨Dictionary.find?_eq_some_iff.mp origin, congrArg not unfinished⟩

theorem Faultless.declared (faultless : Faultless row) {name : String}
    (there : (assemble row).artifact.knots.contains name) (apart : name ≠ Artifact.rootKnot) :
    ∃ file span, Entry.statement file span (.knot name) ∈ row ∧
      ∀ other bytes, Entry.statement other bytes (.knot name) ∈ row → other = file ∧ bytes = span := by
  obtain ⟨content, found⟩ := Option.isSome_iff_exists.mp there
  have made := (faultless.knot_built (Dictionary.find?_eq_some_iff.mp found)).1
  obtain ⟨file, span, declared⟩ := mem_headings_iff.mp ((List.mem_cons.mp made).resolve_left apart)
  refine ⟨file, span, declared, fun other bytes again => ?_⟩
  have first := (find?_origins_iff faultless.knotsOnce).mpr declared
  have second := (find?_origins_iff faultless.knotsOnce).mpr again
  rw [first] at second
  cases second
  exact ⟨rfl, rfl⟩

/-- However a compiled story is played, it runs off the end of no knot but the root that the compiler did
not warn of, at the one place in the documents where the knot is declared. -/
theorem dead_ends_announced {root : Path} {text : String} {includes : Includes} {artifact : Artifact}
    (compiled : (compile root text includes).artifact = some artifact) {story : Story}
    (started : Story.start artifact = .ok story) (calls : List Story.Call) :
    let course := calls.foldl Course.perform (Course.start artifact)
    course.story = calls.foldl Story.perform story ∧
    (course.story.hasEnded ↔ course.halt.IsEnd) ∧
    ∀ knot, course.halt = .ranOff knot → knot ≠ Artifact.rootKnot →
      ∃ document ∈ documents includes root text, ∃ span,
        (.knot knot, span) ∈ itemsOf document.text ∧
        (∀ other ∈ documents includes root text, ∀ bytes, (.knot knot, bytes) ∈ itemsOf other.text →
          other.path = document.path ∧ bytes = span) ∧
        (Finding.unfinishedKnot knot).inFile document.path span ∈
          (compile root text includes).diagnostics := by
  intro course
  obtain ⟨faultless, rfl⟩ := outcome_eq_some_iff.mp compiled
  have sensible := (Course.start_sensible started).run calls
  have played : course.story = calls.foldl Story.perform story := by
    rw [← Course.start_story started]
    exact Course.run_story ..
  refine ⟨played, sensible.hasEnded_iff, fun knot halted apart => ?_⟩
  have explained := sensible.explained
  unfold Course.Explained at explained
  rw [halted] at explained
  obtain ⟨-, there, runsOut⟩ := explained
  have origin : course.story.artifact = (assemble (readRoot includes root text).entries).artifact := by
    obtain ⟨settled, same⟩ := Story.start_settled started
    rw [played, (settled.run calls).2, same]
  rw [origin] at there runsOut
  obtain ⟨file, span, declared, only⟩ := faultless.declared there apart
  obtain ⟨document, listed, rfl, written, -⟩ :=
    (statement_mem_readRoot faultless.reports).mp declared
  refine ⟨document, listed, span, written, fun other member bytes again => ?_,
    faultless.warns declared runsOut⟩
  exact only _ _ ((statement_mem_readRoot faultless.reports).mpr ⟨other, member, rfl, again, rfl⟩)

def atticRules : Includes := includesFrom "" [("attic.tale", "Dust.\n~ lamp = true\n")]

def atticText : String := "VAR lamp = false\n-> hall\n== hall ==\nINCLUDE attic.tale\n"

/-- The story stops behind the dust, which was announced for the knot line in the other document. -/
theorem attic_announced : ∃ artifact story,
    (compile "main.tale" atticText atticRules).artifact = some artifact ∧
    Story.start artifact = .ok story ∧
    ([Story.Call.continueLine].foldl Course.perform (Course.start artifact)).halt = .ranOff "hall" ∧
    (Finding.unfinishedKnot "hall").inFile "main.tale" ⟨25, 35⟩ ∈
      (compile "main.tale" atticText atticRules).diagnostics := by
  have played : ((compile "main.tale" atticText atticRules).artifact.bind fun artifact =>
      (Story.start artifact).toOption.map fun _ =>
        ([Story.Call.continueLine].foldl Course.perform (Course.start artifact)).halt) =
          some (.ranOff "hall") := by decide +kernel
  have written : (Item.knot "hall", ⟨25, 35⟩) ∈ itemsOf atticText := by decide +kernel
  obtain ⟨artifact, compiled, rest⟩ := Option.bind_eq_some_iff.mp played
  obtain ⟨story, started, halted⟩ := Option.map_eq_some_iff.mp rest
  have started := ok_of_toOption started
  obtain ⟨-, -, announced⟩ := dead_ends_announced compiled started [.continueLine]
  obtain ⟨document, -, span, -, only, warned⟩ := announced "hall" halted (by decide)
  obtain ⟨path, rfl⟩ := only _ List.mem_cons_self _ written
  rw [← path] at warned
  exact ⟨artifact, story, compiled, started, halted, warned⟩

end Tale.Script
