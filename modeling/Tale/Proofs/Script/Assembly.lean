import Mathlib.Data.List.Induction
import Mathlib.Data.List.Nodup
import Tale.Proofs.Dictionary
import Tale.Script.Compile

/-! What a row of entries is put together to.

The knots of the story are the root and those that the row declares, its variables those that the row
declares. Whether anything is wrong with the row can be told from its reports and from the names that
it declares and mentions, in whatever order they come.
-/

set_option autoImplicit false

namespace Tale

def Target.knot? : Target → Option String
  | .knot name => some name
  | .ending => none

namespace Script

/-! ## Rows of entries -/

def Item.heading? : Item → Option String
  | .knot name => some name
  | _ => none

def Item.declaration? : Item → Option (String × Value)
  | .declaration name value => some (name, value)
  | _ => none

def Item.target? : Item → Option Target
  | .divert name => some (Draft.target name)
  | .choice line => some (Draft.target line.target)
  | _ => none

def Item.mention? (item : Item) : Option String := item.target?.bind Target.knot?

def Entry.item? : Entry → Option Item
  | .statement _ _ item => some item
  | _ => none

def Entry.isFailure : Entry → Bool
  | .report diagnostic => diagnostic.isError
  | _ => false

def itemsIn (row : List Entry) : List Item := row.filterMap Entry.item?

def headings (items : List Item) : List String := items.filterMap Item.heading?

def declarations (items : List Item) : List (String × Value) := items.filterMap Item.declaration?

def mentioned (items : List Item) : List String := items.filterMap Item.mention?

def knotNames (items : List Item) : List String := Artifact.rootKnot :: headings items

theorem nodup_snoc {names : List String} {name : String} :
    (names ++ [name]).Nodup ↔ name ∉ names ∧ names.Nodup := by
  rw [← List.concat_eq_append, List.nodup_concat]

theorem filterMap_itemsIn_concat {α : Type} (image : Item → Option α) (row : List Entry)
    (entry : Entry) : (itemsIn (row ++ [entry])).filterMap image =
      (itemsIn row).filterMap image ++ (entry.item?.bind image).toList := by
  rw [itemsIn, List.filterMap_append, List.filterMap_append]
  cases stated : entry.item? with
  | none => simp [itemsIn, stated]
  | some item => cases found : image item <;> simp [itemsIn, stated, found]

theorem knotNames_sublist (row : List Entry) (entry : Entry) :
    (knotNames (itemsIn row)).Sublist (knotNames (itemsIn (row ++ [entry]))) := by
  simp [knotNames, headings, itemsIn]

section Statement

variable (row : List Entry) (file : Path) (span : Span) (item : Item)

theorem knotNames_statement :
    knotNames (itemsIn (row ++ [.statement file span item])) =
      knotNames (itemsIn row) ++ item.heading?.toList :=
  congrArg (Artifact.rootKnot :: ·) (filterMap_itemsIn_concat Item.heading? row _)

theorem declarations_statement :
    declarations (itemsIn (row ++ [.statement file span item])) =
      declarations (itemsIn row) ++ item.declaration?.toList :=
  filterMap_itemsIn_concat Item.declaration? row _

theorem mentioned_statement :
    mentioned (itemsIn (row ++ [.statement file span item])) =
      mentioned (itemsIn row) ++ item.mention?.toList :=
  filterMap_itemsIn_concat Item.mention? row _

theorem reports_statement :
    (∀ entry ∈ row ++ [.statement file span item], entry.isFailure = false) ↔
      ∀ entry ∈ row, entry.isFailure = false := by
  simp [or_imp, forall_and, Entry.isFailure]

end Statement

/-- Nothing in a row is an error: no report is one, no name is declared twice, and every knot that is
mentioned is declared. -/
structure Faultless (row : List Entry) : Prop where
  reports : ∀ entry ∈ row, entry.isFailure = false
  knotsOnce : (knotNames (itemsIn row)).Nodup
  variablesOnce : ((declarations (itemsIn row)).map Prod.fst).Nodup
  targets : ∀ name ∈ mentioned (itemsIn row), name ∈ knotNames (itemsIn row)

/-! ## Steps of a knot -/

/-- A step behind others; behind a choice block there is none. -/
def behind (steps : List Step) (step : Step) : List Step :=
  match steps with
  | .choices _ :: _ => steps
  | _ => step :: steps

def withChoice (knot : String) (steps : List Step) (line : ChoiceLine) : List Step :=
  let number := (steps.map Draft.pointCount).foldr (· + ·) 0
  let point : ChoicePoint :=
    ⟨knot ++ "." ++ String.ofList (Text.naturalDigits number), line.text, line.sticky,
      line.condition, Draft.target line.target⟩
  match steps with
  | .choices points :: rest => .choices (points ++ [point]) :: rest
  | _ => .choices [point] :: steps

def Item.grow (knot : String) (steps : List Step) : Item → List Step
  | .knot _ => []
  | .text words => behind steps (.text words)
  | .divert name => behind steps (.divert (Draft.target name))
  | .assignment name value => behind steps (.set name value)
  | .choice line => withChoice knot steps line
  | _ => steps

def built (knot : String) (items : List Item) : List Step := items.foldl (Item.grow knot) []

theorem built_append (knot : String) (first second : List Item) :
    built knot (first ++ second) = second.foldl (Item.grow knot) (built knot first) :=
  List.foldl_append

namespace Draft

variable {draft : Draft}

theorem find?_current (there : draft.knots.contains draft.current) :
    draft.knots.find? draft.current = some draft.steps := by
  obtain ⟨steps, found⟩ := Option.isSome_iff_exists.mp there
  simp [Draft.steps, found]

theorem find?_unchanged (there : draft.knots.contains draft.current) (name : String) :
    draft.knots.find? name =
      if name = draft.current then some draft.steps else draft.knots.find? name := by
  split
  · next same => rw [same, find?_current there]
  · rfl

theorem mention_eq (draft : Draft) (file : Path) (span : Span) (target : Target) :
    ∃ mentions, draft.mention file span target =
        { draft with mentions := mentions ++ draft.mentions } ∧
      mentions.map Mention.name = target.knot?.toList := by
  cases target with
  | knot name => exact ⟨[⟨name, file, span⟩], rfl, rfl⟩
  | ending => exact ⟨[], rfl, rfl⟩

theorem find?_withSteps (draft : Draft) (steps : List Step) (name : String) :
    (draft.withSteps steps).knots.find? name =
      if name = draft.current then some steps else draft.knots.find? name :=
  Dictionary.find?_insert_eq draft.knots draft.current name steps

theorem addStep_cases (draft : Draft) (file : Path) (span : Span) (step : Step) :
    draft.addStep file span step = draft.withSteps (behind draft.steps step) ∨
      draft.addStep file span step = draft.report (Finding.unreachable.inFile file span) ∧
        behind draft.steps step = draft.steps := by
  unfold addStep behind
  cases draft.steps with
  | nil => exact .inl rfl
  | cons last rest =>
    cases last with
    | choices points => exact .inr ⟨rfl, rfl⟩
    | text | divert | set => exact .inl rfl

theorem addStep_eq (there : draft.knots.contains draft.current) (file : Path) (span : Span)
    (step : Step) :
    ∃ knots warnings, draft.addStep file span step =
        { draft with knots := knots, diagnostics := warnings ++ draft.diagnostics } ∧
      (∀ name, knots.find? name = if name = draft.current then some (behind draft.steps step)
        else draft.knots.find? name) ∧
      ∀ warning ∈ warnings, warning.isError = false := by
  rcases addStep_cases draft file span step with added | ⟨refused, unchanged⟩
  · exact ⟨_, [], added, find?_withSteps draft _, fun _ member => nomatch member⟩
  · refine ⟨draft.knots, [Finding.unreachable.inFile file span], refused, fun name => ?_, ?_⟩
    · rw [unchanged]
      exact find?_unchanged there name
    · intro warning member
      cases List.mem_singleton.mp member
      rfl

theorem addChoice_eq (draft : Draft) (line : ChoiceLine) :
    draft.addChoice line = draft.withSteps (withChoice draft.current draft.steps line) := by
  unfold addChoice withChoice
  cases draft.steps with
  | nil => rfl
  | cons step rest => cases step <;> rfl

/-- What a statement does that declares nothing: it may grow the open knot, mention a knot, and give
rise to a diagnostic that is no error. -/
theorem state_eq (there : draft.knots.contains draft.current) (file : Path) (span : Span)
    {item : Item} (knotless : item.heading? = none) (undeclared : item.declaration? = none) :
    ∃ knots mentions harmless, draft.state file span item =
        { draft with
          knots := knots
          mentions := mentions ++ draft.mentions
          diagnostics := harmless ++ draft.diagnostics } ∧
      (∀ name, knots.find? name =
        if name = draft.current then some (item.grow draft.current draft.steps)
        else draft.knots.find? name) ∧
      mentions.map Mention.name = item.mention?.toList ∧
      ∀ diagnostic ∈ harmless, diagnostic.isError = false := by
  cases item with
  | knot name => cases knotless
  | declaration name value => cases undeclared
  | inclusion name =>
    exact ⟨draft.knots, [], [], rfl, find?_unchanged there, rfl, fun _ member => nomatch member⟩
  | text words =>
    obtain ⟨knots, warnings, same, found, harmless⟩ := addStep_eq there file span (.text words)
    exact ⟨knots, [], warnings, same, found, rfl, harmless⟩
  | assignment name value =>
    obtain ⟨knots, warnings, same, found, harmless⟩ := addStep_eq there file span (.set name value)
    exact ⟨knots, [], warnings, same, found, rfl, harmless⟩
  | divert name =>
    obtain ⟨mentions, mention, names⟩ := mention_eq draft file span (target name)
    have thereToo : (draft.mention file span (target name)).knots.contains
        (draft.mention file span (target name)).current := by rwa [mention]
    obtain ⟨knots, warnings, same, found, harmless⟩ :=
      addStep_eq thereToo file span (.divert (target name))
    rw [mention] at same found
    refine ⟨knots, mentions, warnings, ?_, found, names, harmless⟩
    rw [state, mention, same]
  | choice line =>
    obtain ⟨mentions, mention, names⟩ := mention_eq draft file span (target line.target)
    refine ⟨_, mentions, [], ?_, find?_withSteps draft _, names, fun _ member => nomatch member⟩
    rw [state, mention, addChoice_eq]
    rfl
  | note words =>
    refine ⟨draft.knots, [], [(Finding.note words).inFile file span], rfl, find?_unchanged there,
      rfl, fun diagnostic member => ?_⟩
    cases List.mem_singleton.mp member
    rfl

/-! ## Names and errors -/

/-- What a draft holds of the names in a row, and whether it has met an error. -/
structure Tallies (draft : Draft) (row : List Entry) : Prop where
  knots : ∀ name, draft.knots.contains name ↔ name ∈ knotNames (itemsIn row)
  current : draft.knots.contains draft.current
  suspended : ∀ name ∈ draft.suspended, draft.knots.contains name
  globals : ∀ name, draft.globals.contains name ↔
    name ∈ (declarations (itemsIn row)).map Prod.fst
  mentions : draft.mentions.map Mention.name = (mentioned (itemsIn row)).reverse
  errors : hasErrors draft.diagnostics = false ↔ (∀ entry ∈ row, entry.isFailure = false) ∧
    (knotNames (itemsIn row)).Nodup ∧ ((declarations (itemsIn row)).map Prod.fst).Nodup

theorem hasErrors_append_harmless {harmless : List Diagnostic}
    (none : ∀ diagnostic ∈ harmless, diagnostic.isError = false) (diagnostics : List Diagnostic) :
    hasErrors (harmless ++ diagnostics) = hasErrors diagnostics := by
  have quiet : harmless.any Diagnostic.isError = false := by simpa using none
  rw [hasErrors, List.any_append, quiet, Bool.false_or, hasErrors]

theorem start_tallies : start.Tallies [] where
  knots name := by
    rw [start, Dictionary.contains_insert_iff]
    have none : (Dictionary.empty : Dictionary String (List Step)).contains name = false := rfl
    simp [none, knotNames, headings, itemsIn]
  current := by decide
  suspended name member := nomatch member
  globals name := by
    have none : (Dictionary.empty : Dictionary String Value).contains name = false := rfl
    simp [start, none, declarations, itemsIn]
  mentions := rfl
  errors := by simp [start, hasErrors, knotNames, headings, itemsIn, declarations]

theorem Tallies.pass {row : List Entry} (tallies : draft.Tallies row) {entry : Entry}
    (silent : entry.item? = none) {after : Draft} (knots : after.knots = draft.knots)
    (globals : after.globals = draft.globals) (mentions : after.mentions = draft.mentions)
    (current : after.knots.contains after.current)
    (suspended : ∀ name ∈ after.suspended, after.knots.contains name)
    (errors : hasErrors after.diagnostics = (entry.isFailure || hasErrors draft.diagnostics)) :
    after.Tallies (row ++ [entry]) := by
  have same : itemsIn (row ++ [entry]) = itemsIn row := by simp [itemsIn, silent]
  refine ⟨fun name => ?_, current, suspended, fun name => ?_, ?_, ?_⟩
  · rw [same, knots, tallies.knots]
  · rw [same, globals, tallies.globals]
  · rw [same, mentions, tallies.mentions]
  · rw [same, errors, Bool.or_eq_false_iff, tallies.errors]
    simp only [List.mem_append, List.mem_singleton, or_imp, forall_and, forall_eq]
    tauto

theorem Tallies.beginKnot {row : List Entry} (tallies : draft.Tallies row) (file : Path)
    (span : Span) (name : String) :
    (draft.beginKnot file span name).Tallies (row ++ [.statement file span (.knot name)]) := by
  have names := knotNames_statement row file span (.knot name)
  have declared := declarations_statement row file span (.knot name)
  have targets := mentioned_statement row file span (.knot name)
  have reports := reports_statement row file span (.knot name)
  simp only [Item.heading?, Item.declaration?, Item.mention?, Item.target?, Option.toList_some,
    Option.toList_none, Option.bind_none, List.append_nil] at names declared targets
  unfold Draft.beginKnot
  split
  · next known =>
    have twice : name ∈ knotNames (itemsIn row) := (tallies.knots name).mp known
    refine ⟨fun other => ?_, tallies.current, tallies.suspended, declared ▸ tallies.globals,
      targets ▸ tallies.mentions, ?_⟩
    · rw [names, List.mem_append, List.mem_singleton, ← tallies.knots]
      exact (or_iff_left_of_imp fun same => same ▸ known).symm
    · rw [names, nodup_snoc]
      exact iff_of_false Bool.noConfusion fun all => all.2.1.1 twice
  · next unknown =>
    have new : name ∉ knotNames (itemsIn row) := fun old => unknown ((tallies.knots name).mpr old)
    refine ⟨fun other => ?_, ?_, fun other member => ?_, declared ▸ tallies.globals,
      targets ▸ tallies.mentions, ?_⟩
    · rw [Dictionary.contains_insert_iff, names, List.mem_append, List.mem_singleton,
        tallies.knots, or_comm]
    · exact (Dictionary.contains_insert_iff _ _ _ _).mpr (.inl rfl)
    · exact (Dictionary.contains_insert_iff _ _ _ _).mpr (.inr (tallies.suspended other member))
    · rw [names, declared, reports, nodup_snoc, and_iff_right new]
      exact tallies.errors

theorem Tallies.declare {row : List Entry} (tallies : draft.Tallies row) (file : Path)
    (span : Span) (name : String) (value : Value) :
    (draft.declare file span name value).Tallies
      (row ++ [.statement file span (.declaration name value)]) := by
  have names := knotNames_statement row file span (.declaration name value)
  have declared := declarations_statement row file span (.declaration name value)
  have targets := mentioned_statement row file span (.declaration name value)
  have reports := reports_statement row file span (.declaration name value)
  simp only [Item.heading?, Item.declaration?, Item.mention?, Item.target?, Option.toList_some,
    Option.toList_none, Option.bind_none, List.append_nil] at names declared targets
  unfold Draft.declare
  split
  · next known =>
    have twice : name ∈ (declarations (itemsIn row)).map Prod.fst := (tallies.globals name).mp known
    refine ⟨names ▸ tallies.knots, tallies.current, tallies.suspended, fun other => ?_,
      targets ▸ tallies.mentions, ?_⟩
    · rw [declared, List.map_append, List.mem_append, ← tallies.globals, List.map_singleton,
        List.mem_singleton]
      exact (or_iff_left_of_imp fun same => same ▸ known).symm
    · rw [declared, List.map_append, List.map_singleton, nodup_snoc]
      exact iff_of_false Bool.noConfusion fun all => all.2.2.1 twice
  · next unknown =>
    have new : name ∉ (declarations (itemsIn row)).map Prod.fst :=
      fun old => unknown ((tallies.globals name).mpr old)
    refine ⟨names ▸ tallies.knots, tallies.current, tallies.suspended, fun other => ?_,
      targets ▸ tallies.mentions, ?_⟩
    · rw [Dictionary.contains_insert_iff, declared, List.map_append, List.mem_append,
        tallies.globals, List.map_singleton, List.mem_singleton, or_comm]
    · rw [names, declared, reports, List.map_append, List.map_singleton, nodup_snoc,
        and_iff_right new]
      exact tallies.errors

theorem Tallies.grow {row : List Entry} (tallies : draft.Tallies row) (file : Path)
    (span : Span) {item : Item} (knotless : item.heading? = none)
    (undeclared : item.declaration? = none) :
    (draft.state file span item).Tallies (row ++ [.statement file span item]) := by
  obtain ⟨knots, mentions, harmless, same, found, named, quiet⟩ :=
    state_eq tallies.current file span knotless undeclared
  have names := knotNames_statement row file span item
  have declared := declarations_statement row file span item
  rw [knotless, Option.toList_none, List.append_nil] at names
  rw [undeclared, Option.toList_none, List.append_nil] at declared
  -- Growing the open knot makes no new one.
  have contains (name : String) : knots.contains name = draft.knots.contains name := by
    rw [Dictionary.contains, found]
    split
    · next here =>
      rw [here, tallies.current]
      rfl
    · rfl
  rw [same]
  refine ⟨fun name => ?_, ?_, fun name member => ?_, declared ▸ tallies.globals, ?_, ?_⟩
  · rw [contains, names, tallies.knots]
  · exact (contains _).trans tallies.current
  · exact (contains name).trans (tallies.suspended name member)
  · rw [mentioned_statement, List.reverse_append, List.map_append, named, tallies.mentions]
    cases item.mention? <;> rfl
  · rw [hasErrors_append_harmless quiet, names, declared, reports_statement]
    exact tallies.errors

theorem Tallies.state {row : List Entry} (tallies : draft.Tallies row) (file : Path)
    (span : Span) (item : Item) :
    (draft.state file span item).Tallies (row ++ [.statement file span item]) := by
  cases item with
  | knot name => exact tallies.beginKnot file span name
  | declaration name value => exact tallies.declare file span name value
  | inclusion | text | divert | assignment | choice | note =>
    refine tallies.grow file span ?_ ?_ <;> rfl

theorem Tallies.take {row : List Entry} (tallies : draft.Tallies row) (entry : Entry) :
    (draft.take entry).Tallies (row ++ [entry]) := by
  cases entry with
  | report diagnostic =>
    exact tallies.pass rfl rfl rfl rfl tallies.current tallies.suspended rfl
  | opened =>
    refine tallies.pass rfl rfl rfl rfl tallies.current (fun name member => ?_) rfl
    rcases List.mem_cons.mp member with rfl | outer
    · exact tallies.current
    · exact tallies.suspended name outer
  | closed =>
    simp only [Draft.take]
    split
    · exact tallies.pass rfl rfl rfl rfl tallies.current tallies.suspended rfl
    · next knot outer waiting =>
      have there (name : String) (member : name ∈ knot :: outer) : draft.knots.contains name :=
        tallies.suspended name (waiting ▸ member)
      exact tallies.pass rfl rfl rfl rfl (there knot List.mem_cons_self)
        (fun name member => there name (List.mem_cons_of_mem _ member)) rfl
  | statement file span item => exact tallies.state file span item

end Draft

theorem assemble_tallies (row : List Entry) : (assemble row).Tallies row := by
  induction row using List.reverseRecOn with
  | nil => exact Draft.start_tallies
  | append_singleton row entry ih =>
    simpa only [assemble, List.foldl_append, List.foldl_cons, List.foldl_nil] using ih.take entry

/-- A row is put together without an error exactly if nothing in it is one. -/
theorem hasErrors_findings_iff (row : List Entry) :
    hasErrors (assemble row).findings = false ↔ Faultless row := by
  have tallies := assemble_tallies row
  have earlier : hasErrors (assemble row).diagnostics.reverse =
      hasErrors (assemble row).diagnostics := List.any_reverse
  have later : hasErrors (assemble row).unfinishedKnots = false := by
    simp only [hasErrors, Draft.unfinishedKnots, List.any_map, List.any_eq_false]
    exact fun _ _ => Bool.noConfusion
  have unknown : hasErrors (assemble row).unknownMentions = false ↔
      ∀ name ∈ mentioned (itemsIn row), name ∈ knotNames (itemsIn row) := by
    have names (name : String) : name ∈ mentioned (itemsIn row) ↔
        ∃ mention ∈ (assemble row).mentions, mention.name = name := by
      rw [← List.mem_reverse, ← tallies.mentions, List.mem_map]
    simp only [hasErrors, Draft.unknownMentions, List.any_map, List.any_eq_false, List.mem_filter,
      List.mem_reverse, names, ← tallies.knots, Bool.not_eq_true']
    constructor
    · rintro none name ⟨mention, member, rfl⟩
      exact eq_true_of_ne_false fun missing => none mention ⟨member, missing⟩ rfl
    · rintro all mention ⟨member, missing⟩ -
      cases missing.symm.trans (all _ ⟨mention, member, rfl⟩)
  rw [Draft.findings, hasErrors, List.any_append, List.any_append, Bool.or_eq_false_iff,
    Bool.or_eq_false_iff, ← hasErrors, ← hasErrors, ← hasErrors, earlier, tallies.errors, unknown]
  constructor
  · rintro ⟨⟨⟨reports, knots, declared⟩, targets⟩, -⟩
    exact ⟨reports, knots, declared, targets⟩
  · rintro ⟨reports, knots, declared, targets⟩
    exact ⟨⟨⟨reports, knots, declared⟩, targets⟩, later⟩

end Script

end Tale
