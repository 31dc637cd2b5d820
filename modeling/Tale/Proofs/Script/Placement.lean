import Tale.Proofs.Script.Assembly

/-! Which knot holds which statement.

A statement goes to the knot that is open for it. Where no knot is made twice, the steps of a knot are
built from its own statements in their order, so that two rows make the same story if each knot has the
same statements in both.
-/

set_option autoImplicit false

namespace Tale.Script

/-- Which knot is open, and which ones are waiting for the end of an included document. -/
structure Cursor where
  current : String
  suspended : List String

namespace Cursor

def start : Cursor := ⟨Artifact.rootKnot, []⟩

def move (cursor : Cursor) : Entry → Cursor
  | .statement _ _ (.knot name) => { cursor with current := name }
  | .opened => { cursor with suspended := cursor.current :: cursor.suspended }
  | .closed =>
    match cursor.suspended with
    | [] => cursor
    | knot :: outer => ⟨knot, outer⟩
  | _ => cursor

def after (cursor : Cursor) (row : List Entry) : Cursor := row.foldl move cursor

/-- The statement of an entry with the knot that is open for it; a knot line opens its own. -/
def place? (cursor : Cursor) (entry : Entry) : Option (String × Item) :=
  entry.item?.map fun item => ((cursor.move entry).current, item)

def placed (cursor : Cursor) : List Entry → List (String × Item)
  | [] => []
  | entry :: rest => (cursor.place? entry).toList ++ (cursor.move entry).placed rest

theorem after_append (cursor : Cursor) (row more : List Entry) :
    cursor.after (row ++ more) = (cursor.after row).after more := List.foldl_append

theorem placed_append (cursor : Cursor) (row more : List Entry) :
    cursor.placed (row ++ more) = cursor.placed row ++ (cursor.after row).placed more := by
  induction row generalizing cursor with
  | nil => rfl
  | cons entry rest ih =>
    simp only [List.cons_append, placed, ih, List.append_assoc]
    rfl

theorem map_snd_placed (cursor : Cursor) (row : List Entry) :
    (cursor.placed row).map Prod.snd = itemsIn row := by
  induction row generalizing cursor with
  | nil => rfl
  | cons entry rest ih =>
    cases stated : entry.item? with
    | none => simpa [placed, place?, itemsIn, stated] using ih (cursor.move entry)
    | some item => simpa [placed, place?, itemsIn, stated] using ih (cursor.move entry)

end Cursor

def itemsOfKnot (knot : String) (placed : List (String × Item)) : List Item :=
  (placed.filter fun entry => entry.1 = knot).map Prod.snd

theorem itemsOfKnot_singleton (knot other : String) (item : Item) :
    itemsOfKnot knot [(other, item)] = if other = knot then [item] else [] := by
  by_cases same : other = knot <;> simp [itemsOfKnot, same]

theorem mem_items_of_mem_itemsOfKnot {knot : String} {cursor : Cursor} {row : List Entry}
    {item : Item} (member : item ∈ itemsOfKnot knot (cursor.placed row)) : item ∈ itemsIn row := by
  obtain ⟨entry, inside, rfl⟩ := List.mem_map.mp member
  rw [← cursor.map_snd_placed row]
  exact List.mem_map_of_mem (List.mem_filter.mp inside).1

theorem itemsOfKnot_append (knot : String) (first second : List (String × Item)) :
    itemsOfKnot knot (first ++ second) = itemsOfKnot knot first ++ itemsOfKnot knot second := by
  simp [itemsOfKnot]

namespace Draft

/-- What a draft holds of the statements in a row, each with its knot. -/
structure Mirrors (draft : Draft) (row : List Entry) : Prop where
  current : draft.current = (Cursor.start.after row).current
  suspended : draft.suspended = (Cursor.start.after row).suspended
  knots : ∀ name ∈ knotNames (itemsIn row),
    draft.knots.find? name = some (built name (itemsOfKnot name (Cursor.start.placed row)))

variable {draft : Draft} {row : List Entry}

theorem start_mirrors : start.Mirrors [] where
  current := rfl
  suspended := rfl
  knots name member := by
    cases List.mem_singleton.mp member
    rfl

theorem declare_eq (draft : Draft) (file : Path) (span : Span) (name : String) (value : Value) :
    ∃ globals diagnostics, draft.declare file span name value =
      { draft with globals := globals, diagnostics := diagnostics } := by
  unfold declare
  split
  · exact ⟨draft.globals, _, rfl⟩
  · exact ⟨_, draft.diagnostics, rfl⟩

theorem state_open (there : draft.knots.contains draft.current) (file : Path) (span : Span)
    {item : Item} (knotless : item.heading? = none) :
    (draft.state file span item).current = draft.current ∧
      (draft.state file span item).suspended = draft.suspended ∧
      ∀ name, (draft.state file span item).knots.find? name =
        if name = draft.current then some (item.grow draft.current draft.steps)
        else draft.knots.find? name := by
  by_cases undeclared : item.declaration? = none
  · obtain ⟨knots, mentions, harmless, same, found, -, -⟩ :=
      state_eq there file span knotless undeclared
    rw [same]
    exact ⟨rfl, rfl, found⟩
  · cases item with
    | declaration name value =>
      obtain ⟨globals, diagnostics, same⟩ := declare_eq draft file span name value
      rw [state, same]
      exact ⟨rfl, rfl, find?_unchanged there⟩
    | inclusion | knot | text | divert | assignment | choice | note => exact absurd rfl undeclared

theorem Mirrors.pass (mirrors : draft.Mirrors row) {entry : Entry} (silent : entry.item? = none)
    {after : Draft} (knots : after.knots = draft.knots)
    (current : after.current = ((Cursor.start.after row).move entry).current)
    (suspended : after.suspended = ((Cursor.start.after row).move entry).suspended) :
    after.Mirrors (row ++ [entry]) := by
  refine ⟨?_, ?_, fun name member => ?_⟩
  · rw [Cursor.after_append]
    exact current
  · rw [Cursor.after_append]
    exact suspended
  · have same : itemsIn (row ++ [entry]) = itemsIn row := by simp [itemsIn, silent]
    rw [same] at member
    rw [Cursor.placed_append, knots, mirrors.knots name member]
    simp [Cursor.placed, Cursor.place?, silent]

theorem Mirrors.beginKnot (mirrors : draft.Mirrors row) (tallies : draft.Tallies row)
    (file : Path) (span : Span) {name : String} (new : name ∉ knotNames (itemsIn row)) :
    (draft.beginKnot file span name).Mirrors (row ++ [.statement file span (.knot name)]) := by
  have unknown : ¬ draft.knots.contains name := fun old => new ((tallies.knots name).mp old)
  have placed : Cursor.start.placed (row ++ [.statement file span (.knot name)]) =
      Cursor.start.placed row ++ [(name, .knot name)] := Cursor.placed_append ..
  rw [Draft.beginKnot, if_neg unknown]
  refine ⟨?_, ?_, fun other member => ?_⟩
  · rw [Cursor.after_append]
    rfl
  · rw [Cursor.after_append]
    exact mirrors.suspended
  · rw [placed, itemsOfKnot_append, built_append, Dictionary.find?_insert_eq]
    split
    · next same =>
      rw [same, itemsOfKnot_singleton, if_pos rfl]
      rfl
    · next apart =>
      rw [itemsOfKnot_singleton, if_neg (Ne.symm apart)]
      rw [knotNames_statement, List.mem_append] at member
      exact mirrors.knots other (member.resolve_right (by simpa [Item.heading?] using apart))

theorem Mirrors.grow (mirrors : draft.Mirrors row) (tallies : draft.Tallies row) (file : Path)
    (span : Span) {item : Item} (knotless : item.heading? = none) :
    (draft.state file span item).Mirrors (row ++ [.statement file span item]) := by
  have still : (Cursor.start.after row).move (.statement file span item) =
      Cursor.start.after row := by
    cases item with
    | knot name => cases knotless
    | inclusion | declaration | text | divert | assignment | choice | note => rfl
  have placed : Cursor.start.placed (row ++ [.statement file span item]) =
      Cursor.start.placed row ++ [(draft.current, item)] := by
    rw [Cursor.placed_append, mirrors.current]
    simp [Cursor.placed, Cursor.place?, Entry.item?, still]
  obtain ⟨current, suspended, found⟩ := state_open tallies.current file span knotless
  refine ⟨?_, ?_, fun name member => ?_⟩
  · rw [Cursor.after_append, current, mirrors.current]
    exact congrArg Cursor.current still.symm
  · rw [Cursor.after_append, suspended, mirrors.suspended]
    exact congrArg Cursor.suspended still.symm
  · rw [knotNames_statement, knotless, Option.toList_none, List.append_nil] at member
    rw [placed, itemsOfKnot_append, built_append, found, itemsOfKnot_singleton]
    split
    · next same =>
      have here := mirrors.knots _ (same ▸ member)
      rw [find?_current tallies.current] at here
      rw [same, if_pos rfl, Option.some.inj here]
      rfl
    · next apart =>
      rw [if_neg (Ne.symm apart)]
      exact mirrors.knots name member

theorem Mirrors.state (mirrors : draft.Mirrors row) (tallies : draft.Tallies row) (file : Path)
    (span : Span) (item : Item)
    (once : (knotNames (itemsIn (row ++ [.statement file span item]))).Nodup) :
    (draft.state file span item).Mirrors (row ++ [.statement file span item]) := by
  cases item with
  | knot name =>
    rw [knotNames_statement] at once
    exact mirrors.beginKnot tallies file span (nodup_snoc.mp once).1
  | inclusion | declaration | text | divert | assignment | choice | note =>
    exact mirrors.grow tallies file span rfl

end Draft

/-- Where no knot is made twice, the knots of a row are built from the statements that are placed in
them. -/
theorem assemble_mirrors (row : List Entry) (once : (knotNames (itemsIn row)).Nodup) :
    (assemble row).Mirrors row := by
  induction row using List.reverseRecOn with
  | nil => exact Draft.start_mirrors
  | append_singleton row entry ih =>
    have mirrors := ih (once.sublist (knotNames_sublist row entry))
    have step : assemble (row ++ [entry]) = (assemble row).take entry := List.foldl_concat ..
    rw [step]
    cases entry with
    | report diagnostic => exact mirrors.pass rfl rfl mirrors.current mirrors.suspended
    | opened =>
      refine mirrors.pass rfl rfl mirrors.current ?_
      exact congrArg₂ List.cons mirrors.current mirrors.suspended
    | closed =>
      have waiting := mirrors.suspended
      simp only [Draft.take]
      split
      · next none =>
        rw [none] at waiting
        refine mirrors.pass rfl rfl ?_ ?_ <;> simp [Cursor.move, ← waiting, mirrors.current, none]
      · next knot outer some =>
        rw [some] at waiting
        refine mirrors.pass rfl rfl ?_ ?_ <;> simp [Cursor.move, ← waiting]
    | statement file span item =>
      exact mirrors.state (assemble_tallies row) file span item once

theorem Faultless.knot_built {row : List Entry} (faultless : Faultless row) {name : String}
    {knot : Knot} (listed : (name, knot) ∈ (assemble row).artifact.knots.entries) :
    name ∈ knotNames (itemsIn row) ∧
      knot.steps = (built name (itemsOfKnot name (Cursor.start.placed row))).reverse := by
  obtain ⟨⟨held, steps⟩, drafted, same⟩ := List.mem_map.mp listed
  obtain ⟨rfl, rfl⟩ := Prod.mk.inj same
  have found := Dictionary.find?_of_mem drafted
  have made : held ∈ knotNames (itemsIn row) := by
    rw [← (assemble_tallies row).knots, Dictionary.contains, found]
    rfl
  rw [(assemble_mirrors row faultless.knotsOnce).knots held made] at found
  cases found
  exact ⟨made, rfl⟩

/-! ## Variables -/

namespace Draft

variable {draft : Draft}

theorem take_globals (there : draft.knots.contains draft.current) {entry : Entry}
    (undeclared : entry.item?.bind Item.declaration? = none) :
    (draft.take entry).globals = draft.globals := by
  cases entry with
  | report diagnostic => rfl
  | opened => rfl
  | closed =>
    simp only [take]
    split <;> rfl
  | statement file span item =>
    by_cases knotless : item.heading? = none
    · obtain ⟨knots, mentions, harmless, same, -⟩ := state_eq there file span knotless undeclared
      rw [take, same]
    · cases item with
      | knot name =>
        simp only [take, Draft.state, Draft.beginKnot]
        split <;> rfl
      | inclusion | declaration | text | divert | assignment | choice | note =>
        exact absurd rfl knotless

end Draft

theorem find?_globals_iff {row : List Entry}
    (once : ((declarations (itemsIn row)).map Prod.fst).Nodup) {name : String} {value : Value} :
    (assemble row).globals.find? name = some value ↔ (name, value) ∈ declarations (itemsIn row) := by
  induction row using List.reverseRecOn with
  | nil => exact iff_of_false nofun nofun
  | append_singleton row entry ih =>
    have step : assemble (row ++ [entry]) = (assemble row).take entry := List.foldl_concat ..
    have tallies := assemble_tallies row
    have listed : declarations (itemsIn (row ++ [entry])) =
        declarations (itemsIn row) ++ (entry.item?.bind Item.declaration?).toList :=
      filterMap_itemsIn_concat Item.declaration? row entry
    rw [listed] at once ⊢
    rw [step]
    cases declares : entry.item?.bind Item.declaration? with
    | none =>
      rw [declares, Option.toList_none, List.append_nil] at once
      rw [Draft.take_globals tallies.current declares, ih once, Option.toList_none, List.append_nil]
    | some declaration =>
      obtain ⟨other, held⟩ := declaration
      rw [declares, Option.toList_some, List.map_append, List.map_singleton, nodup_snoc] at once
      obtain ⟨new, earlier⟩ := once
      have unknown : ¬ (assemble row).globals.contains other := fun old =>
        new ((tallies.globals other).mp old)
      have globals : ((assemble row).take entry).globals =
          (assemble row).globals.insert other held := by
        obtain ⟨item, stated, declared⟩ := Option.bind_eq_some_iff.mp declares
        cases entry with
        | report | opened | closed => cases stated
        | statement file span item =>
          cases stated
          cases item with
          | declaration name value =>
            cases declared
            rw [Draft.take, Draft.state, Draft.declare, if_neg unknown]
          | inclusion | knot | text | divert | assignment | choice | note => cases declared
      rw [globals, Dictionary.find?_insert_eq, Option.toList_some, List.mem_append,
        List.mem_singleton, Prod.mk.injEq, ← ih earlier]
      split
      · next same =>
        have absent : (assemble row).globals.find? name = none :=
          same ▸ Option.not_isSome_iff_eq_none.mp unknown
        simp [same ▸ absent, same, eq_comm]
      · next apart => simp [apart]

/-! ## Stories -/

def outcome (row : List Entry) : Option Artifact :=
  if hasErrors (assemble row).findings then none else some (assemble row).artifact

theorem compile_artifact (root : Path) (text : String) (includes : Includes) :
    (compile root text includes).artifact = outcome (readRoot includes root text).entries := rfl

theorem outcome_eq_some_iff {row : List Entry} {artifact : Artifact} :
    outcome row = some artifact ↔ Faultless row ∧ artifact = (assemble row).artifact := by
  rw [← hasErrors_findings_iff, outcome]
  cases hasErrors (assemble row).findings <;> simp [eq_comm]

/-- Rows with the same statements, which stand in the same order within each knot unless something is
wrong with them. -/
structure Rearranged (first second : List Entry) : Prop where
  reports : (∀ entry ∈ first, entry.isFailure = false) ↔ ∀ entry ∈ second, entry.isFailure = false
  items : (itemsIn first).Perm (itemsIn second)
  places : Faultless first → ∀ knot, itemsOfKnot knot (Cursor.start.placed first) =
    itemsOfKnot knot (Cursor.start.placed second)

namespace Rearranged

variable {first second : List Entry}

theorem knotNames_perm (same : Rearranged first second) :
    (knotNames (itemsIn first)).Perm (knotNames (itemsIn second)) :=
  (same.items.filterMap _).cons _

theorem declarations_perm (same : Rearranged first second) :
    (declarations (itemsIn first)).Perm (declarations (itemsIn second)) :=
  same.items.filterMap _

theorem faultless_iff (same : Rearranged first second) : Faultless first ↔ Faultless second := by
  have knots := same.knotNames_perm
  have declared := same.declarations_perm.map Prod.fst
  have targets : (mentioned (itemsIn first)).Perm (mentioned (itemsIn second)) :=
    same.items.filterMap _
  constructor
  · rintro ⟨reports, knotsOnce, variablesOnce, there⟩
    exact ⟨same.reports.mp reports, knots.nodup_iff.mp knotsOnce, declared.nodup_iff.mp variablesOnce,
      fun name member => knots.mem_iff.mp (there name (targets.mem_iff.mpr member))⟩
  · rintro ⟨reports, knotsOnce, variablesOnce, there⟩
    exact ⟨same.reports.mpr reports, knots.nodup_iff.mpr knotsOnce,
      declared.nodup_iff.mpr variablesOnce,
      fun name member => knots.mem_iff.mpr (there name (targets.mem_iff.mp member))⟩

theorem knots_eq (same : Rearranged first second) (faultless : Faultless first) :
    (assemble first).knots = (assemble second).knots := by
  refine Dictionary.ext_find? fun name => ?_
  have here := assemble_tallies first
  have there := assemble_tallies second
  by_cases made : name ∈ knotNames (itemsIn first)
  · have madeToo := same.knotNames_perm.mem_iff.mp made
    rw [(assemble_mirrors first faultless.knotsOnce).knots name made,
      (assemble_mirrors second (same.faultless_iff.mp faultless).knotsOnce).knots name madeToo,
      same.places faultless]
  · have unmade := mt same.knotNames_perm.mem_iff.mpr made
    rw [Option.not_isSome_iff_eq_none.mp (mt (here.knots name).mp made),
      Option.not_isSome_iff_eq_none.mp (mt (there.knots name).mp unmade)]

theorem globals_eq (same : Rearranged first second) (faultless : Faultless first) :
    (assemble first).globals = (assemble second).globals := by
  have once := faultless.variablesOnce
  have onceToo := (same.faultless_iff.mp faultless).variablesOnce
  refine Dictionary.ext_find? fun name => Option.ext fun value => ?_
  rw [find?_globals_iff once, find?_globals_iff onceToo, same.declarations_perm.mem_iff]

/-- Rearranging a row makes no difference to the story. -/
theorem outcome_eq (same : Rearranged first second) : outcome first = outcome second := by
  refine Option.ext fun artifact => ?_
  rw [outcome_eq_some_iff, outcome_eq_some_iff, ← same.faultless_iff]
  refine and_congr_right fun faultless => ?_
  rw [Draft.artifact, Draft.artifact, same.knots_eq faultless, same.globals_eq faultless]

end Rearranged

end Tale.Script
