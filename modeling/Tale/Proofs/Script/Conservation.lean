import Tale.Proofs.Script.ChoiceLines
import Tale.Proofs.Script.Documents

/-! Where everything that was written goes.

In the order in which they are processed, statements find the knot that is open for them. A choice line
adds to the choices of its knot. Any other statement that makes a step adds it to the knot, unless there
is a choice in the knot already: then the step could not be reached, and a warning says so. A note is
reported. Nothing else goes to a knot, and nothing goes anywhere twice.
-/

set_option autoImplicit false

namespace Tale

instance : DecidablePred Step.IsChoices
  | .choices _ => .isTrue trivial
  | .text _ | .divert _ | .set _ _ => .isFalse id

namespace Script

/-! ## Sites -/

structure Site where
  knot : String
  statement : Statement
  deriving DecidableEq, Repr

namespace Cursor

def site? (cursor : Cursor) (entry : Entry) : Option Site :=
  entry.statement?.map fun statement => ⟨(cursor.move entry).current, statement⟩

def sites (cursor : Cursor) : List Entry → List Site
  | [] => []
  | entry :: rest => (cursor.site? entry).toList ++ (cursor.move entry).sites rest

theorem sites_append (cursor : Cursor) (row more : List Entry) :
    cursor.sites (row ++ more) = cursor.sites row ++ (cursor.after row).sites more := by
  induction row generalizing cursor with
  | nil => rfl
  | cons entry rest ih =>
    simp only [List.cons_append, sites, ih, List.append_assoc]
    rfl

theorem map_statement_sites (cursor : Cursor) (row : List Entry) :
    (cursor.sites row).map Site.statement = statementsIn row := by
  induction row generalizing cursor with
  | nil => rfl
  | cons entry rest ih =>
    cases stated : entry.statement? <;>
      simpa [sites, site?, statementsIn, stated] using ih (cursor.move entry)

theorem map_sites (cursor : Cursor) (row : List Entry) :
    (cursor.sites row).map (fun site => (site.knot, site.statement.item)) = cursor.placed row := by
  induction row generalizing cursor with
  | nil => rfl
  | cons entry rest ih =>
    have same : (cursor.site? entry).map (fun site => (site.knot, site.statement.item)) =
        cursor.place? entry := by
      cases entry <;> rfl
    rw [sites, placed, List.map_append, ih, ← same]
    cases cursor.site? entry <;> rfl

end Cursor

def sitesOf (row : List Entry) : List Site := Cursor.start.sites row

def Item.step? : Item → Option Step
  | .text words => some (.text words)
  | .divert name => some (.divert (Draft.target name))
  | .assignment name value => some (.set name value)
  | _ => none

namespace Site

def item (site : Site) : Item := site.statement.item

def isBarred (earlier : List Site) (site : Site) : Bool :=
  earlier.any fun other => other.knot = site.knot && other.item.choice?.isSome

def isReached (earlier : List Site) (site : Site) : Bool :=
  site.item.step?.isSome && !site.isBarred earlier

def isUnreached (earlier : List Site) (site : Site) : Bool :=
  site.item.step?.isSome && site.isBarred earlier

def warning (site : Site) : Diagnostic :=
  Finding.unreachable.inFile site.statement.file site.statement.span

def note? (site : Site) : Option Diagnostic :=
  match site.item with
  | .note words => some ((Finding.note words).inFile site.statement.file site.statement.span)
  | _ => none

/-- What is reported when a statement is processed that is no error. -/
def remark? (earlier : List Site) (site : Site) : Option Diagnostic :=
  if site.isUnreached earlier then some site.warning else site.note?

end Site

def survey {α : Type} (image : List Site → Site → Option α) (earlier : List Site) : List Site → List α
  | [] => []
  | site :: rest => (image earlier site).toList ++ survey image (earlier ++ [site]) rest

def sift (test : List Site → Site → Bool) (sites : List Site) : List Site :=
  survey (fun earlier site => if test earlier site then some site else none) [] sites

def reached (sites : List Site) : List Site := sift Site.isReached sites

def unreached (sites : List Site) : List Site := sift Site.isUnreached sites

def sitesIn (knot : String) (sites : List Site) : List Site :=
  sites.filter fun site => site.knot = knot

/-- The steps of a knot in which some steps are reached and some choices are made. -/
def knotOf (knot : String) (steps : List Step) (lines : List ChoiceLine) : List Step :=
  steps ++ if lines = [] then [] else [.choices (pointsOf knot lines)]

section Survey

variable {α β : Type} {image : List Site → Site → Option α}

theorem survey_concat (image : List Site → Site → Option α) (earlier sites : List Site) (site : Site) :
    survey image earlier (sites ++ [site]) =
      survey image earlier sites ++ (image (earlier ++ sites) site).toList := by
  induction sites generalizing earlier with
  | nil => simp [survey]
  | cons first rest ih => simp [survey, ih]

theorem survey_congr {other : List Site → Site → Option α}
    (same : ∀ earlier site, image earlier site = other earlier site) (earlier sites : List Site) :
    survey image earlier sites = survey other earlier sites := by
  rw [show image = other from funext fun earlier => funext (same earlier)]

theorem filter_survey (test : α → Bool) (earlier sites : List Site) :
    (survey image earlier sites).filter test =
      survey (fun earlier site => (image earlier site).filter test) earlier sites := by
  induction sites generalizing earlier with
  | nil => rfl
  | cons site rest ih =>
    rw [survey, survey, List.filter_append, ih]
    refine congrArg (· ++ _) ?_
    cases image earlier site with
    | none => rfl
    | some value => cases passes : test value <;> simp [Option.filter, passes]

theorem map_survey (view : α → β) (earlier sites : List Site) :
    (survey image earlier sites).map view =
      survey (fun earlier site => (image earlier site).map view) earlier sites := by
  induction sites generalizing earlier with
  | nil => rfl
  | cons site rest ih =>
    rw [survey, survey, List.map_append, ih]
    cases image earlier site <;> rfl

theorem survey_eq_filterMap (image : Site → Option α) (earlier sites : List Site) :
    survey (fun _ => image) earlier sites = sites.filterMap image := by
  induction sites generalizing earlier with
  | nil => rfl
  | cons site rest ih =>
    rw [survey, ih]
    cases made : image site <;> simp [made]

theorem sift_concat (test : List Site → Site → Bool) (sites : List Site) (site : Site) :
    sift test (sites ++ [site]) = sift test sites ++ if test sites site then [site] else [] := by
  rw [sift, survey_concat, List.nil_append]
  by_cases passes : test sites site <;> simp [sift, passes]

theorem sift_sublist (test : List Site → Site → Bool) (sites : List Site) :
    (sift test sites).Sublist sites := by
  induction sites using List.reverseRecOn with
  | nil => exact .refl _
  | append_singleton sites site ih =>
    rw [sift_concat]
    refine ih.append ?_
    split
    · exact .refl _
    · exact List.nil_sublist _

end Survey

theorem reached_unreached_perm (sites : List Site) :
    (reached sites ++ unreached sites).Perm (sites.filter fun site => site.item.step?.isSome) := by
  induction sites using List.reverseRecOn with
  | nil => exact .refl _
  | append_singleton sites site ih =>
    rw [List.perm_iff_count] at ih ⊢
    intro other
    have before := ih other
    rw [reached, unreached, sift_concat, sift_concat, List.filter_append, ← reached, ← unreached]
    simp only [List.count_append] at before ⊢
    cases makes : site.item.step? with
    | none =>
      simp [Site.isReached, Site.isUnreached, makes]
      omega
    | some step =>
      cases barred : site.isBarred sites <;> simp [Site.isReached, Site.isUnreached, makes, barred] <;>
        omega

/-! ## Steps -/

def plainSteps (steps : List Step) : List Step := steps.filter fun step => ¬ step.IsChoices

theorem plainSteps_eq_self {steps : List Step} (apart : ∀ step ∈ steps, ¬ step.IsChoices) :
    plainSteps steps = steps := by
  rw [plainSteps, List.filter_eq_self]
  simpa using apart

theorem plainSteps_withChoice (knot : String) (steps : List Step) (line : ChoiceLine) :
    plainSteps (withChoice knot steps line) = plainSteps steps := by
  unfold withChoice
  split
  · next points rest => rfl
  · rfl

theorem Block.plainSteps_behind {knot : String} {steps : List Step} {lines : List ChoiceLine}
    (block : Block knot steps lines) {step : Step} (apart : ¬ step.IsChoices) :
    plainSteps (Script.behind steps step) =
      if lines = [] then step :: plainSteps steps else plainSteps steps := by
  split
  · next none =>
    have before := block.without none
    cases steps with
    | nil => simp [Script.behind, plainSteps, apart]
    | cons last rest =>
      cases last with
      | choices points => exact absurd trivial (before _ List.mem_cons_self)
      | text | divert | set => simp [Script.behind, plainSteps, apart]
  · next some =>
    obtain ⟨rest, rfl, -⟩ := block.last some
    rfl

theorem Block.plainSteps_grow {knot : String} {steps : List Step} {lines : List ChoiceLine}
    (block : Block knot steps lines) {item : Item} (knotless : item.heading? = none) :
    plainSteps (item.grow knot steps) =
      if lines = [] then item.step?.toList ++ plainSteps steps else plainSteps steps := by
  cases item with
  | knot name => cases knotless
  | text | divert | assignment => exact block.plainSteps_behind id
  | choice line => exact (plainSteps_withChoice ..).trans (ite_self _).symm
  | inclusion | declaration | note => exact (ite_self _).symm

section Rows

variable {row : List Entry}

theorem sitesOf_concat (row : List Entry) (entry : Entry) :
    sitesOf (row ++ [entry]) = sitesOf row ++ ((Cursor.start.after row).site? entry).toList := by
  rw [sitesOf, Cursor.sites_append]
  simp [Cursor.sites, sitesOf]

theorem exists_site_iff {item : Item} :
    (∃ site ∈ sitesOf row, site.item = item) ↔ ∃ file span, Entry.statement file span item ∈ row := by
  have statements := Cursor.map_statement_sites Cursor.start row
  constructor
  · rintro ⟨site, inside, rfl⟩
    exact ⟨_, _, mem_statementsIn.mp (statements ▸ List.mem_map_of_mem inside)⟩
  · rintro ⟨file, span, stated⟩
    have listed : (⟨file, span, item⟩ : Statement) ∈ statementsIn row := mem_statementsIn.mpr stated
    rw [← statements] at listed
    obtain ⟨site, inside, same⟩ := List.mem_map.mp listed
    exact ⟨site, inside, congrArg Statement.item same⟩

theorem itemsOfKnot_eq (row : List Entry) (knot : String) :
    itemsOfKnot knot (Cursor.start.placed row) = (sitesIn knot (sitesOf row)).map Site.item := by
  rw [← Cursor.map_sites, itemsOfKnot, sitesIn, List.filter_map, List.map_map]
  rfl

theorem choiceLines_eq (row : List Entry) (knot : String) :
    choiceLines row knot = (sitesIn knot (sitesOf row)).filterMap (·.item.choice?) := by
  rw [choiceLines, itemsOfKnot_eq, List.filterMap_map]
  rfl

theorem isBarred_iff_choices (sites : List Site) (site : Site) :
    site.isBarred sites ↔ (sitesIn site.knot sites).filterMap (·.item.choice?) ≠ [] := by
  rw [Ne, List.filterMap_eq_nil_iff]
  simp [Site.isBarred, sitesIn, Option.isSome_iff_ne_none]

theorem isBarred_iff (row : List Entry) (site : Site) :
    site.isBarred (sitesOf row) ↔ choiceLines row site.knot ≠ [] := by
  rw [choiceLines_eq, isBarred_iff_choices]

theorem sitesIn_concat (knot : String) (sites : List Site) (site : Site) :
    sitesIn knot (sites ++ [site]) = sitesIn knot sites ++ if site.knot = knot then [site] else [] := by
  by_cases here : site.knot = knot <;> simp [sitesIn, here]

theorem sitesIn_reached_concat (knot : String) (sites : List Site) (site : Site) :
    (sitesIn knot (reached (sites ++ [site]))).filterMap (·.item.step?) =
      (sitesIn knot (reached sites)).filterMap (·.item.step?) ++
        if site.knot = knot ∧ site.isBarred sites = false then site.item.step?.toList else [] := by
  rw [reached, sift_concat, ← reached]
  cases makes : site.item.step? <;> cases barred : site.isBarred sites <;>
    by_cases here : site.knot = knot <;> simp [sitesIn, Site.isReached, makes, barred, here]

theorem plainSteps_built (once : (knotNames (itemsIn row)).Nodup) (knot : String) :
    (plainSteps (built knot ((sitesIn knot (sitesOf row)).map Site.item))).reverse =
      (sitesIn knot (reached (sitesOf row))).filterMap (·.item.step?) := by
  induction row using List.reverseRecOn with
  | nil => rfl
  | append_singleton row entry ih =>
    have within := once.sublist (knotNames_sublist row entry)
    have before := ih within
    have same : (Cursor.start.after row).move entry = Cursor.start.after (row ++ [entry]) :=
      (Cursor.after_append Cursor.start row [entry]).symm
    rw [sitesOf_concat, Cursor.site?, same]
    cases stated : entry.statement? with
    | none => simpa using before
    | some statement =>
      have said : entry.item? = some statement.item := by
        cases entry <;> cases stated
        rfl
      rw [Option.map_some, Option.toList_some, sitesIn_concat, sitesIn_reached_concat]
      by_cases here : (Cursor.start.after (row ++ [entry])).current = knot
      · have barred := isBarred_iff row ⟨knot, statement⟩
        have block := block_built within knot
        rw [itemsOfKnot_eq] at block
        rw [if_pos here, List.map_append, built_append, here]
        by_cases knotless : statement.item.heading? = none
        · change (plainSteps (statement.item.grow knot _)).reverse = _
          rw [block.plainSteps_grow knotless, ← before]
          by_cases none : choiceLines row knot = []
          · have free : (⟨knot, statement⟩ : Site).isBarred (sitesOf row) = false := by
              simpa [none] using barred
            cases makes : statement.item.step? <;> simp [none, free, Site.item, makes]
          · simp [none, barred.mpr none]
        · -- The line that makes the knot is the first one that is placed in it.
          have unmade := unmade_of_heading once said knotless here
          have nothing := itemsOfKnot_eq_nil within unmade
          rw [itemsOfKnot_eq] at nothing
          rw [← before, nothing]
          cases heading : statement.item with
          | knot name => simp [Site.item, heading, Item.step?, Item.grow, plainSteps, built]
          | inclusion | declaration | text | divert | assignment | choice | note =>
            exact absurd (by rw [heading]; rfl) knotless
      · simpa [here] using before

theorem Faultless.stepsOf_built (faultless : Faultless row) (knot : String) :
    (assemble row).artifact.stepsOf knot =
      (built knot (itemsOfKnot knot (Cursor.start.placed row))).reverse := by
  cases found : (assemble row).artifact.knots.find? knot with
  | some content =>
    rw [Artifact.stepsOf, found]
    exact (faultless.knot_built (Dictionary.find?_eq_some_iff.mp found)).2
  | none =>
    have unmade : knot ∉ knotNames (itemsIn row) := by
      intro made
      have there : (assemble row).artifact.knots.contains knot :=
        Dictionary.contains_mapValues _ (((assemble_tallies row).knots knot).mpr made)
      rw [Dictionary.contains, found] at there
      cases there
    rw [Artifact.stepsOf, found, itemsOfKnot_eq_nil faultless.knotsOnce unmade]
    rfl

/-- A knot holds the steps that are reached in it, and its choices behind them. -/
theorem Faultless.stepsOf_eq (faultless : Faultless row) (knot : String) :
    (assemble row).artifact.stepsOf knot =
      knotOf knot ((sitesIn knot (reached (sitesOf row))).filterMap (·.item.step?))
        (choiceLines row knot) := by
  have block := block_built faultless.knotsOnce knot
  rw [faultless.stepsOf_built, ← plainSteps_built faultless.knotsOnce, ← itemsOfKnot_eq]
  by_cases none : choiceLines row knot = []
  · rw [knotOf, if_pos none, List.append_nil, plainSteps_eq_self (block.without none)]
  · obtain ⟨rest, steps, apart⟩ := block.last none
    have plain : plainSteps (.choices (pointsOf knot (choiceLines row knot)) :: rest) = rest :=
      plainSteps_eq_self apart
    rw [knotOf, if_neg none, steps, plain, List.reverse_cons]

/-! ## Reports -/

theorem addStep_diagnostics {draft : Draft} {knot : String} {lines : List ChoiceLine}
    (block : Block knot draft.steps lines) (file : Path) (span : Span) (step : Step) :
    (draft.addStep file span step).diagnostics =
      (if lines = [] then [] else [Finding.unreachable.inFile file span]) ++ draft.diagnostics := by
  unfold Draft.addStep
  by_cases none : lines = []
  · have before := block.without none
    rw [if_pos none]
    cases steps : draft.steps with
    | nil => rfl
    | cons last rest =>
      cases last with
      | choices points => exact absurd trivial (before (.choices points) (steps ▸ List.mem_cons_self))
      | text | divert | set => rfl
  · obtain ⟨rest, steps, -⟩ := block.last none
    rw [if_neg none, steps]
    rfl

theorem block_open (once : (knotNames (itemsIn row)).Nodup) :
    Block (assemble row).current (assemble row).steps (choiceLines row (assemble row).current) := by
  have mirrors := assemble_mirrors row once
  have made := current_mem_knotNames once
  rw [← mirrors.current] at made
  rw [Draft.steps, mirrors.knots _ made]
  exact block_built once _

theorem note?_of_step {site : Site} {step : Step} (makes : site.item.step? = some step) :
    site.note? = none := by
  unfold Site.note?
  cases said : site.item with
  | note words => simp [said, Item.step?] at makes
  | inclusion | declaration | knot | text | divert | assignment | choice => rfl

theorem remark?_of_step {earlier : List Site} {site : Site} {step : Step}
    (makes : site.item.step? = some step) :
    site.remark? earlier = if site.isBarred earlier then some site.warning else none := by
  simp [Site.remark?, Site.isUnreached, makes, note?_of_step makes]

theorem toList_remark? (row : List Entry) {site : Site} {step : Step}
    (makes : site.item.step? = some step) : (site.remark? (sitesOf row)).toList =
      if choiceLines row site.knot = [] then [] else [site.warning] := by
  have barred := isBarred_iff row site
  rw [remark?_of_step makes]
  by_cases none : choiceLines row site.knot = []
  · rw [if_pos none, if_neg (mt barred.mp (not_not_intro none))]
    rfl
  · rw [if_neg none, if_pos (barred.mpr none)]
    rfl

theorem state_diagnostics {file : Path} {span : Span} {item : Item}
    (knotsOnce : (knotNames (itemsIn (row ++ [.statement file span item]))).Nodup)
    (variablesOnce :
      ((declarations (itemsIn (row ++ [.statement file span item]))).map Prod.fst).Nodup) :
    ((assemble row).state file span item).diagnostics =
      (Site.remark? (sitesOf row) ⟨(assemble row).current, ⟨file, span, item⟩⟩).toList ++
        (assemble row).diagnostics := by
  have tallies := assemble_tallies row
  have block := block_open (knotsOnce.sublist (knotNames_sublist row _))
  cases item with
  | knot name =>
    rw [knotNames_statement] at knotsOnce
    have new : ¬ (assemble row).knots.contains name :=
      mt (tallies.knots name).mp (nodup_snoc.mp knotsOnce).1
    rw [Draft.state, Draft.beginKnot, if_neg new]
    rfl
  | declaration name value =>
    rw [declarations_statement] at variablesOnce
    simp only [Item.declaration?, Option.toList_some, List.map_append, List.map_singleton,
      nodup_snoc] at variablesOnce
    have new : ¬ (assemble row).globals.contains name :=
      mt (tallies.globals name).mp variablesOnce.1
    rw [Draft.state, Draft.declare, if_neg new]
    rfl
  | text words | assignment name value =>
    rw [Draft.state, addStep_diagnostics block, toList_remark? row rfl]
    rfl
  | divert name =>
    obtain ⟨mentions, mention, -⟩ := (assemble row).mention_eq file span (Draft.target name)
    have blockToo : Block (assemble row).current
        ((assemble row).mention file span (Draft.target name)).steps
        (choiceLines row (assemble row).current) := by rwa [mention]
    rw [Draft.state, addStep_diagnostics blockToo, toList_remark? row rfl, mention]
    rfl
  | choice line =>
    obtain ⟨mentions, mention, -⟩ := (assemble row).mention_eq file span (Draft.target line.target)
    rw [Draft.state, mention, Draft.addChoice_eq]
    rfl
  | inclusion name | note words => rfl

theorem take_diagnostics {entry : Entry} (quiet : entry.report? = none)
    (knotsOnce : (knotNames (itemsIn (row ++ [entry]))).Nodup)
    (variablesOnce : ((declarations (itemsIn (row ++ [entry]))).map Prod.fst).Nodup) :
    ((assemble row).take entry).diagnostics =
      (((Cursor.start.after row).site? entry).bind (Site.remark? (sitesOf row))).toList ++
        (assemble row).diagnostics := by
  cases entry with
  | report diagnostic => cases quiet
  | opened => rfl
  | closed =>
    simp only [Draft.take]
    split <;> rfl
  | statement file span item =>
    have within := knotsOnce.sublist (knotNames_sublist row (.statement file span item))
    rw [Draft.take, state_diagnostics knotsOnce variablesOnce, (assemble_mirrors row within).current]
    -- Only a knot line moves on to another knot, and nothing is reported of it.
    cases item <;> rfl

/-- In a row without reports, the diagnostics are the remarks on its statements, in their order. -/
theorem assemble_diagnostics (quiet : ∀ entry ∈ row, entry.report? = none)
    (knotsOnce : (knotNames (itemsIn row)).Nodup)
    (variablesOnce : ((declarations (itemsIn row)).map Prod.fst).Nodup) :
    (assemble row).diagnostics.reverse = survey Site.remark? [] (sitesOf row) := by
  induction row using List.reverseRecOn with
  | nil => rfl
  | append_singleton row entry ih =>
    rw [List.forall_mem_append, List.forall_mem_singleton] at quiet
    have declared : (declarations (itemsIn row)).Sublist (declarations (itemsIn (row ++ [entry]))) := by
      simp [declarations, itemsIn]
    have before := ih quiet.1 (knotsOnce.sublist (knotNames_sublist row entry))
      (variablesOnce.sublist (declared.map Prod.fst))
    have step : assemble (row ++ [entry]) = (assemble row).take entry := List.foldl_concat ..
    rw [step, take_diagnostics quiet.2 knotsOnce variablesOnce, List.reverse_append, before, sitesOf_concat]
    cases (Cursor.start.after row).site? entry with
    | none => simp
    | some site =>
      rw [Option.toList_some, survey_concat, Option.bind_some, List.nil_append]
      cases site.remark? (sitesOf row) <;> rfl

end Rows

/-- The warning about unreachable steps begins like no other message of a finished story. -/
theorem ne_unreachable {message lead rest : String} {c : Char} (same : message = lead ++ rest)
    (starts : lead.toList.head? = some c) (apart : c ≠ 'c') : message ≠ Finding.unreachable.message := by
  intro unreachable
  have first : (lead ++ rest).toList.head? = some 'c' := by
    rw [← same, unreachable]
    rfl
  rw [String.toList_append, List.head?_append, starts] at first
  exact apart (Option.some.inj first)

theorem remark?_unreachable (earlier : List Site) (site : Site) :
    (site.remark? earlier).filter (·.message = Finding.unreachable.message) =
      if site.isUnreached earlier then some site.warning else none := by
  rw [Site.remark?]
  split
  · have same : site.warning.message = Finding.unreachable.message := rfl
    rw [Option.filter_some, if_pos (decide_eq_true same)]
  · unfold Site.note?
    split
    · next words said =>
      have apart : ((Finding.note words).inFile site.statement.file site.statement.span).message ≠
          Finding.unreachable.message :=
        ne_unreachable rfl (by decide) (by decide : 'T' ≠ 'c')
      rw [Option.filter_some, if_neg (by rw [decide_eq_false apart]; exact Bool.false_ne_true)]
    · rfl

theorem remark?_note (earlier : List Site) (site : Site) :
    (site.remark? earlier).filter (·.severity = .info) = site.note? := by
  cases makes : site.item.step? with
  | some step =>
    rw [remark?_of_step makes, note?_of_step makes]
    split <;> rfl
  | none =>
    have silent : site.isUnreached earlier = false := by simp [Site.isUnreached, makes]
    rw [Site.remark?, silent]
    unfold Site.note?
    cases site.item <;> rfl

/-- What passes a test was found on the way, if no finding about the whole story passes it. -/
theorem findings_filter {draft : Draft} {test : Diagnostic → Bool}
    (unknown : ∀ name file span, test ((Finding.unknownKnot name).inFile file span) = false)
    (unfinished : ∀ name file span, test ((Finding.unfinishedKnot name).inFile file span) = false) :
    draft.findings.filter test = draft.diagnostics.reverse.filter test := by
  have first : draft.unknownMentions.filter test = [] := by
    refine List.filter_eq_nil_iff.mpr fun diagnostic member => ?_
    obtain ⟨mention, -, rfl⟩ := List.mem_map.mp member
    exact Bool.eq_false_iff.mp (unknown ..)
  have second : draft.unfinishedKnots.filter test = [] := by
    refine List.filter_eq_nil_iff.mpr fun diagnostic member => ?_
    obtain ⟨origin, -, rfl⟩ := List.mem_map.mp member
    exact Bool.eq_false_iff.mp (unfinished ..)
  rw [Draft.findings, List.filter_append, List.filter_append, first, second, List.append_nil,
    List.append_nil]

/-- Nothing that was written is lost where a story is made. The statements of all documents are processed,
each once. Those that make steps are parted into the steps of the knots and the ones that are warned of,
the choice lines make the choices of the knots, and the notes are reported, all in the order in which they
are processed; and nothing else stands in a knot. -/
theorem compile_conserves {root : Path} {text : String} {includes : Includes} {artifact : Artifact}
    (compiled : (compile root text includes).artifact = some artifact) :
    let sites := sitesOf (readRoot includes root text).entries
    let diagnostics := (compile root text includes).diagnostics
    (sites.map Site.statement).Perm ((documents includes root text).flatMap Document.statements) ∧
    ((reached sites).Sublist sites ∧ (unreached sites).Sublist sites ∧
      (reached sites ++ unreached sites).Perm (sites.filter fun site => site.item.step?.isSome)) ∧
    (∀ knot, artifact.stepsOf knot =
      knotOf knot ((sitesIn knot (reached sites)).filterMap (·.item.step?))
        ((sitesIn knot sites).filterMap (·.item.choice?))) ∧
    diagnostics.filter (·.message = Finding.unreachable.message) = (unreached sites).map Site.warning ∧
    diagnostics.filter (·.severity = .info) = sites.filterMap Site.note? := by
  intro sites diagnostics
  obtain ⟨faultless, rfl⟩ := outcome_eq_some_iff.mp compiled
  obtain ⟨quiet, same⟩ := statementsIn_readRoot includes root text faultless.reports
  have remarks := assemble_diagnostics quiet faultless.knotsOnce faultless.variablesOnce
  refine ⟨?_, ⟨sift_sublist _ _, sift_sublist _ _, reached_unreached_perm sites⟩, fun knot => ?_, ?_, ?_⟩
  · rw [show sites.map Site.statement = _ from Cursor.map_statement_sites _ _]
    exact same
  · rw [faultless.stepsOf_eq, choiceLines_eq]
  · change (assemble _).findings.filter _ = _
    rw [findings_filter, remarks, filter_survey, survey_congr remark?_unreachable, unreached, sift,
      map_survey]
    · refine survey_congr (fun earlier site => ?_) _ _
      cases site.isUnreached earlier <;> rfl
    · intro name file span
      exact decide_eq_false (ne_unreachable String.append_assoc (by decide) (by decide : 'u' ≠ 'c'))
    · intro name file span
      exact decide_eq_false (ne_unreachable String.append_assoc (by decide) (by decide : 'k' ≠ 'c'))
  · change (assemble _).findings.filter _ = _
    rw [findings_filter (fun _ _ _ => rfl) (fun _ _ _ => rfl), remarks, filter_survey,
      survey_congr remark?_note, survey_eq_filterMap]

def cellarRules : Includes := includesFrom "" [("cellar.tale",
  "Dust.\n== cellar ==\n~ lamp = true\n* Up -> END\nRats. -> cellar\n// TODO: more rats\n")]

def cellarText : String :=
  "VAR lamp = false\nINCLUDE cellar.tale\nA door. -> cellar\n// TODO: paint\n" ++
    "* Knock -> cellar\nNobody.\n+ Wait -> cellar\n"

/-- The root gets what stands before the knot of the cellar, and the line of the rats is two statements. -/
theorem cellar_conserved : ∃ artifact,
    (compile "main.tale" cellarText cellarRules).artifact = some artifact ∧
    artifact.stepsOf "_root" = [.text "Dust.", .text "A door.", .divert (.knot "cellar"),
      .choices [⟨"_root.0", "Knock", false, none, .knot "cellar"⟩,
        ⟨"_root.1", "Wait", true, none, .knot "cellar"⟩]] ∧
    ((compile "main.tale" cellarText cellarRules).diagnostics.filter
        (·.message = Finding.unreachable.message)).map (fun warning => (warning.file, warning.span)) =
      [(some ⟨"cellar.tale"⟩, ⟨45, 60⟩), (some ⟨"cellar.tale"⟩, ⟨45, 60⟩),
        (some ⟨"main.tale"⟩, ⟨88, 95⟩)] ∧
    ((compile "main.tale" cellarText cellarRules).diagnostics.filter (·.severity = .info)).map
      Diagnostic.message = ["TODO: more rats", "TODO: paint"] := by
  have made : (compile "main.tale" cellarText cellarRules).artifact.isSome := by decide +kernel
  obtain ⟨artifact, compiled⟩ := Option.isSome_iff_exists.mp made
  obtain ⟨-, -, steps, warnings, notes⟩ := compile_conserves compiled
  rw [warnings, notes]
  exact ⟨artifact, compiled, (steps "_root").trans (by decide +kernel), by decide +kernel⟩

end Script

end Tale
