import Tale.Proofs.Script.DeadEnds
import Tale.Proofs.Script.Origins

/-! Findings point to the lines that they are about.

Each statement leaves findings about its own item, and what it mentions or declares is kept with its own
place, so what is found at the end points to that place as well. With the lines from which entries stem,
every diagnostic of a pass covers a line of the document whose path it bears, and the line says what the
finding is about.
-/

set_option autoImplicit false

namespace Tale.Script

/-- A finding is about what an item says. -/
inductive Concerns : Item → Finding → Prop where
  | redeclared {name : String} {value : Value} :
      Concerns (.declaration name value) (.redeclaredVariable name)
  | redefined {name : String} : Concerns (.knot name) (.redefinedKnot name)
  | unreachable {item : Item} {step : Step} (makes : item.step? = some step) :
      Concerns item .unreachable
  | note {words : String} : Concerns (.note words) (.note words)
  | unknown {item : Item} {name : String} (mentions : item.mention? = some name) :
      Concerns item (.unknownKnot name)
  | unfinished {name : String} : Concerns (.knot name) (.unfinishedKnot name)

def Entry.mention? : Entry → Option Mention
  | .statement file span item => item.mention?.map fun name => ⟨name, file, span⟩
  | _ => none

/-! ## What a statement adds -/

/-- A statement leaves findings about its item, mentions what its item mentions, and declares a knot only if
its item does, all at its own place. -/
structure Adds (file : Path) (span : Span) (item : Item) (draft next : Draft) : Prop where
  diagnostics : ∃ findings : List Finding, (∀ finding ∈ findings, Concerns item finding) ∧
    next.diagnostics = findings.map (fun finding => finding.inFile file span) ++ draft.diagnostics
  mentions : next.mentions = (Entry.statement file span item).mention?.toList ++ draft.mentions
  origins : ∀ name place, next.origins.find? name = some place →
    draft.origins.find? name = some place ∨ item = .knot name ∧ place = (file, span)

section Adds

variable {file : Path} {span : Span} {item : Item} {draft : Draft}

theorem Adds.report {finding : Finding} (concerns : Concerns item finding) (silent : item.mention? = none) :
    Adds file span item draft (draft.report (finding.inFile file span)) where
  diagnostics := ⟨[finding], List.forall_mem_singleton.mpr concerns, rfl⟩
  mentions := by simp [Entry.mention?, silent, Draft.report]
  origins := fun name place found => .inl found

theorem Adds.addStep {step : Step} (makes : item.step? = some step) {before : Draft}
    (mentions : before = { draft with
      mentions := (Entry.statement file span item).mention?.toList ++ draft.mentions }) :
    Adds file span item draft (before.addStep file span step) := by
  rcases Draft.addStep_cases before file span step with added | ⟨refused, -⟩
  · rw [added, mentions]
    exact ⟨⟨[], nofun, rfl⟩, rfl, fun name place found => .inl found⟩
  · rw [refused, mentions]
    exact ⟨⟨[.unreachable], List.forall_mem_singleton.mpr (.unreachable makes), rfl⟩, rfl,
      fun name place found => .inl found⟩

theorem mention_eq_mentions {name : String} (leads : item.target? = some (Draft.target name)) :
    draft.mention file span (Draft.target name) = { draft with
      mentions := (Entry.statement file span item).mention?.toList ++ draft.mentions } := by
  have mention : (Entry.statement file span item).mention? =
      (Draft.target name).knot?.map fun name => ⟨name, file, span⟩ := by
    rw [Entry.mention?, Item.mention?, leads, Option.bind_some]
  rw [mention]
  cases Draft.target name <;> rfl

theorem Adds.beginKnot {name : String} :
    Adds file span (.knot name) draft (draft.beginKnot file span name) := by
  unfold Draft.beginKnot
  split
  · exact .report .redefined rfl
  · refine ⟨⟨[], List.forall_mem_nil _, rfl⟩, rfl, ?_⟩
    intro other place found
    rw [Dictionary.find?_insert_eq] at found
    split at found
    · next same =>
      cases found
      exact .inr ⟨same ▸ rfl, rfl⟩
    · exact .inl found

theorem state_adds (draft : Draft) (file : Path) (span : Span) (item : Item) :
    Adds file span item draft (draft.state file span item) := by
  have same (quiet : Draft) (diagnostics : quiet.diagnostics = draft.diagnostics)
      (mentions : quiet.mentions = (Entry.statement file span item).mention?.toList ++ draft.mentions)
      (origins : quiet.origins = draft.origins) : Adds file span item draft quiet :=
    ⟨⟨[], nofun, diagnostics⟩, mentions, fun name place found => .inl (origins ▸ found)⟩
  cases item with
  | inclusion name => exact same draft rfl rfl rfl
  | knot name => exact .beginKnot
  | note words => exact .report .note rfl
  | text words => exact .addStep rfl rfl
  | assignment name value => exact .addStep rfl rfl
  | divert name => exact .addStep rfl (mention_eq_mentions rfl)
  | declaration name value =>
    rw [Draft.state, Draft.declare]
    split
    · exact .report .redeclared rfl
    · exact same _ rfl rfl rfl
  | choice line =>
    have mentions := @mention_eq_mentions file span (.choice line) draft line.target rfl
    rw [Draft.state, Draft.addChoice_eq, mentions]
    exact same _ rfl rfl rfl

end Adds

/-! ## What a row leaves -/

/-- A diagnostic was reported in a row, or is about what a statement of the row says, at its place. -/
def Grounds (row : List Entry) (diagnostic : Diagnostic) : Prop :=
  .report diagnostic ∈ row ∨ ∃ file span item finding, .statement file span item ∈ row ∧
    Concerns item finding ∧ diagnostic = finding.inFile file span

theorem Grounds.more {row : List Entry} {diagnostic : Diagnostic} (grounds : Grounds row diagnostic)
    (entry : Entry) : Grounds (row ++ [entry]) diagnostic := by
  rcases grounds with reported | ⟨file, span, item, finding, stated, concerns, same⟩
  · exact .inl (List.mem_append_left _ reported)
  · exact .inr ⟨file, span, item, finding, List.mem_append_left _ stated, concerns, same⟩

structure Draft.Grounded (row : List Entry) (draft : Draft) : Prop where
  diagnostics : ∀ diagnostic ∈ draft.diagnostics, Grounds row diagnostic
  reports : ∀ diagnostic, .report diagnostic ∈ row → diagnostic ∈ draft.diagnostics
  mentions : draft.mentions = (row.filterMap Entry.mention?).reverse
  origins : ∀ name file span, draft.origins.find? name = some (file, span) →
    .statement file span (.knot name) ∈ row

namespace Draft.Grounded

variable {row : List Entry} {draft : Draft}

theorem state (grounded : draft.Grounded row) (file : Path) (span : Span) (item : Item) :
    (draft.state file span item).Grounded (row ++ [.statement file span item]) := by
  obtain ⟨⟨findings, concerns, diagnostics⟩, mentions, origins⟩ := state_adds draft file span item
  have stated : Entry.statement file span item ∈ row ++ [.statement file span item] := by simp
  constructor
  · intro diagnostic member
    rw [diagnostics] at member
    rcases List.mem_append.mp member with new | old
    · obtain ⟨finding, among, rfl⟩ := List.mem_map.mp new
      exact .inr ⟨file, span, item, finding, stated, concerns finding among, rfl⟩
    · exact (grounded.diagnostics diagnostic old).more _
  · intro diagnostic member
    rw [diagnostics]
    exact List.mem_append_right _ (grounded.reports diagnostic (by simpa using member))
  · rw [mentions, grounded.mentions, List.filterMap_append, List.reverse_append]
    refine congrArg (· ++ _) ?_
    cases named : (Entry.statement file span item).mention? <;> simp [named]
  · intro name place bytes found
    rcases origins name (place, bytes) found with old | ⟨rfl, same⟩
    · exact List.mem_append_left _ (grounded.origins name place bytes old)
    · cases same
      exact stated

theorem pass (grounded : draft.Grounded row) {entry : Entry} (silent : entry.item? = none) {next : Draft}
    (diagnostics : next.diagnostics = entry.report?.toList ++ draft.diagnostics)
    (mentions : next.mentions = draft.mentions) (origins : next.origins = draft.origins) :
    next.Grounded (row ++ [entry]) := by
  constructor
  · intro diagnostic member
    rw [diagnostics, List.mem_append, Option.mem_toList] at member
    rcases member with new | old
    · cases entry with
      | report other =>
        cases new
        exact .inl (by simp)
      | statement | opened | closed => cases new
    · exact (grounded.diagnostics diagnostic old).more _
  · intro diagnostic member
    rw [diagnostics, List.mem_append, Option.mem_toList]
    rcases List.mem_append.mp member with old | new
    · exact .inr (grounded.reports diagnostic old)
    · exact .inl (by rw [← List.mem_singleton.mp new]; rfl)
  · have quiet : entry.mention? = none := by
      cases entry with
      | statement file span item => cases silent
      | report | opened | closed => rfl
    rw [mentions, grounded.mentions]
    simp [quiet]
  · intro name file span found
    rw [origins] at found
    exact List.mem_append_left _ (grounded.origins name file span found)

theorem take (grounded : draft.Grounded row) (entry : Entry) :
    (draft.take entry).Grounded (row ++ [entry]) := by
  cases entry with
  | report diagnostic => exact grounded.pass rfl rfl rfl rfl
  | statement file span item => exact grounded.state file span item
  | opened => exact grounded.pass rfl rfl rfl rfl
  | closed =>
    rw [Draft.take]
    split
    · exact grounded.pass rfl rfl rfl rfl
    · exact grounded.pass rfl rfl rfl rfl

end Draft.Grounded

theorem assemble_grounded (row : List Entry) : (assemble row).Grounded row := by
  induction row using List.reverseRecOn with
  | nil => exact ⟨nofun, nofun, rfl, nofun⟩
  | append_singleton row entry ih =>
    rw [assemble, List.foldl_concat]
    exact ih.take entry

/-- What is found at the end is about what a statement said, as what is found on the way. -/
theorem findings_grounds {row : List Entry} {diagnostic : Diagnostic}
    (found : diagnostic ∈ (assemble row).findings) : Grounds row diagnostic := by
  have grounded := assemble_grounded row
  rcases List.mem_append.mp found with found | unfinished
  · rcases List.mem_append.mp found with onTheWay | unknown
    · exact grounded.diagnostics diagnostic (List.mem_reverse.mp onTheWay)
    · obtain ⟨mention, kept, rfl⟩ := List.mem_map.mp unknown
      have listed := (List.mem_filter.mp kept).1
      rw [grounded.mentions, List.reverse_reverse] at listed
      obtain ⟨entry, stated, mentions⟩ := List.mem_filterMap.mp listed
      cases entry with
      | statement file span item =>
        obtain ⟨name, names, rfl⟩ := Option.map_eq_some_iff.mp mentions
        exact .inr ⟨file, span, item, _, stated, .unknown names, rfl⟩
      | report | opened | closed => cases mentions
  · obtain ⟨⟨name, file, span⟩, kept, rfl⟩ := List.mem_map.mp unfinished
    have declared := grounded.origins name file span
      (Dictionary.find?_eq_some_iff.mpr (List.mem_filter.mp kept).1)
    exact .inr ⟨file, span, _, _, declared, .unfinished, rfl⟩

theorem report_mem_findings {row : List Entry} {diagnostic : Diagnostic}
    (reported : .report diagnostic ∈ row) : diagnostic ∈ (assemble row).findings := by
  have kept := (assemble_grounded row).reports diagnostic reported
  exact List.mem_append_left _ (List.mem_append_left _ (List.mem_reverse.mpr kept))

/-- A knot that is mentioned but nowhere declared is reported where it is mentioned. -/
theorem unknown_mem_findings {row : List Entry} {file : Path} {span : Span} {item : Item} {name : String}
    (stated : .statement file span item ∈ row) (mentions : item.mention? = some name)
    (unknown : name ∉ knotNames (itemsIn row)) :
    (Finding.unknownKnot name).inFile file span ∈ (assemble row).findings := by
  refine List.mem_append_left _ (List.mem_append_right _ ?_)
  refine List.mem_map.mpr ⟨⟨name, file, span⟩, ?_, rfl⟩
  rw [(assemble_grounded row).mentions, List.reverse_reverse, List.mem_filter]
  constructor
  · exact List.mem_filterMap.mpr ⟨_, stated, by rw [Entry.mention?, mentions]; rfl⟩
  · rw [Bool.not_eq_true', Bool.eq_false_iff]
    exact mt ((assemble_tallies row).knots name).mp unknown

/-! ## Diagnostics of a pass -/

/-- A line of a document shows what a finding is about: the line cannot be read, it includes a document that
cannot be loaded, or it says what the finding is about. -/
inductive Shows (includes : Includes) (document : Document) (span : Span) : Finding → Prop where
  | fault {fault : Fault} (written : (fault, span) ∈ readFaults (tokens document.text.toList)) :
      Shows includes document span (.malformed fault)
  | missing {name reason : String} (written : (.inclusion name, span) ∈ itemsOf document.text)
      (refusal : includes.load (includes.resolve name) = .error reason) :
      Shows includes document span (.unreadableInclude (includes.resolve name) reason)
  | statement {item : Item} {finding : Finding} (written : (item, span) ∈ itemsOf document.text)
      (concerns : Concerns item finding) : Shows includes document span finding

/-- A diagnostic bears the path of one document among some, and covers a line of its text that shows what
was found. -/
def Located (includes : Includes) (read : List Document) (diagnostic : Diagnostic) : Prop :=
  ∃ document ∈ read, (∀ other ∈ read, other.path = document.path → other = document) ∧
    ∃ finding span, diagnostic = finding.inFile document.path span ∧
      CoversLine document.text.toList span ∧ Shows includes document span finding

/-- What is wrong with documents was found at its place: lines that cannot be read, documents that were
asked for in vain, and mentions of knots that no document declares. -/
structure Announced (includes : Includes) (read : List Document) (vain : List Path)
    (diagnostics : List Diagnostic) : Prop where
  faults : ∀ document ∈ read, ∀ fault span, (fault, span) ∈ readFaults (tokens document.text.toList) →
    (Finding.malformed fault).inFile document.path span ∈ diagnostics
  missing : ∀ path ∈ vain, ∃ reason file span, includes.load path = .error reason ∧
    (Finding.unreadableInclude path reason).inFile file span ∈ diagnostics
  unknown : ∀ document ∈ read, ∀ item span name, (item, span) ∈ itemsOf document.text →
    item.mention? = some name → name ≠ Artifact.rootKnot →
    (∀ other ∈ read, ∀ bytes, (Item.knot name, bytes) ∉ itemsOf other.text) →
    (Finding.unknownKnot name).inFile document.path span ∈ diagnostics

theorem coversLine_of_mem_itemsOf {text : String} {item : Item} {span : Span}
    (written : (item, span) ∈ itemsOf text) : CoversLine text.toList span := by
  obtain ⟨⟨token, bytes⟩, found, read⟩ := List.mem_flatMap.mp written
  have covers := (tokens_spans text.toList).2 _ found
  cases outcome : Item.ofToken token with
  | error fault => simp [outcome] at read
  | ok items =>
    simp only [outcome, List.mem_map, Prod.mk.injEq] at read
    obtain ⟨-, -, -, rfl⟩ := read
    exact covers

theorem coversLine_of_mem_readFaults {source : List Char} {fault : Fault} {span : Span}
    (written : (fault, span) ∈ readFaults (tokens source)) : CoversLine source span := by
  obtain ⟨⟨token, bytes⟩, found, read⟩ := List.mem_filterMap.mp written
  have covers := (tokens_spans source).2 _ found
  cases outcome : Item.ofToken token with
  | ok items => simp [outcome] at read
  | error fault =>
    simp only [outcome, Option.some.injEq, Prod.mk.injEq] at read
    obtain ⟨-, rfl⟩ := read
    exact covers

theorem Shows.coversLine {includes : Includes} {document : Document} {span : Span} {finding : Finding}
    (shows : Shows includes document span finding) : CoversLine document.text.toList span := by
  cases shows with
  | fault written => exact coversLine_of_mem_readFaults written
  | missing written | statement written => exact coversLine_of_mem_itemsOf written

theorem Stems.shows {includes : Includes} {document : Document} {diagnostic : Diagnostic}
    (stems : Stems includes document (.report diagnostic)) :
    ∃ finding span, diagnostic = finding.inFile document.path span ∧
      Shows includes document span finding := by
  cases stems with
  | fault written => exact ⟨_, _, rfl, .fault written⟩
  | missing written refusal => exact ⟨_, _, rfl, .missing written refusal⟩

theorem Stems.written {includes : Includes} {document : Document} {file : Path} {span : Span} {item : Item}
    (stems : Stems includes document (.statement file span item)) :
    file = document.path ∧ (item, span) ∈ itemsOf document.text := by
  cases stems with
  | statement written => exact ⟨rfl, written⟩

section Pass

variable {includes : Includes} {root : Path} {text : String}

theorem located_of_shows {document : Document} (read : document ∈ documents includes root text)
    {finding : Finding} {span : Span} (shows : Shows includes document span finding) :
    Located includes (documents includes root text) (finding.inFile document.path span) :=
  ⟨document, read, fun _ again => eq_of_mem_documents read again, finding, span, rfl,
    shows.coversLine, shows⟩

theorem located_or_refused {diagnostic : Diagnostic}
    (reported : diagnostic ∈ (compile root text includes).diagnostics) :
    Located includes (documents includes root text) diagnostic ∨
      includes.capacity < (loaded includes (compile root text includes).consulted).length ∧
        ∃ path, diagnostic = refusal path := by
  have stems := (readRoot_traces includes root text).2
  rcases findings_grounds reported with met | ⟨file, span, item, finding, stated, concerns, rfl⟩
  · rcases stems _ met with ⟨document, read, stem⟩ | ⟨many, path, same⟩
    · obtain ⟨finding, span, rfl, shows⟩ := stem.shows
      exact .inl (located_of_shows read shows)
    · exact .inr ⟨many, path, Entry.report.inj same⟩
  · rcases stems _ stated with ⟨document, read, stem⟩ | ⟨-, path, same⟩
    · obtain ⟨rfl, written⟩ := stem.written
      exact .inl (located_of_shows read (.statement written concerns))
    · cases same

end Pass

section Ending

variable {includes : Includes} {root : Path} {text : String} {last : Progress}

theorem unloaded_reverse (includes : Includes) (consulted : List Consultation) :
    unloaded includes consulted.reverse = (unloaded includes consulted).reverse := by
  simp only [unloaded, loads, List.filterMap_reverse, List.filter_reverse]

theorem Reads.entries_met
    (reads : Reads includes root (itemsOf text) ((Progress.start root).begun root text) last)
    {document : Document} (read : document ∈ ⟨root, text⟩ :: loaded includes last.consulted.reverse)
    {entry : Entry} (made : entry ∈ document.entries) : entry ∈ last.entries.reverse := by
  obtain ⟨refused, -, same⟩ := reads.entries_perm
  rw [List.mem_reverse, same.mem_iff]
  refine List.mem_append_left _ (List.mem_append.mpr ?_)
  rcases List.mem_cons.mp read with rfl | later
  · exact .inl made
  · rw [loaded_reverse, List.mem_reverse] at later
    refine .inr (List.mem_flatMap.mpr ⟨document, later, ?_⟩)
    exact List.mem_cons_of_mem _ (List.mem_append_left _ made)

theorem Reads.refusal_met
    (reads : Reads includes root (itemsOf text) ((Progress.start root).begun root text) last)
    {path : Path} (vain : path ∈ unloaded includes last.consulted.reverse) :
    ∃ entry ∈ last.entries.reverse, Refuses includes path entry := by
  obtain ⟨refused, refuses, same⟩ := reads.entries_perm
  rw [unloaded_reverse, List.mem_reverse] at vain
  obtain ⟨index, bound, rfl⟩ := List.mem_iff_getElem.mp vain
  have within : index < refused.length := refuses.length_eq ▸ bound
  refine ⟨refused[index], ?_, refuses.get bound within⟩
  rw [List.mem_reverse, same.mem_iff]
  exact List.mem_append_right _ (List.getElem_mem within)

/-- A pass that ends, where there is room, announces what is wrong with the documents that it reads. -/
theorem Reads.announced
    (reads : Reads includes root (itemsOf text) ((Progress.start root).begun root text) last)
    (read : readRoot includes root text = ⟨last.entries.reverse, last.consulted.reverse⟩)
    (stems : ∀ entry ∈ (readRoot includes root text).entries,
      ∃ document ∈ documents includes root text, Stems includes document entry) :
    Announced includes (documents includes root text)
      (unloaded includes (compile root text includes).consulted)
      (compile root text includes).diagnostics := by
  unfold documents compile at *
  rw [read] at *
  constructor
  · intro document within fault span written
    apply report_mem_findings
    apply reads.entries_met within
    exact List.mem_append_left _ (List.mem_map.mpr ⟨(fault, span), written, rfl⟩)
  · intro path vain
    obtain ⟨entry, met, reason, file, span, refusal, rfl⟩ := reads.refusal_met vain
    exact ⟨reason, file, span, refusal, report_mem_findings met⟩
  · intro document within item span name written mentions apart undeclared
    have plain : item.inclusion? = none := by
      cases item with
      | inclusion => cases mentions
      | declaration | knot | text | divert | assignment | choice | note => rfl
    apply unknown_mem_findings _ mentions
    · intro known
      rcases List.mem_cons.mp known with same | declared
      · exact apart same
      · obtain ⟨file, bytes, stated⟩ := mem_headings_iff.mp declared
        obtain ⟨other, again, stem⟩ := stems _ stated
        exact undeclared other again bytes stem.written.2
    · apply reads.entries_met within
      refine List.mem_append_right _ (List.mem_map.mpr ⟨⟨document.path, span, item⟩, ?_, rfl⟩)
      exact Document.mem_statements.mpr ⟨rfl, written, plain⟩

end Ending

/-- Every diagnostic of a pass bears the path of the root or of a document that was loaded, and covers a line
of the text of that very document, from its first character that is not padding to its end; and that line
shows what was found. Nothing else is reported but that documents are nested beyond the bound, which is not
met in a pass that ends where there is room for all documents that are asked for. Such a pass reports each
line that cannot be read, each document that was asked for in vain and each mention of an unknown knot. -/
theorem diagnostics_located (includes : Includes) (root : Path) (text : String) :
    (∀ diagnostic ∈ (compile root text includes).diagnostics,
      Located includes (documents includes root text) diagnostic ∨
      includes.capacity < (loaded includes (compile root text includes).consulted).length ∧
        ∃ path, diagnostic = refusal path) ∧
    ∀ last, Reads includes root (itemsOf text) ((Progress.start root).begun root text) last →
      ∀ capacity, (loads last.consulted).length ≤ capacity →
        let rules : Includes := { includes with capacity := capacity }
        let pass := compile root text rules
        (∀ diagnostic ∈ pass.diagnostics, Located rules (documents rules root text) diagnostic) ∧
        Announced rules (documents rules root text) (unloaded rules pass.consulted) pass.diagnostics := by
  constructor
  · intro diagnostic reported
    exact located_or_refused reported
  · intro last reads capacity room rules pass
    have read : readRoot rules root text = ⟨last.entries.reverse, last.consulted.reverse⟩ :=
      reads.readRoot_eq room
    have within : ¬ rules.capacity < (loaded rules (readRoot rules root text).consulted).length := by
      rw [read, loaded_reverse, List.length_reverse, Nat.not_lt]
      exact (List.length_filterMap_le ..).trans room
    constructor
    · intro diagnostic reported
      exact (located_or_refused reported).resolve_right fun refused => within refused.1
    · apply (reads.withCapacity capacity).announced read
      intro entry met
      exact ((readRoot_traces rules root text).2 entry met).resolve_right fun refused => within refused.1

/-- A tavern that includes a cellar, which includes a well that is not there and leads to a vault that
nobody wrote. -/
def tavernRules : Includes := includesFrom "" [
  ("cellar.part", "== cellar ==\n  Kühl.\nINCLUDE well.part\n* Réveil -> vault\n== stairs ==\n")]

def tavernText : String := "Été.\nINCLUDE cellar.part\n-> cellar\n"

/-- What is wrong with the cellar is found while it is read and at the end, and points to its lines. -/
theorem tavern_located : ∃ last,
    Reads tavernRules "main.tale" (itemsOf tavernText)
      ((Progress.start "main.tale").begun "main.tale" tavernText) last ∧
    (loads last.consulted).length ≤ 2 ∧
    let rules : Includes := { tavernRules with capacity := 2 }
    (compile "main.tale" tavernText rules).diagnostics = [
      (Finding.unreadableInclude "well.part" "no such file").inFile "cellar.part" ⟨22, 39⟩,
      (Finding.unknownKnot "vault").inFile "cellar.part" ⟨40, 58⟩,
      (Finding.unfinishedKnot "stairs").inFile "cellar.part" ⟨59, 71⟩] ∧
    (∀ diagnostic ∈ (compile "main.tale" tavernText rules).diagnostics,
      Located rules (documents rules "main.tale" tavernText) diagnostic) ∧
    Announced rules (documents rules "main.tale" tavernText)
      (unloaded rules (compile "main.tale" tavernText rules).consulted)
      (compile "main.tale" tavernText rules).diagnostics := by
  have honest : tavernRules.Honest := (loadsOnly_includesFrom "" _).atMost
  obtain ⟨last, reads, outcome⟩ := readRoot_reads honest "main.tale" tavernText
  have room : (loads last.consulted).length ≤ 2 := by
    have consulted : last.consulted = (readRoot tavernRules "main.tale" tavernText).consulted.reverse := by
      rw [outcome, List.reverse_reverse]
    rw [consulted]
    decide +kernel
  refine ⟨last, reads, room, by decide +kernel, ?_⟩
  exact (diagnostics_located tavernRules "main.tale" tavernText).2 last reads 2 room

end Tale.Script
