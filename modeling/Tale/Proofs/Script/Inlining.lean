import Tale.Proofs.Script.Splicing

/-! Includes mean splicing.

A root with its includes compiles to the same artifact as the one text that comes of putting every
included document where it is included first, its knots behind everything else. Reading and flattening
walk the documents in the same order and pass over the same include lines, so that what is read of some
lines always comes to what they are flattened to.
-/

set_option autoImplicit false

namespace Tale.Script

open Progress Text

/-! ## Lines of a document -/

def itemsFrom (offset : Nat) (lines : List (List Char)) : List (Item × Span) :=
  readItems (Token.ofLines offset lines)

theorem itemsFrom_cons (offset : Nat) (line : List Char) (rest : List (List Char)) :
    ∃ span, itemsFrom offset (line :: rest) =
      (lineItems line).map (fun item => (item, span)) ++
        itemsFrom (offset + byteSize line + 1) rest := by
  unfold itemsFrom lineItems readLine
  rw [Token.ofLines, readItems, List.flatMap_append, ← readItems, ← readItems]
  cases Token.ofLine? line with
  | none => exact ⟨⟨0, 0⟩, rfl⟩
  | some found =>
    obtain ⟨token, span⟩ := found
    refine ⟨span.shift offset, congrArg (· ++ _) ?_⟩
    cases read : Item.ofToken token <;> simp [readItems, read, Except.toOption]

theorem map_fst_itemsFrom (offset : Nat) (lines : List (List Char)) :
    (itemsFrom offset lines).map Prod.fst = itemsOfLines lines := by
  induction lines generalizing offset with
  | nil => rfl
  | cons line rest ih =>
    obtain ⟨span, items⟩ := itemsFrom_cons offset line rest
    rw [items, List.map_append, ih]
    simp [itemsOfLines, Function.comp_def]

theorem readFaults_eq_nil_iff (offset : Nat) (lines : List (List Char)) :
    readFaults (Token.ofLines offset lines) = [] ↔ ∀ line ∈ lines, Readable line := by
  induction lines generalizing offset with
  | nil => exact iff_of_true rfl nofun
  | cons line rest ih =>
    rw [Token.ofLines, readFaults, List.filterMap_append, ← readFaults, ← readFaults,
      List.append_eq_nil_iff, ih, List.forall_mem_cons]
    refine and_congr_left fun _ => ?_
    unfold Readable readLine
    cases Token.ofLine? line with
    | none => exact iff_of_true rfl ⟨[], rfl⟩
    | some found =>
      obtain ⟨token, span⟩ := found
      cases read : Item.ofToken token <;> simp [readFaults, read]

def faultReports (file : Path) (text : String) : List Entry :=
  (readFaults (tokens text.toList)).map fun fault =>
    .report ((Finding.malformed fault.1).inFile file fault.2)

theorem begun_eq_reports (file : Path) (text : String) (progress : Progress) :
    progress.begun file text =
      { progress with entries := (faultReports file text).reverse ++ progress.entries } := by
  unfold Progress.begun faultReports
  induction readFaults (tokens text.toList) generalizing progress with
  | nil => rfl
  | cons fault rest ih =>
    rw [List.foldl_cons, ih]
    simp [Progress.report, Progress.meet]

theorem faultReports_silent (file : Path) (text : String) :
    ∀ entry ∈ faultReports file text, ∃ diagnostic, entry = .report diagnostic := by
  intro entry member
  obtain ⟨fault, -, rfl⟩ := List.mem_map.mp member
  exact ⟨_, rfl⟩

theorem faultReports_iff (file : Path) (text : String) :
    (∀ entry ∈ faultReports file text, entry.isFailure = false) ↔
      ∀ line ∈ linesOf text, Readable line := by
  rw [← readFaults_eq_nil_iff 0]
  change (∀ entry ∈ (readFaults (Token.ofLines 0 (linesOf text))).map _, _) ↔ _
  cases readFaults (Token.ofLines 0 (linesOf text)) with
  | nil => simp
  | cons fault rest =>
    refine iff_of_false (fun all => ?_) (List.cons_ne_nil _ _)
    cases all _ List.mem_cons_self

theorem foldl_plain {includes : Includes} {enter : Path → String → Progress → Progress} {file : Path}
    {items : List (Item × Span)} (plain : ∀ item ∈ items, item.1.inclusion? = none)
    (progress : Progress) :
    items.foldl (readItem includes enter file) progress =
      { progress with
        entries := (items.map fun item => .statement file item.2 item.1).reverse ++
          progress.entries } := by
  induction items generalizing progress with
  | nil => rfl
  | cons head rest ih =>
    obtain ⟨item, span⟩ := head
    have step : readItem includes enter file progress (item, span) =
        progress.meet (.statement file span item) := by
      cases item with
      | inclusion name => cases plain _ List.mem_cons_self
      | declaration | knot | text | divert | assignment | choice | note => rfl
    rw [List.foldl_cons, step, ih fun other member => plain other (List.mem_cons_of_mem _ member)]
    simp [Progress.meet]

/-! ## What reading asks for -/

def Consultation.load? : Consultation → Option Path
  | .load path => some path
  | .resolve _ _ => none

def loads (consulted : List Consultation) : List Path := consulted.filterMap Consultation.load?

theorem readInclude_consulted (includes : Includes) {enter : Path → String → Progress → Progress}
    (enters : ∀ path text progress, progress.consulted <:+ (enter path text progress).consulted)
    (file : Path) (name : String) (span : Span) (progress : Progress) :
    progress.consulted <:+ (readInclude includes enter file name span progress).consulted := by
  rcases readInclude_cases includes enter file name span progress with
    ⟨-, same⟩ | ⟨-, -, same⟩ | ⟨-, -, ⟨reason, -, same⟩ | ⟨text, -, same⟩⟩
  · rw [same]
  · exact same ▸ List.suffix_cons _ _
  · exact same ▸ (List.suffix_cons _ _).trans (List.suffix_cons _ _)
  · rw [same]
    exact ((List.suffix_cons _ _).trans (List.suffix_cons _ _)).trans
      (enters _ text (((progress.asked includes name).visited (includes.resolve name)).meet .opened))

theorem foldl_consulted (includes : Includes) {enter : Path → String → Progress → Progress}
    (enters : ∀ path text progress, progress.consulted <:+ (enter path text progress).consulted)
    (file : Path) (items : List (Item × Span)) (progress : Progress) :
    progress.consulted <:+ (items.foldl (readItem includes enter file) progress).consulted := by
  induction items generalizing progress with
  | nil => exact List.suffix_rfl
  | cons head rest ih =>
    refine List.IsSuffix.trans ?_ (ih _)
    obtain ⟨item, span⟩ := head
    cases item with
    | inclusion name => exact readInclude_consulted includes enters file name span progress
    | declaration | knot | text | divert | assignment | choice | note => exact List.suffix_rfl

theorem enterNested_consulted (includes : Includes) (depth : Nat) (path : Path) (text : String)
    (progress : Progress) :
    progress.consulted <:+ (enterNested includes depth path text progress).consulted := by
  induction depth generalizing path text progress with
  | zero => exact List.suffix_rfl
  | succ depth ih =>
    rw [enterNested, readNested_eq]
    refine List.IsSuffix.trans ?_ (foldl_consulted includes ih path (itemsOf text) _)
    rw [begun_consulted]

/-! ## Reading and flattening -/

def Progress.met (progress : Progress) : Met := ⟨progress.names, progress.paths⟩

/-- Every document that was asked for could be loaded. -/
def Served (includes : Includes) (consulted : List Consultation) : Prop :=
  ∀ path ∈ loads consulted, ∃ text, includes.load path = .ok text

theorem Served.earlier {includes : Includes} {first second : List Consultation}
    (served : Served includes second) (suffix : first <:+ second) : Served includes first :=
  fun path member => served path ((suffix.sublist.filterMap _).subset member)

theorem loads_length_mono {first second : List Consultation} (suffix : first <:+ second) :
    (loads first).length ≤ (loads second).length :=
  (suffix.sublist.filterMap _).length_le

/-- What is read of some lines comes to what they are flattened to. -/
def Unfolds (includes : Includes) (flatten : Flattener) (lines : List (List Char))
    (progress last : Progress) : Prop :=
  ∃ row, last.entries = row.reverse ++ progress.entries ∧
    Spliced lines row (flattenLines includes flatten lines progress.met).1 ∧
    (flattenLines includes flatten lines progress.met).2 = last.met

namespace Unfolds

variable {includes : Includes} {flatten : Flattener} {line : List Char} {rest : List (List Char)}
  {progress last : Progress}

theorem kept (unnamed : includeName? line = none) {statements : List Entry}
    (stated : statements.map Entry.item? = (lineItems line).map some)
    (onward : Unfolds includes flatten rest
      { progress with entries := statements.reverse ++ progress.entries } last) :
    Unfolds includes flatten (line :: rest) progress last := by
  obtain ⟨row, entries, spliced, met⟩ := onward
  have stays : flattenLine includes flatten line progress.met = (⟨[line], []⟩, progress.met) := by
    rw [flattenLine, unnamed]
  refine ⟨statements ++ row, by simp [entries], ?_, ?_⟩
  · rw [flattenLines, stays]
    exact .kept stated spliced
  · rw [flattenLines, stays]
    exact met

theorem passed (readable : Readable line) {next : Progress}
    (dropped : flattenLine includes flatten line progress.met = (.nothing, next.met))
    (same : next.entries = progress.entries) (onward : Unfolds includes flatten rest next last) :
    Unfolds includes flatten (line :: rest) progress last := by
  obtain ⟨row, entries, spliced, met⟩ := onward
  refine ⟨row, same ▸ entries, ?_, ?_⟩
  · rw [flattenLines, dropped]
    exact .passed readable spliced
  · rw [flattenLines, dropped]
    exact met

theorem entered (readable : Readable line) {middle : Progress} {path : Path} {text : String}
    {within : List Entry} {document : Spread}
    (placed : flattenLine includes flatten line progress.met = (document.cut, middle.met))
    (reached : middle.entries =
      (faultReports path text ++ within).reverse ++ .opened :: progress.entries)
    (inner : Spliced (linesOf text) within document)
    (onward : Unfolds includes flatten rest (middle.meet .closed) last) :
    Unfolds includes flatten (line :: rest) progress last := by
  obtain ⟨row, entries, spliced, met⟩ := onward
  refine ⟨.opened :: (faultReports path text ++ within) ++ .closed :: row, ?_, ?_, ?_⟩
  · rw [entries, Progress.meet, reached]
    simp
  · rw [flattenLines, placed]
    exact .entered readable (faultReports_silent path text) (faultReports_iff path text) inner spliced
  · rw [flattenLines, placed]
    exact met

end Unfolds

/-- A way to enter documents and a way to flatten them go together, as long as documents can be loaded
and no more than `depth` of them are. -/
def Agree (includes : Includes) (depth : Nat) (enter : Path → String → Progress → Progress)
    (flatten : Flattener) : Prop :=
  ∀ path text progress,
    Served includes (enter path text progress).consulted →
    (loads (enter path text progress).consulted).length <
      (loads progress.consulted).length + depth →
    ∃ within document,
      (enter path text progress).entries =
        (faultReports path text ++ within).reverse ++ progress.entries ∧
      Spliced (linesOf text) within document ∧
      flatten (linesOf text) progress.met = (document.cut, (enter path text progress).met)

section Documents

variable {includes : Includes} {depth : Nat} {enter : Path → String → Progress → Progress}
  {flatten : Flattener}

theorem foldl_unfolds
    (enters : ∀ path text progress, progress.consulted <:+ (enter path text progress).consulted)
    (agree : Agree includes depth enter flatten) {file : Path} {last : Progress}
    (served : Served includes last.consulted) {lines : List (List Char)} {offset : Nat}
    {progress : Progress}
    (reading : (itemsFrom offset lines).foldl (readItem includes enter file) progress = last)
    (room : (loads last.consulted).length ≤ (loads progress.consulted).length + depth) :
    Unfolds includes flatten lines progress last := by
  induction lines generalizing offset progress with
  | nil => exact ⟨[], congrArg Progress.entries reading.symm, .done, congrArg Progress.met reading⟩
  | cons line rest ih =>
    obtain ⟨span, items⟩ := itemsFrom_cons offset line rest
    rw [items, List.foldl_append] at reading
    cases named : includeName? line with
    | none =>
      have plain : ∀ item ∈ (lineItems line).map (fun item => (item, span)),
          item.1.inclusion? = none := by
        intro item member
        obtain ⟨inner, inside, rfl⟩ := List.mem_map.mp member
        exact inclusion?_of_not_include named inner inside
      rw [foldl_plain plain] at reading
      refine .kept named ?_ (ih reading room)
      simp [Entry.item?]
    | some name =>
      obtain ⟨single, readable⟩ := lineItems_of_include named
      rw [single, List.map_singleton, List.foldl_cons, List.foldl_nil, readItem] at reading
      have grown := foldl_consulted includes enters file (itemsFrom (offset + byteSize line + 1) rest)
        (readInclude includes enter file name span progress)
      rw [reading] at grown
      rcases readInclude_cases includes enter file name span progress with
        ⟨old, same⟩ | ⟨new, old, same⟩ | ⟨new, unopened, ⟨reason, refusal, same⟩ | ⟨text, loaded, same⟩⟩
      · rw [same] at reading
        exact .passed readable (flattenLine_repeated includes named old) rfl (ih reading room)
      · rw [same] at reading
        have dropped : flattenLine includes flatten line progress.met =
            (.nothing, (progress.asked includes name).met) :=
          flattenLine_passed includes named new old
        exact .passed readable dropped rfl (ih reading room)
      · -- The document was asked for, so it could be loaded.
        rw [same] at grown
        obtain ⟨text, loaded⟩ := served.earlier grown (includes.resolve name) List.mem_cons_self
        cases refusal.symm.trans loaded
      · rw [same] at grown reading
        have opened : (loads (((progress.asked includes name).visited
            (includes.resolve name)).meet .opened).consulted).length =
              (loads progress.consulted).length + 1 := rfl
        have fewer := loads_length_mono grown
        have deeper := loads_length_mono (enters (includes.resolve name) text
          (((progress.asked includes name).visited (includes.resolve name)).meet .opened))
        change (loads (enter _ text _).consulted).length ≤ _ at fewer
        obtain ⟨within, document, entries, inner, flat⟩ := agree _ text _ (served.earlier grown)
          (by omega)
        have unopened : progress.met.paths.any (includes.resolve name).same = false := unopened
        have placed : flattenLine includes flatten line progress.met =
            flatten (linesOf text) (((progress.asked includes name).visited
              (includes.resolve name)).meet .opened).met :=
          flattenLine_entered includes named new unopened loaded
        refine .entered readable (placed.trans flat) entries inner (ih reading ?_)
        change _ ≤ (loads (enter _ text _).consulted).length + depth
        omega

end Documents

theorem agree_nested (includes : Includes) (depth : Nat) :
    Agree includes depth (enterNested includes depth) (flattenNested includes depth) := by
  induction depth with
  | zero =>
    intro path text progress served fewer
    exact absurd fewer (Nat.lt_irrefl _)
  | succ depth ih =>
    intro path text progress served fewer
    have reading := readNested_eq includes depth path text progress
    have unfolds := foldl_unfolds (enterNested_consulted includes depth) ih served reading.symm
      (by rw [begun_consulted]; exact Nat.le_of_lt_succ fewer)
    rw [begun_eq_reports] at unfolds
    obtain ⟨row, entries, spliced, met⟩ := unfolds
    refine ⟨row, _, ?_, spliced, ?_⟩
    · rw [entries, List.reverse_append, List.append_assoc]
    · rw [flattenNested, flattenDocument_eq_cut includes (flattenNested_leading includes depth)]
      exact congrArg _ met

/-- A root comes to what it is flattened to, if all that it asks for can be loaded. -/
theorem readRoot_comesTo {includes : Includes} {root : Path} {text : String}
    (served : Served includes (compile root text includes).consulted)
    (room : (loads (compile root text includes).consulted).length ≤ includes.capacity) :
    ∃ spread : Spread, flattenRoot includes root text = spread.here ++ spread.later ∧
      ComesTo (readRoot includes root text).entries
        (∀ line ∈ spread.here ++ spread.later, Readable line)
        (itemsOfLines spread.here) (itemsOfLines spread.later) := by
  generalize reached : readNested includes includes.capacity root text (.start root) = last
  have consulted : (compile root text includes).consulted = last.consulted.reverse := by
    rw [← reached]
    rfl
  have entries : (readRoot includes root text).entries = last.entries.reverse := by
    rw [← reached]
    rfl
  have reversed : loads last.consulted.reverse = (loads last.consulted).reverse :=
    List.filterMap_reverse
  rw [consulted, reversed, List.length_reverse] at room
  rw [consulted] at served
  have served : Served includes last.consulted := fun path member =>
    served path (reversed ▸ List.mem_reverse.mpr member)
  have unfolds := foldl_unfolds (enterNested_consulted includes includes.capacity)
    (agree_nested includes includes.capacity) served ((readNested_eq ..).symm.trans reached)
    (by rw [begun_consulted]; exact Nat.le_add_left_of_le room)
  rw [begun_eq_reports] at unfolds
  obtain ⟨row, same, spliced, -⟩ := unfolds
  have whole : last.entries.reverse = faultReports root text ++ row := by
    rw [same]
    simp [Progress.start]
  refine ⟨_, rfl, ?_⟩
  rw [entries, whole]
  exact spliced.comesTo (faultReports_silent root text) (faultReports_iff root text)

theorem readRoot_plain (text : String) (unnamed : ∀ line ∈ linesOf text, includeName? line = none) :
    ComesTo (readRoot noIncludes sourcePath text).entries (∀ line ∈ linesOf text, Readable line)
      (itemsOfLines (linesOf text)) [] := by
  have items := map_fst_itemsFrom 0 (linesOf text)
  have plain : ∀ item ∈ itemsOf text, item.1.inclusion? = none := by
    intro item member
    have inside : item.1 ∈ itemsOfLines (linesOf text) := items ▸ List.mem_map_of_mem member
    obtain ⟨line, written, said⟩ := List.mem_flatMap.mp inside
    exact inclusion?_of_not_include (unnamed line written) item.1 said
  have stated : ((itemsOf text).map fun item => Entry.statement sourcePath item.2 item.1).map
      Entry.item? = (itemsOfLines (linesOf text)).map some := by
    rw [← items, List.map_map, List.map_map]
    rfl
  have row : (readRoot noIncludes sourcePath text).entries = faultReports sourcePath text ++
      (itemsOf text).map fun item => .statement sourcePath item.2 item.1 := by
    rw [readRoot, readNested_eq, foldl_plain plain, begun_eq_reports]
    simp [Progress.start]
  generalize (itemsOf text).map (fun item => Entry.statement sourcePath item.2 item.1) = statements
    at stated row
  have silent := faultReports_silent sourcePath text
  rw [row]
  refine ⟨?_, ?_, fun _ => .inl rfl, fun _ _ knot => ?_⟩
  · rw [List.forall_mem_append, and_iff_left (isFailure_of_stated stated)]
    exact faultReports_iff sourcePath text
  · rw [itemsIn_append, itemsIn_silent silent, itemsIn_stated stated, List.append_nil]
    exact .refl _
  · obtain ⟨same, none⟩ := placed_silent silent Cursor.start
    rw [Cursor.placed_append, none, same, (placed_stated stated Cursor.start).2]
    exact (List.append_nil _).symm

theorem itemsOfLines_textOf {lines : List (List Char)} (unbroken : ∀ line ∈ lines, '\n' ∉ line) :
    itemsOfLines (linesOf (textOf lines)) = itemsOfLines lines := by
  rw [linesOf_textOf unbroken]
  split
  · next none => rw [none]; rfl
  · rfl

theorem forall_linesOf_textOf (fits : List Char → Prop) (blank : fits []) {lines : List (List Char)}
    (unbroken : ∀ line ∈ lines, '\n' ∉ line) :
    (∀ line ∈ linesOf (textOf lines), fits line) ↔ ∀ line ∈ lines, fits line := by
  rw [linesOf_textOf unbroken]
  split
  · next none => simp [none, blank]
  · rfl

/-- Includes mean splicing: where all documents that a root asks for can be loaded, and the bound on
nested documents leaves room for them, it compiles to the artifact of its flattened text, or neither
compiles. -/
theorem compile_eq_flattened {includes : Includes} {root : Path} {text : String}
    (served : Served includes (compile root text includes).consulted)
    (room : (loads (compile root text includes).consulted).length ≤ includes.capacity) :
    (compile root text includes).artifact =
      (compileSource (flattened includes root text)).artifact := by
  have lines := flattenRoot_lines includes root text
  have unbroken : ∀ line ∈ flattenRoot includes root text, '\n' ∉ line :=
    fun line member => (lines line member).2
  have unnamed : ∀ line ∈ linesOf (flattened includes root text), includeName? line = none :=
    (forall_linesOf_textOf (includeName? · = none) rfl unbroken).mpr fun line member =>
      (lines line member).1
  have plain := readRoot_plain _ unnamed
  rw [flattened, itemsOfLines_textOf unbroken,
    forall_linesOf_textOf Readable ⟨[], rfl⟩ unbroken] at plain
  obtain ⟨spread, flat, comes⟩ := readRoot_comesTo served room
  have items : itemsOfLines (flattenRoot includes root text) =
      itemsOfLines spread.here ++ itemsOfLines spread.later := by rw [flat, itemsOfLines_append]
  rw [items] at plain
  rw [← flat] at comes
  rw [compileSource, flattened, compile_artifact, compile_artifact]
  exact (comes.rearranged plain).outcome_eq

theorem Reads.loads_eq {includes : Includes} {file : Path} {items : List (Item × Span)}
    {progress last : Progress} (reads : Reads includes file items progress last) :
    ∃ opened, last.paths = opened ++ progress.paths ∧
      loads last.consulted = opened ++ loads progress.consulted := by
  induction reads with
  | done => exact ⟨[], rfl, rfl⟩
  | statement plain onward ih => exact ih
  | repeated old onward ih => exact ih
  | passed new old onward ih => exact ih
  | @refused file name reason span rest progress last new unopened refusal onward ih =>
    obtain ⟨opened, paths, asked⟩ := ih
    exact ⟨opened ++ [includes.resolve name], paths.trans (List.append_cons ..),
      asked.trans (List.append_cons ..)⟩
  | @entered file name text span rest progress middle last new unopened loaded inner onward within ih =>
    obtain ⟨inside, innerPaths, innerAsked⟩ := within
    obtain ⟨opened, paths, asked⟩ := ih
    rw [begun_paths] at innerPaths
    rw [begun_consulted] at innerAsked
    have outer : loads (((progress.asked includes name).visited (includes.resolve name)).meet
        .opened).consulted = includes.resolve name :: loads progress.consulted := rfl
    refine ⟨opened ++ (inside ++ [includes.resolve name]), ?_, ?_⟩
    · change last.paths = opened ++ middle.paths at paths
      rw [paths, innerPaths]
      simp [Progress.visited, Progress.asked, Progress.meet]
    · change loads last.consulted = opened ++ loads middle.consulted at asked
      rw [asked, innerAsked, outer]
      simp

theorem Includes.Honest.room {includes : Includes} (honest : includes.Honest) {root : Path}
    {text : String} (served : Served includes (compile root text includes).consulted) :
    (loads (compile root text includes).consulted).length ≤ includes.capacity := by
  obtain ⟨last, reads, result⟩ := readRoot_reads honest root text
  have spaced := reads.spaced (spaced_begun.mpr (List.pairwise_singleton _ root))
  obtain ⟨opened, paths, asked⟩ := reads.loads_eq
  rw [begun_consulted] at asked
  have same : loads (compile root text includes).consulted = opened.reverse := by
    simp only [compile, result, loads, List.filterMap_reverse]
    rw [← loads, asked]
    simp [Progress.start, loads]
  rw [same, List.length_reverse]
  refine honest opened ?_ fun path member => served path (same ▸ List.mem_reverse.mpr member)
  exact spaced.sublist (paths ▸ List.sublist_append_left _ _)

def hallRules : Includes := includesFrom "" [
  ("rooms", "INCLUDE hall\nINCLUDE attic\n== cellar ==\n-> END"),
  ("attic", "INCLUDE rooms\nINCLUDE attic\nDusk.")]

def hallText : String := "INCLUDE rooms\nINCLUDE rooms\n* Down -> cellar"

/-- The hall compiles, to the story of one text. -/
theorem hall_eq_flattened :
    flattened hallRules "hall" hallText = "Dusk.\n* Down -> cellar\n== cellar ==\n-> END" ∧
    (compile "hall" hallText hallRules).artifact.isSome ∧
    (compile "hall" hallText hallRules).artifact =
      (compileSource (flattened hallRules "hall" hallText)).artifact := by
  have asked : loads (compile "hall" hallText hallRules).consulted =
      [⟨"rooms"⟩, ⟨"attic"⟩] := by
    decide +kernel
  refine ⟨by decide +kernel, by decide +kernel, compile_eq_flattened ?_ ?_⟩
  · rw [Served, asked]
    intro path member
    simp only [List.mem_cons, List.not_mem_nil, or_false] at member
    rcases member with rfl | rfl
    · exact ⟨_, rfl⟩
    · exact ⟨_, rfl⟩
  · rw [asked]
    exact Nat.le_refl 2

end Tale.Script
