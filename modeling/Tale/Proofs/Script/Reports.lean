import Tale.Proofs.Script.Attribution
import Tale.Proofs.Script.Layout

/-! Where reports point.

A diagnostic covers bytes, but a report counts characters. So a report points at the part of the source that
its diagnostic covers if and only if no character in front of the end of that part takes more than one byte.
-/

set_option autoImplicit false

namespace Tale.Script

open Text

/-- A part of a line of a source, with what is around it in its line and the other lines. -/
structure Passage where
  above : List (List Char)
  before : List Char
  covered : List Char
  after : List Char
  below : List (List Char)

namespace Passage

variable (passage : Passage)

def line : List Char := passage.before ++ passage.covered ++ passage.after

def front : List Char := passage.above.flatten ++ passage.before

def reach : List Char := passage.front ++ passage.covered

def bytes : Span := ⟨byteSize passage.front, byteSize passage.reach⟩

def LiesIn (source : List Char) : Prop :=
  Report.sourceLines source = passage.above ++ passage.line :: passage.below

def number : String := toString (passage.above.length + 1)

def margin : String := String.ofList (List.replicate (passage.number.length + 2) ' ')

def placeRow (filename : String) : String :=
  passage.margin ++ "╭─[ " ++ filename ++ ":" ++ passage.number ++ ":" ++
    toString (passage.before.length + 1) ++ " ]"

def shownLine : List Char := trimEnd passage.line

def lineRow : String :=
  " " ++ passage.number ++ " │ " ++
    String.ofList (passage.shownLine.zipIdx.flatMap fun (c, place) => Report.cell place c)

def markRow (marks beyond : List Char) : String :=
  passage.margin ++ "│ " ++ String.ofList
    (List.replicate (Report.columnsFrom passage.shownLine 0 passage.before.length) ' ' ++ marks ++ beyond)

end Passage

namespace Report

/-- Rows name the place where a passage begins, show its line, and underline the columns of its characters and
no others. -/
structure PointsAt (filename : String) (passage : Passage) (rows : List String) : Prop where
  place : rows[1]? = some (passage.placeRow filename)
  line : rows[3]? = some passage.lineRow
  underlined : ∃ marks beyond, rows[4]? = some (passage.markRow marks beyond) ∧
    marks.length = columnsFrom passage.shownLine passage.before.length passage.covered.length ∧
    (∀ mark ∈ marks, mark = '─' ∨ mark = '┬') ∧ ∀ c ∈ beyond, c = ' '

end Report

/-! ## Bytes and characters -/

theorem length_le_byteSize (text : List Char) : text.length ≤ byteSize text := by
  induction text with
  | nil => exact Nat.le_refl 0
  | cons c rest ih =>
    have positive := Char.utf8Size_pos c
    rw [List.length_cons, byteSize_cons]
    omega

theorem byteSize_eq_length_iff {text : List Char} :
    byteSize text = text.length ↔ ∀ c ∈ text, c.utf8Size = 1 := by
  induction text with
  | nil => exact iff_of_true rfl nofun
  | cons c rest ih =>
    have positive := Char.utf8Size_pos c
    have least := length_le_byteSize rest
    rw [List.forall_mem_cons, ← ih, List.length_cons, byteSize_cons]
    omega

theorem append_inj_of_byteSize {first second : List Char} {rest more : List Char}
    (same : first ++ rest = second ++ more) (sized : byteSize first = byteSize second) :
    first = second ∧ rest = more := by
  induction first generalizing second with
  | nil =>
    have none := length_le_byteSize second
    rw [← sized] at none
    have empty : second = [] := List.eq_nil_of_length_eq_zero (Nat.le_zero.mp none)
    rw [empty] at same ⊢
    exact ⟨rfl, same⟩
  | cons c first ih =>
    cases second with
    | nil =>
      have none := length_le_byteSize (c :: first)
      rw [sized] at none
      exact absurd none (Nat.not_succ_le_zero _)
    | cons other second =>
      obtain ⟨rfl, later⟩ := List.cons.inj same
      rw [byteSize_cons, byteSize_cons] at sized
      obtain ⟨rfl, behind⟩ := ih later (by omega)
      exact ⟨rfl, behind⟩

namespace Passage

variable {passage : Passage} {source : List Char}

theorem LiesIn.source_eq (lies : passage.LiesIn source) :
    source = passage.reach ++ (passage.after ++ passage.below.flatten) := by
  rw [← Report.flatten_sourceLines source, lies]
  simp [reach, front, line]

theorem LiesIn.clamp_bytes (lies : passage.LiesIn source) :
    Report.clamp source passage.bytes = passage.bytes := by
  have whole : byteSize source =
      byteSize passage.reach + byteSize (passage.after ++ passage.below.flatten) := by
    rw [← byteSize_append, ← lies.source_eq]
  have inner : byteSize passage.reach = byteSize passage.front + byteSize passage.covered :=
    byteSize_append ..
  rw [Report.clamp, bytes, Span.mk.injEq]
  dsimp only
  omega

theorem LiesIn.lineAt (lies : passage.LiesIn source) {place : Nat} (starts : passage.front.length ≤ place)
    (stops : place < passage.reach.length) : Report.lineAt source place =
      some ⟨passage.above.length, passage.above.flatten.length, passage.line⟩ := by
  simp only [reach, front, List.length_append] at starts stops
  rw [Report.lineAt, lies, Report.locate_append (by omega)]
  · rw [Nat.zero_add, Nat.zero_add]
  · rw [line, List.length_append, List.length_append]
    omega

end Passage

/-! ## Rows -/

namespace Report

/-- The rows of an excerpt whose span begins, in characters, where a passage does. -/
theorem excerpt_rows (filename : String) (passage : Passage) {span : Span} {count : Nat} (label : String)
    (starts : span.start = passage.front.length) (stops : span.stop = passage.front.length + count)
    (filled : 0 < count) :
    let shown := excerpt filename ⟨passage.above.length, passage.above.flatten.length, passage.line⟩ span label
    shown[0]? = some (passage.placeRow filename) ∧ shown[2]? = some passage.lineRow ∧
      ∃ marks beyond, shown[3]? = some (passage.markRow marks beyond) ∧
        marks.length = columnsFrom passage.shownLine passage.before.length count ∧
        (∀ mark ∈ marks, mark = '─' ∨ mark = '┬') ∧ ∀ c ∈ beyond, c = ' ' := by
  have width : passage.front.length = passage.above.flatten.length + passage.before.length :=
    List.length_append
  have first : span.start - passage.above.flatten.length = passage.before.length := by omega
  have last : span.stop - passage.above.flatten.length = passage.before.length + count := by omega
  obtain ⟨marks, drawn, sized, underlined⟩ :=
    @underline_eq passage.shownLine passage.before.length count
      ((span.start + span.stop) / 2 - passage.above.flatten.length) 2 (by omega) (by omega)
  let beyond := List.replicate (columnsFrom passage.shownLine (passage.before.length + count) 2) ' '
  intro shown
  refine ⟨?_, rfl, marks, beyond, ?_, sized, drawn, fun c => List.eq_of_mem_replicate⟩
  · change some _ = some _
    rw [first]
    rfl
  · change some _ = some _
    rw [first, last]
    exact congrArg (fun row => some (passage.margin ++ "│ " ++ String.ofList row)) underlined

def rowsAt (filename : String) (passage : Passage) (diagnostic : Diagnostic) : List String :=
  (heading diagnostic.severity ++ ": " ++ diagnostic.message) ::
    excerpt filename ⟨passage.above.length, passage.above.flatten.length, passage.line⟩ passage.bytes
      (diagnostic.label.getD diagnostic.message)

/-- Where every character takes one byte, a report points at the passage that its diagnostic covers. -/
theorem rows_pointsAt {source : List Char} {passage : Passage} (lies : passage.LiesIn source)
    {diagnostic : Diagnostic} (covers : diagnostic.span = passage.bytes)
    (single : ∀ c ∈ passage.reach, c.utf8Size = 1) (filled : 0 < passage.covered.length)
    (filename : String) : PointsAt filename passage (rows source filename diagnostic) := by
  have reach : byteSize passage.reach = passage.reach.length := byteSize_eq_length_iff.mpr single
  have front : byteSize passage.front = passage.front.length :=
    byteSize_eq_length_iff.mpr fun c member => single c (List.mem_append_left _ member)
  have whole : passage.reach.length = passage.front.length + passage.covered.length := List.length_append
  have here := lies.lineAt (Nat.le_refl _) (by omega)
  have there := @Passage.LiesIn.lineAt passage source lies
    (max passage.front.length (passage.reach.length - 1)) (by omega) (by omega)
  have all : rows source filename diagnostic = rowsAt filename passage diagnostic := by
    rw [rows, covers, lies.clamp_bytes, rowsAt]
    simp only [Passage.bytes, front, reach, here, there]
  obtain ⟨place, line, underlined⟩ := @excerpt_rows filename passage passage.bytes passage.covered.length
    (diagnostic.label.getD diagnostic.message) front (reach.trans whole) filled
  rw [all, rowsAt]
  constructor
  · rw [List.getElem?_cons_succ]
    exact place
  · rw [List.getElem?_cons_succ]
    exact line
  · simp only [List.getElem?_cons_succ]
    exact underlined

theorem columnsFrom_inj {text : List Char} {first count other : Nat} (behind : text.length ≤ first + count)
    (least : count ≤ other) (same : columnsFrom text first other = columnsFrom text first count) :
    other = count := by
  obtain ⟨more, rfl⟩ := Nat.exists_eq_add_of_le least
  rw [columnsFrom_add, columnsFrom_behind behind] at same
  omega

theorem markRow_inj {passage : Passage} {marks beyond others further : List Char}
    (same : passage.markRow marks beyond = passage.markRow others further)
    (drawn : ∀ mark ∈ marks, mark = '─' ∨ mark = '┬') (blank : ∀ c ∈ beyond, c = ' ')
    (drawnToo : ∀ mark ∈ others, mark = '─' ∨ mark = '┬') (blankToo : ∀ c ∈ further, c = ' ') :
    marks.length = others.length := by
  have counted (marks beyond : List Char) (drawn : ∀ mark ∈ marks, mark = '─' ∨ mark = '┬')
      (blank : ∀ c ∈ beyond, c = ' ') : (marks ++ beyond).countP (· ≠ ' ') = marks.length := by
    rw [List.countP_append, List.countP_eq_length.mpr, List.countP_eq_zero.mpr, Nat.add_zero]
    · intro c member
      simpa using blank c member
    · intro mark member
      rcases drawn mark member with rfl | rfl <;> decide
  rw [Passage.markRow, Passage.markRow, String.append_right_inj, String.ofList_inj, List.append_assoc,
    List.append_assoc, List.append_cancel_left_eq] at same
  rw [← counted marks beyond drawn blank, same, counted others further drawnToo blankToo]

theorem placeRow_inj {filename : String} {passage : Passage} {margin : String} {number column : Nat}
    (same : margin ++ "╭─[ " ++ filename ++ ":" ++ toString (number + 1) ++ ":" ++
      toString (column + 1) ++ " ]" = passage.placeRow filename) :
    number = passage.above.length ∧ column = passage.before.length := by
  rw [Passage.placeRow, String.append_left_inj] at same
  obtain ⟨front, columns⟩ := number_inj same
  obtain ⟨-, numbers⟩ := number_inj front
  omega

/-- A report that points at the passage of its diagnostic counts in front of it as many characters as bytes. -/
theorem length_front_of_pointsAt {source : List Char} {passage : Passage} (lies : passage.LiesIn source)
    {diagnostic : Diagnostic} (covers : diagnostic.span = passage.bytes) {filename : String}
    (points : PointsAt filename passage (rows source filename diagnostic)) :
    byteSize passage.front = passage.front.length ∧
      rows source filename diagnostic = rowsAt filename passage diagnostic := by
  have place := points.place
  rw [rows, covers, lies.clamp_bytes] at place ⊢
  split at place
  · next line _ found _ =>
    obtain ⟨above, below, lines, numbered, placed, starts⟩ := locate_sound found (Nat.zero_le _)
    obtain ⟨same, column⟩ := placeRow_inj (Option.some.inj place)
    rw [lies] at lines
    obtain ⟨rfl, later⟩ := List.append_inj lines (by omega)
    obtain ⟨text, -⟩ := List.cons.inj later
    have width : passage.front.length = passage.above.flatten.length + passage.before.length :=
      List.length_append
    obtain ⟨number, offset, shown⟩ := line
    simp only [Nat.zero_add] at numbered placed
    subst numbered placed text
    simp only [Passage.bytes] at starts column
    refine ⟨by omega, rfl⟩
  · cases place

end Report

/-! ## Diagnostics of a text that stands alone -/

theorem coversLine_of_compileSource {text : String} {diagnostic : Diagnostic}
    (reported : diagnostic ∈ (compileSource text).diagnostics) :
    CoversLine text.toList diagnostic.span := by
  have nothing (consulted : List Consultation) : loaded noIncludes consulted = [] := by
    simp [loaded, noIncludes, Except.toOption]
  rcases located_or_refused reported with ⟨document, read, -, finding, span, rfl, covers, -⟩ | ⟨many, -⟩
  · rw [documents, nothing, List.mem_singleton] at read
    rw [read] at covers
    exact covers
  · rw [nothing] at many
    cases many

namespace Passage

variable {passage : Passage} {source : List Char}

/-- What is covered of a line is a passage, where nothing but line feeds ends the lines of a report. -/
theorem exists_of_coversLine {span : Span} (plain : Report.EndsByLineFeeds source)
    (covers : CoversLine source span) : ∃ passage : Passage, passage.LiesIn source ∧ span = passage.bytes := by
  cases covers with
  | @mk above padding rest below first begins padded visible whole ends =>
    have inside : '\n' ∉ padding ++ first :: rest := by
      intro member
      rcases List.mem_append.mp member with blank | word
      · exact absurd (padded _ blank) (by decide)
      · exact whole word
    rw [List.append_assoc above] at plain ⊢
    rw [List.append_assoc] at plain
    obtain ⟨earlier, after, later, rfl, lines⟩ :=
      Report.sourceLines_line plain.below begins inside (by simp)
    refine ⟨⟨earlier, padding, first :: rest, after, later⟩, lines, ?_⟩
    rw [← List.append_assoc]
    rfl

theorem filled_of_coversLine (covers : CoversLine source passage.bytes) : 0 < passage.covered.length := by
  have bounds := covers.bounds.1
  have whole : byteSize passage.reach = byteSize passage.front + byteSize passage.covered :=
    byteSize_append ..
  apply List.length_pos_iff.mpr
  intro none
  rw [none] at whole
  simp only [bytes] at bounds
  exact absurd whole (Nat.ne_of_gt bounds)

theorem after_blank (lies : passage.LiesIn source) (covers : CoversLine source passage.bytes) :
    ∀ c ∈ passage.after, isBlank c := by
  have split := lies.source_eq
  have ended : passage.after ++ passage.below.flatten = [] ∨
      ∃ later, passage.after ++ passage.below.flatten = '\n' :: later := by
    generalize spanned : passage.bytes = span at covers
    obtain @⟨above, padding, rest, below, first, -, -, -, -, ends⟩ := covers
    have stops : byteSize (above ++ padding ++ first :: rest) = byteSize passage.reach :=
      (Span.mk.inj spanned).2.symm
    rw [← (append_inj_of_byteSize split stops).2]
    exact ends
  have whole : '\n' ∉ passage.line.dropLast := by
    apply Report.sourceLines_whole
    rw [lies]
    exact List.mem_append_right _ List.mem_cons_self
  rcases ended with none | ⟨later, some⟩
  · rw [(List.append_eq_nil_iff.mp none).1]
    exact nofun
  · cases after : passage.after with
    | nil => exact nofun
    | cons c more =>
      rw [after] at some
      obtain ⟨rfl, -⟩ := List.cons.inj some
      cases more with
      | nil => simp [isBlank]
      | cons other more =>
        rw [line, after] at whole
        exact absurd (by simp) whole

theorem length_shownLine_le (blank : ∀ c ∈ passage.after, isBlank c) :
    passage.shownLine.length ≤ passage.before.length + passage.covered.length := by
  have behind : ∀ c ∈ passage.after.reverse, isBlank c := fun c member => blank c (List.mem_reverse.mp member)
  rw [shownLine, trimEnd, dropEnd, line, List.reverse_append, List.dropWhile_append_of_pos behind,
    List.length_reverse, ← List.length_append]
  exact (List.dropWhile_sublist _).length_le.trans_eq List.length_reverse

end Passage

/-- A report that points at the passage of its diagnostic drew as many marks as there are columns under it, so
its characters are as many as its bytes, as those in front of it are. -/
theorem Report.single_of_pointsAt {source : List Char} {passage : Passage} (lies : passage.LiesIn source)
    {diagnostic : Diagnostic} (spanned : diagnostic.span = passage.bytes)
    (covers : CoversLine source passage.bytes) {filename : String}
    (points : PointsAt filename passage (rows source filename diagnostic)) :
    ∀ c ∈ passage.reach, c.utf8Size = 1 := by
  obtain ⟨front, shown⟩ := length_front_of_pointsAt lies spanned points
  have filled := Passage.filled_of_coversLine covers
  have least := length_le_byteSize passage.covered
  have stops : passage.bytes.stop = passage.front.length + byteSize passage.covered := by
    rw [← front]
    exact byteSize_append ..
  obtain ⟨-, -, drawn, beyond, row, sized, marks, blank⟩ :=
    @excerpt_rows filename passage passage.bytes (byteSize passage.covered)
      (diagnostic.label.getD diagnostic.message) front stops (by omega)
  obtain ⟨expected, further, same, sizedToo, marksToo, blankToo⟩ := points.underlined
  rw [shown, rowsAt, List.getElem?_cons_succ, row] at same
  have alike := markRow_inj (Option.some.inj same) marks blank marksToo blankToo
  rw [sized, sizedToo] at alike
  have single := columnsFrom_inj (Passage.length_shownLine_le (Passage.after_blank lies covers)) least alike
  rw [Passage.reach, List.forall_mem_append]
  exact ⟨byteSize_eq_length_iff.mp front, byteSize_eq_length_iff.mp single⟩

/-- The report of a diagnostic names the line and the column at which its bytes begin, shows that line and
underlines the characters that it covers, if and only if no character of the source in front of the end of its
span takes more than one byte. Where nothing but line feeds ends the lines of a report, what a diagnostic covers
is a passage of one line. -/
theorem report_points_iff {text : String} {diagnostic : Diagnostic}
    (reported : diagnostic ∈ (compileSource text).diagnostics) :
    (∀ passage : Passage, passage.LiesIn text.toList → diagnostic.span = passage.bytes → ∀ filename,
      (Report.PointsAt filename passage (Report.rows text.toList filename diagnostic) ↔
        ∀ c ∈ passage.reach, c.utf8Size = 1)) ∧
    (Report.EndsByLineFeeds text.toList →
      ∃ passage : Passage, passage.LiesIn text.toList ∧ diagnostic.span = passage.bytes) := by
  have covers := coversLine_of_compileSource reported
  constructor
  · intro passage lies spanned filename
    rw [spanned] at covers
    constructor
    · exact Report.single_of_pointsAt lies spanned covers
    · intro single
      exact Report.rows_pointsAt lies spanned single (Passage.filled_of_coversLine covers) filename
  · intro plain
    exact Passage.exists_of_coversLine plain covers

def teaPassage : Passage := ⟨["Tea.\n".toList], ['\t'], "-> gone".toList, ['\n'], []⟩

theorem tea_report_points :
    (Finding.unknownKnot "gone").inFile sourcePath ⟨6, 13⟩ ∈ (compileSource "Tea.\n\t-> gone\n").diagnostics ∧
    teaPassage.LiesIn "Tea.\n\t-> gone\n".toList ∧ teaPassage.bytes = ⟨6, 13⟩ ∧
    Report.PointsAt "story.tale" teaPassage (Report.rows "Tea.\n\t-> gone\n".toList "story.tale"
      ((Finding.unknownKnot "gone").inFile sourcePath ⟨6, 13⟩)) := by
  have reported : (Finding.unknownKnot "gone").inFile sourcePath ⟨6, 13⟩ ∈
      (compileSource "Tea.\n\t-> gone\n").diagnostics := by decide +kernel
  have lies : teaPassage.LiesIn "Tea.\n\t-> gone\n".toList := by
    unfold Passage.LiesIn
    decide +kernel
  have spanned : teaPassage.bytes = ⟨6, 13⟩ := by decide +kernel
  have sized : byteSize teaPassage.reach = teaPassage.reach.length := by decide +kernel
  refine ⟨reported, lies, spanned, ?_⟩
  have points := (report_points_iff reported).1 teaPassage lies spanned.symm "story.tale"
  exact points.mpr (byteSize_eq_length_iff.mp sized)

def tisanePassage : Passage := ⟨["é\n".toList], [], "-> gone".toList, ['\n'], []⟩

/-- The report places the divert in the second column, where it begins in the first. -/
theorem tisane_report_misplaced :
    (Finding.unknownKnot "gone").inFile sourcePath ⟨3, 10⟩ ∈ (compileSource "é\n-> gone\n").diagnostics ∧
    tisanePassage.LiesIn "é\n-> gone\n".toList ∧ tisanePassage.bytes = ⟨3, 10⟩ ∧
    ¬ Report.PointsAt "story.tale" tisanePassage (Report.rows "é\n-> gone\n".toList "story.tale"
      ((Finding.unknownKnot "gone").inFile sourcePath ⟨3, 10⟩)) := by
  refine ⟨by decide +kernel, ?_, by decide +kernel, ?_⟩
  · unfold Passage.LiesIn
    decide +kernel
  · intro points
    have place := points.place
    revert place
    decide +kernel

end Tale.Script
