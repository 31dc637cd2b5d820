import Tale.Proofs.Except
import Tale.Proofs.Script.Conservation
import Tale.Proofs.Script.LineByLine
import Tale.Proofs.Script.Printing

/-! Lines that look empty.

Spaces, tabs and carriage returns at the start of a line are passed over, so that a line of these alone says
nothing. At the end of a line all white space is removed. A line of white space with some other character in
it, such as a form feed or a space that does not break, is not passed over and has nothing left: it makes an
empty paragraph. Nothing else does.
-/

set_option autoImplicit false

namespace Tale.Script

open Text

/-- A line of white space that is not all passed over. -/
structure IsHollow (line : List Char) : Prop where
  blank : ∀ c ∈ line, isBlank c
  stopped : ∃ c ∈ line, Token.isPadding c = false

theorem isBlank_of_isPadding {c : Char} (padded : Token.isPadding c) : isBlank c := by
  have three : (c = ' ' ∨ c = '\t') ∨ c = '\r' := by simpa [Token.isPadding] using padded
  rcases three with (rfl | rfl) | rfl <;> decide

theorem trimEnd_eq_nil_iff {text : List Char} : trimEnd text = [] ↔ ∀ c ∈ text, isBlank c := by
  simp [trimEnd, dropEnd]

/-! ## Tokens -/

theorem unmarked_of_isBlank {c : Char} (blank : isBlank c) (rest : List Char) :
    ∀ marker ∈ markers, ¬ marker.toList <+: c :: rest := by
  have visible : ∀ marker ∈ markers, marker.toList.head?.map isBlank = some false := by decide
  intro marker listed starts
  obtain ⟨first, head, shown⟩ := Option.map_eq_some_iff.mp (visible marker listed)
  obtain ⟨letters, spelled⟩ := List.head?_eq_some_iff.mp head
  obtain ⟨behind, same⟩ := starts
  rw [spelled] at same
  obtain rfl : first = c := (List.cons.inj same).1
  exact Bool.false_ne_true (shown.symm.trans blank)

theorem words_of_ofMarked? {line : List Char} {words : String}
    (found : Token.ofMarked? line = some (.text words)) : words = String.ofList (trimEnd line) := by
  unfold Token.ofMarked? at found
  split at found
  · obtain ⟨rest, -, note⟩ := Option.map_eq_some_iff.mp found
    cases note
  · repeat' split at found
    all_goals cases found
    rfl

theorem ofMarked?_eq_empty_iff {c : Char} {rest : List Char} :
    Token.ofMarked? (c :: rest) = some (.text "") ↔ ∀ d ∈ c :: rest, isBlank d := by
  rw [← trimEnd_eq_nil_iff]
  constructor
  · intro found
    exact String.ofList_injective (words_of_ofMarked? found).symm
  · intro nothing
    have blank := trimEnd_eq_nil_iff.mp nothing c List.mem_cons_self
    rw [ofMarked?_text (unmarked_of_isBlank blank rest), nothing]

/-- Only a hollow line is read as an empty text. -/
theorem ofLine?_eq_empty_iff {line : List Char} :
    (Token.ofLine? line).map Prod.fst = some (.text "") ↔ IsHollow line := by
  have split := List.takeWhile_append_dropWhile (p := Token.isPadding) (l := line)
  have padded : ∀ c ∈ line.takeWhile Token.isPadding, isBlank c :=
    fun c member => isBlank_of_isPadding (List.mem_takeWhile_imp member)
  have stops := List.head?_dropWhile_not Token.isPadding line
  unfold Token.ofLine?
  cases shown : line.dropWhile Token.isPadding with
  | nil =>
    refine iff_of_false (by simp) fun hollow => ?_
    obtain ⟨c, member, visible⟩ := hollow.stopped
    exact Bool.false_ne_true (visible.symm.trans (List.dropWhile_eq_nil_iff.mp shown c member))
  | cons c rest =>
    rw [shown] at split stops
    simp only [Option.map_map]
    change (Token.ofMarked? (c :: rest)).map id = _ ↔ _
    rw [Option.map_id_fun, id_eq, ofMarked?_eq_empty_iff]
    constructor
    · intro blank
      refine ⟨fun d member => ?_, c, ?_, stops⟩
      · rw [← split] at member
        exact (List.mem_append.mp member).elim (padded d) (blank d)
      · exact split ▸ List.mem_append_right _ List.mem_cons_self
    · exact fun hollow d member => hollow.blank d (split ▸ List.mem_append_right _ member)

theorem map_fst_ofLines (offset : Nat) (lines : List (List Char)) :
    (Token.ofLines offset lines).map Prod.fst =
      lines.filterMap fun line => (Token.ofLine? line).map Prod.fst := by
  induction lines generalizing offset with
  | nil => rfl
  | cons line rest ih =>
    rw [Token.ofLines, List.map_append, ih]
    cases read : Token.ofLine? line <;> simp [read]

theorem exists_empty_token_iff (source : List Char) :
    (∃ entry ∈ tokens source, entry.1 = .text "") ↔ ∃ line ∈ source.splitOn '\n', IsHollow line := by
  have listed : (∃ entry ∈ tokens source, entry.1 = .text "") ↔
      .text "" ∈ (tokens source).map Prod.fst := by simp
  rw [listed, tokens, map_fst_ofLines, List.mem_filterMap]
  simp only [ofLine?_eq_empty_iff]

/-- A line of white space says nothing if it is all passed over, and is an empty text otherwise. -/
theorem tokens_blank {line : List Char} (whole : '\n' ∉ line) (blank : ∀ c ∈ line, isBlank c) :
    tokens line = if line.all Token.isPadding then []
      else [(.text "", ⟨byteSize (line.takeWhile Token.isPadding), byteSize line⟩)] := by
  rw [tokens_line whole]
  split
  · next padded =>
    have nothing : line.dropWhile Token.isPadding = [] :=
      List.dropWhile_eq_nil_iff.mpr (List.all_eq_true.mp padded)
    rw [Token.ofLine?, nothing]
    rfl
  · next stopped =>
    have hollow : IsHollow line := ⟨blank, by simpa using stopped⟩
    obtain ⟨⟨token, span⟩, found, empty⟩ := Option.map_eq_some_iff.mp (ofLine?_eq_empty_iff.mpr hollow)
    have covered : span = ⟨byteSize (line.takeWhile Token.isPadding), byteSize line⟩ := by
      unfold Token.ofLine? at found
      split at found
      · cases found
      · obtain ⟨token, -, same⟩ := Option.map_eq_some_iff.mp found
        exact (Prod.mk.inj same).2.symm
    rw [found, Option.toList_some, covered, show token = .text "" from empty]

theorem silent_iff_not_isHollow {line : List Char} (whole : '\n' ∉ line) :
    ((∀ c ∈ line, isBlank c) → tokens line = []) ↔ ¬ IsHollow line := by
  constructor
  · intro silent hollow
    have nothing := silent hollow.blank
    obtain ⟨c, member, stopped⟩ := hollow.stopped
    have visible : ¬ line.all Token.isPadding := fun padded =>
      Bool.false_ne_true (stopped.symm.trans (List.all_eq_true.mp padded c member))
    rw [tokens_blank whole hollow.blank, if_neg visible] at nothing
    cases nothing
  · intro plain blank
    rw [tokens_blank whole blank, if_pos]
    by_contra stopped
    exact plain ⟨blank, by simpa using stopped⟩

/-! ## Paragraphs -/

/-- Only an empty text makes an empty paragraph: what stands in front of an arrow is dropped if there is
nothing of it. -/
theorem empty_mem_iff {token : Token} {items : List Item} (read : Item.ofToken token = .ok items) :
    .text "" ∈ items ↔ token = .text "" := by
  cases token with
  | text words =>
    rw [Item.ofToken, readText] at read
    split at read
    · cases read
      simp [eq_comm]
    · next before after cut =>
      have filled : words ≠ "" := by
        rintro rfl
        cases cut
      refine iff_of_false (fun member => ?_) (by simpa using filled)
      obtain ⟨target, -, read⟩ := bind_eq_ok.mp read
      cases read
      simp only [List.mem_append, List.mem_singleton, reduceCtorEq, or_false] at member
      split at member
      · cases member
      · next some =>
        have nothing : String.ofList (trim before) = "" :=
          (Item.text.inj (List.mem_singleton.mp member)).symm
        exact some (by simpa using nothing)
  | inclusion | declaration | heading | divert | assignment | choice | note =>
    refine iff_of_false (fun member => ?_) (by simp)
    simp only [Item.ofToken, bind, Except.bind] at read
    repeat' split at read
    all_goals cases read
    all_goals cases List.mem_singleton.mp member

theorem empty_mem_lineItems_iff {line : List Char} : .text "" ∈ lineItems line ↔ IsHollow line := by
  rw [← ofLine?_eq_empty_iff, lineItems, readLine]
  cases Token.ofLine? line with
  | none => simp [Except.toOption]
  | some found =>
    simp only [Option.map_some, Option.some.injEq]
    cases read : Item.ofToken found.1 with
    | ok items => exact empty_mem_iff read
    | error fault =>
      refine iff_of_false (by simp [Except.toOption]) fun empty => ?_
      rw [empty] at read
      cases read

theorem exists_empty_item_iff {text : String} :
    (∃ span, (.text "", span) ∈ itemsOf text) ↔ ∃ line ∈ linesOf text, IsHollow line := by
  have listed : (∃ span, (.text "", span) ∈ itemsOf text) ↔
      .text "" ∈ (itemsFrom 0 (linesOf text)).map Prod.fst := by
    rw [List.mem_map]
    constructor
    · rintro ⟨span, member⟩
      exact ⟨_, member, rfl⟩
    · rintro ⟨⟨item, span⟩, member, rfl⟩
      exact ⟨span, member⟩
  rw [listed, map_fst_itemsFrom, itemsOfLines, List.mem_flatMap]
  simp only [empty_mem_lineItems_iff]

/-! ## Stories -/

theorem step?_eq_text_iff {item : Item} {words : String} :
    item.step? = some (.text words) ↔ item = .text words := by
  cases item <;> simp [Item.step?]

theorem text_mem_knotOf_iff {knot words : String} {steps : List Step} {lines : List ChoiceLine} :
    .text words ∈ knotOf knot steps lines ↔ .text words ∈ steps := by
  rw [knotOf, List.mem_append]
  refine or_iff_left fun behind => ?_
  split at behind
  · cases behind
  · cases List.mem_singleton.mp behind

section Rows

variable {row : List Entry}

theorem Faultless.exists_text_iff (faultless : Faultless row) {words : String} :
    (∃ knot, .text words ∈ (assemble row).artifact.stepsOf knot) ↔
      ∃ site ∈ reached (sitesOf row), site.item = .text words := by
  simp only [faultless.stepsOf_eq, text_mem_knotOf_iff, List.mem_filterMap, sitesIn, List.mem_filter,
    decide_eq_true_eq, step?_eq_text_iff]
  constructor
  · rintro ⟨-, site, ⟨inside, -⟩, said⟩
    exact ⟨site, inside, said⟩
  · rintro ⟨site, inside, said⟩
    exact ⟨site.knot, site, ⟨inside, rfl⟩, said⟩

theorem exists_text_parted (sites : List Site) (words : String) :
    (∃ site ∈ sites, site.item = .text words) ↔
      (∃ site ∈ reached sites, site.item = .text words) ∨
        ∃ site ∈ unreached sites, site.item = .text words := by
  have parted (site : Site) (said : site.item = .text words) :
      site ∈ sites ↔ site ∈ reached sites ∨ site ∈ unreached sites := by
    have same := (reached_unreached_perm sites).mem_iff (a := site)
    rw [List.mem_append, List.mem_filter, step?_eq_text_iff.mpr said] at same
    exact (and_iff_left rfl).symm.trans same.symm
  constructor
  · rintro ⟨site, inside, said⟩
    exact ((parted site said).mp inside).imp (⟨site, ·, said⟩) (⟨site, ·, said⟩)
  · rintro (⟨site, inside, said⟩ | ⟨site, inside, said⟩)
    · exact ⟨site, (parted site said).mpr (.inl inside), said⟩
    · exact ⟨site, (parted site said).mpr (.inr inside), said⟩

end Rows

/-- An empty text is processed exactly if some document has a hollow line. -/
theorem exists_empty_site_iff {includes : Includes} {root : Path} {text : String}
    (clean : ∀ entry ∈ (readRoot includes root text).entries, entry.isFailure = false) :
    (∃ site ∈ sitesOf (readRoot includes root text).entries, site.item = .text "") ↔
      ∃ document ∈ documents includes root text, ∃ line ∈ linesOf document.text, IsHollow line := by
  simp only [exists_site_iff, statement_mem_readRoot clean, ← exists_empty_item_iff]
  constructor
  · rintro ⟨file, span, document, listed, -, written, -⟩
    exact ⟨document, listed, span, written⟩
  · rintro ⟨document, listed, span, written⟩
    exact ⟨document.path, span, document, listed, rfl, written, rfl⟩

/-- A line of white space says nothing exactly if it is all passed over; else it is an empty text. So every
line of white space in a text says nothing, and none of its tokens is an empty text, exactly if no line of it
is hollow. And in a compiled story no paragraph is empty, nor was one given up behind a choice, exactly if no
document that was processed has a hollow line. -/
theorem blank_lines_silent_iff (root : Path) (text : String) (includes : Includes) :
    (∀ line ∈ linesOf text, (∀ c ∈ line, isBlank c) →
      tokens line = if line.all Token.isPadding then []
        else [(.text "", ⟨byteSize (line.takeWhile Token.isPadding), byteSize line⟩)]) ∧
    ((∀ line ∈ linesOf text, (∀ c ∈ line, isBlank c) → tokens line = []) ↔
      ∀ line ∈ linesOf text, ¬ IsHollow line) ∧
    ((∀ entry ∈ tokens text.toList, entry.1 ≠ .text "") ↔ ∀ line ∈ linesOf text, ¬ IsHollow line) ∧
    ∀ artifact, (compile root text includes).artifact = some artifact →
      ((∀ knot, .text "" ∉ artifact.stepsOf knot) ∧
        (∀ site ∈ unreached (sitesOf (readRoot includes root text).entries), site.item ≠ .text "") ↔
        ∀ document ∈ documents includes root text, ∀ line ∈ linesOf document.text, ¬ IsHollow line) := by
  have whole : ∀ line ∈ linesOf text, '\n' ∉ line := not_mem_of_mem_splitOn text.toList
  refine ⟨fun line listed => tokens_blank (whole line listed), ?_, ?_, fun artifact compiled => ?_⟩
  · exact forall₂_congr fun line listed => silent_iff_not_isHollow (whole line listed)
  · have same := not_congr (exists_empty_token_iff text.toList)
    push Not at same
    exact same
  · obtain ⟨faultless, rfl⟩ := outcome_eq_some_iff.mp compiled
    have same := not_congr (exists_empty_site_iff faultless.reports)
    rw [exists_text_parted, ← faultless.exists_text_iff] at same
    push Not at same
    exact same

def gardenText : String := "Roses.\n \t\n\n* Leave -> END\n  \r\n"

theorem garden_silent :
    tokens [' ', '\t'] = [] ∧ ∃ artifact,
      (compileSource gardenText).artifact = some artifact ∧
      (∀ knot, .text "" ∉ artifact.stepsOf knot) ∧
      ∀ site ∈ unreached (sitesOf (readRoot noIncludes sourcePath gardenText).entries),
        site.item ≠ .text "" := by
  obtain ⟨lines, -, -, stories⟩ := blank_lines_silent_iff sourcePath gardenText noIncludes
  have made : (compileSource gardenText).artifact.isSome := by decide +kernel
  obtain ⟨artifact, compiled⟩ := Option.isSome_iff_exists.mp made
  have blank : ∀ c ∈ [' ', '\t'], isBlank c := List.all_eq_true.mp (by decide)
  refine ⟨(lines [' ', '\t'] (by decide +kernel) blank).trans rfl, artifact, compiled, ?_⟩
  refine (stories artifact compiled).mpr fun document listed line inside hollow => ?_
  have padded : ∀ document ∈ documents noIncludes sourcePath gardenText, ∀ line ∈ linesOf document.text,
      line.all isBlank → line.all Token.isPadding := by decide +kernel
  obtain ⟨c, member, stopped⟩ := hollow.stopped
  have passed := padded document listed line inside (List.all_eq_true.mpr hollow.blank)
  exact Bool.false_ne_true (stopped.symm.trans (List.all_eq_true.mp passed c member))

/-- The same garden, with a space that does not break on one of the lines and a form feed on another. -/
def hedgeText : String := "Roses.\n\u00a0\n\n* Leave -> END\n  \x0c\n"

/-- The two lines are white space alone. One is an empty paragraph, the other is warned of behind the
choice. -/
theorem hedge_speaks :
    (∀ c ∈ ['\u00a0'], isBlank c) ∧ tokens ['\u00a0'] = [(.text "", ⟨0, 2⟩)] ∧
    (compileSource hedgeText).artifact.map (·.stepsOf "_root") =
      some [.text "Roses.", .text "", .choices [⟨"_root.0", "Leave", false, none, .ending⟩]] ∧
    (compileSource hedgeText).diagnostics = [Finding.unreachable.inFile sourcePath ⟨28, 29⟩] := by
  exact ⟨List.all_eq_true.mp (by decide), by decide +kernel, by decide +kernel, by decide +kernel⟩

end Tale.Script
