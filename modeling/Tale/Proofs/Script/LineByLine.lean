import Tale.Proofs.Script.Scanning

/-! Lines are independent of each other.

What a script says is what the text above a line end says, followed by what the text below it says
with its spans moved. A script is made of its lines in this way, so what holds of the token of a
line, and is kept when more text stands above or below, holds of all tokens.
-/

set_option autoImplicit false

namespace Tale.Script

open Text

def shifted {α : Type} (offset : Nat) (found : List (α × Span)) : List (α × Span) :=
  found.map fun (what, span) => (what, span.shift offset)

/-- A span covers a line from its first character that is not padding to its end. -/
inductive CoversLine : List Char → Span → Prop where
  | mk {above padding rest below : List Char} {first : Char}
      (begins : above = [] ∨ ∃ earlier, above = earlier ++ ['\n'])
      (padded : ∀ c ∈ padding, Token.isPadding c)
      (visible : ¬ Token.isPadding first)
      (whole : '\n' ∉ first :: rest)
      (ends : below = [] ∨ ∃ later, below = '\n' :: later) :
      CoversLine (above ++ padding ++ first :: rest ++ below)
        ⟨byteSize (above ++ padding), byteSize (above ++ padding ++ first :: rest)⟩

theorem lines_induction {motive : List Char → Prop}
    (line : ∀ line, '\n' ∉ line → motive line)
    (more : ∀ line below, '\n' ∉ line → motive below → motive (line ++ '\n' :: below))
    (source : List Char) : motive source := by
  induction size : source.length using Nat.strongRecOn generalizing source with
  | ind size ih =>
    have whole : '\n' ∉ source.takeWhile inLine :=
      fun member => by simpa [inLine] using List.mem_takeWhile_imp member
    have split := List.takeWhile_append_dropWhile (p := inLine) (l := source)
    rcases dropWhile_inLine source with none | ⟨below, ended⟩
    · rw [none, List.append_nil] at split
      exact split ▸ line _ whole
    · rw [ended] at split
      rw [← split] at size ⊢
      apply more _ _ whole
      refine ih below.length ?_ below rfl
      rw [← size, List.length_append, List.length_cons]
      omega

/-! ## Text above and below a line end -/

theorem byteSize_lineEnd (below : List Char) :
    byteSize ('\n' :: below) = byteSize below + 1 := by
  rw [byteSize_cons, Nat.add_comm]
  rfl

theorem shifted_append {α : Type} (offset : Nat) (first second : List (α × Span)) :
    shifted offset (first ++ second) = shifted offset first ++ shifted offset second :=
  List.map_append

namespace Token

theorem ofLines_shifted (lines : List (List Char)) (offset more : Nat) :
    ofLines (more + offset) lines = shifted more (ofLines offset lines) := by
  induction lines generalizing offset with
  | nil => rfl
  | cons line rest ih =>
    rw [ofLines, ofLines, shifted_append, ← ih, Nat.add_assoc, Nat.add_assoc, Nat.add_assoc]
    congr 1
    cases ofLine? line with
    | none => rfl
    | some entry => simp [shifted, Span.shift_shift]

theorem ofLines_append (offset : Nat) (above below : List Char) :
    ofLines offset ((above ++ '\n' :: below).splitOn '\n') =
      ofLines offset (above.splitOn '\n') ++
        ofLines (offset + (byteSize above + 1)) (below.splitOn '\n') := by
  induction above using lines_induction generalizing offset with
  | line line whole =>
    have alone := ofLines_line whole offset (.inl rfl)
    rw [List.append_nil] at alone
    rw [ofLines_line whole offset (.inr ⟨below, rfl⟩), ofLines_lineEnd, alone]
    simp [List.splitOn_nil, ofLines, ofLine?, Nat.add_assoc]
  | more line rest whole ih =>
    rw [List.append_assoc, List.cons_append, ofLines_line whole offset (.inr ⟨_, rfl⟩),
      ofLines_line whole offset (.inr ⟨rest, rfl⟩), ofLines_lineEnd, ofLines_lineEnd, ih,
      List.append_assoc, byteSize_append, byteSize_lineEnd]
    simp only [Nat.add_assoc, Nat.add_comm, Nat.add_left_comm]

end Token

theorem tokens_line {line : List Char} (whole : '\n' ∉ line) :
    tokens line = (Token.ofLine? line).toList := by
  have alone := Token.ofLines_line whole 0 (.inl rfl)
  rw [List.append_nil] at alone
  rw [tokens, alone]
  cases Token.ofLine? line <;> simp [List.splitOn_nil, Token.ofLines, Token.ofLine?, Span.shift]

/-- The tokens of a text are those above a line end and those below it. -/
theorem tokens_append (above below : List Char) :
    tokens (above ++ '\n' :: below) =
      tokens above ++ shifted (byteSize above + 1) (tokens below) := by
  rw [tokens, Token.ofLines_append, Nat.zero_add, ← Nat.add_zero (byteSize above + 1),
    Token.ofLines_shifted]
  rfl

theorem readItems_append (first second : List (Token × Span)) :
    readItems (first ++ second) = readItems first ++ readItems second := List.flatMap_append

theorem readFaults_append (first second : List (Token × Span)) :
    readFaults (first ++ second) = readFaults first ++ readFaults second := List.filterMap_append

/-- What a line says does not depend on where it stands. -/
theorem readItems_shifted (offset : Nat) (tokens : List (Token × Span)) :
    readItems (shifted offset tokens) = shifted offset (readItems tokens) := by
  simp only [readItems, shifted, List.flatMap_map, List.map_flatMap]
  congr 1
  funext ⟨token, span⟩
  cases Item.ofToken token <;> simp

theorem readFaults_shifted (offset : Nat) (tokens : List (Token × Span)) :
    readFaults (shifted offset tokens) = shifted offset (readFaults tokens) := by
  simp only [readFaults, shifted, List.filterMap_map, List.map_filterMap]
  congr 1
  funext ⟨token, span⟩
  cases read : Item.ofToken token <;> simp [read]

theorem readItems_tokens (above below : List Char) :
    readItems (tokens (above ++ '\n' :: below)) =
      readItems (tokens above) ++ shifted (byteSize above + 1) (readItems (tokens below)) := by
  rw [tokens_append, readItems_append, readItems_shifted]

theorem readFaults_tokens (above below : List Char) :
    readFaults (tokens (above ++ '\n' :: below)) =
      readFaults (tokens above) ++ shifted (byteSize above + 1) (readFaults (tokens below)) := by
  rw [tokens_append, readFaults_append, readFaults_shifted]

/-! ## What spans cover -/

namespace CoversLine

variable {source : List Char} {span : Span}

theorem bounds (covers : CoversLine source span) :
    span.start < span.stop ∧ span.stop ≤ byteSize source := by
  obtain @⟨above, padding, rest, below, first⟩ := covers
  have positive := Char.utf8Size_pos first
  simp only [byteSize_append, byteSize_cons]
  omega

theorem text_below (covers : CoversLine source span) (more : List Char) :
    CoversLine (source ++ '\n' :: more) span := by
  obtain ⟨begins, padded, visible, whole, ends⟩ := covers
  rw [List.append_assoc]
  refine ⟨begins, padded, visible, whole, .inr ?_⟩
  obtain rfl | ⟨later, rfl⟩ := ends
  · exact ⟨more, rfl⟩
  · exact ⟨later ++ '\n' :: more, rfl⟩

theorem text_above (covers : CoversLine source span) (more : List Char) :
    CoversLine (more ++ '\n' :: source) (span.shift (byteSize more + 1)) := by
  obtain @⟨above, padding, rest, below, first, begins, padded, visible, whole, ends⟩ := covers
  have moved (text : List Char) :
      byteSize text + (byteSize more + 1) = byteSize (more ++ '\n' :: text) := by
    rw [byteSize_append, byteSize_lineEnd]
    omega
  have beginsToo : ∃ earlier, more ++ '\n' :: above = earlier ++ ['\n'] := by
    obtain rfl | ⟨earlier, rfl⟩ := begins
    · exact ⟨more, rfl⟩
    · exact ⟨more ++ '\n' :: earlier, by simp⟩
  have onward : CoversLine (more ++ '\n' :: above ++ padding ++ first :: rest ++ below) _ :=
    ⟨.inr beginsToo, padded, visible, whole, ends⟩
  rw [Span.shift, moved, moved]
  simpa only [List.append_assoc, List.cons_append] using onward

theorem of_line {line : List Char} (whole : '\n' ∉ line) {entry : Token × Span}
    (found : entry ∈ tokens line) : CoversLine line entry.2 := by
  have visible := List.head?_dropWhile_not Token.isPadding line
  have split := List.takeWhile_append_dropWhile (p := Token.isPadding) (l := line)
  rw [tokens_line whole, Option.mem_toList, Token.ofLine?] at found
  cases covered : line.dropWhile Token.isPadding with
  | nil => simp [covered] at found
  | cons first rest =>
    rw [covered] at found visible split
    obtain ⟨token, -, rfl⟩ := Option.map_eq_some_iff.mp found
    have covers : CoversLine ([] ++ line.takeWhile Token.isPadding ++ first :: rest ++ []) _ :=
      ⟨.inl rfl, fun _ => List.mem_takeWhile_imp, Bool.eq_false_iff.mp visible,
        fun member => whole (split ▸ List.mem_append_right _ member), .inl rfl⟩
    rwa [List.nil_append, List.append_nil, split] at covers

end CoversLine

theorem tokens_spans (source : List Char) :
    (tokens source).Pairwise (fun first second => first.2.stop < second.2.start) ∧
    ∀ entry ∈ tokens source, CoversLine source entry.2 := by
  have single {line : List Char} (whole : '\n' ∉ line) :
      (tokens line).Pairwise fun first second => first.2.stop < second.2.start := by
    rw [tokens_line whole]
    cases Token.ofLine? line <;> simp
  induction source using lines_induction with
  | line line whole => exact ⟨single whole, fun entry => .of_line whole⟩
  | more line below whole ih =>
    obtain ⟨ordered, covers⟩ := ih
    rw [tokens_append, List.pairwise_append]
    refine ⟨⟨single whole, ?_, ?_⟩, ?_⟩
    · exact List.pairwise_map.mpr (ordered.imp fun apart => Nat.add_lt_add_right apart _)
    · intro first inLine second moved
      obtain ⟨entry, -, rfl⟩ := List.mem_map.mp moved
      have within := (CoversLine.of_line whole inLine).bounds.2
      simp only [Span.shift]
      omega
    · intro entry found
      rcases List.mem_append.mp found with inLine | moved
      · exact (CoversLine.of_line whole inLine).text_below below
      · obtain ⟨entry, inBelow, rfl⟩ := List.mem_map.mp moved
        exact (covers entry inBelow).text_above line

theorem malformed_line {line : List Char} (whole : '\n' ∉ line)
    (malformed : readFaults (tokens line) ≠ []) :
    readItems (tokens line) = [] ∧ ∃ fault, readFaults (tokens line) = [fault] := by
  revert malformed
  rw [tokens_line whole]
  cases Token.ofLine? line with
  | none => exact fun malformed => absurd rfl malformed
  | some entry => cases read : Item.ofToken entry.1 <;> simp [readItems, readFaults, read]

/-- Lines are independent. Scanning never fails, and a line has one token at most. The tokens, items
and faults of a text are those above a line end and, with their spans moved, those below it. Spans
stand one below the other, each on a line, from its first character that is not padding to its end.
So a line that cannot be read adds one fault, and changes nothing of what other lines say. -/
theorem lines_independent :
    (∀ source, scan source = (tokens source, [])) ∧
    (∀ line, '\n' ∉ line → (tokens line).length ≤ 1) ∧
    (∀ above below, let source := above ++ '\n' :: below
      let offset := byteSize above + 1
      tokens source = tokens above ++ shifted offset (tokens below) ∧
      readItems (tokens source) =
        readItems (tokens above) ++ shifted offset (readItems (tokens below)) ∧
      readFaults (tokens source) =
        readFaults (tokens above) ++ shifted offset (readFaults (tokens below))) ∧
    (∀ source, (tokens source).Pairwise (fun first second => first.2.stop < second.2.start) ∧
      ∀ entry ∈ tokens source, CoversLine source entry.2) ∧
    ∀ above line below, '\n' ∉ line → readFaults (tokens line) ≠ [] →
      let source := above ++ '\n' :: line ++ '\n' :: below
      let offset := byteSize above + 1 + byteSize line + 1
      readItems (tokens source) =
        readItems (tokens above) ++ shifted offset (readItems (tokens below)) ∧
      ∃ fault, readFaults (tokens source) =
        readFaults (tokens above) ++ fault :: shifted offset (readFaults (tokens below)) := by
  refine ⟨scan_eq, fun line whole => ?_, fun above below => ?_, tokens_spans, ?_⟩
  · rw [tokens_line whole]
    exact Option.length_toList_le
  · exact ⟨tokens_append above below, readItems_tokens above below, readFaults_tokens above below⟩
  · intro above line below whole malformed source offset
    obtain ⟨unread, fault, reported⟩ := malformed_line whole malformed
    have size : byteSize (above ++ '\n' :: line) + 1 = offset := by
      rw [byteSize_append, byteSize_lineEnd]
      omega
    constructor
    · rw [readItems_tokens, readItems_tokens, unread, size]
      simp [shifted]
    · refine ⟨(fault.1, fault.2.shift (byteSize above + 1)), ?_⟩
      rw [readFaults_tokens, readFaults_tokens, reported, size]
      simp [shifted]

example : let source := "INCLUDE \n  Hello.\n".toList
    readFaults (tokens source) = [(.missingPath, ⟨0, 8⟩)] ∧
    readItems (tokens source) = [(.text "Hello.", ⟨11, 17⟩)] := by decide

end Tale.Script
