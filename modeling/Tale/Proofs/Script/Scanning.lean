import Mathlib.Data.List.MinMax
import Mathlib.Data.List.TakeWhile
import Mathlib.Data.Prod.Lex
import Tale.Proofs.Text
import Tale.Script.Item

/-! A scanner of scripts that works by rules.

At each place of a text the rule is taken that covers most, and of those that cover as much the one
with the highest priority. The rules for lines all cover a line to its end, so the priority decides
between them, and every character is covered by some rule. What is left of a text are the tokens of
its lines.
-/

set_option autoImplicit false

namespace Tale.Script

open Text

inductive Lexeme where
  | padding
  | lineEnd
  | comment
  | inclusion
  | declaration
  | heading
  | divert
  | assignment
  | choice (sticky : Bool)
  | text
  deriving DecidableEq, Repr

/-- A rule covers a text whose first characters are each of some class, with as many more of one
class as there are. -/
structure Rule where
  lexeme : Lexeme
  opening : List (Char → Bool)
  further : Char → Bool
  priority : Nat

structure LexicalError where
  span : Span
  message : String
  deriving DecidableEq, Repr

def inLine (c : Char) : Bool := c != '\n'

def isGap (c : Char) : Bool := c == ' ' || c == '\t'

def spelled (word : String) : List (Char → Bool) := word.toList.map fun mark c => mark == c

namespace Rule

def padding : Rule := ⟨.padding, [Token.isPadding], Token.isPadding, 1⟩

def lineEnd : Rule := ⟨.lineEnd, spelled "\n", fun _ => false, 2⟩

def marked (lexeme : Lexeme) (opening : List (Char → Bool)) : Rule := ⟨lexeme, opening, inLine, 20⟩

def words : Rule := ⟨.text, [fun c => !Token.isPadding c && inLine c], inLine, 1⟩

def markers : List Rule :=
  [marked .comment (spelled "//"),
    marked .inclusion (spelled "INCLUDE" ++ [isGap]),
    marked .declaration (spelled "VAR" ++ [isGap]),
    marked .heading (spelled "=="),
    marked .divert (spelled "->"),
    marked .assignment (spelled "~"),
    marked (.choice false) (spelled "*"),
    marked (.choice true) (spelled "+")]

def all : List Rule := [padding, lineEnd] ++ (markers ++ [words])

def lengthBy? (further : Char → Bool) : List (Char → Bool) → List Char → Option Nat
  | [], text => some (text.takeWhile further).length
  | _ :: _, [] => none
  | test :: tests, c :: rest =>
    if test c then (lengthBy? further tests rest).map (· + 1) else none

def length? (rule : Rule) (text : List Char) : Option Nat :=
  lengthBy? rule.further rule.opening text

def applied (text : List Char) (rules : List Rule) : List (Nat × Rule) :=
  rules.filterMap fun rule => (rule.length? text).map fun length => (length, rule)

/-- The rule that covers most, and of those the one with the highest priority. -/
def choose? (text : List Char) (rules : List Rule) : Option (Nat × Rule) :=
  (applied text rules).argmax fun (length, rule) => toLex (length, rule.priority)

end Rule

def Lexeme.token? (lexeme : Lexeme) (covered : List Char) : Option Token :=
  match lexeme with
  | padding => none
  | lineEnd => none
  | comment => Token.ofComment? covered
  | inclusion => some (.inclusion (Token.payload "INCLUDE" covered))
  | declaration => some (.declaration (Token.payload "VAR" covered))
  | heading => some (.heading (String.ofList (trim (trimMark '=' (trimEnd covered)))))
  | divert => some (.divert (Token.payload "->" covered))
  | assignment => some (.assignment (Token.payload "~" covered))
  | choice false => some (.choice false (Token.payload "*" covered))
  | choice true => some (.choice true (Token.payload "+" covered))
  | text => some (.text (String.ofList (trimEnd covered)))

def scanFrom (offset : Nat) : List Char → List (Token × Span) × List LexicalError
  | [] => ([], [])
  | c :: rest =>
    match Rule.choose? (c :: rest) Rule.all with
    | some (length, rule) =>
      let covered := (c :: rest).take length
      let span : Span := ⟨offset, offset + byteSize covered⟩
      let (tokens, errors) := scanFrom span.stop (rest.drop (length - 1))
      (((rule.lexeme.token? covered).map fun token => (token, span)).toList ++ tokens, errors)
    | none =>
      let span : Span := ⟨offset, offset + c.utf8Size⟩
      let (tokens, errors) := scanFrom span.stop rest
      (tokens, ⟨span, "unexpected input: " ++ String.ofList (quote [c])⟩ :: errors)
termination_by text => text.length

def scan (source : List Char) : List (Token × Span) × List LexicalError := scanFrom 0 source

/-! ## The rule that is taken -/

def opens : List (Char → Bool) → List Char → Bool
  | [], _ => true
  | _ :: _, [] => false
  | test :: tests, c :: rest => test c && opens tests rest

theorem opens_append (first second : List (Char → Bool)) (line : List Char) :
    opens (first ++ second) line = (opens first line && opens second (line.drop first.length)) := by
  induction first generalizing line with
  | nil => rfl
  | cons test tests ih =>
    cases line with
    | nil => rfl
    | cons c rest => simp [opens, ih, Bool.and_assoc]

theorem opens_spelled (word : String) (line : List Char) :
    opens (spelled word) line = word.toList.isPrefixOf line := by
  unfold spelled
  induction word.toList generalizing line with
  | nil => rfl
  | cons mark marks ih =>
    cases line with
    | nil => rfl
    | cons c rest => rw [List.map_cons, opens, ih, List.isPrefixOf]

theorem opens_word (word : String) (line : List Char) :
    opens (spelled word ++ [isGap]) line = Token.startsWithWord word.toList line := by
  rw [opens_append, opens_spelled, Token.startsWithWord, afterMark?, spelled, List.length_map]
  cases word.toList.isPrefixOf line with
  | false => rfl
  | true => cases line.drop word.toList.length <;> simp [opens, isGap]

theorem lengthBy?_inLine {tests : List (Char → Bool)} (within : ∀ test ∈ tests, test '\n' = false)
    (text : List Char) :
    Rule.lengthBy? inLine tests text =
      if opens tests (text.takeWhile inLine) then some (text.takeWhile inLine).length
      else none := by
  induction tests generalizing text with
  | nil => rfl
  | cons test tests ih =>
    obtain ⟨here, later⟩ := List.forall_mem_cons.mp within
    cases text with
    | nil => rfl
    | cons c rest =>
      rw [Rule.lengthBy?, ih later]
      by_cases ended : c = '\n'
      · simp [ended, here, inLine, opens]
      · have inside : inLine c := by simp [inLine, ended]
        simp only [List.takeWhile_cons, inside, if_true, opens]
        cases test c <;> cases opens tests (rest.takeWhile inLine) <;> simp

namespace Rule

def ofLine (line : List Char) : Rule :=
  (markers.find? fun rule => opens rule.opening line).getD words

theorem token?_ofLine (line : List Char) :
    (ofLine line).lexeme.token? line = Token.ofMarked? line := by
  unfold ofLine Token.ofMarked?
  simp only [markers, marked, List.find?_cons, List.find?_nil, opens_word, opens_spelled]
  repeat' split
  all_goals simp_all [Lexeme.token?, words]

theorem length?_marker {rule : Rule} (member : rule ∈ markers) (text : List Char) :
    rule.priority = 20 ∧ rule.length? text =
      if opens rule.opening (text.takeWhile inLine) then some (text.takeWhile inLine).length
      else none := by
  have within : ∀ rule ∈ markers, rule.priority = 20 ∧ rule.further = inLine ∧
      ∀ test ∈ rule.opening, test '\n' = false := by
    simp [markers, marked, spelled, isGap]
  obtain ⟨priority, further, never⟩ := within rule member
  exact ⟨priority, by rw [length?, further, lengthBy?_inLine never]⟩

theorem choose?_markers {text : List Char} {rules : List Rule} (among : rules ⊆ markers)
    (last : words.length? text = some (text.takeWhile inLine).length) :
    choose? text (rules ++ [words]) = some ((text.takeWhile inLine).length,
      (rules.find? fun rule => opens rule.opening (text.takeWhile inLine)).getD words) := by
  induction rules with
  | nil => simp [choose?, applied, last]
  | cons rule rest ih =>
    obtain ⟨here, later⟩ := List.cons_subset.mp among
    obtain ⟨priority, length⟩ := length?_marker here text
    have others := ih later
    have lower : ((rest.find? fun rule => opens rule.opening (text.takeWhile inLine)).getD
        words).priority ≤ rule.priority := by
      cases found : rest.find? fun rule => opens rule.opening (text.takeWhile inLine) with
      | none => simp [words, priority]
      | some other =>
        have inside := later (List.mem_of_find?_eq_some found)
        simp [priority, (length?_marker inside text).1]
    rw [choose?] at others ⊢
    rw [List.cons_append, applied, List.filterMap_cons, length, ← applied, List.find?_cons]
    cases opens rule.opening (text.takeWhile inLine) with
    | false => exact others
    | true =>
      simp only [if_true, Option.map_some, List.argmax_cons, others]
      exact if_neg (by simpa [Prod.Lex.toLex_lt_toLex] using lower)

theorem length?_words {c : Char} (rest : List Char) (visible : Token.isPadding c = false)
    (inside : inLine c) :
    words.length? (c :: rest) = some ((c :: rest).takeWhile inLine).length := by
  have never : ∀ test ∈ words.opening, test '\n' = false := by simp [words, inLine]
  have opened : opens words.opening ((c :: rest).takeWhile inLine) := by
    simp [words, opens, visible, inside]
  exact (lengthBy?_inLine never _).trans (if_pos opened)

theorem choose?_line {c : Char} (rest : List Char) (visible : Token.isPadding c = false)
    (inside : inLine c) :
    choose? (c :: rest) all = some (((c :: rest).takeWhile inLine).length,
      ofLine ((c :: rest).takeWhile inLine)) := by
  have unended : ('\n' == c) = false :=
    Bool.eq_false_iff.mpr fun same => by simp [inLine, ← eq_of_beq same] at inside
  have others : applied (c :: rest) [padding, lineEnd] = [] := by
    simp [applied, padding, lineEnd, length?, lengthBy?, spelled, visible, unended]
  rw [choose?, all, applied, List.filterMap_append, ← applied, others, List.nil_append]
  exact choose?_markers (List.Subset.refl _) (length?_words rest visible inside)

theorem applied_between {c : Char} (rest : List Char) (between : Token.isPadding c ∨ c = '\n') :
    applied (c :: rest) all = applied (c :: rest) [padding, lineEnd] := by
  have four : c = ' ' ∨ c = '\t' ∨ c = '\r' ∨ c = '\n' := by
    simpa [Token.isPadding, or_assoc] using between
  have others : applied (c :: rest) (markers ++ [words]) = [] := by
    rcases four with rfl | rfl | rfl | rfl <;>
      simp [applied, markers, marked, words, length?, lengthBy?, spelled, Token.isPadding, inLine]
  rw [all, applied, List.filterMap_append, ← applied, ← applied, others, List.append_nil]

theorem choose?_lineEnd (rest : List Char) :
    choose? ('\n' :: rest) all = some (1, lineEnd) := by
  have alone : rest.takeWhile (fun _ => false) = [] := by cases rest <;> rfl
  have one : applied ('\n' :: rest) [padding, lineEnd] = [(1, lineEnd)] := by
    simp [applied, padding, lineEnd, length?, lengthBy?, spelled, Token.isPadding, alone]
  rw [choose?, applied_between rest (.inr rfl), one, List.argmax_singleton]

theorem choose?_padding {c : Char} (rest : List Char) (blank : Token.isPadding c) :
    choose? (c :: rest) all = some ((rest.takeWhile Token.isPadding).length + 1, padding) := by
  have unended : ('\n' == c) = false :=
    Bool.eq_false_iff.mpr fun same => by simp [Token.isPadding, ← eq_of_beq same] at blank
  have one : applied (c :: rest) [padding, lineEnd] =
      [((rest.takeWhile Token.isPadding).length + 1, padding)] := by
    simp [applied, padding, lineEnd, length?, lengthBy?, spelled, blank, unended]
  rw [choose?, applied_between rest (.inl blank), one, List.argmax_singleton]

end Rule

/-! ## The tokens that are left -/

namespace Token

theorem ofLine?_visible {c : Char} (rest : List Char) (visible : isPadding c = false) :
    ofLine? (c :: rest) =
      (ofMarked? (c :: rest)).map fun token => (token, ⟨0, byteSize (c :: rest)⟩) := by
  simp [ofLine?, visible, byteSize]

theorem ofLine?_padding {blank : List Char} (padded : ∀ c ∈ blank, isPadding c) (line : List Char) :
    ofLine? (blank ++ line) =
      (ofLine? line).map fun entry => (entry.1, entry.2.shift (byteSize blank)) := by
  unfold ofLine?
  rw [List.dropWhile_append_of_pos padded, List.takeWhile_append_of_pos padded]
  cases line.dropWhile isPadding with
  | nil => rfl
  | cons c rest =>
    simp [byteSize_append, Span.shift, Function.comp_def, Nat.add_comm]

theorem ofLines_padding {blank : List Char} (padded : ∀ c ∈ blank, isPadding c)
    (offset : Nat) (text : List Char) :
    ofLines offset ((blank ++ text).splitOn '\n') =
      ofLines (offset + byteSize blank) (text.splitOn '\n') := by
  have whole : '\n' ∉ blank := fun member => by simpa [isPadding] using padded _ member
  rw [splitOn_append_of_not_mem whole]
  cases pieces : text.splitOn '\n' with
  | nil => rfl
  | cons line rest =>
    rw [List.modifyHead_cons, ofLines, ofLines, ofLine?_padding padded, byteSize_append,
      Option.map_map]
    simp only [Function.comp_def, Span.shift_shift, Nat.add_assoc]

theorem ofLines_lineEnd (offset : Nat) (below : List Char) :
    ofLines offset (('\n' :: below).splitOn '\n') =
      ofLines (offset + 1) (below.splitOn '\n') := by
  rw [List.splitOn_cons_eq_if_modifyHead, if_pos (by simp), ofLines]
  rfl

theorem ofLines_line {line : List Char} (whole : '\n' ∉ line) (offset : Nat) {text : List Char}
    (ended : text = [] ∨ ∃ below, text = '\n' :: below) :
    ofLines offset ((line ++ text).splitOn '\n') =
      ((ofLine? line).map fun (token, span) => (token, span.shift offset)).toList ++
        ofLines (offset + byteSize line) (text.splitOn '\n') := by
  rw [splitOn_append_of_not_mem whole]
  obtain rfl | ⟨below, rfl⟩ := ended
  · simp [List.splitOn_nil, ofLines, ofLine?]
  · rw [List.splitOn_cons_eq_if_modifyHead, if_pos (by simp), List.modifyHead_cons, List.append_nil,
      ofLines, ofLines]
    rfl

end Token

theorem dropWhile_inLine (text : List Char) :
    text.dropWhile inLine = [] ∨ ∃ below, text.dropWhile inLine = '\n' :: below := by
  have stops := List.head?_dropWhile_not inLine text
  cases left : text.dropWhile inLine with
  | nil => exact .inl rfl
  | cons c below =>
    rw [left] at stops
    obtain rfl : c = '\n' := by simpa [inLine] using stops
    exact .inr ⟨below, rfl⟩

/-- The step of the scanner at a place where a rule covers some text. -/
theorem scanFrom_append {covered below : List Char} {rule : Rule} (some : covered ≠ [])
    (chosen : Rule.choose? (covered ++ below) Rule.all = .some (covered.length, rule))
    (offset : Nat) :
    let span : Span := ⟨offset, offset + byteSize covered⟩
    scanFrom offset (covered ++ below) =
      (((rule.lexeme.token? covered).map fun token => (token, span)).toList ++
        (scanFrom span.stop below).1, (scanFrom span.stop below).2) := by
  cases covered with
  | nil => exact absurd rfl some
  | cons c rest =>
    rw [List.cons_append] at chosen ⊢
    rw [scanFrom, chosen]
    simp [List.take_left', List.drop_left']

/-- The rules yield the token of every line, and there is always one that applies. -/
theorem scanFrom_eq (offset : Nat) (text : List Char) :
    scanFrom offset text = (Token.ofLines offset (text.splitOn '\n'), []) := by
  induction size : text.length using Nat.strongRecOn generalizing offset text with
  | ind size ih =>
    have onward {covered below : List Char} {rule : Rule} (same : text = covered ++ below)
        (some : covered ≠ []) (chosen : Rule.choose? text Rule.all = .some (covered.length, rule)) :
        scanFrom offset text = (((rule.lexeme.token? covered).map fun token =>
          (token, ⟨offset, offset + byteSize covered⟩)).toList ++
            Token.ofLines (offset + byteSize covered) (below.splitOn '\n'), []) := by
      have positive := List.length_pos_of_ne_nil some
      rw [same] at chosen ⊢
      rw [scanFrom_append some chosen, ih below.length _ _ below rfl]
      rw [← size, same, List.length_append]
      omega
    cases text with
    | nil =>
      rw [scanFrom]
      rfl
    | cons c rest =>
      by_cases blank : Token.isPadding c
      · have split : c :: rest = (c :: rest.takeWhile Token.isPadding) ++
            rest.dropWhile Token.isPadding := by simp
        have padded : ∀ d ∈ c :: rest.takeWhile Token.isPadding, Token.isPadding d :=
          List.forall_mem_cons.mpr ⟨blank, fun _ => List.mem_takeWhile_imp⟩
        rw [onward split (List.cons_ne_nil _ _) (Rule.choose?_padding rest blank), split,
          Token.ofLines_padding padded]
        rfl
      · have visible : Token.isPadding c = false := Bool.eq_false_iff.mpr blank
        by_cases inside : inLine c
        · have split : c :: rest = (c :: rest).takeWhile inLine ++ (c :: rest).dropWhile inLine :=
            List.takeWhile_append_dropWhile.symm
          have covered : (c :: rest).takeWhile inLine = c :: rest.takeWhile inLine :=
            List.takeWhile_cons_of_pos inside
          have whole : '\n' ∉ (c :: rest).takeWhile inLine :=
            fun member => by simpa [inLine] using List.mem_takeWhile_imp member
          rw [onward split (by simp [covered]) (Rule.choose?_line rest visible inside),
            Rule.token?_ofLine, split, Token.ofLines_line whole offset (dropWhile_inLine _),
            ← split, covered, Token.ofLine?_visible _ visible, Option.map_map]
          simp [Function.comp_def, Span.shift, Nat.add_comm]
        · obtain rfl : c = '\n' := by simpa [inLine] using inside
          rw [onward List.singleton_append.symm (List.cons_ne_nil _ _) (Rule.choose?_lineEnd rest),
            Token.ofLines_lineEnd]
          rfl

theorem scan_eq (source : List Char) : scan source = (tokens source, []) := scanFrom_eq 0 source

end Tale.Script
