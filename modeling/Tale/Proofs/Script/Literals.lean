import Tale.Proofs.Script.LineByLine
import Tale.Proofs.Text.Cutting
import Tale.Proofs.Text.Numerals

/-! The values that lines bind to names.

A literal is a truth value, a text between double quotes, or what is a numeral once its underscores are left
out. So a line that binds a name is read as the number that its numeral stands for if a word holds this
number, and refused for its value otherwise.
-/

set_option autoImplicit false

namespace Tale

open Text

namespace Numeral

theorem mem_text {numeral : Numeral} {c : Char} (member : c ∈ numeral.text) :
    c = '+' ∨ c = '-' ∨ c.isDigit := by
  rcases List.mem_append.mp member with inSign | inDigits
  · obtain ⟨sign, -, rfl⟩ := Option.map_eq_some_iff.mp (Option.mem_toList.mp inSign)
    cases sign
    · exact .inl rfl
    · exact .inr (.inl rfl)
  · exact .inr (.inr (isDigit_of_mem_spelled inDigits))

theorem value_eq_of_text_eq {first second : Numeral} (same : first.text = second.text) :
    first.value = second.value := by
  have readFirst := integer?_eq_some_iff.mpr ⟨first, rfl, rfl⟩
  have readSecond := integer?_eq_some_iff.mpr ⟨second, rfl, rfl⟩
  rw [same, readSecond] at readFirst
  exact (Option.some.inj readFirst).symm

end Numeral

namespace Script

/-! ## Literals -/

/-- What a text stands for where a literal is expected. -/
inductive Denotes : List Char → Value → Prop where
  | yes : Denotes "true".toList (.bool true)
  | no : Denotes "false".toList (.bool false)
  | quoted (words : List Char) : Denotes ('"' :: words ++ ['"']) (.str (String.ofList words))
  | number {text : List Char} (numeral : Numeral) {word : Int64}
      (spelled : text.filter (· != '_') = numeral.text) (worth : word.toInt = numeral.value) :
      Denotes text (.int word)

theorem word64?_eq_some_iff {value : Int} {word : Int64} :
    word64? value = some word ↔ word.toInt = value := by
  constructor
  · intro read
    unfold word64? at read
    split at read
    · next within =>
      cases read
      rw [Int64.toInt_minValue, Int64.toInt_maxValue] at within
      exact Int64.toInt_ofInt_of_le within.1 (by omega)
    · cases read
  · rintro rfl
    exact word64?_toInt word

theorem unquoted?_eq_some_iff {text inner : List Char} :
    unquoted? text = some inner ↔ text = '"' :: inner ++ ['"'] := by
  constructor
  · intro read
    unfold unquoted? at read
    split at read
    · next rest =>
      split at read
      · next closed =>
        obtain ⟨front, rfl⟩ := List.getLast?_eq_some_iff.mp closed
        cases read
        rw [List.dropLast_concat, List.cons_append]
      · cases read
    · cases read
  · rintro rfl
    simp [unquoted?]

theorem plain_ne {text : List Char} {c : Char} (member : c ∈ text) (other : c ≠ '_' ∧ c ≠ '+' ∧ c ≠ '-')
    (noDigit : c.isDigit = false) (numeral : Numeral) : text.filter (· != '_') ≠ numeral.text := by
  intro same
  have kept : c ∈ text.filter (· != '_') := List.mem_filter.mpr ⟨member, bne_iff_ne.mpr other.1⟩
  rcases Numeral.mem_text (same ▸ kept) with plus | minus | digit
  · exact other.2.1 plus
  · exact other.2.2 minus
  · exact Bool.false_ne_true (noDigit.symm.trans digit)

theorem readLiteral?_eq_some_iff {text : List Char} {value : Value} :
    readLiteral? text = some value ↔ Denotes text value := by
  constructor
  · intro read
    unfold readLiteral? at read
    split at read
    · next same =>
      cases read
      exact same ▸ .yes
    split at read
    · next same =>
      cases read
      exact same ▸ .no
    split at read
    · next inner unquoted =>
      cases read
      exact unquoted?_eq_some_iff.mp unquoted ▸ .quoted inner
    · obtain ⟨word, bound, rfl⟩ := Option.map_eq_some_iff.mp read
      obtain ⟨number, known, fits⟩ := Option.bind_eq_some_iff.mp bound
      obtain ⟨numeral, spelled, worth⟩ := integer?_eq_some_iff.mp known
      exact .number numeral spelled.symm ((word64?_eq_some_iff.mp fits).trans worth.symm)
  · intro denotes
    cases denotes with
    | yes => rfl
    | no => rfl
    | quoted words =>
      have unquoted : unquoted? ('"' :: words ++ ['"']) = some words := unquoted?_eq_some_iff.mpr rfl
      rw [readLiteral?, if_neg (by simp), if_neg (by simp), unquoted]
    | number numeral spelled worth =>
      -- None of the other literals is a numeral, as there is a letter or a quote in each.
      have noTrue : text ≠ "true".toList := by
        rintro rfl
        exact plain_ne (c := 't') (by decide) (by decide) (by decide) numeral spelled
      have noFalse : text ≠ "false".toList := by
        rintro rfl
        exact plain_ne (c := 'f') (by decide) (by decide) (by decide) numeral spelled
      have unquoted : unquoted? text = none := by
        rw [Option.eq_none_iff_forall_ne_some]
        intro inner found
        rw [unquoted?_eq_some_iff.mp found] at spelled
        exact plain_ne (c := '"') (by simp) (by decide) (by decide) numeral spelled
      have known := integer?_eq_some_iff.mpr ⟨numeral, rfl, rfl⟩
      rw [readLiteral?, if_neg noTrue, if_neg noFalse, unquoted, spelled, known]
      exact congrArg (Option.map Value.int) (word64?_eq_some_iff.mpr worth)

/-! ## Lines -/

/-- A line that binds a name to a value, in pieces: the padding in front of its marker, and the name and the
value with the white space around them. -/
structure BindingLine where
  padding : List Char
  declares : Bool
  name : List Char
  value : List Char

namespace BindingLine

def marker (line : BindingLine) : String := if line.declares then "VAR" else "~"

def marked (line : BindingLine) : List Char := line.marker.toList ++ (line.name ++ '=' :: line.value)

def text (line : BindingLine) : List Char := line.padding ++ line.marked

structure Proper (line : BindingLine) : Prop where
  padded : ∀ c ∈ line.padding, Token.isPadding c
  whole : '\n' ∉ line.text
  undivided : '=' ∉ line.name
  named : isName (trim line.name)
  /-- A word is a marker only in front of a space or a tab. -/
  apart : line.declares → line.name.head? = some ' ' ∨ line.name.head? = some '\t'

def span (line : BindingLine) : Span := ⟨byteSize line.padding, byteSize line.text⟩

def item (line : BindingLine) (value : Value) : Item :=
  if line.declares then .declaration (String.ofList (trim line.name)) value
  else .assignment (String.ofList (trim line.name)) value

def body (line : BindingLine) : List Char := trimStart line.name ++ '=' :: trimEnd line.value

def token (line : BindingLine) : Token :=
  if line.declares then .declaration (String.ofList line.body) else .assignment (String.ofList line.body)

def Binds (line : BindingLine) (value : Value) : Prop :=
  readItems (tokens line.text) = [(line.item value, line.span)] ∧ readFaults (tokens line.text) = []

def Refused (line : BindingLine) : Prop :=
  readItems (tokens line.text) = [] ∧
    readFaults (tokens line.text) = [(.invalidValue (String.ofList (trim line.value)), line.span)]

theorem trimStart_append {name : List Char} (named : isName (trim name)) (behind : List Char) :
    trimStart (name ++ behind) = trimStart name ++ behind := by
  have some : (trimStart name).isEmpty = false := by
    rw [List.isEmpty_eq_false_iff]
    intro nothing
    rw [trim, nothing] at named
    cases named
  unfold trimStart at some ⊢
  rw [List.dropWhile_append, some, if_neg (by simp)]

theorem payload_marked {line : BindingLine} (named : isName (trim line.name)) :
    Token.payload line.marker line.marked = String.ofList line.body := by
  have ended : trimEnd line.marked = line.marker.toList ++ (line.name ++ '=' :: trimEnd line.value) := by
    rw [marked, ← List.append_assoc, trimEnd_append_cons (by decide), List.append_assoc]
  rw [Token.payload, ended, ← String.length_toList, List.drop_left, trim, trimStart_append named,
    trimEnd_append_cons (by decide), trimEnd_trimEnd, body]

theorem ofMarked?_marked {line : BindingLine} (proper : line.Proper) :
    Token.ofMarked? line.marked = some line.token := by
  have body := payload_marked proper.named
  unfold token
  cases declares : line.declares with
  | true =>
    have spelled : line.marked = 'V' :: 'A' :: 'R' :: (line.name ++ '=' :: line.value) := by
      simp [marked, marker, declares]
    have opens : Token.startsWithWord "VAR".toList line.marked := by
      obtain space | tab := proper.apart declares
      · obtain ⟨rest, begins⟩ := List.head?_eq_some_iff.mp space
        simp [spelled, begins, Token.startsWithWord, afterMark?]
      · obtain ⟨rest, begins⟩ := List.head?_eq_some_iff.mp tab
        simp [spelled, begins, Token.startsWithWord, afterMark?]
    have noComment : "//".toList.isPrefixOf line.marked = false := by
      rw [spelled]
      rfl
    have noInclusion : Token.startsWithWord "INCLUDE".toList line.marked = false := by
      simp [spelled, Token.startsWithWord, afterMark?]
    have same : line.marker = "VAR" := by simp [marker, declares]
    rw [same] at body
    simp only [Token.ofMarked?, noComment, noInclusion, opens, body, Bool.false_eq_true, if_false, if_true]
  | false =>
    have spelled : line.marked = '~' :: (line.name ++ '=' :: line.value) := by
      simp [marked, marker, declares]
    have same : line.marker = "~" := by simp [marker, declares]
    rw [same] at body
    rw [spelled] at body ⊢
    simp [Token.ofMarked?, Token.startsWithWord, afterMark?, body]

theorem visible_marked (line : BindingLine) :
    ∃ c rest, line.marked = c :: rest ∧ Token.isPadding c = false := by
  unfold marked marker
  cases line.declares
  · exact ⟨_, _, rfl, by decide⟩
  · exact ⟨_, _, rfl, by decide⟩

theorem tokens_text {line : BindingLine} (proper : line.Proper) :
    tokens line.text = [(line.token, line.span)] := by
  obtain ⟨c, rest, begins, visible⟩ := line.visible_marked
  have alone := Token.ofLine?_visible rest visible
  rw [← begins, ofMarked?_marked proper] at alone
  rw [tokens_line proper.whole, text, Token.ofLine?_padding proper.padded, alone]
  simp [Span.shift, span, text, byteSize_append, Nat.add_comm]

theorem readBinding_body {line : BindingLine} (proper : line.Proper) (keyword : String) :
    readBinding keyword line.body =
      match readLiteral? (trim line.value) with
      | some value => .ok (String.ofList (trim line.name), value)
      | none => .error (.invalidValue (String.ofList (trim line.value))) := by
  have absent : '=' ∉ trimStart line.name :=
    fun member => proper.undivided ((List.dropWhile_suffix _).subset member)
  have cut := cutFirst_append absent [] (trimEnd line.value)
  rw [List.append_assoc, List.singleton_append] at cut
  rw [readBinding, body, cut]
  simp only [trim_trimStart, trim_trimEnd, readName, proper.named, if_true]
  rfl

theorem ofToken_token {line : BindingLine} (proper : line.Proper) :
    Item.ofToken line.token =
      match readLiteral? (trim line.value) with
      | some value => .ok [line.item value]
      | none => .error (.invalidValue (String.ofList (trim line.value))) := by
  unfold token item
  cases line.declares <;>
    simp only [Item.ofToken, String.toList_ofList, readBinding_body proper, Bool.false_eq_true, if_false, if_true] <;>
    cases readLiteral? (trim line.value) <;> rfl

theorem Binds.of_denotes {line : BindingLine} (proper : line.Proper) {value : Value}
    (denotes : Denotes (trim line.value) value) : line.Binds value := by
  have read := ofToken_token proper
  rw [readLiteral?_eq_some_iff.mpr denotes] at read
  simp [Binds, tokens_text proper, readItems, readFaults, read]

theorem Refused.of_nothing {line : BindingLine} (proper : line.Proper)
    (nothing : ∀ value, ¬ Denotes (trim line.value) value) : line.Refused := by
  have unread : readLiteral? (trim line.value) = none :=
    Option.eq_none_iff_forall_ne_some.mpr fun value found =>
      nothing value (readLiteral?_eq_some_iff.mp found)
  have read := ofToken_token proper
  rw [unread] at read
  simp [Refused, tokens_text proper, readItems, readFaults, read]

end BindingLine

theorem denotes_of_fits {text : List Char} {numeral : Numeral}
    (spelled : text.filter (· != '_') = numeral.text)
    (fits : -2 ^ 63 ≤ numeral.value ∧ numeral.value ≤ 2 ^ 63 - 1) :
    ∃ word : Int64, word.toInt = numeral.value ∧ Denotes text (.int word) := by
  have worth : (Int64.ofInt numeral.value).toInt = numeral.value :=
    Int64.toInt_ofInt_of_le fits.1 (by omega)
  exact ⟨_, worth, .number numeral spelled worth⟩

/-- What a numeral denotes is the number that it stands for, so it denotes nothing if no word holds that. -/
theorem fits_of_denotes {text : List Char} {numeral : Numeral} {value : Value}
    (spelled : text.filter (· != '_') = numeral.text) (denotes : Denotes text value) :
    -2 ^ 63 ≤ numeral.value ∧ numeral.value ≤ 2 ^ 63 - 1 := by
  cases denotes with
  | yes => exact absurd spelled (plain_ne (c := 't') (by decide) (by decide) (by decide) numeral)
  | no => exact absurd spelled (plain_ne (c := 'f') (by decide) (by decide) (by decide) numeral)
  | quoted words => exact absurd spelled (plain_ne (c := '"') (by simp) (by decide) (by decide) numeral)
  | @number _ other word spelledToo worth =>
    have above := word.minValue_le_toInt
    have below := word.toInt_le
    rw [Int64.toInt_minValue] at above
    rw [Int64.toInt_maxValue] at below
    rw [Numeral.value_eq_of_text_eq (spelled.symm.trans spelledToo), ← worth]
    exact ⟨above, below⟩

theorem Denotes.cases {text : List Char} {value : Value} (denotes : Denotes text value) :
    text = "true".toList ∨ text = "false".toList ∨ (∃ words, text = '"' :: words ++ ['"']) ∨
      ∃ numeral : Numeral, text.filter (· != '_') = numeral.text := by
  cases denotes with
  | yes => exact .inl rfl
  | no => exact .inr (.inl rfl)
  | quoted words => exact .inr (.inr (.inl ⟨words, rfl⟩))
  | number numeral spelled _ => exact .inr (.inr (.inr ⟨numeral, spelled⟩))

/-- Integer literals are exact. A line that binds a name to a numeral, from which underscores are left out, is
read as the number that the numeral stands for if this lies between -2^63 and 2^63 - 1, and otherwise refused
for its value, however many digits there are. The words for truth and texts between double quotes are read as
themselves, and any other value is refused. -/
theorem literals_exact {line : BindingLine} (proper : line.Proper) :
    let value := trim line.value
    let plain := value.filter (· != '_')
    (∀ numeral : Numeral, plain = numeral.text →
      if -2 ^ 63 ≤ numeral.value ∧ numeral.value ≤ 2 ^ 63 - 1 then
        ∃ word : Int64, word.toInt = numeral.value ∧ line.Binds (.int word)
      else line.Refused) ∧
    (value = "true".toList → line.Binds (.bool true)) ∧
    (value = "false".toList → line.Binds (.bool false)) ∧
    (∀ words, value = '"' :: words ++ ['"'] → line.Binds (.str (String.ofList words))) ∧
    ((∀ numeral : Numeral, plain ≠ numeral.text) → value ≠ "true".toList → value ≠ "false".toList →
      (∀ words, value ≠ '"' :: words ++ ['"']) → line.Refused) := by
  intro value plain
  refine ⟨fun numeral spelled => ?_, fun same => ?_, fun same => ?_, fun words same => ?_,
    fun noNumeral noTrue noFalse unquoted => ?_⟩
  · split
    · next fits =>
      obtain ⟨word, worth, denotes⟩ := denotes_of_fits spelled fits
      exact ⟨word, worth, .of_denotes proper denotes⟩
    · next tooLarge =>
      exact .of_nothing proper fun other denotes => tooLarge (fits_of_denotes spelled denotes)
  · have denotes : Denotes value (.bool true) := same ▸ .yes
    exact .of_denotes proper denotes
  · have denotes : Denotes value (.bool false) := same ▸ .no
    exact .of_denotes proper denotes
  · have denotes : Denotes value (.str (String.ofList words)) := same ▸ .quoted words
    exact .of_denotes proper denotes
  · refine .of_nothing proper fun other denotes => ?_
    rcases denotes.cases with yes | no | ⟨words, quoted⟩ | ⟨numeral, spelled⟩
    · exact noTrue yes
    · exact noFalse no
    · exact unquoted words quoted
    · exact noNumeral numeral spelled

def debt : BindingLine where
  padding := ['\t']
  declares := true
  name := " gold\t".toList
  value := " -_9_223_372_036_854_775_808_ \r".toList

theorem debt_proper : debt.Proper where
  padded := List.all_eq_true.mp (by decide)
  whole := by decide
  undivided := by decide
  named := by decide
  apart := by decide

theorem debt_exact :
    debt.Proper ∧ debt.text = "\tVAR gold\t= -_9_223_372_036_854_775_808_ \r".toList ∧
    debt.Binds (.int Int64.minValue) := by
  refine ⟨debt_proper, by decide, ?_⟩
  obtain ⟨numerals, -⟩ := literals_exact debt_proper
  let lowest : Numeral := ⟨some .minus, [9, 2, 2, 3, 3, 7, 2, 0, 3, 6, 8, 5, 4, 7, 7, 5, 8, 0, 8], by simp⟩
  have worth : lowest.value = -2 ^ 63 := by decide +kernel
  have read := numerals lowest (by decide +kernel)
  rw [worth, if_pos (by decide)] at read
  obtain ⟨word, same, binds⟩ := read
  have lowestWord : word = Int64.minValue := Int64.toInt_inj.mp (same.trans Int64.toInt_minValue.symm)
  exact lowestWord ▸ binds

/-- One more is refused for what was written. -/
example : let line : BindingLine := { debt with value := "-9223372036854775809".toList }
    readFaults (tokens line.text) = [(.invalidValue "-9223372036854775809", ⟨1, 31⟩)] := by decide +kernel

end Script

end Tale
