import Tale.Proofs.Script.Inlining
import Tale.Proofs.Text.Cutting

/-! Scripts as they are written.

An item is written on a line of its own, with a marker in front that says what it is. Lines are told
apart by their markers, payloads are what is left between single spaces, and every place at which a
payload is cut can be told from what stands around it; so a script that was written from items is read
as these items.
-/

set_option autoImplicit false

namespace Tale

def Value.literal : Value → List Char
  | .str words => '"' :: (words.toList ++ ['"'])
  | value => value.shown

def Value.Unbroken : Value → Prop
  | .str words => '\n' ∉ words.toList
  | _ => True

instance : DecidablePred Value.Unbroken
  | .str words => inferInstanceAs (Decidable ('\n' ∉ words.toList))
  | .bool _ | .int _ => .isTrue trivial

namespace Script

open Text

/-! ## Writing -/

def marked (marker : String) (payload : List Char) : List Char := marker.toList ++ ' ' :: payload

def writtenBinding (name : String) (value : Value) : List Char :=
  name.toList ++ ' ' :: '=' :: ' ' :: value.literal

def ChoiceLine.written (line : ChoiceLine) : List Char :=
  (line.condition.elim [] fun name => '{' :: (name.toList ++ ['}', ' '])) ++
    (line.text.toList ++ " -> ".toList ++ line.target.toList)

def Item.written : Item → List Char
  | .inclusion path => marked "INCLUDE" path.toList
  | .declaration name value => marked "VAR" (writtenBinding name value)
  | .knot name => marked "==" (name.toList ++ " ==".toList)
  | .text words => words.toList
  | .divert target => marked "->" target.toList
  | .assignment name value => marked "~" (writtenBinding name value)
  | .choice line => marked (if line.sticky then "+" else "*") line.written
  | .note words => marked "//" (marked "TODO:" words.toList)

def scriptOf (items : List Item) (ended : Bool) : String :=
  textOf (items.map Item.written ++ if ended then [[]] else [])

/-- Each of these at the start of a line makes it something else than text. -/
def markers : List String :=
  ["//", "INCLUDE ", "INCLUDE\t", "VAR ", "VAR\t", "==", "->", "~", "*", "+"]

structure IsPhrase (words : String) : Prop where
  filled : words.toList ≠ []
  trimmed : Trimmed words.toList
  unbroken : '\n' ∉ words.toList

instance (words : String) : Decidable (IsPhrase words) :=
  decidable_of_iff (words.toList ≠ [] ∧ Trimmed words.toList ∧ '\n' ∉ words.toList)
    ⟨fun ⟨filled, trimmed, unbroken⟩ => ⟨filled, trimmed, unbroken⟩,
      fun ⟨filled, trimmed, unbroken⟩ => ⟨filled, trimmed, unbroken⟩⟩

/-- The items that can be written. -/
def Item.Writable : Item → Prop
  | .inclusion path => IsPhrase path
  | .declaration name value | .assignment name value => isName name.toList ∧ value.Unbroken
  | .knot name | .divert name => isName name.toList
  | .text words => IsPhrase words ∧ ¬ "->".toList <:+: words.toList ∧
    ∀ marker ∈ markers, ¬ marker.toList <+: words.toList
  | .choice line => IsPhrase line.text ∧ isName line.target.toList ∧
    (∀ name ∈ line.condition, isName name.toList) ∧
    (line.condition = none → line.text.toList.head? ≠ some '{')
  | .note words => Trimmed words.toList ∧ '\n' ∉ words.toList

instance : DecidablePred Item.Writable
  | .inclusion path => inferInstanceAs (Decidable (IsPhrase path))
  | .declaration name value | .assignment name value =>
    inferInstanceAs (Decidable (isName name.toList ∧ value.Unbroken))
  | .knot name | .divert name => inferInstanceAs (Decidable (isName name.toList = true))
  | .text words => inferInstanceAs (Decidable (IsPhrase words ∧ ¬ "->".toList <:+: words.toList ∧
      ∀ marker ∈ markers, ¬ marker.toList <+: words.toList))
  | .choice line => inferInstanceAs (Decidable (IsPhrase line.text ∧ isName line.target.toList ∧
      (∀ name ∈ line.condition, isName name.toList) ∧
      (line.condition = none → line.text.toList.head? ≠ some '{')))
  | .note words => inferInstanceAs (Decidable (Trimmed words.toList ∧ '\n' ∉ words.toList))

/-! ## Names and literals -/

theorem isBlank_of_isNamePart {c : Char} (part : isNamePart c) : isBlank c = false := by
  have ranges : (decide (65 ≤ c.val ∧ c.val ≤ 90) || (decide (97 ≤ c.val) && decide (c.val ≤ 122)) ||
      (decide (48 ≤ c.val) && decide (c.val ≤ 57)) || c == '_') = true := part
  simp only [Bool.or_eq_true, Bool.and_eq_true, decide_eq_true_eq, beq_iff_eq,
    UInt32.le_iff_toNat_le, UInt32.reduceToNat] at ranges
  rcases ranges with ranges | rfl
  · simp only [isBlank, UInt32.le_iff_toNat_le, Bool.or_eq_false_iff, Bool.and_eq_false_iff,
      decide_eq_false_iff_not, beq_eq_false_iff_ne, ne_eq, ← UInt32.toNat_inj, UInt32.reduceToNat]
    omega
  · decide

section Name

variable {name : List Char} (named : isName name)
include named

theorem isNamePart_of_mem_name {c : Char} (member : c ∈ name) : isNamePart c := by
  cases name with
  | nil => cases member
  | cons first rest =>
    rw [isName, Bool.and_eq_true, List.all_eq_true] at named
    rcases List.mem_cons.mp member with rfl | later
    · have start := named.1
      simp only [isNameStart, isNamePart, Char.isAlphanum, Bool.or_eq_true] at start ⊢
      tauto
    · exact named.2 c later

theorem name_ne_nil : name ≠ [] := by
  rintro rfl
  cases named

theorem trimmed_name : Trimmed name :=
  .of_forall fun _ member => isBlank_of_isNamePart (isNamePart_of_mem_name named member)

theorem not_mem_name {c : Char} (other : isNamePart c = false) : c ∉ name := by
  intro member
  cases other.symm.trans (isNamePart_of_mem_name named member)

end Name

theorem readName_name (role : Role) {name : String} (named : isName name.toList) :
    readName role name.toList = .ok name := by
  rw [readName, if_pos named, String.ofList_toList]

theorem mem_digits_cases {value : Int} {c : Char} (member : c ∈ integerDigits value) :
    isBlank c = false ∧ c ≠ '"' ∧ c ≠ '_' ∧ c ≠ 't' ∧ c ≠ 'f' := by
  have plain : c = '-' ∨ c.isDigit := mem_integerDigits member
  rcases plain with rfl | digit
  · decide
  · refine ⟨isBlank_of_isNamePart (by simp [isNamePart, Char.isAlphanum, digit]), ?_, ?_, ?_, ?_⟩ <;>
      rintro rfl <;> cases digit

theorem readLiteral?_literal (value : Value) : readLiteral? value.literal = some value := by
  cases value with
  | bool value => cases value <;> rfl
  | str words =>
    have noTrue : Value.literal (.str words) ≠ "true".toList := by simp [Value.literal]
    have noFalse : Value.literal (.str words) ≠ "false".toList := by simp [Value.literal]
    rw [readLiteral?, if_neg noTrue, if_neg noFalse]
    simp [Value.literal, unquoted?]
  | int value =>
    -- An integer begins like no other literal, and there is nothing in it to be left out.
    obtain ⟨c, rest, digits⟩ := List.exists_cons_of_ne_nil (integerDigits_ne_nil value.toInt)
    obtain ⟨-, noQuote, -, noT, noF⟩ := mem_digits_cases (digits ▸ List.mem_cons_self : c ∈ _)
    have whole : (integerDigits value.toInt).filter (· != '_') = integerDigits value.toInt := by
      rw [List.filter_eq_self]
      exact fun c member => bne_iff_ne.mpr (mem_digits_cases member).2.2.1
    have unquoted : unquoted? (integerDigits value.toInt) = none := by
      rw [digits]
      unfold unquoted?
      split
      · next same => exact absurd (List.cons.inj same).1 noQuote
      · rfl
    change readLiteral? (integerDigits value.toInt) = _
    rw [readLiteral?, if_neg (by simp [digits, noT]), if_neg (by simp [digits, noF]), unquoted, whole,
      integer?_integerDigits]
    simp [word64?_toInt]

theorem trimmed_literal (value : Value) : Trimmed value.literal ∧ value.literal ≠ [] := by
  cases value with
  | bool value => cases value <;> decide
  | str words =>
    refine ⟨⟨?_, ?_⟩, List.cons_ne_nil _ _⟩
    · rintro c ⟨⟩
      decide
    · intro c last
      rw [Value.literal, ← List.cons_append, List.getLast?_concat] at last
      cases last
      decide
  | int value =>
    exact ⟨.of_forall fun c member => (mem_digits_cases member).1, integerDigits_ne_nil _⟩

theorem unbroken_literal {value : Value} (unbroken : value.Unbroken) : '\n' ∉ value.literal := by
  cases value with
  | bool value => cases value <;> decide
  | str words =>
    have inner : '\n' ∉ words.toList := unbroken
    simp [Value.literal, inner]
  | int value =>
    intro member
    cases (mem_digits_cases member).1

theorem readBinding_written (keyword : String) {name : String} (named : isName name.toList)
    (value : Value) : readBinding keyword (writtenBinding name value) = .ok (name, value) := by
  have absent : '=' ∉ name.toList ++ [' '] := by
    simpa using not_mem_name named (c := '=') (by decide)
  have cut : cutFirst ['='] (writtenBinding name value) =
      some (name.toList ++ [' '], ' ' :: value.literal) := by
    have found := cutFirst_append absent [] (' ' :: value.literal)
    simpa [writtenBinding] using found
  simp only [readBinding, cut, (trimmed_name named).trim_append_space, readName_name _ named,
    (trimmed_literal value).1.trim_space, readLiteral?_literal]
  rfl

/-! ## Choices -/

theorem cutLast_arrow (before : List Char) {target : List Char} (named : isName target) :
    cutLast "->".toList (before ++ " -> ".toList ++ target) =
      some (before ++ [' '], ' ' :: target) := by
  have absent : '>' ∉ ' ' :: target := by
    simpa using not_mem_name named (c := '>') (by decide)
  have found := cutLast_append absent ['-'] (before ++ [' '])
  simpa using found

theorem readCondition_written {line : ChoiceLine} (phrase : IsPhrase line.text)
    (conditions : ∀ name ∈ line.condition, isName name.toList)
    (plain : line.condition = none → line.text.toList.head? ≠ some '{') :
    readCondition line.written =
      .ok (line.condition, line.text.toList ++ " -> ".toList ++ line.target.toList) := by
  obtain ⟨c, rest, text⟩ := List.exists_cons_of_ne_nil phrase.filled
  have shown : isBlank c = false := phrase.trimmed.first c (by simp [text])
  cases condition : line.condition with
  | none =>
    have apart : c ≠ '{' := by simpa [text] using plain condition
    simp only [ChoiceLine.written, condition, text, Option.elim_none, List.nil_append, List.cons_append]
    unfold readCondition
    split
    · next same => exact absurd (List.cons.inj same).1 apart
    · rfl
  | some name =>
    have named := conditions name condition
    have cut := cutFirst_append (not_mem_name named (c := '}') (by decide)) []
      (' ' :: (line.text.toList ++ " -> ".toList ++ line.target.toList))
    have written : line.written = '{' :: (name.toList ++ ['}'] ++
        ' ' :: (line.text.toList ++ " -> ".toList ++ line.target.toList)) := by
      simp [ChoiceLine.written, condition]
    have behind : trimStart (' ' :: (line.text.toList ++ " -> ".toList ++ line.target.toList)) =
        line.text.toList ++ " -> ".toList ++ line.target.toList := by
      rw [trimStart, List.dropWhile_cons_of_pos (by decide)]
      exact dropWhile_self (by simp [text, shown])
    rw [written]
    simp only [readCondition, cut, (trimmed_name named).trim_eq, readName_name _ named, behind]
    rfl

theorem trimmed_choice {line : ChoiceLine} (phrase : IsPhrase line.text)
    (named : isName line.target.toList) : Trimmed line.written ∧ line.written ≠ [] := by
  have filled : line.text.toList ++ " -> ".toList ++ line.target.toList ≠ [] := by simp
  have tail : Trimmed (line.text.toList ++ " -> ".toList ++ line.target.toList) :=
    phrase.trimmed.append phrase.filled _ (trimmed_name named) (name_ne_nil named)
  cases condition : line.condition with
  | none =>
    rw [ChoiceLine.written, condition]
    exact ⟨tail, filled⟩
  | some name =>
    refine ⟨⟨?_, ?_⟩, by simp [ChoiceLine.written, condition]⟩
    · simp only [ChoiceLine.written, condition, Option.elim_some, List.cons_append]
      rintro c ⟨⟩
      decide
    · rw [ChoiceLine.written, List.getLast?_append_of_ne_nil _ filled]
      exact tail.last

theorem readChoice_written {line : ChoiceLine} (phrase : IsPhrase line.text)
    (named : isName line.target.toList) (conditions : ∀ name ∈ line.condition, isName name.toList)
    (plain : line.condition = none → line.text.toList.head? ≠ some '{') :
    readChoice line.sticky line.written = .ok line := by
  have filled : line.text.toList.isEmpty = false := by simpa using phrase.filled
  simp only [readChoice, (trimmed_choice phrase named).1.trim_eq,
    readCondition_written phrase conditions plain]
  simp only [bind, Except.bind, cutLast_arrow _ named, phrase.trimmed.trim_append_space, filled,
    (trimmed_name named).trim_space, readName_name _ named, String.ofList_toList,
    Bool.false_eq_true, if_false]

/-! ## Tokens -/

def Item.token : Item → Token
  | .inclusion path => .inclusion path
  | .declaration name value => .declaration (String.ofList (writtenBinding name value))
  | .knot name => .heading name
  | .text words => .text words
  | .divert target => .divert target
  | .assignment name value => .assignment (String.ofList (writtenBinding name value))
  | .choice line => .choice line.sticky (String.ofList line.written)
  | .note words => .note words

theorem ofToken_token {item : Item} (writable : item.Writable) :
    Item.ofToken item.token = .ok [item] := by
  cases item with
  | inclusion path =>
    have filled : path.isEmpty = false := by
      simpa [String.isEmpty_iff] using writable.filled
    simp [Item.ofToken, Item.token, filled]
  | declaration name value | assignment name value =>
    simp only [Item.ofToken, Item.token, String.toList_ofList, readBinding_written _ writable.1]
    rfl
  | knot name | divert name =>
    simp only [Item.ofToken, Item.token, readName_name _ writable]
    rfl
  | text words =>
    obtain ⟨-, noArrow, -⟩ := writable
    simp only [Item.ofToken, Item.token, readText, cutLast_of_not_infix noArrow, String.ofList_toList]
  | choice line =>
    obtain ⟨phrase, named, conditions, plain⟩ := writable
    simp only [Item.ofToken, Item.token, String.toList_ofList,
      readChoice_written phrase named conditions plain]
    rfl
  | note words => rfl

theorem trimEnd_marked (marker : String) {payload : List Char} (trimmed : Trimmed payload)
    (filled : payload ≠ []) : trimEnd (marked marker payload) = marked marker payload := by
  have spaced : marked marker payload = (marker.toList ++ [' ']) ++ payload := by simp [marked]
  rw [spaced]
  exact dropEnd_append _ filled trimmed.last

theorem drop_marked (marker : String) (payload : List Char) :
    (marked marker payload).drop marker.length = ' ' :: payload := by
  rw [marked, ← String.length_toList, List.drop_left]

theorem payload_marked (marker : String) {payload : List Char} (trimmed : Trimmed payload)
    (filled : payload ≠ []) : Token.payload marker (marked marker payload) = String.ofList payload := by
  rw [Token.payload, trimEnd_marked marker trimmed filled, drop_marked, trimmed.trim_space]

theorem trimmed_binding {name : String} (named : isName name.toList) (value : Value) :
    Trimmed (writtenBinding name value) ∧ writtenBinding name value ≠ [] := by
  obtain ⟨trimmed, filled⟩ := trimmed_literal value
  have parts := (trimmed_name named).append (name_ne_nil named) [' ', '=', ' '] trimmed filled
  refine ⟨by simpa [writtenBinding] using parts, by simp [writtenBinding]⟩

theorem ofComment?_written {words : List Char} (trimmed : Trimmed words) :
    Token.ofComment? (marked "//" (marked "TODO:" words)) = some (.note (String.ofList words)) := by
  by_cases none : words = []
  · rw [none]
    decide
  · have inner : Trimmed (marked "TODO:" words) := by
      have mark : Trimmed "TODO:".toList := by decide
      simpa [marked] using mark.append (by decide) [' '] trimmed none
    have behind : (marked "//" (marked "TODO:" words)).drop 2 = ' ' :: marked "TODO:" words := rfl
    have after : afterMark? "TODO:".toList (marked "TODO:" words) = some (' ' :: words) := rfl
    rw [Token.ofComment?, trimEnd_marked _ inner (by simp [marked]), behind, inner.trim_space, after,
      Option.map_some, trimmed.trim_space]

theorem heading_written {name : List Char} (named : isName name) :
    trim (trimMark '=' (trimEnd (marked "==" (name ++ " ==".toList)))) = name := by
  have last : trimEnd (marked "==" (name ++ " ==".toList)) = marked "==" (name ++ " ==".toList) := by
    refine dropEnd_self fun c last => ?_
    have split : marked "==" (name ++ " ==".toList) = (marked "==" (name ++ [' ', '='])) ++ ['='] := by
      simp [marked]
    rw [split, List.getLast?_concat] at last
    cases last
    decide
  have inner : trimMark '=' (marked "==" (name ++ " ==".toList)) = ' ' :: (name ++ [' ']) := by
    have start : (marked "==" (name ++ " ==".toList)).dropWhile (· == '=') =
        ' ' :: (name ++ [' ']) ++ ['=', '='] := by simp [marked]
    rw [trimMark, start, dropEnd, List.reverse_append]
    simp
  have trimmed := (trimmed_name named).trim_append_space
  rw [last, inner, trim, trimStart, List.dropWhile_cons_of_pos (by decide)]
  exact trimmed

theorem ofMarked?_text {words : List Char} (unmarked : ∀ marker ∈ markers, ¬ marker.toList <+: words) :
    Token.ofMarked? words = some (.text (String.ofList (trimEnd words))) := by
  have noMark (marker : String) (listed : marker ∈ markers) : ¬ marker.toList.isPrefixOf words := by
    rw [List.isPrefixOf_iff_prefix]
    exact unmarked marker listed
  -- A word is a marker only with the space or the tab behind it.
  have noWord (word : String) (spaced : word ++ " " ∈ markers) (tabbed : word ++ "\t" ∈ markers) :
      ¬ Token.startsWithWord word.toList words := by
    have noSpace := unmarked _ spaced
    have noTab := unmarked _ tabbed
    rw [Token.startsWithWord, afterMark?]
    split
    · next c rest after =>
      split at after
      · next starts =>
        obtain ⟨behind, rfl⟩ := List.isPrefixOf_iff_prefix.mp starts
        rw [List.drop_left, Option.some.injEq] at after
        subst after
        simp only [Bool.or_eq_true, beq_iff_eq]
        rintro (rfl | rfl)
        · exact noSpace ⟨rest, by simp⟩
        · exact noTab ⟨rest, by simp⟩
      · cases after
    · exact Bool.false_ne_true
  rw [Token.ofMarked?, if_neg (noMark "//" (by decide)), if_neg (noWord "INCLUDE" (by decide) (by decide)),
    if_neg (noWord "VAR" (by decide) (by decide)), if_neg (noMark "==" (by decide)),
    if_neg (noMark "->" (by decide)), if_neg (noMark "~" (by decide)), if_neg (noMark "*" (by decide)),
    if_neg (noMark "+" (by decide))]

theorem ofMarked?_written {item : Item} (writable : item.Writable) :
    Token.ofMarked? item.written = some item.token := by
  cases item with
  | inclusion path =>
    have body := payload_marked "INCLUDE" writable.trimmed writable.filled
    rw [String.ofList_toList] at body
    exact congrArg (fun path => some (Token.inclusion path)) body
  | declaration name value =>
    obtain ⟨trimmed, filled⟩ := trimmed_binding writable.1 value
    exact congrArg (fun body => some (Token.declaration body)) (payload_marked "VAR" trimmed filled)
  | knot name =>
    have body := congrArg String.ofList (heading_written writable)
    rw [String.ofList_toList] at body
    exact congrArg (fun name => some (Token.heading name)) body
  | text words =>
    obtain ⟨phrase, -, unmarked⟩ := writable
    rw [Item.written, ofMarked?_text unmarked, trimEnd, dropEnd_self phrase.trimmed.last,
      String.ofList_toList]
    rfl
  | divert target =>
    have body := payload_marked "->" (trimmed_name writable) (name_ne_nil writable)
    rw [String.ofList_toList] at body
    exact congrArg (fun target => some (Token.divert target)) body
  | assignment name value =>
    obtain ⟨trimmed, filled⟩ := trimmed_binding writable.1 value
    exact congrArg (fun body => some (Token.assignment body)) (payload_marked "~" trimmed filled)
  | choice line =>
    obtain ⟨trimmed, filled⟩ := trimmed_choice writable.1 writable.2.1
    cases sticky : line.sticky with
    | false =>
      have body := payload_marked "*" trimmed filled
      simp only [Item.written, Item.token, sticky, Bool.false_eq_true, if_false]
      exact congrArg (fun body => some (Token.choice false body)) body
    | true =>
      have body := payload_marked "+" trimmed filled
      simp only [Item.written, Item.token, sticky, if_true]
      exact congrArg (fun body => some (Token.choice true body)) body
  | note words =>
    have body := ofComment?_written writable.1
    rw [String.ofList_toList] at body
    exact body

/-! ## Lines -/

theorem head_written {item : Item} (writable : item.Writable) :
    ∃ c rest, item.written = c :: rest ∧ isBlank c = false := by
  cases item with
  | text words =>
    obtain ⟨c, rest, same⟩ := List.exists_cons_of_ne_nil writable.1.filled
    exact ⟨c, rest, same, writable.1.trimmed.first c (by simp [same])⟩
  | choice line =>
    cases sticky : line.sticky with
    | false => exact ⟨'*', _, by simp only [Item.written, sticky]; rfl, by decide⟩
    | true => exact ⟨'+', _, by simp only [Item.written, sticky]; rfl, by decide⟩
  | inclusion path | declaration name value | knot name | divert target | assignment name value
  | note words => exact ⟨_, _, rfl, by decide⟩

theorem unbroken_name {name : List Char} (named : isName name) : '\n' ∉ name :=
  not_mem_name named (by decide)

theorem unbroken_written {item : Item} (writable : item.Writable) : '\n' ∉ item.written := by
  cases item with
  | inclusion path =>
    have inner := writable.unbroken
    simp [Item.written, marked, inner]
  | declaration name value | assignment name value =>
    have first := unbroken_name writable.1
    have second := unbroken_literal writable.2
    simp [Item.written, marked, writtenBinding, first, second]
  | knot name | divert name =>
    have inner := unbroken_name writable
    simp [Item.written, marked, inner]
  | text words => exact writable.1.unbroken
  | choice line =>
    obtain ⟨phrase, named, conditions, -⟩ := writable
    have words := phrase.unbroken
    have target := unbroken_name named
    have mark : '\n' ∉ (if line.sticky then "+" else "*" : String).toList := by
      cases line.sticky <;> decide
    cases condition : line.condition with
    | none => simp [Item.written, marked, ChoiceLine.written, condition, mark, words, target]
    | some name =>
      have inner := unbroken_name (conditions name condition)
      simp [Item.written, marked, ChoiceLine.written, condition, mark, words, target, inner]
  | note words =>
    have inner := writable.2
    simp [Item.written, marked, inner]

theorem readLine_written {item : Item} (writable : item.Writable) :
    readLine item.written = .ok [item] := by
  obtain ⟨c, rest, same, shown⟩ := head_written writable
  -- Padding is white space, with which no line that was written begins.
  have unpadded : Token.isPadding c = false := by
    refine Bool.eq_false_iff.mpr fun padding => ?_
    simp only [Token.isPadding, Bool.or_eq_true, beq_iff_eq] at padding
    rcases padding with (rfl | rfl) | rfl <;> cases shown
  have token := ofMarked?_written writable
  rw [same] at token ⊢
  simp only [readLine, Token.ofLine?, List.dropWhile_cons, unpadded, Bool.false_eq_true, if_false, token,
    Option.map_some]
  exact ofToken_token writable

theorem itemsOfLines_written {items : List Item} (writable : ∀ item ∈ items, item.Writable) :
    itemsOfLines (items.map Item.written) = items := by
  induction items with
  | nil => rfl
  | cons item rest ih =>
    rw [List.forall_mem_cons] at writable
    have own : lineItems item.written = [item] := by
      rw [lineItems, readLine_written writable.1]
      rfl
    rw [List.map_cons, itemsOfLines, List.flatMap_cons, own, ← itemsOfLines, ih writable.2,
      List.singleton_append]

/-- A script that was written from items is read without a fault, as these items in their order. -/
theorem read_scriptOf {items : List Item} (writable : ∀ item ∈ items, item.Writable) (ended : Bool) :
    readFaults (tokens (scriptOf items ended).toList) = [] ∧
      (readItems (tokens (scriptOf items ended).toList)).map Prod.fst = items := by
  have blank : readLine [] = .ok [] := rfl
  have lines : ∀ line ∈ items.map Item.written ++ (if ended then [[]] else []),
      line = [] ∨ ∃ item ∈ items, line = item.written := by
    intro line member
    rcases List.mem_append.mp member with own | last
    · obtain ⟨item, listed, rfl⟩ := List.mem_map.mp own
      exact .inr ⟨item, listed, rfl⟩
    · cases ended with
      | false => cases last
      | true => exact .inl (List.mem_singleton.mp last)
  have unbroken : ∀ line ∈ items.map Item.written ++ (if ended then [[]] else []), '\n' ∉ line := by
    intro line member
    rcases lines line member with rfl | ⟨item, listed, rfl⟩
    · exact List.not_mem_nil
    · exact unbroken_written (writable item listed)
  constructor
  · refine (readFaults_eq_nil_iff 0 _).mpr
      ((forall_linesOf_textOf Readable ⟨[], blank⟩ unbroken).mpr fun line member => ?_)
    rcases lines line member with rfl | ⟨item, listed, rfl⟩
    · exact ⟨[], blank⟩
    · exact ⟨[item], readLine_written (writable item listed)⟩
  · have last : itemsOfLines (if ended then [[]] else []) = [] := by cases ended <;> rfl
    refine (map_fst_itemsFrom 0 _).trans ?_
    change itemsOfLines (linesOf (scriptOf items ended)) = items
    rw [scriptOf, itemsOfLines_textOf unbroken, itemsOfLines_append, last, List.append_nil,
      itemsOfLines_written writable]

def riddles : List Item := [
  .inclusion "a -> b // c",
  .declaration "score" (.int (-9223372036854775808)),
  .knot "END_",
  .text "INCLUDE",
  .assignment "reply" (.str "\"a = b\" -> \x7bc\x7d"),
  .choice ⟨false, some "seen", "\x7bAgain\x7d -> and -> again", "END_"⟩,
  .choice ⟨true, none, "* = * \x7bx\x7d", "END"⟩,
  .note "",
  .divert "END"]

theorem riddles_read :
    (∀ item ∈ riddles, item.Writable) ∧
    scriptOf riddles true = "INCLUDE a -> b // c\nVAR score = -9223372036854775808\n== END_ ==\nINCLUDE\n" ++
      "~ reply = \"\"a = b\" -> \x7bc\x7d\"\n* \x7bseen\x7d \x7bAgain\x7d -> and -> again -> END_\n" ++
      "+ * = * \x7bx\x7d -> END\n// TODO: \n-> END\n" ∧
    readFaults (tokens (scriptOf riddles true).toList) = [] ∧
      (readItems (tokens (scriptOf riddles true).toList)).map Prod.fst = riddles := by
  have writable : ∀ item ∈ riddles, item.Writable := by decide +kernel
  exact ⟨writable, by decide +kernel, read_scriptOf writable true⟩

end Script

end Tale
