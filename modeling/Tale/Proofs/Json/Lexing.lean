import Mathlib.Data.List.TakeWhile
import Tale.Json.Lexeme
import Tale.Json.Writer
import Tale.Proofs.Text

/-! The lexemes of written data.

A number or another bare word ends where a character stands that cannot belong to it, so what is
written behind a value matters to how the value is scanned. The marks of the format and the end of the
text are such ends.
-/

set_option autoImplicit false

namespace Tale.Json

open Text

def scanFrom (scan : Scan) (text : List Char) : Option (List Lexeme) :=
  (text.foldlM Scan.step scan).bind Scan.finish

theorem scanFrom_cons (scan : Scan) (c : Char) (rest : List Char) :
    scanFrom scan (c :: rest) = (scan.step c).bind fun next => scanFrom next rest := by
  simp [scanFrom, Option.bind_assoc]

theorem scanFrom_step {scan next : Scan} {c : Char} (steps : scan.step c = some next)
    (rest : List Char) : scanFrom scan (c :: rest) = scanFrom next rest := by
  rw [scanFrom_cons, steps, Option.bind_some]

theorem scanFrom_between {before : List Lexeme} {next : Scan} {c : Char}
    (begins : beginLexeme before c = some next) (rest : List Char) :
    scanFrom ⟨.between, before⟩ (c :: rest) = scanFrom next rest :=
  scanFrom_step (show Scan.step ⟨.between, before⟩ c = some next from begins) rest

def EndsWord (text : List Char) : Prop := ∀ c ∈ text.head?, isWordPart c = false

/-- A text has some lexemes, whatever stands around it. -/
def Scans (text : List Char) (lexemes : List Lexeme) : Prop :=
  ∀ before rest, EndsWord rest →
    scanFrom ⟨.between, before⟩ (text ++ rest) = scanFrom ⟨.between, lexemes.reverse ++ before⟩ rest

theorem lexemes?_of_scans {text : List Char} {lexemes : List Lexeme} (scans : Scans text lexemes) :
    lexemes? text = some lexemes := by
  have whole := scans [] [] (by simp [EndsWord])
  simpa [scanFrom, lexemes?, Scan.finish] using whole

/-! ## Marks -/

def IsMark (c : Char) (lexeme : Lexeme) : Prop :=
  isWordPart c = false ∧ ∀ lexemes, beginLexeme lexemes c = some ⟨.between, lexeme :: lexemes⟩

theorem isMark_openBracket : IsMark '[' .openBracket := ⟨by decide, fun _ => rfl⟩

theorem isMark_closeBracket : IsMark ']' .closeBracket := ⟨by decide, fun _ => rfl⟩

theorem isMark_openBrace : IsMark '{' .openBrace := ⟨by decide, fun _ => rfl⟩

theorem isMark_closeBrace : IsMark '}' .closeBrace := ⟨by decide, fun _ => rfl⟩

theorem isMark_comma : IsMark ',' .comma := ⟨by decide, fun _ => rfl⟩

theorem isMark_colon : IsMark ':' .colon := ⟨by decide, fun _ => rfl⟩

theorem Scans.nil : Scans [] [] := fun _ _ _ => rfl

section Marks

variable {first second : List Char} {lexemes others : List Lexeme} {c : Char} {lexeme : Lexeme}

theorem Scans.mark (scans : Scans first lexemes) (mark : IsMark c lexeme)
    (after : Scans second others) : Scans (first ++ c :: second) (lexemes ++ lexeme :: others) := by
  intro before rest ends
  have stops : EndsWord (c :: (second ++ rest)) := by
    intro other head
    cases head
    exact mark.1
  calc scanFrom ⟨.between, before⟩ ((first ++ c :: second) ++ rest)
      = scanFrom ⟨.between, before⟩ (first ++ c :: (second ++ rest)) := by simp
    _ = scanFrom ⟨.between, lexemes.reverse ++ before⟩ (c :: (second ++ rest)) := scans _ _ stops
    _ = scanFrom ⟨.between, lexeme :: (lexemes.reverse ++ before)⟩ (second ++ rest) :=
        scanFrom_between (mark.2 _) _
    _ = scanFrom ⟨.between, others.reverse ++ lexeme :: (lexemes.reverse ++ before)⟩ rest :=
        after _ _ ends
    _ = scanFrom ⟨.between, (lexemes ++ lexeme :: others).reverse ++ before⟩ rest := by simp

theorem Scans.after_mark (mark : IsMark c lexeme) (after : Scans second others) :
    Scans (c :: second) (lexeme :: others) := Scans.nil.mark mark after

theorem Scans.before_mark (scans : Scans first lexemes) (mark : IsMark c lexeme) :
    Scans (first ++ [c]) (lexemes ++ [lexeme]) := scans.mark mark .nil

end Marks

/-! ## Bare words -/

theorem beginLexeme_wordPart {c : Char} (part : isWordPart c) (lexemes : List Lexeme) :
    beginLexeme lexemes c = some ⟨.inWord [c], lexemes⟩ := by
  have apart (other : Char) (alone : isWordPart other = false) : c ≠ other := by
    rintro rfl
    rw [part] at alone
    cases alone
  have noSpace : isSpace c = false := by
    simp [isSpace, apart ' ' (by decide), apart '\t' (by decide), apart '\n' (by decide),
      apart '\r' (by decide)]
  simp [beginLexeme, noSpace, part, apart '[' (by decide), apart ']' (by decide),
    apart '{' (by decide), apart '}' (by decide), apart ',' (by decide), apart ':' (by decide),
    apart '"' (by decide)]

theorem scanFrom_inWord {letters word : List Char} {value : Json}
    (parts : ∀ c ∈ word, isWordPart c) (reads : readWord (letters.reverse ++ word) = some value)
    (before : List Lexeme) {rest : List Char} (ends : EndsWord rest) :
    scanFrom ⟨.inWord letters, before⟩ (word ++ rest) =
      scanFrom ⟨.between, .word value :: before⟩ rest := by
  induction word generalizing letters with
  | nil =>
    rw [List.append_nil] at reads
    cases rest with
    | nil => simp [scanFrom, Scan.finish, reads]
    | cons c later =>
      have alone : isWordPart c = false := ends c rfl
      rw [List.nil_append, scanFrom_cons, scanFrom_cons]
      simp [Scan.step, alone, reads]
  | cons c later ih =>
    have part := parts c List.mem_cons_self
    have steps : Scan.step ⟨.inWord letters, before⟩ c = some ⟨.inWord (c :: letters), before⟩ := by
      simp [Scan.step, part]
    rw [List.cons_append, scanFrom_step steps]
    apply ih (fun other member => parts other (List.mem_cons_of_mem _ member))
    simpa using reads

theorem scans_word {word : List Char} {value : Json} (parts : ∀ c ∈ word, isWordPart c)
    (reads : readWord word = some value) : Scans word [.word value] := by
  intro before rest ends
  cases word with
  | nil => cases reads
  | cons c later =>
    rw [List.cons_append, scanFrom_between (beginLexeme_wordPart (parts c List.mem_cons_self) before)]
    apply scanFrom_inWord (fun other member => parts other (List.mem_cons_of_mem _ member)) _ before ends
    simpa using reads

/-! ## Integers -/

theorem isWordPart_of_isDigit {c : Char} (digit : c.isDigit) : isWordPart c := by
  simp [isWordPart, Char.isAlphanum, digit]

theorem isWordPart_integerDigits {value : Int} {c : Char} (member : c ∈ integerDigits value) :
    isWordPart c := by
  rcases mem_integerDigits member with rfl | digit
  · decide
  · exact isWordPart_of_isDigit digit

theorem readMagnitude_naturalDigits (negative : Bool) (value : Nat)
    (signed : negative = true → value ≠ 0) : readMagnitude negative (naturalDigits value) =
      some (.integer (if negative then -(value : Int) else value)) := by
  have digits : ∀ c ∈ naturalDigits value, c.isDigit := fun _ => isDigit_of_mem_naturalDigits
  have leading : ¬ ((naturalDigits value).head? = some '0' ∧ naturalDigits value ≠ ['0']) := by
    rintro ⟨zero, apart⟩
    rw [head?_naturalDigits zero] at apart
    exact apart rfl
  have all : (naturalDigits value).takeWhile Char.isDigit = naturalDigits value :=
    List.takeWhile_eq_self_iff.mpr digits
  have nothing : (naturalDigits value).dropWhile Char.isDigit = [] :=
    List.dropWhile_eq_nil_iff.mpr digits
  unfold readMagnitude
  dsimp only
  rw [all, nothing]
  rw [if_neg (by simpa [naturalDigits_ne_nil] using leading), if_pos (by rfl),
    ofDigitChars_naturalDigits, if_neg (by simpa using signed)]

theorem readWord_integerDigits (value : Int) :
    readWord (integerDigits value) = some (.integer value) := by
  -- None of the words of the format begins like a numeral.
  have apart (word : String) (letter : Char) (begins : word.toList.head? = some letter)
      (odd : letter.isDigit = false ∧ letter ≠ '-') : integerDigits value ≠ word.toList := by
    intro same
    have member : letter ∈ integerDigits value := by
      rw [same]
      exact List.mem_of_head? begins
    rcases mem_integerDigits member with sign | digit
    · exact odd.2 sign
    · simp [digit] at odd
  unfold readWord
  rw [if_neg (apart "null" 'n' rfl (by decide)), if_neg (apart "true" 't' rfl (by decide)),
    if_neg (apart "false" 'f' rfl (by decide))]
  unfold integerDigits
  by_cases negative : value < 0
  · rw [if_pos negative]
    change readMagnitude true (naturalDigits value.natAbs) = _
    rw [readMagnitude_naturalDigits true _ (by omega), if_pos rfl]
    congr
    omega
  · rw [if_neg negative]
    split
    · next rest minus =>
      have sign : '-' ∈ naturalDigits value.natAbs := by simp [minus]
      cases isDigit_of_mem_naturalDigits sign
    · rw [readMagnitude_naturalDigits false _ (by simp), if_neg (by simp)]
      congr
      omega

theorem scans_integer (value : Int) : Scans (integerDigits value) [.word (.integer value)] :=
  scans_word (fun _ => isWordPart_integerDigits) (readWord_integerDigits value)

/-! ## Texts -/

theorem hexDigit?_digitChar : ∀ digit < 16, hexDigit? (Nat.digitChar digit) = some digit := by
  decide

theorem scanFrom_writeChar (units : List Nat) (before : List Lexeme) (c : Char) (rest : List Char) :
    scanFrom ⟨.inText units, before⟩ (writeChar c ++ rest) =
      scanFrom ⟨.inText (c.toNat :: units), before⟩ rest := by
  have short {letter : Char} (unit : escaped? letter = some c.toNat) (other : letter ≠ 'u') :
      scanFrom ⟨.inText units, before⟩ ('\\' :: letter :: rest) =
        scanFrom ⟨.inText (c.toNat :: units), before⟩ rest := by
    have escape : Scan.step ⟨.inText units, before⟩ '\\' = some ⟨.inEscape units, before⟩ := rfl
    rw [scanFrom_step escape]
    apply scanFrom_step
    simp [Scan.step, other, unit]
  unfold writeChar
  split
  · next quote => exact short (by rw [quote]; rfl) (by decide)
  split
  · next backslash => exact short (by rw [backslash]; rfl) (by decide)
  split
  · next backspace => exact short (by rw [backspace]; rfl) (by decide)
  split
  · next formFeed => exact short (by rw [formFeed]; rfl) (by decide)
  split
  · next lineFeed => exact short (by rw [lineFeed]; rfl) (by decide)
  split
  · next carriageReturn => exact short (by rw [carriageReturn]; rfl) (by decide)
  split
  · next tab => exact short (by rw [tab]; rfl) (by decide)
  split
  · next control =>
    -- A control has a number of two hexadecimal digits.
    have below : c.toNat < 0x20 := control
    have high := hexDigit?_digitChar (c.toNat / 16) (by omega)
    have low := hexDigit?_digitChar (c.toNat % 16) (by omega)
    have number : 16 * (c.toNat / 16) + c.toNat % 16 = c.toNat := by omega
    simp [scanFrom_cons, Scan.step, high, low, number, show hexDigit? '0' = some 0 from rfl]
  · next noQuote noBackslash _ _ _ _ _ noControl =>
    apply scanFrom_step
    simp [Scan.step, noQuote, noBackslash, noControl]

theorem scanFrom_writeChars (text : List Char) (units : List Nat) (before : List Lexeme)
    (rest : List Char) : scanFrom ⟨.inText units, before⟩ (text.flatMap writeChar ++ rest) =
      scanFrom ⟨.inText ((text.map Char.toNat).reverse ++ units), before⟩ rest := by
  induction text generalizing units with
  | nil => rfl
  | cons c later ih =>
    rw [List.flatMap_cons, List.append_assoc, scanFrom_writeChar, ih]
    simp

theorem decodeUnits_toNat (text : List Char) : decodeUnits (text.map Char.toNat) = some text := by
  have paired (c : Char) : isHighSurrogate c.toNat = false ∧ isLowSurrogate c.toNat = false := by
    have valid : c.toNat < 0xD800 ∨ (0xDFFF < c.toNat ∧ c.toNat < 0x110000) := c.valid
    simp only [isHighSurrogate, isLowSurrogate, Bool.and_eq_false_iff, decide_eq_false_iff_not]
    omega
  induction text with
  | nil => rfl
  | cons c later ih =>
    cases later with
    | nil => simp [decodeUnits, paired c]
    | cons next more =>
      rw [List.map_cons, List.map_cons, decodeUnits, ← List.map_cons, ih]
      simp [paired c]

theorem scans_writeString (text : String) : Scans (writeString text) [.text (some text)] := by
  intro before rest _
  calc scanFrom ⟨.between, before⟩ (writeString text ++ rest)
      = scanFrom ⟨.inText [], before⟩ (text.toList.flatMap writeChar ++ ('"' :: rest)) := by
        rw [writeString, List.cons_append, List.cons_append, List.append_assoc]
        exact scanFrom_between rfl _
    _ = scanFrom ⟨.inText (text.toList.map Char.toNat).reverse, before⟩ ('"' :: rest) := by
        rw [scanFrom_writeChars, List.append_nil]
    _ = scanFrom ⟨.between, .text (some text) :: before⟩ rest := by
        apply scanFrom_step
        simp [Scan.step, decodeUnits_toNat]

theorem scans_writeText (name : Option String) : Scans (writeText name) [.text name] := by
  cases name with
  | some text => exact scans_writeString text
  | none =>
    intro before rest _
    change scanFrom ⟨.between, before⟩ ("\"\\ud800\"".toList ++ rest) = _
    simp [scanFrom_cons, Scan.step, beginLexeme, isSpace, hexDigit?, decodeUnits, isHighSurrogate]

/-! ## Values -/

mutual

/-- Every number in a value that is not an integer is kept as a number can be written. -/
def Written : Json → Prop
  | decimal written =>
    (∀ c ∈ written.toList, isWordPart c) ∧ readWord written.toList = some (.decimal written)
  | array items => WrittenItems items
  | object members => WrittenMembers members
  | _ => True

def WrittenItems : List Json → Prop
  | [] => True
  | item :: rest => Written item ∧ WrittenItems rest

def WrittenMembers : List (Option String × Json) → Prop
  | [] => True
  | (_, value) :: rest => Written value ∧ WrittenMembers rest

end

mutual

def lexemes : Json → List Lexeme
  | string text => [.text (some text)]
  | unpaired => [.text none]
  | array items => .openBracket :: itemLexemes items ++ [.closeBracket]
  | object members => .openBrace :: memberLexemes members ++ [.closeBrace]
  | value => [.word value]

def itemLexemes : List Json → List Lexeme
  | [] => []
  | [item] => lexemes item
  | item :: rest => lexemes item ++ .comma :: itemLexemes rest

def memberLexemes : List (Option String × Json) → List Lexeme
  | [] => []
  | [(name, value)] => .text name :: .colon :: lexemes value
  | (name, value) :: rest => .text name :: .colon :: lexemes value ++ .comma :: memberLexemes rest

end

mutual

theorem scans_compact : ∀ {value : Json}, Written value → Scans value.compact value.lexemes
  | null, _ => scans_word (List.all_eq_true.mp rfl) rfl
  | bool true, _ => scans_word (List.all_eq_true.mp rfl) rfl
  | bool false, _ => scans_word (List.all_eq_true.mp rfl) rfl
  | integer value, _ => scans_integer value
  | decimal written, spelled => by
    rw [Written] at spelled
    exact scans_word spelled.1 spelled.2
  | string text, _ => scans_writeString text
  | unpaired, _ => scans_writeText none
  | array items, inside => by
    rw [Written] at inside
    exact (Scans.after_mark isMark_openBracket (scans_compactItems inside)).before_mark
      isMark_closeBracket
  | object members, inside => by
    rw [Written] at inside
    exact (Scans.after_mark isMark_openBrace (scans_compactMembers inside)).before_mark
      isMark_closeBrace

theorem scans_compactItems : ∀ {items : List Json}, WrittenItems items →
    Scans (compactItems items) (itemLexemes items)
  | [], _ => .nil
  | [item], inside => by
    rw [WrittenItems] at inside
    exact scans_compact inside.1
  | item :: next :: rest, inside => by
    rw [WrittenItems] at inside
    exact (scans_compact inside.1).mark isMark_comma (scans_compactItems inside.2)

theorem scans_compactMembers : ∀ {members : List (Option String × Json)}, WrittenMembers members →
    Scans (compactMembers members) (memberLexemes members)
  | [], _ => .nil
  | [(name, value)], inside => by
    rw [WrittenMembers] at inside
    exact (scans_writeText name).mark isMark_colon (scans_compact inside.1)
  | (name, value) :: next :: rest, inside => by
    rw [WrittenMembers] at inside
    have member := (scans_writeText name).mark isMark_colon (scans_compact inside.1)
    exact member.mark isMark_comma (scans_compactMembers inside.2)

end

end Tale.Json
