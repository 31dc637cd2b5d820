import Tale.Json.Reader
import Tale.Proofs.Json.Lexing

/-! Reading what was written.

The reader completes a value exactly when it has taken the lexemes of that value, whatever is still
open around it. With the lexemes of the written form this makes reading the inverse of writing.
-/

set_option autoImplicit false

namespace Tale.Json

def readFrom (reading : Reading) (lexemes : List Lexeme) : Option Reading :=
  lexemes.foldlM Reading.step reading

theorem readFrom_cons (reading : Reading) (lexeme : Lexeme) (rest : List Lexeme) :
    readFrom reading (lexeme :: rest) =
      (reading.step lexeme).bind fun next => readFrom next rest := by
  simp [readFrom]

def readAfter (value : Json) (frames : List Frame) (rest : List Lexeme) : Option Reading :=
  (Reading.complete value frames).bind fun next => readFrom next rest

section Marks

variable (frames : List Frame) (rest : List Lexeme)

theorem readFrom_openBracket : readFrom ⟨frames, .value⟩ (.openBracket :: rest) =
    readFrom ⟨.array [] :: frames, .itemOrClose⟩ rest := readFrom_cons ..

theorem readFrom_openBrace : readFrom ⟨frames, .value⟩ (.openBrace :: rest) =
    readFrom ⟨.object [] :: frames, .nameOrClose⟩ rest := readFrom_cons ..

theorem readAfter_item (item : Json) (items : List Json) :
    readAfter item (.array items :: frames) (.closeBracket :: rest) =
        readAfter (.array (items.reverse ++ [item])) frames rest ∧
      readAfter item (.array items :: frames) (.comma :: rest) =
        readFrom ⟨.array (item :: items) :: frames, .value⟩ rest := by
  simp [readAfter, Reading.complete, readFrom_cons, Reading.step, Reading.close]

theorem readAfter_member (name : Option String) (value : Json)
    (members : List (Option String × Json)) :
    readAfter value (.member members name :: frames) (.closeBrace :: rest) =
        readAfter (.object (members.reverse ++ [(name, value)])) frames rest ∧
      readAfter value (.member members name :: frames) (.comma :: rest) =
        readFrom ⟨.object ((name, value) :: members) :: frames, .name⟩ rest := by
  simp [readAfter, Reading.complete, readFrom_cons, Reading.step, Reading.close]

theorem readFrom_name (name : Option String) (members : List (Option String × Json)) :
    readFrom ⟨.object members :: frames, .name⟩ (.text name :: .colon :: rest) =
      readFrom ⟨.member members name :: frames, .value⟩ rest := by
  simp [readFrom_cons, Reading.step, Reading.beginMember]

end Marks

theorem readFrom_itemOrClose (value : Json) (frames : List Frame) (rest : List Lexeme) :
    readFrom ⟨frames, .itemOrClose⟩ (value.lexemes ++ rest) =
      readFrom ⟨frames, .value⟩ (value.lexemes ++ rest) := by
  obtain ⟨first, later, begins, apart⟩ : ∃ first later, value.lexemes = first :: later ∧
      first ≠ .closeBracket := by
    cases value <;> simp [lexemes]
  rw [begins, List.cons_append, readFrom_cons, readFrom_cons]
  cases first with
  | closeBracket => exact absurd rfl apart
  | openBracket | openBrace | closeBrace | comma | colon | word value | text content => rfl

theorem itemLexemes_cons (item next : Json) (rest : List Json) :
    itemLexemes (item :: next :: rest) = item.lexemes ++ .comma :: itemLexemes (next :: rest) := by
  rw [itemLexemes]
  simp

theorem memberLexemes_cons (name : Option String) (value : Json) (next : Option String × Json)
    (rest : List (Option String × Json)) : memberLexemes ((name, value) :: next :: rest) =
      .text name :: .colon :: value.lexemes ++ .comma :: memberLexemes (next :: rest) := by
  rw [memberLexemes]
  simp

mutual

theorem readFrom_lexemes : ∀ (value : Json) (frames : List Frame) (rest : List Lexeme),
    readFrom ⟨frames, .value⟩ (value.lexemes ++ rest) = readAfter value frames rest
  | null, _, _ | bool _, _, _ | integer _, _, _ | decimal _, _, _ | string _, _, _
  | unpaired, _, _ => readFrom_cons ..
  | array [], frames, rest => by
    change readFrom ⟨frames, .value⟩ (.openBracket :: .closeBracket :: rest) = _
    rw [readFrom_openBracket]
    exact readFrom_cons ..
  | array (item :: items), frames, rest => by
    rw [lexemes, List.cons_append, List.cons_append, List.append_assoc, readFrom_openBracket]
    have inside := readFrom_items (item :: items) (List.cons_ne_nil _ _) [] frames rest
    cases items with
    | nil => exact (readFrom_itemOrClose item ..).trans inside
    | cons next later =>
      rw [itemLexemes_cons, List.append_assoc] at inside ⊢
      exact (readFrom_itemOrClose item ..).trans inside
  | object [], frames, rest => by
    change readFrom ⟨frames, .value⟩ (.openBrace :: .closeBrace :: rest) = _
    rw [readFrom_openBrace]
    exact readFrom_cons ..
  | object (member :: members), frames, rest => by
    rw [lexemes, List.cons_append, List.cons_append, List.append_assoc, readFrom_openBrace]
    have inside := readFrom_members (member :: members) (List.cons_ne_nil _ _) [] frames rest
    cases members with
    | nil => exact inside
    | cons next later =>
      rw [memberLexemes_cons] at inside ⊢
      exact inside

theorem readFrom_items : ∀ (items : List Json), items ≠ [] → ∀ (before : List Json)
    (frames : List Frame) (rest : List Lexeme), readFrom ⟨.array before :: frames, .value⟩
      (itemLexemes items ++ .closeBracket :: rest) =
        readAfter (.array (before.reverse ++ items)) frames rest
  | [], nonempty, _, _, _ => absurd rfl nonempty
  | [item], _, before, frames, rest => by
    rw [itemLexemes, readFrom_lexemes item]
    exact (readAfter_item frames rest item before).1
  | item :: next :: items, _, before, frames, rest => by
    rw [itemLexemes_cons, List.append_assoc, readFrom_lexemes item, List.cons_append,
      (readAfter_item frames _ item before).2, readFrom_items (next :: items) (List.cons_ne_nil _ _),
      List.reverse_cons, List.append_assoc, List.singleton_append]

theorem readFrom_members : ∀ (members : List (Option String × Json)), members ≠ [] →
    ∀ (before : List (Option String × Json)) (frames : List Frame) (rest : List Lexeme),
    readFrom ⟨.object before :: frames, .name⟩ (memberLexemes members ++ .closeBrace :: rest) =
      readAfter (.object (before.reverse ++ members)) frames rest
  | [], nonempty, _, _, _ => absurd rfl nonempty
  | [(name, value)], _, before, frames, rest => by
    rw [memberLexemes, List.cons_append, List.cons_append, readFrom_name, readFrom_lexemes value]
    exact (readAfter_member frames rest name value before).1
  | (name, value) :: next :: members, _, before, frames, rest => by
    rw [memberLexemes_cons, List.cons_append, List.cons_append, List.cons_append, List.cons_append,
      readFrom_name, List.append_assoc, readFrom_lexemes value, List.cons_append,
      (readAfter_member frames _ name value before).2,
      readFrom_members (next :: members) (List.cons_ne_nil _ _), List.reverse_cons,
      List.append_assoc, List.singleton_append]

end

/-- A text that has the lexemes of a value is read as that value. -/
theorem parse?_of_scans {text : List Char} {value : Json} (scans : Scans text value.lexemes) :
    parse? text = some value := by
  have reads : value.lexemes.foldlM Reading.step ⟨[], .value⟩ = some ⟨[], .done value⟩ := by
    have whole := readFrom_lexemes value [] []
    rwa [List.append_nil] at whole
  unfold parse?
  rw [lexemes?_of_scans scans, Option.bind_eq_bind, Option.bind_some, reads]
  rfl

/-- A written value is read as itself. -/
theorem parse?_compact {value : Json} (written : Written value) :
    parse? value.compact = some value :=
  parse?_of_scans (scans_compact written)

end Tale.Json
