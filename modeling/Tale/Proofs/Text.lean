import Mathlib.Data.List.Basic
import Tale.Text.Bytes
import Tale.Text.Decimal
import Tale.Text.Size

/-! Texts in pieces, and put together again; their sizes; numerals, and read again; texts as bytes. -/

set_option autoImplicit false

namespace Tale.Text

variable {α : Type} [DecidableEq α]

theorem not_mem_of_mem_splitOn {separator : α} (text : List α) :
    ∀ piece ∈ text.splitOn separator, separator ∉ piece := by
  induction text with
  | nil => simp [List.splitOn_nil]
  | cons c rest ih =>
    rw [List.splitOn_cons_eq_if_modifyHead]
    intro piece member
    split at member
    · rcases List.mem_cons.mp member with rfl | later
      · exact List.not_mem_nil
      · exact ih piece later
    · next other =>
      cases pieces : rest.splitOn separator with
      | nil => exact absurd pieces (List.splitOn_ne_nil _ _)
      | cons first later =>
        rw [pieces] at ih member
        rcases List.mem_cons.mp member with rfl | inLater
        · have apart : separator ≠ c := fun same => other (by simp [same])
          simp [apart, ih first List.mem_cons_self]
        · exact ih piece (List.mem_cons_of_mem _ inLater)

theorem splitOn_append_of_not_mem {separator : α} {front : List α} (whole : separator ∉ front)
    (text : List α) :
    (front ++ text).splitOn separator = (text.splitOn separator).modifyHead (front ++ ·) := by
  induction front with
  | nil =>
    rw [List.nil_append]
    cases text.splitOn separator <;> rfl
  | cons c rest ih =>
    rw [List.mem_cons, not_or] at whole
    have apart : ¬ (c == separator) := fun same => whole.1 (eq_of_beq same).symm
    rw [List.cons_append, List.splitOn_cons_eq_if_modifyHead, ih whole.2, if_neg apart,
      List.modifyHead_modifyHead]
    rfl

theorem byteSize_foldl (text : List Char) (size : Nat) :
    text.foldl (fun size c => size + c.utf8Size) size = size + byteSize text := by
  unfold byteSize
  induction text generalizing size with
  | nil => rfl
  | cons c rest ih =>
    rw [List.foldl_cons, List.foldl_cons, ih, ih (0 + c.utf8Size)]
    omega

theorem byteSize_cons (c : Char) (rest : List Char) :
    byteSize (c :: rest) = c.utf8Size + byteSize rest := by
  rw [byteSize, List.foldl_cons, byteSize_foldl, Nat.zero_add]

theorem byteSize_append (first second : List Char) :
    byteSize (first ++ second) = byteSize first + byteSize second := by
  rw [byteSize, List.foldl_append, byteSize_foldl]
  rfl

def linesOf (text : String) : List (List Char) := text.toList.splitOn '\n'

def textOf (lines : List (List Char)) : String := String.ofList (['\n'].intercalate lines)

/-- Without any line there is no text, which is read as one empty line. -/
theorem linesOf_textOf {lines : List (List Char)} (unbroken : ∀ line ∈ lines, '\n' ∉ line) :
    linesOf (textOf lines) = if lines = [] then [[]] else lines := by
  rw [linesOf, textOf, String.toList_ofList]
  split
  · next none =>
    rw [none]
    rfl
  · next some => exact List.splitOn_intercalate '\n' unbroken some

theorem isDigit_of_mem_naturalDigits {value : Nat} {c : Char} (member : c ∈ naturalDigits value) :
    c.isDigit :=
  Nat.isDigit_of_mem_toDigits (by omega) (by omega) member

theorem ofDigitChars_naturalDigits (value : Nat) :
    Nat.ofDigitChars 10 (naturalDigits value) 0 = value :=
  Nat.ofDigitChars_ten_toDigits

theorem naturalDigits_ne_nil (value : Nat) : naturalDigits value ≠ [] := Nat.toDigits_ne_nil

theorem naturalDigits_injective : Function.Injective naturalDigits := by
  intro first second same
  rw [← ofDigitChars_naturalDigits first, same, ofDigitChars_naturalDigits]

theorem head?_naturalDigits {value : Nat} (leading : (naturalDigits value).head? = some '0') :
    value = 0 := by
  induction value using Nat.strongRecOn with
  | ind value ih =>
    by_cases small : value < 10
    · rw [naturalDigits, Nat.toDigits_of_lt_base small, List.head?_singleton] at leading
      exact Nat.digitChar_eq_zero.mp (Option.some.inj leading)
    · rw [naturalDigits, Nat.toDigits_of_base_le (by omega) (by omega),
        List.head?_append_of_ne_nil _ Nat.toDigits_ne_nil] at leading
      have shorter := ih (value / 10) (by omega) leading
      omega

theorem numeral?_naturalDigits (value : Nat) : numeral? (naturalDigits value) = some value := by
  have digits : (naturalDigits value).all Char.isDigit = true :=
    List.all_eq_true.mpr fun _ => isDigit_of_mem_naturalDigits
  simp [numeral?, naturalDigits_ne_nil, digits, ofDigitChars_naturalDigits]

theorem mem_integerDigits {value : Int} {c : Char} (member : c ∈ integerDigits value) :
    c = '-' ∨ c.isDigit := by
  unfold integerDigits at member
  split at member
  · exact (List.mem_cons.mp member).imp_right isDigit_of_mem_naturalDigits
  · exact .inr (isDigit_of_mem_naturalDigits member)

theorem integerDigits_ne_nil (value : Int) : integerDigits value ≠ [] := by
  unfold integerDigits
  split
  · exact List.cons_ne_nil _ _
  · exact naturalDigits_ne_nil _

theorem integer?_integerDigits (value : Int) : integer? (integerDigits value) = some value := by
  unfold integerDigits
  split
  · next negative =>
    have magnitude : -(value.natAbs : Int) = value := by omega
    rw [integer?, numeral?_naturalDigits]
    exact congrArg some magnitude
  · next positive =>
    have magnitude : (value.natAbs : Int) = value := by omega
    have digit {c : Char} {rest : List Char} (same : naturalDigits value.natAbs = c :: rest) :
        c.isDigit := isDigit_of_mem_naturalDigits (same ▸ List.mem_cons_self)
    unfold integer?
    split
    · next same => cases digit same
    · next same => cases digit same
    · rw [numeral?_naturalDigits]
      exact congrArg some magnitude

theorem word64?_toInt (word : Int64) : word64? word.toInt = some word := by
  have within : Int64.minValue.toInt ≤ word.toInt ∧ word.toInt ≤ Int64.maxValue.toInt :=
    ⟨word.minValue_le_toInt, word.toInt_le⟩
  rw [word64?, if_pos within, Int64.ofInt_toInt]

theorem decode?_eq_some_iff {bytes : List UInt8} {text : String} :
    decode? bytes = some text ↔ encode text = bytes := by
  unfold decode? String.fromUTF8? encode
  constructor
  · intro read
    split at read
    · cases read
      simp [String.fromUTF8, String.toUTF8]
    · cases read
  · rintro rfl
    have whole : (⟨text.toUTF8.data.toList.toArray⟩ : ByteArray) = text.toUTF8 := by simp
    rw [whole]
    simp [String.isValidUTF8, String.fromUTF8]

theorem decode?_encode (text : String) : decode? (encode text) = some text :=
  decode?_eq_some_iff.mpr rfl

theorem encode_injective : Function.Injective encode := by
  intro first second same
  have back := decode?_encode first
  rw [same, decode?_encode] at back
  exact (Option.some.inj back).symm

theorem encode_eq (text : String) : encode text = text.toList.flatMap String.utf8EncodeChar := by
  unfold encode
  conv_lhs => rw [← String.ofList_toList (s := text)]
  rw [String.toUTF8_eq_toByteArray, String.toByteArray_ofList, List.utf8Encode]
  simp

@[simp] theorem encode_append (first second : String) :
    encode (first ++ second) = encode first ++ encode second := by
  simp [encode_eq]

/-- A small character is one byte, and all bytes of any other are large. -/
theorem utf8EncodeChar_cases (c : Char) :
    (c.toNat < 128 ∧ String.utf8EncodeChar c = [UInt8.ofNat c.toNat]) ∨
      (128 ≤ c.toNat ∧ String.utf8EncodeChar c ≠ [] ∧
        ∀ byte ∈ String.utf8EncodeChar c, 128 ≤ byte.toNat) := by
  have bounded : c.val.toNat < 1114112 := by
    rcases c.valid with below | above <;> omega
  unfold String.utf8EncodeChar Char.toNat
  dsimp only
  split
  · exact .inl ⟨by omega, rfl⟩
  · refine .inr ⟨by omega, ?_⟩
    split_ifs <;> simp <;> omega

section Mark

variable {mark : Char} (small : mark.toNat < 128)

include small

theorem mem_utf8EncodeChar_iff {c : Char} :
    UInt8.ofNat mark.toNat ∈ String.utf8EncodeChar c ↔ c = mark := by
  have own {other : Char} (single : other.toNat < 128) : (UInt8.ofNat other.toNat).toNat = other.toNat :=
    UInt8.toNat_ofNat_of_lt' (Nat.lt_trans single (by decide))
  rcases utf8EncodeChar_cases c with ⟨single, encoded⟩ | ⟨wide, -, large⟩
  · rw [encoded, List.mem_singleton, ← UInt8.toNat_inj, own small, own single,
      Char.toNat_inj, eq_comm]
  · constructor
    · intro member
      have above := large _ member
      rw [own small] at above
      omega
    · rintro rfl
      omega

theorem mem_encode_iff {text : String} :
    UInt8.ofNat mark.toNat ∈ encode text ↔ mark ∈ text.toList := by
  simp [encode_eq, mem_utf8EncodeChar_iff small]

theorem head?_encode_iff {text : String} :
    (encode text).head? = some (UInt8.ofNat mark.toNat) ↔ text.toList.head? = some mark := by
  rw [encode_eq]
  cases text.toList with
  | nil => simp
  | cons c rest =>
    have nonempty : String.utf8EncodeChar c ≠ [] := by
      rcases utf8EncodeChar_cases c with ⟨-, encoded⟩ | ⟨-, nonempty, -⟩
      · simp [encoded]
      · exact nonempty
    rw [List.flatMap_cons, List.head?_append_of_ne_nil _ nonempty, List.head?_cons, Option.some_inj]
    constructor
    · exact fun first => (mem_utf8EncodeChar_iff small).mp (List.mem_of_mem_head? first)
    · rintro rfl
      rcases utf8EncodeChar_cases c with ⟨-, encoded⟩ | ⟨wide, -, -⟩
      · rw [encoded, List.head?_cons]
      · omega

end Mark

end Tale.Text

theorem Tale.Span.shift_shift (span : Span) (first second : Nat) :
    (span.shift first).shift second = span.shift (second + first) := by
  simp only [Span.shift, Nat.add_assoc, Nat.add_comm first second]
