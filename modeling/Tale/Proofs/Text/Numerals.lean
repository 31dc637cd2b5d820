import Mathlib.Data.Nat.Digits.Defs
import Tale.Text.Decimal

/-! Numerals and the numbers that they stand for.

A numeral is a row of digits, perhaps with a sign in front of it. It stands for the sum of its digits, each
times a power of ten, and for the negative of that behind a minus. Reading gives this number, however long
the row is and whatever zeros it begins with, and gives none for any other text.
-/

set_option autoImplicit false

namespace Tale

inductive Sign where
  | plus
  | minus
  deriving DecidableEq, Repr

def Sign.mark : Sign → Char
  | plus => '+'
  | minus => '-'

/-- A row of digits, of which the first counts most, perhaps with a sign in front of it. -/
structure Numeral where
  sign : Option Sign
  digits : List (Fin 10)
  filled : digits ≠ []

namespace Numeral

def spelled (digits : List (Fin 10)) : List Char := digits.map fun digit : Fin 10 => Nat.digitChar digit

def sum (digits : List (Fin 10)) : Nat := Nat.ofDigits 10 (digits.map Fin.val).reverse

def text (numeral : Numeral) : List Char :=
  (numeral.sign.map Sign.mark).toList ++ spelled numeral.digits

def value (numeral : Numeral) : Int :=
  match numeral.sign with
  | some .minus => -(sum numeral.digits : Int)
  | _ => sum numeral.digits

theorem sum_cons (digit : Fin 10) (digits : List (Fin 10)) :
    sum (digit :: digits) = digit * 10 ^ digits.length + sum digits := by
  simp [sum, Nat.ofDigits_append, Nat.add_comm, Nat.mul_comm]

theorem spelled_ne_nil {digits : List (Fin 10)} (filled : digits ≠ []) : spelled digits ≠ [] := by
  simpa [spelled] using filled

theorem isDigit_of_mem_spelled {digits : List (Fin 10)} {c : Char} (member : c ∈ spelled digits) :
    c.isDigit := by
  obtain ⟨digit, -, rfl⟩ := List.mem_map.mp member
  rw [Nat.isDigit_digitChar]
  exact decide_eq_true digit.isLt

theorem exists_digit {c : Char} (isDigit : c.isDigit) : ∃ digit : Fin 10, Nat.digitChar digit = c := by
  have bounds : 48 ≤ c.toNat ∧ c.toNat ≤ 57 := by
    simpa [Char.isDigit, UInt32.le_iff_toNat_le] using isDigit
  refine ⟨⟨c.toNat - 48, by omega⟩, Char.toNat_inj.mp ?_⟩
  rw [Nat.toNat_digitChar_of_lt_ten (by simp only; omega)]
  simp only
  omega

theorem exists_spelled {text : List Char} (digits : ∀ c ∈ text, c.isDigit) :
    ∃ row, spelled row = text := by
  induction text with
  | nil => exact ⟨[], rfl⟩
  | cons c rest ih =>
    obtain ⟨here, later⟩ := List.forall_mem_cons.mp digits
    obtain ⟨digit, rfl⟩ := exists_digit here
    obtain ⟨row, rfl⟩ := ih later
    exact ⟨digit :: row, rfl⟩

/-- Reading digit by digit multiplies by ten each time, so that each digit comes to its power of ten. -/
theorem ofDigitChars_spelled (digits : List (Fin 10)) (before : Nat) :
    Nat.ofDigitChars 10 (spelled digits) before = before * 10 ^ digits.length + sum digits := by
  induction digits generalizing before with
  | nil => simp [spelled, sum]
  | cons digit rest ih =>
    have worth : (Nat.digitChar digit).toNat - '0'.toNat = digit := by
      rw [Nat.toNat_digitChar_of_lt_ten digit.isLt]
      exact Nat.add_sub_cancel_left ..
    rw [spelled, List.map_cons, Nat.ofDigitChars_cons, ← spelled, ih, worth, sum_cons, List.length_cons]
    ring

end Numeral

namespace Text

open Numeral

theorem numeral?_eq_some_iff {text : List Char} {value : Nat} : numeral? text = some value ↔
    ∃ digits, digits ≠ [] ∧ spelled digits = text ∧ sum digits = value := by
  unfold numeral?
  constructor
  · intro read
    split at read
    · cases read
    · next proper =>
      simp only [Bool.or_eq_true, not_or, Bool.not_eq_true', Bool.not_eq_true, List.isEmpty_eq_false_iff,
        Bool.not_eq_false] at proper
      obtain ⟨filled, digits⟩ := proper
      obtain ⟨row, rfl⟩ := exists_spelled (List.all_eq_true.mp digits)
      refine ⟨row, fun none => filled (none ▸ rfl), rfl, ?_⟩
      rw [ofDigitChars_spelled, Nat.zero_mul, Nat.zero_add] at read
      exact Option.some.inj read
  · rintro ⟨digits, filled, rfl, rfl⟩
    have all : (spelled digits).all Char.isDigit :=
      List.all_eq_true.mpr fun _ => isDigit_of_mem_spelled
    rw [if_neg (by simp [spelled_ne_nil filled, all]), ofDigitChars_spelled, Nat.zero_mul, Nat.zero_add]

theorem head?_spelled (digits : List (Fin 10)) :
    (spelled digits).head? ≠ some '+' ∧ (spelled digits).head? ≠ some '-' := by
  constructor <;> intro begins <;> cases isDigit_of_mem_spelled (List.mem_of_head? begins)

theorem natural?_eq_some_iff {text : List Char} {value : Nat} : natural? text = some value ↔
    ∃ numeral : Numeral, numeral.sign ≠ some .minus ∧ numeral.text = text ∧ numeral.value = value := by
  constructor
  · intro read
    unfold natural? at read
    split at read
    · obtain ⟨digits, filled, rfl, rfl⟩ := numeral?_eq_some_iff.mp read
      exact ⟨⟨some .plus, digits, filled⟩, by simp, rfl, rfl⟩
    · obtain ⟨digits, filled, rfl, rfl⟩ := numeral?_eq_some_iff.mp read
      exact ⟨⟨none, digits, filled⟩, by simp, rfl, rfl⟩
  · rintro ⟨⟨sign, digits, filled⟩, positive, rfl, same⟩
    have read : numeral? (spelled digits) = some (sum digits) :=
      numeral?_eq_some_iff.mpr ⟨digits, filled, rfl, rfl⟩
    rcases sign with _ | (_ | _)
    · have worth : sum digits = value := Int.ofNat.inj same
      change natural? (spelled digits) = _
      unfold natural?
      split
      · next begins => exact absurd (congrArg List.head? begins) (head?_spelled digits).1
      · rw [read, worth]
    · have worth : sum digits = value := Int.ofNat.inj same
      exact read.trans (congrArg some worth)
    · exact absurd rfl positive

theorem integer?_minus (digits : List Char) :
    integer? ('-' :: digits) = (numeral? digits).map fun magnitude : Nat => -(magnitude : Int) := by
  cases read : numeral? digits <;> simp [integer?, read]

theorem integer?_plus (digits : List Char) :
    integer? ('+' :: digits) = (numeral? digits).map fun magnitude : Nat => (magnitude : Int) := by
  cases read : numeral? digits <;> simp [integer?, read]

theorem integer?_unsigned {digits : List Char} (noMinus : digits.head? ≠ some '-')
    (noPlus : digits.head? ≠ some '+') :
    integer? digits = (numeral? digits).map fun magnitude : Nat => (magnitude : Int) := by
  unfold integer?
  split
  · exact absurd rfl noMinus
  · exact absurd rfl noPlus
  · cases numeral? digits <;> rfl

/-- An integer is read from the numerals that stand for it, and from nothing else. -/
theorem integer?_eq_some_iff {text : List Char} {value : Int} : integer? text = some value ↔
    ∃ numeral : Numeral, numeral.text = text ∧ numeral.value = value := by
  constructor
  · intro read
    by_cases minus : text.head? = some '-'
    · obtain ⟨rest, rfl⟩ := List.head?_eq_some_iff.mp minus
      rw [integer?_minus] at read
      obtain ⟨magnitude, known, rfl⟩ := Option.map_eq_some_iff.mp read
      obtain ⟨digits, filled, rfl, rfl⟩ := numeral?_eq_some_iff.mp known
      exact ⟨⟨some .minus, digits, filled⟩, rfl, rfl⟩
    by_cases plus : text.head? = some '+'
    · obtain ⟨rest, rfl⟩ := List.head?_eq_some_iff.mp plus
      rw [integer?_plus] at read
      obtain ⟨magnitude, known, rfl⟩ := Option.map_eq_some_iff.mp read
      obtain ⟨digits, filled, rfl, rfl⟩ := numeral?_eq_some_iff.mp known
      exact ⟨⟨some .plus, digits, filled⟩, rfl, rfl⟩
    · rw [integer?_unsigned minus plus] at read
      obtain ⟨magnitude, known, rfl⟩ := Option.map_eq_some_iff.mp read
      obtain ⟨digits, filled, rfl, rfl⟩ := numeral?_eq_some_iff.mp known
      exact ⟨⟨none, digits, filled⟩, rfl, rfl⟩
  · rintro ⟨⟨sign, digits, filled⟩, rfl, rfl⟩
    have read : numeral? (spelled digits) = some (sum digits) :=
      numeral?_eq_some_iff.mpr ⟨digits, filled, rfl, rfl⟩
    rcases sign with _ | (_ | _)
    · obtain ⟨noPlus, noMinus⟩ := head?_spelled digits
      change integer? (spelled digits) = _
      rw [integer?_unsigned noMinus noPlus, read]
      rfl
    · change integer? ('+' :: spelled digits) = _
      rw [integer?_plus, read]
      rfl
    · change integer? ('-' :: spelled digits) = _
      rw [integer?_minus, read]
      rfl

end Text

end Tale
