import Tale.Json.Basic
import Tale.Text.Decimal

/-! The lexemes of JSON text, found in one pass over its characters. The pass stands in one of a
few modes: between lexemes, inside a bare word, or inside a text. -/

set_option autoImplicit false

namespace Tale.Json

open Text

/-- A lexeme; bare words are already read as the values that they stand for. -/
inductive Lexeme where
  | openBracket
  | closeBracket
  | openBrace
  | closeBrace
  | comma
  | colon
  | word (value : Json)
  | text (content : Option String)
  deriving Repr

/-- Where a pass stands; collected parts come last first. A text is collected as the numbers that
its characters and escapes stand for. -/
inductive Mode where
  | between
  | inWord (letters : List Char)
  | inText (units : List Nat)
  | inEscape (units : List Nat)
  | inNumber (units : List Nat) (digits : Nat) (value : Nat)
  deriving Repr

structure Scan where
  mode : Mode
  lexemes : List Lexeme
  deriving Repr

def isHighSurrogate (unit : Nat) : Bool := 0xD800 ≤ unit && unit ≤ 0xDBFF

def isLowSurrogate (unit : Nat) : Bool := 0xDC00 ≤ unit && unit ≤ 0xDFFF

/-- The characters that some units stand for; an unpaired surrogate stands for none. -/
def decodeUnits : List Nat → Option (List Char)
  | [] => some []
  | [unit] =>
    if isHighSurrogate unit || isLowSurrogate unit then none else some [Char.ofNat unit]
  | unit :: next :: rest =>
    if isHighSurrogate unit then
      if isLowSurrogate next then
        (decodeUnits rest).map
          (Char.ofNat (0x10000 + (unit - 0xD800) * 0x400 + (next - 0xDC00)) :: ·)
      else none
    else if isLowSurrogate unit then none
    else (decodeUnits (next :: rest)).map (Char.ofNat unit :: ·)

def isExponent : List Char → Bool
  | [] => true
  | mark :: rest =>
    (mark == 'e' || mark == 'E') &&
      match rest with
      | '+' :: digits => (numeral? digits).isSome
      | '-' :: digits => (numeral? digits).isSome
      | digits => (numeral? digits).isSome

def isFraction : List Char → Bool
  | '.' :: rest =>
    let digits := rest.takeWhile Char.isDigit
    !digits.isEmpty && isExponent (rest.dropWhile Char.isDigit)
  | rest => isExponent rest

def readMagnitude (negative : Bool) (text : List Char) : Option Json :=
  let digits := text.takeWhile Char.isDigit
  let rest := text.dropWhile Char.isDigit
  let written := String.ofList (if negative then '-' :: text else text)
  if digits.isEmpty || (digits.head? == some '0' && digits != ['0']) then none
  else if rest.isEmpty then
    let value := Nat.ofDigitChars 10 digits 0
    if negative && value == 0 then some (.decimal written)
    else some (.integer (if negative then -(value : Int) else value))
  else if isFraction rest then some (.decimal written)
  else none

def readWord (letters : List Char) : Option Json :=
  if letters = "null".toList then some .null
  else if letters = "true".toList then some (.bool true)
  else if letters = "false".toList then some (.bool false)
  else match letters with
    | '-' :: rest => readMagnitude true rest
    | _ => readMagnitude false letters

def isSpace (c : Char) : Bool := c == ' ' || c == '\t' || c == '\n' || c == '\r'

def isWordPart (c : Char) : Bool := c.isAlphanum || c == '+' || c == '-' || c == '.'

def escaped? (c : Char) : Option Nat :=
  if c = '"' then some 0x22
  else if c = '\\' then some 0x5C
  else if c = '/' then some 0x2F
  else if c = 'b' then some 0x08
  else if c = 'f' then some 0x0C
  else if c = 'n' then some 0x0A
  else if c = 'r' then some 0x0D
  else if c = 't' then some 0x09
  else none

def hexDigit? (c : Char) : Option Nat :=
  if '0' ≤ c ∧ c ≤ '9' then some (c.toNat - '0'.toNat)
  else if 'a' ≤ c ∧ c ≤ 'f' then some (c.toNat - 'a'.toNat + 10)
  else if 'A' ≤ c ∧ c ≤ 'F' then some (c.toNat - 'A'.toNat + 10)
  else none

def beginLexeme (lexemes : List Lexeme) (c : Char) : Option Scan :=
  if isSpace c then some ⟨.between, lexemes⟩
  else if c = '[' then some ⟨.between, .openBracket :: lexemes⟩
  else if c = ']' then some ⟨.between, .closeBracket :: lexemes⟩
  else if c = '{' then some ⟨.between, .openBrace :: lexemes⟩
  else if c = '}' then some ⟨.between, .closeBrace :: lexemes⟩
  else if c = ',' then some ⟨.between, .comma :: lexemes⟩
  else if c = ':' then some ⟨.between, .colon :: lexemes⟩
  else if c = '"' then some ⟨.inText [], lexemes⟩
  else if isWordPart c then some ⟨.inWord [c], lexemes⟩
  else none

def Scan.step (scan : Scan) (c : Char) : Option Scan :=
  match scan.mode with
  | .between => beginLexeme scan.lexemes c
  | .inWord letters =>
    if isWordPart c then some ⟨.inWord (c :: letters), scan.lexemes⟩
    else (readWord letters.reverse).bind fun value => beginLexeme (.word value :: scan.lexemes) c
  | .inText units =>
    if c = '"' then
      some ⟨.between, .text ((decodeUnits units.reverse).map String.ofList) :: scan.lexemes⟩
    else if c = '\\' then some ⟨.inEscape units, scan.lexemes⟩
    else if c.val < 0x20 then none
    else some ⟨.inText (c.toNat :: units), scan.lexemes⟩
  | .inEscape units =>
    if c = 'u' then some ⟨.inNumber units 0 0, scan.lexemes⟩
    else (escaped? c).map fun unit => ⟨.inText (unit :: units), scan.lexemes⟩
  | .inNumber units digits value =>
    (hexDigit? c).map fun digit =>
      let value := 16 * value + digit
      if digits = 3 then ⟨.inText (value :: units), scan.lexemes⟩
      else ⟨.inNumber units (digits + 1) value, scan.lexemes⟩

/-- End the text: a bare word may be open, a text may not. -/
def Scan.finish (scan : Scan) : Option (List Lexeme) :=
  match scan.mode with
  | .between => some scan.lexemes.reverse
  | .inWord letters =>
    (readWord letters.reverse).map fun value => (.word value :: scan.lexemes).reverse
  | _ => none

def lexemes? (text : List Char) : Option (List Lexeme) :=
  (text.foldlM Scan.step ⟨.between, []⟩).bind Scan.finish

end Tale.Json
