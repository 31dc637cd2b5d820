import Tale.Host.Command.Basic

/-! Backslash escapes in the arguments of commands. They stand for bytes, so an octal escape need
not be part of an encoded character. -/

set_option autoImplicit false

namespace Tale.Host

def letterEscape? : Char → Option UInt8
  | 'a' => some 7
  | 'b' => some 8
  | 't' => some 9
  | 'n' => some 10
  | 'v' => some 11
  | 'f' => some 12
  | 'r' => some 13
  | '\\' => some 92
  | _ => none

def octalDigit? (c : Char) : Option Nat :=
  if '0' ≤ c ∧ c ≤ '7' then some (c.toNat - '0'.toNat) else none

def octalEscape (most : Nat) (text : List Char) : Option (UInt8 × Nat) :=
  let digits := ((text.take most).map octalDigit?).takeWhile Option.isSome
  if digits.isEmpty then none
  else some (UInt8.ofNat ((digits.filterMap id).foldl (fun value digit => 8 * value + digit) 0),
    digits.length)

/-- Resolve the escapes of a text; a backslash that begins no escape stands for itself. The number
says how many characters still belong to an escape that was read. -/
def unescapeFrom : Nat → List Char → List UInt8
  | _, [] => []
  | passed + 1, _ :: rest => unescapeFrom passed rest
  | 0, '\\' :: rest =>
    match octalEscape 3 rest with
    | some (byte, digits) => byte :: unescapeFrom digits rest
    | none =>
      match rest.head?.bind letterEscape? with
      | some byte => byte :: unescapeFrom 1 rest
      | none => 92 :: unescapeFrom 0 rest
  | 0, c :: rest => Text.encode c.toString ++ unescapeFrom 0 rest

def unescape (text : List Char) : List UInt8 := unescapeFrom 0 text

end Tale.Host
