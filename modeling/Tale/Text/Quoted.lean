import Tale.Text.Unprintable

/-! Quoted texts in messages. A quoted text stands between double quotes; quotes, backslashes
and the usual control characters are escaped by name, and every character that would not be
seen, or would melt into the one before it, by its number. -/

set_option autoImplicit false

namespace Tale.Text

def isShown (c : Char) : Bool :=
  if c.val < 0x7F then 0x20 ≤ c.val
  else !inRanges extendingRanges c.toNat && !inRanges unprintableRanges c.toNat

def quoteChar (c : Char) : List Char :=
  if c = '\x00' then ['\\', '0']
  else if c = '\t' then ['\\', 't']
  else if c = '\r' then ['\\', 'r']
  else if c = '\n' then ['\\', 'n']
  else if c = '\\' then ['\\', '\\']
  else if c = '"' then ['\\', '"']
  else if isShown c then [c]
  else ['\\', 'u', '{'] ++ Nat.toDigits 16 c.toNat ++ ['}']

def quote (text : List Char) : List Char := '"' :: text.flatMap quoteChar ++ ['"']

end Tale.Text
