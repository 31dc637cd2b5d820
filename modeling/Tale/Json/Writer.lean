import Tale.Json.Basic
import Tale.Text.Decimal

/-! The two written forms of JSON data: the compact one without blanks, and the indented one with
a member or an item on each line. -/

set_option autoImplicit false

namespace Tale.Json

open Text

/-- The escaped form of a character inside a text. Only quotes, backslashes and controls below
the space are escaped. -/
def writeChar (c : Char) : List Char :=
  if c = '"' then ['\\', '"']
  else if c = '\\' then ['\\', '\\']
  else if c = '\x08' then ['\\', 'b']
  else if c = '\x0c' then ['\\', 'f']
  else if c = '\n' then ['\\', 'n']
  else if c = '\r' then ['\\', 'r']
  else if c = '\t' then ['\\', 't']
  else if c.val < 0x20 then
    ['\\', 'u', '0', '0', Nat.digitChar (c.toNat / 16), Nat.digitChar (c.toNat % 16)]
  else [c]

def writeString (text : String) : List Char :=
  '"' :: text.toList.flatMap writeChar ++ ['"']

/-- A text or the name of a member; one that holds no string is written as a lone surrogate. -/
def writeText : Option String → List Char
  | some text => writeString text
  | none => "\"\\ud800\"".toList

mutual

def compact : Json → List Char
  | null => "null".toList
  | bool true => "true".toList
  | bool false => "false".toList
  | integer value => integerDigits value
  | decimal written => written.toList
  | string text => writeString text
  | unpaired => writeText none
  | array items => '[' :: compactItems items ++ [']']
  | object members => '{' :: compactMembers members ++ ['}']

def compactItems : List Json → List Char
  | [] => []
  | [item] => compact item
  | item :: rest => compact item ++ ',' :: compactItems rest

def compactMembers : List (Option String × Json) → List Char
  | [] => []
  | [(name, value)] => writeText name ++ ':' :: compact value
  | (name, value) :: rest =>
    writeText name ++ ':' :: compact value ++ ',' :: compactMembers rest

end

def newLine (depth : Nat) : List Char := '\n' :: List.replicate (2 * depth) ' '

mutual

def indentedAt (depth : Nat) : Json → List Char
  | array [] => ['[', ']']
  | array (item :: rest) => '[' :: indentedItems (depth + 1) (item :: rest) ++ newLine depth ++ [']']
  | object [] => ['{', '}']
  | object (member :: rest) =>
    '{' :: indentedMembers (depth + 1) (member :: rest) ++ newLine depth ++ ['}']
  | null => "null".toList
  | bool true => "true".toList
  | bool false => "false".toList
  | integer value => integerDigits value
  | decimal written => written.toList
  | string text => writeString text
  | unpaired => writeText none

def indentedItems (depth : Nat) : List Json → List Char
  | [] => []
  | [item] => newLine depth ++ indentedAt depth item
  | item :: rest => newLine depth ++ indentedAt depth item ++ ',' :: indentedItems depth rest

def indentedMembers (depth : Nat) : List (Option String × Json) → List Char
  | [] => []
  | [(name, value)] => newLine depth ++ writeText name ++ ':' :: ' ' :: indentedAt depth value
  | (name, value) :: rest =>
    newLine depth ++ writeText name ++ ':' :: ' ' :: indentedAt depth value ++
      ',' :: indentedMembers depth rest

end

def indented (value : Json) : List Char := indentedAt 0 value

end Tale.Json
