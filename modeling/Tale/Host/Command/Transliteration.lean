import Tale.Host.Command.Escape

/-! Replacing bytes by bytes: the command `tr`. A set is a row of bytes, of ranges and of named
classes; each byte of the first set becomes the one at the same place in the second, whose last
byte also stands for all places behind it. -/

set_option autoImplicit false

namespace Tale.Host.Transliteration

open Tale.Filter (Outcome)

def byteRange (first last : UInt8) : List UInt8 :=
  (List.range (last.toNat + 1 - first.toNat)).map fun place => UInt8.ofNat (first.toNat + place)

def spread : List UInt8 → List UInt8
  | first :: 45 :: last :: rest => byteRange first last ++ spread rest
  | byte :: rest => byte :: spread rest
  | [] => []

def members (set : String) : List UInt8 :=
  if set = "[:lower:]" then byteRange 97 122
  else if set = "[:upper:]" then byteRange 65 90
  else if set = "[:digit:]" then byteRange 48 57
  else if set = "[:alpha:]" then byteRange 65 90 ++ byteRange 97 122
  else if set = "[:alnum:]" then byteRange 48 57 ++ byteRange 65 90 ++ byteRange 97 122
  else if set = "[:space:]" then byteRange 9 13 ++ [32]
  else if set = "[:punct:]" then
    byteRange 33 47 ++ byteRange 58 64 ++ byteRange 91 96 ++ byteRange 123 126
  else spread (unescape set.toList)

/-- The image of a byte. Where the first set holds a byte twice, its last place counts. -/
def image (first second : List UInt8) (byte : UInt8) : UInt8 :=
  match (first.zipIdx.filter fun (member, _) => member == byte).getLast? with
  | some (_, place) => (second[place]?).getD (second.getLast?.getD byte)
  | none => byte

def squeeze (set : List UInt8) : List UInt8 → List UInt8
  | first :: second :: rest =>
    if first = second ∧ set.contains first then squeeze set (second :: rest)
    else first :: squeeze set (second :: rest)
  | rest => rest

def complaint (text : String) : Outcome :=
  .failure 1 ("tr: " ++ text ++ "\nTry 'tr --help' for more information.\n")

def run (arguments : List String) (input : List UInt8) : Outcome :=
  match arguments with
  | [] => complaint "missing operand"
  | ["-d", set] =>
    let set := members set
    .success (input.filter fun byte => !set.contains byte)
  | ["-s", set] => .success (squeeze (members set) input)
  | [first, second] =>
    let first := members first
    let second := members second
    if second.isEmpty then .failure 1
      "tr: when not truncating set1, string2 must be non-empty\n"
    else .success (input.map (image first second))
  | [only] => complaint ("missing operand after ‘" ++ only ++ "’")
  | _ :: _ :: extra :: _ => complaint ("extra operand ‘" ++ extra ++ "’")

end Tale.Host.Transliteration
