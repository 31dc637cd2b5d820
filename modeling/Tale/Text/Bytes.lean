/-! Texts as bytes. Bytes that encode no text can still be shown: what cannot be read of them is
replaced, piece by piece. -/

set_option autoImplicit false

namespace Tale.Text

def encode (text : String) : List UInt8 := text.toUTF8.data.toList

def decode? (bytes : List UInt8) : Option String := String.fromUTF8? ⟨bytes.toArray⟩

/-- How many bytes are to follow the first byte of a character, and the bounds of the next one. -/
def lead? (first : UInt8) : Option (Nat × UInt8 × UInt8) :=
  if 0xC2 ≤ first ∧ first ≤ 0xDF then some (1, 0x80, 0xBF)
  else if first = 0xE0 then some (2, 0xA0, 0xBF)
  else if first = 0xED then some (2, 0x80, 0x9F)
  else if 0xE1 ≤ first ∧ first ≤ 0xEF then some (2, 0x80, 0xBF)
  else if first = 0xF0 then some (3, 0x90, 0xBF)
  else if 0xF1 ≤ first ∧ first ≤ 0xF3 then some (3, 0x80, 0xBF)
  else if first = 0xF4 then some (3, 0x80, 0x8F)
  else none

def brokenRest (first : UInt8) (rest : List UInt8) : Nat :=
  match lead? first, rest with
  | some (more, low, high), second :: later =>
    if low ≤ second ∧ second ≤ high then
      1 + ((later.take (more - 1)).takeWhile fun byte => 0x80 ≤ byte && byte ≤ 0xBF).length
    else 0
  | _, _ => 0

/-- The characters of some bytes, and one in place of each piece that makes none. The number says how
many bytes still belong to a piece that was read. -/
def decodeFrom : Nat → List UInt8 → List Char
  | _, [] => []
  | passed + 1, _ :: rest => decodeFrom passed rest
  | 0, first :: rest =>
    match ByteArray.utf8DecodeChar? ⟨(first :: rest.take 3).toArray⟩ 0 with
    | some c => c :: decodeFrom (c.utf8Size - 1) rest
    | none => '\uFFFD' :: decodeFrom (brokenRest first rest) rest

def decodeLossy (bytes : List UInt8) : String :=
  (decode? bytes).getD (String.ofList (decodeFrom 0 bytes))

end Tale.Text
