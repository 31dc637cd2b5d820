import Tale.Path
import Tale.Story.Encoding
import Tale.Story.Run

/-! Units: compiled roots that are ready to be delivered. Every unit has an identity of its own, so
that a unit delivered twice is known again, and is written as a JSON envelope that keeps it. -/

set_option autoImplicit false

namespace Tale

structure UnitId where
  bits : BitVec 128
  deriving DecidableEq, Repr

namespace UnitId

/-- The identity with a serial number: version 4 and the usual variant, and the number in the
other 122 bits. -/
def ofSerial (serial : Nat) : UnitId :=
  ⟨BitVec.ofNat 48 (serial >>> 74) ++ 4#4 ++ BitVec.ofNat 12 (serial >>> 62) ++ 2#2 ++
    BitVec.ofNat 62 serial⟩

def digits (id : UnitId) : List Char :=
  (List.range 32).map fun place => Nat.digitChar ((id.bits.toNat >>> (4 * (31 - place))) % 16)

def shown (id : UnitId) : List Char :=
  let digits := id.digits
  ['-'].intercalate [digits.take 8, (digits.drop 8).take 4, (digits.drop 12).take 4,
    (digits.drop 16).take 4, digits.drop 20]

def short (id : UnitId) : List Char := id.digits.take 8

def ofDigits? (digits : List Char) : Option UnitId := do
  let values ← digits.mapM Json.hexDigit?
  if values.length = 32 then
    some ⟨BitVec.ofNat 128 (values.foldl (fun value digit => 16 * value + digit) 0)⟩
  else none

def ofGroups? (text : List Char) : Option UnitId :=
  match text.splitOn '-' with
  | [first, second, third, fourth, fifth] =>
    if [first, second, third, fourth, fifth].map List.length = [8, 4, 4, 4, 12] then
      ofDigits? (first ++ second ++ third ++ fourth ++ fifth)
    else none
  | _ => none

def parse? (text : List Char) : Option UnitId :=
  match text with
  | '{' :: inner => if inner.getLast? = some '}' then ofGroups? inner.dropLast else none
  | _ =>
    match Text.afterMark? "urn:uuid:".toList text with
    | some groups => ofGroups? groups
    | none => (ofDigits? text).or (ofGroups? text)

end UnitId

/-- A compiled root. The harness is there for test roots alone. -/
structure StoryUnit where
  id : UnitId
  root : Path
  harness : Option String
  artifact : Artifact
  deriving DecidableEq

inductive EnvelopeError where
  | malformed
  | story (error : StoryError)
  deriving DecidableEq, Repr

namespace StoryUnit

open Json

def story (unit : StoryUnit) : Except StoryError Story := Story.start unit.artifact

def toJson (unit : StoryUnit) (root : String) : Json :=
  record ([("id", Json.string (String.ofList unit.id.shown)), ("root", Json.string root)] ++
    (unit.harness.map fun harness => ("harness", Json.string harness)).toList ++
    [("artifact", unit.artifact.toJson)])

def ofJson? (value : Json) : Option StoryUnit :=
  match fields? ["id", "root", "harness", "artifact"] value with
  | some [some (.string id), some (.string root), harness, some artifact] => do
    let id ← UnitId.parse? id.toList
    let harness ← readOptionalText? harness
    let artifact ← Artifact.ofJson? artifact
    some ⟨id, root, harness, artifact⟩
  | _ => none

/-- Write an envelope, which is a text and can hold no other spelling of a root. -/
def encode? (unit : StoryUnit) : Option String :=
  unit.root.text?.map fun root => String.ofList (unit.toJson root).indented

/-- Read an envelope; the artifact in it must have the known format and its start knot. -/
def decode (text : String) : Except EnvelopeError StoryUnit :=
  match (Json.parse? text.toList).bind ofJson? with
  | none => .error .malformed
  | some unit =>
    -- Whether its targets exist is asked when a story is started.
    match unit.artifact.validate with
    | .ok () => .ok unit
    | .error error => .error (.story error)

end StoryUnit

end Tale
