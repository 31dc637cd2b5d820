import Tale.Json.Reader
import Tale.Json.Writer
import Tale.Story.Artifact

/-! The JSON form of artifacts. Fields stand in a fixed order and maps in the order of their keys.
Reading takes what writing produces, and also records written as arrays, unknown fields, and
absent fields that have a default. -/

set_option autoImplicit false

namespace Tale

open Json

def Value.toJson : Value → Json
  | bool value => .bool value
  | int value => .integer value.toInt
  | str value => .string value

def Target.toJson : Target → Json
  | knot name => record [("knot", .string name)]
  | ending => .string "end"

def ChoicePoint.toJson (point : ChoicePoint) : Json :=
  record ([("id", .string point.id), ("text", .string point.text), ("sticky", .bool point.sticky)] ++
    (point.condition.map fun name => ("condition", Json.string name)).toList ++
    [("target", point.target.toJson)])

def Step.toJson : Step → Json
  | text words => record [("text", .string words)]
  | divert target => record [("divert", target.toJson)]
  | set name value => record [("set", record [("name", .string name), ("value", value.toJson)])]
  | choices points => record [("choices", .array (points.map ChoicePoint.toJson))]

def Knot.toJson (knot : Knot) : Json := record [("steps", .array (knot.steps.map Step.toJson))]

def Artifact.toJson (artifact : Artifact) : Json :=
  record [
    ("format", .integer artifact.format.toNat),
    ("start", .string artifact.start),
    ("knots", record (artifact.knots.entries.map fun entry => (entry.1, entry.2.toJson))),
    ("globals", record (artifact.globals.entries.map fun entry => (entry.1, entry.2.toJson)))]

def Value.ofJson? : Json → Option Value
  | .bool value => some (.bool value)
  | .integer value => (Text.word64? value).map .int
  | .string value => some (.str value)
  | _ => none

def Target.ofJson? : Json → Option Target
  | .string "end" => some .ending
  | .object [(some "end", .null)] => some .ending
  | .object [(some "knot", .string name)] => some (.knot name)
  | _ => none

def readOptionalText? : Option Json → Option (Option String)
  | none => some none
  | some .null => some none
  | some (.string text) => some (some text)
  | _ => none

def ChoicePoint.ofJson? (value : Json) : Option ChoicePoint :=
  match fields? ["id", "text", "sticky", "condition", "target"] value with
  | some [some (.string id), some (.string text), sticky, condition, some target] => do
    let sticky ← (sticky.getD (.bool false)).bool?
    let condition ← readOptionalText? condition
    let target ← Target.ofJson? target
    some ⟨id, text, sticky, condition, target⟩
  | _ => none

def Step.ofJson? : Json → Option Step
  | .object [(some "text", .string words)] => some (.text words)
  | .object [(some "divert", target)] => (Target.ofJson? target).map .divert
  | .object [(some "choices", .array points)] => (points.mapM ChoicePoint.ofJson?).map .choices
  | .object [(some "set", fields)] =>
    match fields? ["name", "value"] fields with
    | some [some (.string name), some value] => (Value.ofJson? value).map (.set name)
    | _ => none
  | _ => none

def Knot.ofJson? (value : Json) : Option Knot :=
  match fields? ["steps"] value with
  | some [some (.array steps)] => (steps.mapM Step.ofJson?).map Knot.mk
  | _ => none

/-- A map is read from its members, of which the last one with a name counts. -/
def readMap? {α : Type} (read : Json → Option α) (value : Json) : Option (Dictionary String α) := do
  let members ← value.members?
  let entries ← members.mapM fun (name, value) => (read value).map fun value => (name, value)
  some (Dictionary.ofList entries)

def readWord32? : Json → Option UInt32
  | .integer value => if 0 ≤ value ∧ value.toNat < UInt32.size then some (UInt32.ofNat value.toNat) else none
  | _ => none

def Artifact.ofJson? (value : Json) : Option Artifact :=
  match fields? ["format", "start", "knots", "globals"] value with
  | some [some format, some (.string start), some knots, globals] => do
    let format ← readWord32? format
    let knots ← readMap? Knot.ofJson? knots
    let globals ← readMap? Value.ofJson? (globals.getD (.object []))
    some ⟨format, start, knots, globals⟩
  | _ => none

namespace Artifact

def encode (artifact : Artifact) : String := String.ofList artifact.toJson.compact

def decode (text : String) : Except StoryError Artifact :=
  match (parse? text.toList).bind ofJson? with
  | none => .error .unreadable
  | some artifact => do
    artifact.validate
    return artifact

end Artifact

end Tale
