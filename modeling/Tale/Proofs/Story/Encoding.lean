import Tale.Proofs.Dictionary
import Tale.Proofs.Json.Reading
import Tale.Story.Encoding

/-! Artifacts and their JSON form.

Every part of an artifact is read back from its form. So an artifact that is encoded and decoded again
is the same one, or the validation says why it cannot be run.
-/

set_option autoImplicit false

namespace Tale

open Json

namespace Json

theorem writtenItems_iff {items : List Json} :
    WrittenItems items ↔ ∀ item ∈ items, Written item := by
  induction items with
  | nil => simp [WrittenItems]
  | cons item rest ih => simp [WrittenItems, ih]

theorem writtenMembers_iff {members : List (Option String × Json)} :
    WrittenMembers members ↔ ∀ member ∈ members, Written member.2 := by
  induction members with
  | nil => simp [WrittenMembers]
  | cons member rest ih => simp [WrittenMembers, ih]

@[simp] theorem written_string (text : String) : Written (.string text) := trivial

@[simp] theorem written_bool (value : Bool) : Written (.bool value) := trivial

@[simp] theorem written_integer (value : Int) : Written (.integer value) := trivial

@[simp] theorem written_array {items : List Json} :
    Written (.array items) ↔ ∀ item ∈ items, Written item := by
  rw [Written, writtenItems_iff]

@[simp] theorem written_record {members : List (String × Json)} :
    Written (record members) ↔ ∀ member ∈ members, Written member.2 := by
  rw [record, Written, writtenMembers_iff, List.forall_mem_map]

theorem mapM_map {α β : Type} {write : α → β} {read : β → Option α} {items : List α}
    (back : ∀ item ∈ items, read (write item) = some item) :
    (items.map write).mapM read = some items := by
  induction items with
  | nil => rfl
  | cons item rest ih =>
    rw [List.map_cons, List.mapM_cons, back item List.mem_cons_self,
      ih fun other member => back other (List.mem_cons_of_mem _ member)]
    rfl

theorem members?_record (members : List (String × Json)) :
    (record members).members? = some members := by
  unfold record members?
  exact mapM_map fun _ _ => rfl

theorem readMap?_record {α : Type} {write : α → Json} {read : Json → Option α}
    {map : Dictionary String α} (back : ∀ entry ∈ map.entries, read (write entry.2) = some entry.2) :
    readMap? read (record (map.entries.map fun entry => (entry.1, write entry.2))) = some map := by
  unfold readMap?
  rw [members?_record]
  simp only [Option.bind_eq_bind, Option.bind_some]
  rw [mapM_map, Option.bind_some, Dictionary.ofList_entries]
  intro entry member
  rw [back entry member]
  rfl

end Json

namespace Value

theorem written_toJson (value : Value) : Written value.toJson := by
  cases value <;> simp [toJson]

theorem ofJson?_toJson (value : Value) : ofJson? value.toJson = some value := by
  cases value with
  | bool value => rfl
  | str value => rfl
  | int value =>
    simp only [toJson, ofJson?, Text.word64?_toInt, Option.map_some]

end Value

namespace Target

theorem written_toJson (target : Target) : Written target.toJson := by
  cases target <;> simp [toJson]

theorem ofJson?_toJson (target : Target) : ofJson? target.toJson = some target := by
  cases target <;> rfl

end Target

namespace ChoicePoint

theorem written_toJson (point : ChoicePoint) : Written point.toJson := by
  obtain ⟨id, text, sticky, condition, target⟩ := point
  cases condition <;> simp [toJson, Target.written_toJson]

theorem ofJson?_toJson (point : ChoicePoint) : ofJson? point.toJson = some point := by
  obtain ⟨id, text, sticky, condition, target⟩ := point
  cases condition <;>
    simp [toJson, ofJson?, record, fields?, countName, member?, readOptionalText?, bool?,
      Target.ofJson?_toJson]

end ChoicePoint

namespace Step

theorem written_toJson (step : Step) : Written step.toJson := by
  cases step <;>
    simp [toJson, Target.written_toJson, Value.written_toJson, ChoicePoint.written_toJson]

theorem ofJson?_toJson (step : Step) : ofJson? step.toJson = some step := by
  cases step with
  | text words => rfl
  | divert target => simp [toJson, ofJson?, record, Target.ofJson?_toJson]
  | set name value =>
    simp [toJson, ofJson?, record, fields?, countName, member?, Value.ofJson?_toJson]
  | choices points =>
    simp [toJson, ofJson?, record, mapM_map fun point _ => ChoicePoint.ofJson?_toJson point]

end Step

namespace Knot

theorem written_toJson (knot : Knot) : Written knot.toJson := by
  simp [toJson, Step.written_toJson]

theorem ofJson?_toJson (knot : Knot) : ofJson? knot.toJson = some knot := by
  simp [toJson, ofJson?, record, fields?, countName, member?,
    mapM_map fun step _ => Step.ofJson?_toJson step]

end Knot

theorem readWord32?_toNat (word : UInt32) : readWord32? (.integer word.toNat) = some word := by
  have fits : (0 : Int) ≤ word.toNat ∧ (word.toNat : Int).toNat < UInt32.size :=
    ⟨Int.natCast_nonneg _, by simpa using word.toNat_lt_size⟩
  rw [readWord32?, if_pos fits, Int.toNat_natCast, UInt32.ofNat_toNat]

namespace Artifact

variable (artifact : Artifact)

theorem written_toJson : Written artifact.toJson := by
  have knots : Written (record (artifact.knots.entries.map fun entry => (entry.1, entry.2.toJson))) :=
    written_record.mpr (List.forall_mem_map.mpr fun entry _ => entry.2.written_toJson)
  have globals :
      Written (record (artifact.globals.entries.map fun entry => (entry.1, entry.2.toJson))) :=
    written_record.mpr (List.forall_mem_map.mpr fun entry _ => entry.2.written_toJson)
  simp only [toJson, written_record, List.forall_mem_cons]
  exact ⟨written_integer _, written_string _, written_record.mp knots, written_record.mp globals,
    List.forall_mem_nil _⟩

theorem ofJson?_toJson : ofJson? artifact.toJson = some artifact := by
  have knots : readMap? Knot.ofJson? (record (artifact.knots.entries.map fun entry =>
      (entry.1, entry.2.toJson))) = some artifact.knots :=
    readMap?_record fun entry _ => entry.2.ofJson?_toJson
  have globals : readMap? Value.ofJson? (record (artifact.globals.entries.map fun entry =>
      (entry.1, entry.2.toJson))) = some artifact.globals :=
    readMap?_record fun entry _ => entry.2.ofJson?_toJson
  unfold toJson ofJson?
  generalize record (artifact.knots.entries.map _) = knotsForm at knots ⊢
  generalize record (artifact.globals.entries.map _) = globalsForm at globals ⊢
  simp [fields?, countName, member?, record, readWord32?_toNat, knots, globals]

theorem parse?_encode : (parse? artifact.encode.toList).bind ofJson? = some artifact := by
  rw [encode, String.toList_ofList, parse?_compact artifact.written_toJson, Option.bind_some,
    ofJson?_toJson]

theorem decode_encode : decode artifact.encode = artifact.validate.map fun _ => artifact := by
  unfold decode
  rw [parse?_encode]
  dsimp only
  cases artifact.validate <;> rfl

theorem encode_injective : Function.Injective encode := by
  intro first second same
  have back := parse?_encode first
  rw [same, parse?_encode] at back
  exact (Option.some.inj back).symm

theorem validate_of_decode {text : String} (decoded : decode text = .ok artifact) :
    artifact.validate = .ok () := by
  unfold decode at decoded
  split at decoded
  · cases decoded
  · next found read =>
    cases valid : found.validate with
    | error error =>
      rw [valid] at decoded
      cases decoded
    | ok _ =>
      rw [valid] at decoded
      cases decoded
      exact valid

omit artifact in
/-- Decoding gives back the artifact that was encoded, or says why that one is not valid. So no two
artifacts have one form, and what was decoded from any text can be encoded and decoded again. -/
theorem encoding_faithful :
    (∀ artifact : Artifact, decode artifact.encode = artifact.validate.map fun _ => artifact) ∧
    Function.Injective encode ∧
    ∀ (text : String) (artifact : Artifact), decode text = .ok artifact →
      decode artifact.encode = .ok artifact := by
  refine ⟨decode_encode, encode_injective, fun text artifact decoded => ?_⟩
  rw [decode_encode, validate_of_decode artifact decoded]
  rfl

/-- Records written as arrays, an escape, a name that occurs twice and no variables. -/
def looseText : String :=
  "[1, \"_root\", \x7b\"_root\": [[]], \"_root\": [[\x7b\"text\": \"A caf\\u00e9.\"\x7d]]\x7d]"

def looseArtifact : Artifact := ⟨1, rootKnot, .ofList [(rootKnot, ⟨[.text "A café."]⟩)], ∅⟩

theorem loose_encoding_faithful :
    decode looseText = .ok looseArtifact ∧
    decode looseArtifact.encode = .ok looseArtifact ∧ looseArtifact.encode ≠ looseText := by
  have decoded : decode looseText = .ok looseArtifact := by decide +kernel
  exact ⟨decoded, encoding_faithful.2.2 looseText looseArtifact decoded, by decide +kernel⟩

end Artifact

end Tale
