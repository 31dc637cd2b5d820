import Mathlib.Algebra.Group.Nat.Defs
import Tale.Project.StoryUnit
import Tale.Proofs.Json.Indenting
import Tale.Proofs.Path
import Tale.Proofs.Story.Closed
import Tale.Proofs.Story.Encoding

/-! Units and their envelopes.

An identity is read back from its groups of digits, and every part of a unit from the envelope. So what is
read from the envelope of a unit is that unit, if its artifact is valid. A unit has an envelope if its root
is spelled as a text.
-/

set_option autoImplicit false

namespace Tale

open Json

namespace UnitId

def nibbles (count value : Nat) : List Nat :=
  (List.range count).map fun place => (value >>> (4 * (count - 1 - place))) % 16

-- The last digit is split off, as the digits are folded from the first.
theorem nibbles_succ (count value : Nat) :
    nibbles (count + 1) value = nibbles count (value / 16) ++ [value % 16] := by
  unfold nibbles
  rw [List.range_succ, List.map_append]
  congr 1
  · refine List.map_congr_left fun place member => ?_
    have below : place < count := List.mem_range.mp member
    have shift : 4 * (count + 1 - 1 - place) = 4 + 4 * (count - 1 - place) := by omega
    rw [shift, Nat.shiftRight_add, Nat.shiftRight_eq_div_pow value 4]
  · simp

theorem foldl_nibbles (count value : Nat) :
    (nibbles count value).foldl (fun value digit => 16 * value + digit) 0 = value % 16 ^ count := by
  induction count generalizing value with
  | zero => simp [nibbles, Nat.mod_one]
  | succ count ih =>
    rw [nibbles_succ, List.foldl_append, ih, List.foldl_cons, List.foldl_nil, Nat.pow_succ',
      Nat.mod_mul, Nat.add_comm]

variable (id : UnitId)

theorem digits_eq : id.digits = (nibbles 32 id.bits.toNat).map Nat.digitChar := by
  simp [digits, nibbles, Function.comp_def]

theorem length_digits : id.digits.length = 32 := by simp [digits]

theorem mapM_digits : id.digits.mapM hexDigit? = some (nibbles 32 id.bits.toNat) := by
  rw [digits_eq]
  refine Json.mapM_map fun digit member => hexDigit?_digitChar digit ?_
  obtain ⟨place, -, rfl⟩ := List.mem_map.mp member
  exact Nat.mod_lt _ (by decide)

theorem ofDigits?_digits : ofDigits? id.digits = some id := by
  have whole : BitVec.ofNat 128 (id.bits.toNat % 16 ^ 32) = id.bits := by
    rw [Nat.mod_eq_of_lt (by exact id.bits.isLt), BitVec.ofNat_toNat, BitVec.setWidth_eq]
  unfold ofDigits?
  rw [mapM_digits]
  simp only [Option.bind_eq_bind, Option.bind_some]
  rw [if_pos (by simp [nibbles]), foldl_nibbles, whole]

def groups : List (List Char) :=
  [id.digits.take 8, (id.digits.drop 8).take 4, (id.digits.drop 12).take 4,
    (id.digits.drop 16).take 4, id.digits.drop 20]

theorem shown_eq : id.shown = ['-'].intercalate id.groups := rfl

theorem flatten_groups : id.groups.flatten = id.digits := by
  have split (start count : Nat) : (id.digits.drop start).take count ++ id.digits.drop (start + count) =
      id.digits.drop start := by
    rw [← List.drop_drop, List.take_append_drop]
  simp only [groups, List.flatten_cons, List.flatten_nil, List.append_nil]
  rw [split 16 4, split 12 4, split 8 4, List.take_append_drop]

theorem hexDigit?_of_mem_digits {c : Char} (member : c ∈ id.digits) : (hexDigit? c).isSome := by
  rw [digits_eq] at member
  obtain ⟨digit, inside, rfl⟩ := List.mem_map.mp member
  obtain ⟨place, -, rfl⟩ := List.mem_map.mp inside
  rw [hexDigit?_digitChar _ (Nat.mod_lt _ (by decide))]
  rfl

theorem mem_groups {group : List Char} (member : group ∈ id.groups) {c : Char} (inside : c ∈ group) :
    (hexDigit? c).isSome := by
  apply id.hexDigit?_of_mem_digits
  rw [← id.flatten_groups]
  exact List.mem_flatten.mpr ⟨group, member, inside⟩

theorem head?_shown {c : Char} (head : id.shown.head? = some c) : (hexDigit? c).isSome := by
  apply id.hexDigit?_of_mem_digits
  obtain ⟨first, rest, digits⟩ : ∃ first rest, id.digits = first :: rest :=
    List.exists_cons_of_ne_nil fun empty => by simpa [empty] using id.length_digits
  have begins : id.shown = first :: (id.shown).tail := by
    rw [shown, digits]
    rfl
  rw [begins] at head
  cases head
  rw [digits]
  exact List.mem_cons_self

theorem ofGroups?_shown : ofGroups? id.shown = some id := by
  have split : id.shown.splitOn '-' = id.groups := by
    rw [shown_eq]
    refine List.splitOn_intercalate '-' (fun group member hyphen => ?_) (by simp [groups])
    exact absurd (id.mem_groups member hyphen) (by decide)
  have whole := id.flatten_groups
  unfold ofGroups?
  rw [split]
  simp only [groups, List.flatten_cons, List.flatten_nil, List.append_nil] at whole ⊢
  -- The groups have the lengths that are asked for, and make up the digits.
  rw [if_pos (by simp [length_digits])]
  simp only [List.append_assoc]
  rw [whole, ofDigits?_digits]

theorem ofDigits?_shown : ofDigits? id.shown = none := by
  obtain ⟨rest, shown⟩ : ∃ rest, id.shown = id.digits.take 8 ++ '-' :: rest :=
    ⟨_, List.intercalate_cons_cons⟩
  unfold ofDigits?
  rw [shown, List.mapM_append, List.mapM_cons, show hexDigit? '-' = none from rfl]
  simp

theorem parse?_shown : parse? id.shown = some id := by
  unfold parse?
  split
  · next inner shown =>
    have brace := id.head?_shown (c := '\x7b') (by rw [shown]; rfl)
    exact absurd brace (by decide)
  · have unmarked : Text.afterMark? "urn:uuid:".toList id.shown = none := by
      unfold Text.afterMark?
      split
      · next marked =>
        obtain ⟨rest, shown⟩ := List.isPrefixOf_iff_prefix.mp marked
        have letter := id.head?_shown (c := 'u') (by rw [← shown]; rfl)
        exact absurd letter (by decide)
      · rfl
    rw [unmarked]
    simp only [ofDigits?_shown, Option.none_or, ofGroups?_shown]

end UnitId

namespace StoryUnit

variable (unit : StoryUnit)

theorem written_toJson (root : String) : Written (unit.toJson root) := by
  obtain ⟨id, path, harness, artifact⟩ := unit
  cases harness <;> simp [toJson, Artifact.written_toJson]

theorem ofJson?_toJson (root : String) : ofJson? (unit.toJson root) = some { unit with root := root } := by
  obtain ⟨id, path, harness, artifact⟩ := unit
  have id := id.parse?_shown
  have artifact := artifact.ofJson?_toJson
  cases harness <;>
    simp [toJson, ofJson?, record, fields?, countName, member?, readOptionalText?, id, artifact]

omit unit in
theorem encode?_eq_some_iff {unit : StoryUnit} {text : String} : unit.encode? = some text ↔
    ∃ root : String, unit.root = root ∧ String.ofList (unit.toJson root).indented = text := by
  unfold encode?
  simp only [Option.map_eq_some_iff, Path.text?_eq_some_iff]

omit unit in
theorem parse?_encode? {unit : StoryUnit} {text : String} (encoded : unit.encode? = some text) :
    (parse? text.toList).bind ofJson? = some unit := by
  obtain ⟨root, spelled, rfl⟩ := encode?_eq_some_iff.mp encoded
  rw [String.toList_ofList, parse?_indented (unit.written_toJson root), Option.bind_some, ofJson?_toJson,
    ← spelled]

omit unit in
theorem decode_encode? {unit : StoryUnit} {text : String} (encoded : unit.encode? = some text) :
    decode text = (unit.artifact.validate.mapError .story).map fun _ => unit := by
  unfold decode
  rw [parse?_encode? encoded]
  dsimp only
  cases unit.artifact.validate <;> rfl

omit unit in
theorem encode?_injective {first second : StoryUnit} {text : String} (encoded : first.encode? = some text)
    (encodedToo : second.encode? = some text) : first = second := by
  have back := parse?_encode? encoded
  rw [parse?_encode? encodedToo] at back
  exact (Option.some.inj back).symm

theorem validate_of_decode {text : String} (decoded : decode text = .ok unit) :
    unit.artifact.validate = .ok () := by
  unfold decode at decoded
  split at decoded
  · cases decoded
  · next found read =>
    cases valid : found.artifact.validate with
    | error error =>
      rw [valid] at decoded
      cases decoded
    | ok _ =>
      rw [valid] at decoded
      cases decoded
      exact valid

omit unit in
theorem encode?_of_decode {text : String} {unit : StoryUnit} (decoded : decode text = .ok unit) :
    ∃ own, unit.encode? = some own := by
  unfold decode at decoded
  split at decoded
  · cases decoded
  · next found read =>
    obtain ⟨value, -, made⟩ := Option.bind_eq_some_iff.mp read
    have spelled : ∃ root : String, found.root = root := by
      unfold ofJson? at made
      split at made
      · simp only [bind, Option.bind_eq_some_iff, Option.some.injEq] at made
        obtain ⟨_, -, _, -, _, -, rfl⟩ := made
        exact ⟨_, rfl⟩
      · cases made
    obtain ⟨root, same⟩ := spelled
    cases valid : found.artifact.validate with
    | error error =>
      rw [valid] at decoded
      cases decoded
    | ok _ =>
      rw [valid] at decoded
      cases decoded
      exact ⟨_, encode?_eq_some_iff.mpr ⟨root, same, rfl⟩⟩

omit unit in
/-- A unit whose root is a text has an envelope. If its artifact is valid, the unit is read back from there
with its identity, its root, its harness and its artifact, and any other is refused for the reason why its
artifact cannot be run. No two units have one envelope. A unit that was read from any text, however it was
written there, has a valid artifact, and is read again from its own envelope. -/
theorem envelope_faithful :
    (∀ unit : StoryUnit, unit.root.text?.isSome → unit.artifact.validate = .ok () →
      ∃ text, unit.encode? = some text ∧ decode text = .ok unit) ∧
    (∀ (unit : StoryUnit) (text : String) (error : StoryError), unit.encode? = some text →
      unit.artifact.validate = .error error → decode text = .error (.story error)) ∧
    (∀ (first second : StoryUnit) (text : String), first.encode? = some text →
      second.encode? = some text → first = second) ∧
    ∀ (text : String) (unit : StoryUnit), decode text = .ok unit →
      unit.artifact.validate = .ok () ∧ ∃ own, unit.encode? = some own ∧ decode own = .ok unit := by
  have back {unit : StoryUnit} {text : String} (valid : unit.artifact.validate = .ok ())
      (encoded : unit.encode? = some text) : decode text = .ok unit := by
    rw [decode_encode? encoded, valid]
    rfl
  refine ⟨fun unit spelled valid => ?_, fun unit text error encoded invalid => ?_,
    fun first second text => encode?_injective, fun text unit decoded => ?_⟩
  · obtain ⟨root, spelled⟩ := Option.isSome_iff_exists.mp spelled
    have encoded := encode?_eq_some_iff.mpr ⟨root, Path.text?_eq_some_iff.mp spelled, rfl⟩
    exact ⟨_, encoded, back valid encoded⟩
  · rw [decode_encode? encoded, invalid]
    rfl
  · have valid := validate_of_decode unit decoded
    obtain ⟨own, encoded⟩ := encode?_of_decode decoded
    exact ⟨valid, own, encoded, back valid encoded⟩

/-- The fields in another order with one that nothing reads, escapes, an identity that is written as a
name, and an artifact without field names. -/
def looseEnvelope : String :=
  "\x7b\"root\": \"\\/caf\\u00e9.test.tale\", \"notes\": [[]], \"harness\": \"assert\\u0007\\n\",\n" ++
    "\"artifact\": [1, \"_root\", \x7b\"_root\": [[\x7b\"text\": \"\\ud83d\\udeb2\"\x7d]]\x7d], " ++
    "\"id\": \"urn:uuid:6BA7B810-9dad-11d1-80b4-00C04FD430C8\"\x7d"

def looseUnit : StoryUnit where
  id := ⟨0x6ba7b8109dad11d180b400c04fd430c8⟩
  root := "/café.test.tale"
  harness := some "assert\x07\n"
  artifact := ⟨1, Artifact.rootKnot, .ofList [(Artifact.rootKnot, ⟨[.text "🚲"]⟩)], ∅⟩

theorem loose_envelope_faithful :
    decode looseEnvelope = .ok looseUnit ∧ looseUnit.artifact.validate = .ok () ∧
    looseUnit.encode? ≠ some looseEnvelope ∧
    ∃ own, looseUnit.encode? = some own ∧ decode own = .ok looseUnit := by
  have decoded : decode looseEnvelope = .ok looseUnit := by decide +kernel
  obtain ⟨valid, again⟩ := envelope_faithful.2.2.2 looseEnvelope looseUnit decoded
  exact ⟨decoded, valid, by decide +kernel, again⟩

end StoryUnit

end Tale
