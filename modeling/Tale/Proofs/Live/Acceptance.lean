import Tale.Live.Delivery
import Tale.Proofs.Project.Envelope

/-! What was read and cannot be begun.

Reading asks an artifact for its format and its start knot. Only the beginning of a story asks for the knots
to which steps lead, so an artifact with a step that leads nowhere is read, and then refused when a story is
begun with it: for a unit, that is when it is delivered to a session that has a callback.
-/

set_option autoImplicit false

namespace Tale

/-- Some step of an artifact leads to a knot of this name, and there is none. -/
def Artifact.Lacks (artifact : Artifact) (name : String) : Prop :=
  artifact.knots.contains name = false ∧
    ∃ entry ∈ artifact.knots.entries, ∃ step ∈ entry.2.steps, .knot name ∈ step.targets

/-- What is asked of the beginning of a story: it succeeds exactly with an artifact that leads to its own
knots alone, and otherwise names a knot that the artifact lacks. -/
structure Artifact.BegunIfClosed (artifact : Artifact) (beginning : Except StoryError Story) : Prop where
  begun : (∃ story, beginning = .ok story) ↔ artifact.Closed
  refused : ∀ error, beginning = .error error → ∃ name, error = .unknownKnot name ∧ artifact.Lacks name

namespace Story

variable {artifact : Artifact}

theorem lacks_of_missingKnot? {name : String} (missing : missingKnot? artifact = some name) :
    artifact.Lacks name := by
  obtain ⟨target, leads, found⟩ := List.exists_of_findSome?_eq_some missing
  simp only [List.mem_flatMap, Dictionary.values, List.mem_map] at leads
  obtain ⟨-, ⟨entry, listed, rfl⟩, step, inside, leads⟩ := leads
  cases target with
  | ending => cases found
  | knot other =>
    dsimp only at found
    split at found
    · cases found
    · next absent =>
      cases found
      exact ⟨Bool.eq_false_iff.mpr absent, entry, listed, step, inside, leads⟩

/-- A valid artifact is refused only for a knot that is missing. -/
theorem missingKnot?_of_start_eq_error (valid : artifact.validate = .ok ()) {error : StoryError}
    (refused : start artifact = .error error) :
    ∃ name, error = .unknownKnot name ∧ missingKnot? artifact = some name := by
  unfold start at refused
  rw [valid] at refused
  cases missing : missingKnot? artifact with
  | none => simp [missing, bind, Except.bind] at refused
  | some name =>
    simp only [missing, bind, Except.bind, Except.error.injEq] at refused
    exact ⟨name, refused.symm, rfl⟩

theorem start_begunIfClosed (valid : artifact.validate = .ok ()) :
    artifact.BegunIfClosed (start artifact) where
  begun := by
    constructor
    · rintro ⟨story, begun⟩
      exact (start_eq_ok_iff.mp begun).2.1
    · exact fun closed => ⟨_, start_eq_ok_iff.mpr ⟨valid, closed, rfl⟩⟩
  refused error outcome := by
    obtain ⟨name, same, missing⟩ := missingKnot?_of_start_eq_error valid outcome
    exact ⟨name, same, lacks_of_missingKnot? missing⟩

end Story

namespace Live

/-- A delivery fails exactly if a story of the unit is needed and cannot be begun. -/
theorem Delivery.accept_eq_error_iff {κ : Type} {delivery : Delivery κ} {unit : StoryUnit}
    {error : StoryError} : delivery.accept (some unit) = .error error ↔
      delivery.callback.isSome ∧ delivery.lastDelivered ≠ some unit.id ∧ unit.story = .error error := by
  unfold accept
  cases delivery.callback with
  | none => simp
  | some callback =>
    by_cases again : delivery.lastDelivered = some unit.id
    · simp [again]
    · cases made : unit.story <;> simp [again, made]

/-- If an artifact or a unit is read from a text, a story begins with it exactly if it leads to its own knots
alone; otherwise the story is refused for a knot that it lacks. So the delivery of a unit that was read fails
exactly if it lacks a knot and is new to a session with a callback. -/
theorem accepted_begins_iff (text : String) :
    (∀ artifact, Artifact.decode text = .ok artifact →
      artifact.BegunIfClosed (Story.start artifact)) ∧
    ∀ unit, StoryUnit.decode text = .ok unit →
      unit.artifact.BegunIfClosed unit.story ∧
      ∀ (κ : Type) (delivery : Delivery κ),
        (∃ error, delivery.accept (some unit) = .error error) ↔
          ¬ unit.artifact.Closed ∧ delivery.callback.isSome ∧ delivery.lastDelivered ≠ some unit.id := by
  refine ⟨fun artifact decoded => ?_, fun unit decoded => ?_⟩
  · exact Story.start_begunIfClosed (Artifact.validate_of_decode artifact decoded)
  · have begins : unit.artifact.BegunIfClosed unit.story :=
      Story.start_begunIfClosed (StoryUnit.validate_of_decode unit decoded)
    refine ⟨begins, fun κ delivery => ?_⟩
    simp only [Delivery.accept_eq_error_iff]
    constructor
    · rintro ⟨error, registered, new, refused⟩
      refine ⟨fun closed => ?_, registered, new⟩
      obtain ⟨story, begun⟩ := begins.begun.mpr closed
      cases begun.symm.trans refused
    · rintro ⟨unclosed, registered, new⟩
      cases outcome : unit.story with
      | error error => exact ⟨error, registered, new, rfl⟩
      | ok story => exact absurd (begins.begun.mp ⟨story, outcome⟩) unclosed

def stairwayUnit (knots : List (String × Knot)) : StoryUnit where
  id := ⟨0x6ba7b8109dad11d180b400c04fd430c8⟩
  root := "/hall.tale"
  harness := none
  artifact := ⟨1, Artifact.rootKnot, .ofList ((Artifact.rootKnot,
    ⟨[.choices [⟨"_root.0", "Climb", false, none, .knot "attic"⟩]]⟩) :: knots), ∅⟩

/-- With an attic the hall is begun, and the unit is accepted by a session with a callback. -/
theorem stairway_begins :
    let unit := stairwayUnit [("attic", ⟨[]⟩)]
    (∃ text, unit.encode? = some text ∧ StoryUnit.decode text = .ok unit) ∧
    unit.artifact.Closed ∧ (∃ story, unit.story = .ok story) ∧
    ¬ ∃ error, (Delivery.mk (some "reload") none).accept (some unit) = .error error := by
  intro unit
  have valid : unit.artifact.validate = .ok () := by decide +kernel
  have encoded := StoryUnit.encode?_eq_some_iff.mpr ⟨"/hall.tale", (rfl : unit.root = _), rfl⟩
  have decoded := StoryUnit.decode_encode? encoded
  rw [valid] at decoded
  obtain ⟨begins, accepted⟩ := (accepted_begins_iff _).2 unit decoded
  have closed : unit.artifact.Closed := Story.missingKnot?_eq_none_iff.mp (by decide +kernel)
  refine ⟨⟨_, encoded, decoded⟩, closed, begins.begun.mpr closed, fun failed => ?_⟩
  exact ((accepted String _).mp failed).1 closed

def stairwayEnvelope : String :=
  "\x7b\"id\": \"6ba7b810-9dad-11d1-80b4-00c04fd430c8\", \"root\": \"/hall.tale\", \"artifact\": " ++
    "\x7b\"format\": 1, \"start\": \"_root\", \"knots\": \x7b\"_root\": \x7b\"steps\": [\x7b\"choices\": " ++
    "[\x7b\"id\": \"_root.0\", \"text\": \"Climb\", \"target\": \x7b\"knot\": \"attic\"\x7d\x7d]\x7d]\x7d\x7d\x7d\x7d"

/-- It is read all the same, as its artifact is, and the delivery of the unit fails. -/
theorem stairway_refused :
    let unit := stairwayUnit []
    StoryUnit.decode stairwayEnvelope = .ok unit ∧
    Artifact.decode unit.artifact.encode = .ok unit.artifact ∧
    Story.start unit.artifact = .error (.unknownKnot "attic") ∧
    unit.story = .error (.unknownKnot "attic") ∧
    ∃ error, (Delivery.mk (some "reload") none).accept (some unit) = .error error := by
  intro unit
  have decoded : StoryUnit.decode stairwayEnvelope = .ok unit := by decide +kernel
  have again : Artifact.decode unit.artifact.encode = .ok unit.artifact := by
    rw [Artifact.decode_encode, StoryUnit.validate_of_decode unit decoded]
    rfl
  have refused : unit.story = .error (.unknownKnot "attic") := by decide +kernel
  refine ⟨decoded, again, refused, refused, .unknownKnot "attic", ?_⟩
  exact Delivery.accept_eq_error_iff.mpr ⟨rfl, nofun, refused⟩

end Live

end Tale
