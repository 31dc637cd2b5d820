import Tale.Proofs.Story.Reading

/-! Artifacts that lead nowhere but to their own knots.

These are the ones that a story can be begun with: the start knot exists, and so does every knot that
a divert or a choice names, whether or not a play ever comes there.
-/

set_option autoImplicit false

namespace Tale

namespace Artifact

def Has (artifact : Artifact) : Target → Prop
  | .ending => True
  | .knot name => artifact.knots.contains name

def Closed (artifact : Artifact) : Prop :=
  ∀ entry ∈ artifact.knots.entries, ∀ step ∈ entry.2.steps, ∀ target ∈ step.targets,
    artifact.Has target

theorem has_iff {artifact : Artifact} {target : Target} :
    artifact.Has target ↔
      target = .ending ∨ ∃ name, target = .knot name ∧ artifact.knots.contains name := by
  cases target <;> simp [Has]

theorem Closed.has {artifact : Artifact} (closed : artifact.Closed) {knot : String} {step : Step}
    {target : Target} (member : step ∈ artifact.stepsOf knot) (leads : target ∈ step.targets) :
    artifact.Has target := by
  cases found : artifact.knots.find? knot with
  | none => simp [stepsOf, found] at member
  | some content =>
    simp only [stepsOf, found, Option.map_some, Option.getD_some] at member
    obtain ⟨held, inside, -⟩ := Dictionary.exists_of_find? found
    exact closed _ inside step member target leads

theorem validate_eq_ok_iff {artifact : Artifact} :
    artifact.validate = .ok () ↔
      artifact.format = currentFormat ∧ artifact.knots.contains artifact.start := by
  unfold validate
  split
  · next unknown => simp [unknown]
  · next known =>
    have known : artifact.format = currentFormat := not_not.mp known
    split <;> simp_all

end Artifact

namespace Story

theorem missingKnot?_eq_none_iff {artifact : Artifact} :
    missingKnot? artifact = none ↔ artifact.Closed := by
  simp only [missingKnot?, List.findSome?_eq_none_iff, List.mem_flatMap, Dictionary.values,
    List.mem_map, Artifact.Closed]
  constructor
  · intro all entry member step inside target leads
    have found := all target ⟨entry.2, ⟨entry, member, rfl⟩, step, inside, leads⟩
    cases target with
    | ending => trivial
    | knot name => simpa [Artifact.Has] using found
  · rintro closed target ⟨-, ⟨entry, member, rfl⟩, step, inside, leads⟩
    have there := closed entry member step inside target leads
    cases target with
    | ending => rfl
    | knot name => simpa [Artifact.Has] using there

def blank (artifact : Artifact) : Story :=
  ⟨artifact, none, none, [], .empty, .empty, artifact.globals⟩

/-- An artifact is accepted exactly if it is valid and closed. -/
theorem start_eq_ok_iff {artifact : Artifact} {story : Story} :
    start artifact = .ok story ↔ artifact.validate = .ok () ∧ artifact.Closed ∧
      story = ((blank artifact).enter artifact.start).settle := by
  rw [← missingKnot?_eq_none_iff]
  unfold start
  cases artifact.validate with
  | error error => simp [bind, Except.bind]
  | ok =>
    cases missingKnot? artifact with
    | some name => simp [bind, Except.bind]
    | none => simp [bind, Except.bind, blank, eq_comm]

end Story

end Tale
