import Tale.Proofs.Project.Compilation

/-! What a pass returns and what it reports.

A diagnostic goes two ways as soon as it is found: it is reported, and an error is also kept, to be
returned when the pass is over. Whatever a compiler finds, the errors that are kept are those among
the reports. A diagnostic preserves this, so a whole pass does, and so does the error that is made
up for a compiler which fails without one.
-/

set_option autoImplicit false

namespace Tale.Project

open Script

/-- What a pass has reported so far, and the errors that it has kept. -/
structure Ledger where
  reported : List Diagnostic
  errors : List Diagnostic

namespace Ledger

def blank : Ledger := ⟨[], []⟩

def enter (ledger : Ledger) (diagnostic : Diagnostic) : Ledger where
  reported := ledger.reported ++ [diagnostic]
  errors := if diagnostic.isError then ledger.errors ++ [diagnostic] else ledger.errors

def answerFor (ledger : Ledger) (root : Path) : Option Artifact → Ledger
  | some _ => ledger
  | none =>
    if ledger.errors.isEmpty then ledger.enter (wholeError root "compiler produced no artifact")
    else ledger

def verdict (ledger : Ledger) : Option Artifact → Except (List Diagnostic) Artifact
  | some artifact => if ledger.errors.isEmpty then .ok artifact else .error ledger.errors
  | none => .error ledger.errors

/-- The errors that are kept are those among the reports, in their order. -/
def Balanced (ledger : Ledger) : Prop :=
  ledger.errors = ledger.reported.filter Diagnostic.isError

theorem balanced_blank : blank.Balanced := rfl

section

variable {ledger : Ledger}

theorem Balanced.enter (balanced : ledger.Balanced) (diagnostic : Diagnostic) :
    (ledger.enter diagnostic).Balanced := by
  unfold Balanced at balanced ⊢
  cases serious : diagnostic.isError with
  | true => simp [Ledger.enter, serious, balanced]
  | false => simp [Ledger.enter, serious, balanced]

theorem Balanced.enterAll (balanced : ledger.Balanced) (diagnostics : List Diagnostic) :
    (diagnostics.foldl Ledger.enter ledger).Balanced := by
  induction diagnostics generalizing ledger with
  | nil => exact balanced
  | cons diagnostic rest ih => exact ih (balanced.enter diagnostic)

theorem Balanced.answerFor (balanced : ledger.Balanced) (root : Path) (artifact : Option Artifact) :
    (ledger.answerFor root artifact).Balanced := by
  cases artifact with
  | some artifact => exact balanced
  | none =>
    rw [Ledger.answerFor]
    split
    · exact balanced.enter _
    · exact balanced

end

theorem reported_enterAll (ledger : Ledger) (diagnostics : List Diagnostic) :
    (diagnostics.foldl enter ledger).reported = ledger.reported ++ diagnostics := by
  induction diagnostics generalizing ledger with
  | nil => simp
  | cons diagnostic rest ih => simp [ih, enter]

theorem answerFor_none_errors (ledger : Ledger) (root : Path) :
    (ledger.answerFor root none).errors ≠ [] := by
  rw [answerFor]
  split
  · simp [enter, wholeError, Diagnostic.isError]
  · simpa using ‹¬ ledger.errors.isEmpty›

theorem verdict_eq_ok_iff (ledger : Ledger) (artifact : Option Artifact) (made : Artifact) :
    ledger.verdict artifact = .ok made ↔ ledger.errors = [] ∧ artifact = some made := by
  cases artifact with
  | none => simp [verdict]
  | some artifact =>
    rw [verdict]
    split <;> simp_all

theorem verdict_eq_error_iff (ledger : Ledger) (root : Path) (artifact : Option Artifact)
    (returned : List Diagnostic) :
    (ledger.answerFor root artifact).verdict artifact = .error returned ↔
      returned = (ledger.answerFor root artifact).errors ∧ returned ≠ [] := by
  cases artifact with
  | none =>
    have found := answerFor_none_errors ledger root
    simp only [verdict, Except.error.injEq]
    exact ⟨fun same => ⟨same.symm, same ▸ found⟩, fun both => both.1.symm⟩
  | some artifact =>
    rw [verdict, answerFor]
    cases ledger.errors with
    | nil => simp
    | cons error rest =>
      simp only [List.isEmpty_cons, Bool.false_eq_true, if_false, Except.error.injEq]
      exact ⟨fun same => ⟨same.symm, same ▸ List.cons_ne_nil error rest⟩, fun both => both.1.symm⟩

end Ledger

theorem enterAll_blank (diagnostics : List Diagnostic) :
    diagnostics.foldl Ledger.enter .blank =
      ⟨diagnostics, diagnostics.filter Diagnostic.isError⟩ := by
  have reported := Ledger.reported_enterAll .blank diagnostics
  have kept := Ledger.balanced_blank.enterAll diagnostics
  rw [Ledger.Balanced, reported] at kept
  exact congrArg₂ Ledger.mk reported kept

/-- Judging a whole pass is entering its diagnostics one by one. -/
theorem judge_eq_verdict (root : Path) (pass : Pass) :
    let ledger := (pass.diagnostics.foldl Ledger.enter .blank).answerFor root pass.artifact
    judge root pass = (ledger.verdict pass.artifact, ledger.reported) := by
  rw [enterAll_blank, judge]
  cases pass.artifact <;> cases errors : pass.diagnostics.filter Diagnostic.isError <;> rfl

/-- The reports of a whole pass are what the compiler found, and one error more if it has neither an
artifact nor an error. -/
theorem judge_reported (root : Path) (pass : Pass) :
    (judge root pass).2 = pass.diagnostics ++
      if pass.artifact = none ∧ pass.diagnostics.filter Diagnostic.isError = [] then
        [wholeError root "compiler produced no artifact"] else [] := by
  rw [judge]
  cases pass.artifact <;> cases pass.diagnostics.filter Diagnostic.isError <;> simp

/-- The result of a pass agrees with the errors among its reports. -/
theorem judge_result (root : Path) (pass : Pass) :
    let errors := (judge root pass).2.filter Diagnostic.isError
    (∀ artifact, (judge root pass).1 = .ok artifact ↔
      errors = [] ∧ pass.artifact = some artifact) ∧
    ∀ returned, (judge root pass).1 = .error returned ↔ returned = errors ∧ returned ≠ [] := by
  have balanced := (Ledger.balanced_blank.enterAll pass.diagnostics).answerFor root pass.artifact
  rw [judge_eq_verdict, ← balanced]
  exact ⟨Ledger.verdict_eq_ok_iff _ _, Ledger.verdict_eq_error_iff _ _ _⟩

/-- Whatever a compiler does, a pass succeeds exactly if it makes an artifact and no error is
reported. If it fails, what it returns are the errors that are reported, in order, and there is one
at least. All that the compiler finds is reported once and in order; nothing else is, but for a root
that cannot be loaded and for a compiler that has neither an artifact nor an error. -/
theorem compileRoot_verdict (compiler : Compiler) (sources : Sources) (edges : Dependencies)
    (path : Path) :
    let root := sources.identify path
    let done := compileRoot compiler sources edges path
    let errors := done.reported.filter Diagnostic.isError
    (∀ artifact, done.result = .ok artifact ↔ errors = [] ∧ ∃ text, sources.load root = .ok text ∧
      (compiler root text (sources.includes root)).artifact = some artifact) ∧
    (∀ returned, done.result = .error returned ↔ returned = errors ∧ returned ≠ []) ∧
    (∀ error, sources.load root = .error error →
      done.reported = [wholeError root error.reason]) ∧
    ∀ text, sources.load root = .ok text →
      let pass := compiler root text (sources.includes root)
      let silent := pass.artifact = none ∧ pass.diagnostics.filter Diagnostic.isError = []
      (silent → done.reported =
        pass.diagnostics ++ [wholeError root "compiler produced no artifact"]) ∧
      (¬ silent → done.reported = pass.diagnostics) := by
  intro root done errors
  cases loads : sources.load root with
  | error error =>
    have ended :
        done = ⟨.error [wholeError root error.reason], [wholeError root error.reason], _⟩ :=
      compileRoot_of_error compiler edges loads
    have serious : errors = [wholeError root error.reason] := by
      simp only [errors, ended]
      rfl
    rw [serious, ended]
    refine ⟨fun artifact => by simp, fun returned => ?_, ?_, nofun⟩
    · exact ⟨fun same => by cases same; simp, fun both => by rw [both.1]⟩
    · rintro _ ⟨⟩
      rfl
  | ok text =>
    let pass := compiler root text (sources.includes root)
    have ended : done = ⟨(judge root pass).1, (judge root pass).2, _⟩ :=
      compileRoot_of_text compiler edges loads
    obtain ⟨succeeds, fails⟩ := judge_result root pass
    have reported := judge_reported root pass
    simp only [errors, ended]
    refine ⟨fun artifact => ?_, fails, nofun, ?_⟩
    · rw [succeeds artifact]
      simp [pass]
    · rintro _ ⟨⟩
      exact ⟨fun silent => by rw [reported, if_pos silent],
        fun spoken => by rw [reported, if_neg spoken, List.append_nil]⟩

end Tale.Project
