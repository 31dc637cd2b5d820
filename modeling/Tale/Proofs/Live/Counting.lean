import Tale.Proofs.Live.Following
import Tale.Script.Compile

/-! What a replay counts.

The cursor of a replay says how many decisions it has passed. As long as no decision was refused these
are the decisions that were taken. One that is refused takes all behind it along: nothing remains, and
from then on the cursor counts them all, although they were not taken.
-/

set_option autoImplicit false

namespace Tale.Live

def ReplayStep.index? : ReplayStep → Option Nat
  | .applied index _ => some index
  | _ => none

def ReplayStep.isDiverged : ReplayStep → Bool
  | .diverged _ _ => true
  | _ => false

namespace Replay

def after : Nat → Replay → Story → Replay
  | 0, replay, _ => replay
  | count + 1, replay, story =>
    let (_, replay, story) := replay.step story
    after count replay story

/-- What some steps did to a replay that had passed some decisions, with others ahead of it. -/
structure Course (passed : Nat) (ahead : List Nat) (steps : List ReplayStep) (cursor : Replay) :
    Prop where
  taken : steps.filterMap ReplayStep.index? = ahead.take (steps.countP ReplayStep.isApplied)
  remaining : cursor.remaining = if steps.all ReplayStep.isApplied
    then ahead.drop (steps.countP ReplayStep.isApplied) else []
  passed : cursor.passed = passed + if steps.any ReplayStep.isDiverged
    then ahead.length else steps.countP ReplayStep.isApplied
  refused : steps.any ReplayStep.isDiverged → steps.countP ReplayStep.isApplied < ahead.length

theorem outcomes_nil (count passed : Nat) (story : Story) :
    (Replay.mk passed []).outcomes count story = List.replicate count .exhausted := by
  induction count with
  | zero => rfl
  | succ count ih => simp only [outcomes, step_nil, ih, List.replicate_succ]

theorem after_nil (count passed : Nat) (story : Story) :
    (Replay.mk passed []).after count story = ⟨passed, []⟩ := by
  induction count with
  | zero => rfl
  | succ count ih => simp only [after, step_nil, ih]

namespace Course

variable {passed index : Nat} {ahead rest : List Nat} {steps : List ReplayStep} {cursor : Replay}

theorem exhausted (passed count : Nat) :
    Course passed [] (List.replicate count .exhausted) ⟨passed, []⟩ := by
  constructor <;>
    simp [ReplayStep.index?, ReplayStep.isApplied, ReplayStep.isDiverged, List.countP_replicate]

theorem applied (onward : Course (passed + 1) rest steps cursor) (paragraphs : List String) :
    Course passed (index :: rest) (.applied index paragraphs :: steps) cursor := by
  have counted : (ReplayStep.applied index paragraphs :: steps).countP ReplayStep.isApplied =
      steps.countP ReplayStep.isApplied + 1 := List.countP_cons_of_pos rfl
  constructor
  · rw [counted, List.take_succ_cons, ← onward.taken]
    rfl
  · rw [counted, List.drop_succ_cons]
    exact onward.remaining
  · have same : (ReplayStep.applied index paragraphs :: steps).any ReplayStep.isDiverged =
        steps.any ReplayStep.isDiverged := rfl
    rw [counted, same, onward.passed, List.length_cons]
    split <;> omega
  · rw [counted, List.length_cons]
    exact fun diverged => Nat.succ_lt_succ (onward.refused diverged)

theorem diverged (divergence : Divergence) (paragraphs : List String) (count : Nat)
    (some : ahead ≠ []) :
    Course passed ahead (.diverged divergence paragraphs :: List.replicate count .exhausted)
      ⟨passed + ahead.length, []⟩ := by
  have none : (ReplayStep.diverged divergence paragraphs ::
      List.replicate count .exhausted).countP ReplayStep.isApplied = 0 := by
    simp [ReplayStep.isApplied, List.countP_replicate]
  constructor
  · rw [none]
    simp [ReplayStep.index?]
  · simp [ReplayStep.isApplied]
  · simp [ReplayStep.isDiverged]
  · rw [none]
    exact fun _ => List.length_pos_of_ne_nil some

end Course

/-- The course of any number of steps, by induction on the steps; each takes the decision ahead, ends the
replay at it, or finds none. -/
theorem course (count passed : Nat) (ahead : List Nat) (story : Story) :
    Course passed ahead ((Replay.mk passed ahead).outcomes count story)
      ((Replay.mk passed ahead).after count story) := by
  induction count generalizing passed ahead story with
  | zero => constructor <;> simp [outcomes, after]
  | succ count ih =>
    cases ahead with
    | nil =>
      rw [outcomes_nil, after_nil]
      exact .exhausted passed (count + 1)
    | cons index rest =>
      cases taken : story.continueMaximally.2.choose index with
      | ok chosen =>
        simp only [outcomes, after, step_applied taken]
        exact (ih (passed + 1) rest chosen).applied _
      | error error =>
        simp only [outcomes, after, step_diverged taken, outcomes_nil, after_nil]
        exact .diverged _ _ count (List.cons_ne_nil index rest)

/-- A cursor counts what was taken of some decisions: it has passed as many as were taken, these are the
first ones in their order, and those behind them remain until a step takes none. -/
structure Counts (decisions : List Nat) (steps : List ReplayStep) (cursor : Replay) : Prop where
  passed : cursor.passed = steps.countP ReplayStep.isApplied
  taken : steps.filterMap ReplayStep.index? = decisions.take cursor.passed
  remaining : cursor.remaining =
    if steps.all ReplayStep.isApplied then decisions.drop cursor.passed else []

/-- After any number of steps on any story, the cursor of a replay counts what was taken exactly if no
step diverged. The decisions that were taken are the first ones in any case, and those behind them
remain until a step takes none; but once a step diverged, the cursor counts all decisions. -/
theorem counts_iff_undiverged (story : Story) (decisions : List Nat) (count : Nat) :
    let steps := (ofDecisions decisions).outcomes count story
    let cursor := (ofDecisions decisions).after count story
    let taken := steps.countP ReplayStep.isApplied
    (Counts decisions steps cursor ↔ ∀ step ∈ steps, step.isDiverged = false) ∧
      steps.filterMap ReplayStep.index? = decisions.take taken ∧
      cursor.remaining = (if steps.all ReplayStep.isApplied then decisions.drop taken else []) ∧
      cursor.passed = if steps.any ReplayStep.isDiverged then decisions.length else taken := by
  intro steps cursor taken
  obtain ⟨first, remaining, passed, refused⟩ := course count 0 decisions story
  rw [Nat.zero_add] at passed
  refine ⟨?_, first, remaining, passed⟩
  constructor
  · intro counts step member
    by_contra diverged
    have any : steps.any ReplayStep.isDiverged :=
      List.any_eq_true.mpr ⟨step, member, Bool.eq_true_of_not_eq_false diverged⟩
    have all : cursor.passed = decisions.length := passed.trans (if_pos any)
    have same : cursor.passed = taken := counts.passed
    -- The refused decision is one that was not taken.
    have fewer : taken < decisions.length := refused any
    omega
  · intro undiverged
    have none : steps.any ReplayStep.isDiverged = false := by simpa using undiverged
    have same : cursor.passed = taken := passed.trans (if_neg (Bool.eq_false_iff.mp none))
    exact ⟨same, same ▸ first, same ▸ remaining⟩

def yardText : String :=
  "Gate.\n* Enter -> yard\n* Leave -> END\n== yard ==\nYard.\n* Well -> END\n* Barn -> END\n"

/-- In the yard the second decision is refused, and the two behind it are counted with it. -/
theorem yard_counts_discarded : ∃ artifact fresh,
    (Script.compileSource yardText).artifact = some artifact ∧ Story.start artifact = .ok fresh ∧
    ((ofDecisions [0, 5, 0, 1]).outcomes 2 fresh).countP ReplayStep.isApplied = 1 ∧
    ((ofDecisions [0, 5, 0, 1]).after 2 fresh).passed = 4 ∧
    ¬ Counts [0, 5, 0, 1] ((ofDecisions [0, 5, 0, 1]).outcomes 2 fresh)
      ((ofDecisions [0, 5, 0, 1]).after 2 fresh) := by
  have compiled : ∃ artifact fresh, (Script.compileSource yardText).artifact = some artifact ∧
      Story.start artifact = .ok fresh ∧
      ((ofDecisions [0, 5, 0, 1]).outcomes 2 fresh).countP ReplayStep.isApplied = 1 ∧
      ((ofDecisions [0, 5, 0, 1]).after 2 fresh).passed = 4 := by
    refine ⟨_, _, rfl, rfl, by decide +kernel, by decide +kernel⟩
  obtain ⟨artifact, fresh, made, started, applied, passed⟩ := compiled
  refine ⟨artifact, fresh, made, started, applied, passed, fun counts => ?_⟩
  cases (passed.symm.trans counts.passed).trans applied

end Replay

end Tale.Live
