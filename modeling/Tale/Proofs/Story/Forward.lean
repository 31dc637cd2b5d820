import Mathlib.Data.Prod.Lex
import Tale.Proofs.Live.Following

/-! Stories whose diverts lead forward.

If every divert leads to a knot of lower rank, then silent steps and paragraphs both bring a story
nearer to the end of its way, so reading ends before every choice. Choices may lead anywhere: a
story that goes round in a circle of choices still reads out between them.
-/

set_option autoImplicit false

namespace Tale

/-- Every divert leads from a knot to one of lower rank. -/
def Artifact.LeadsForward (artifact : Artifact) (rank : String → Nat) : Prop :=
  ∀ knot name, Step.divert (.knot name) ∈ artifact.stepsOf knot → rank name < rank knot

theorem Artifact.leadsForward_of_entries {artifact : Artifact} {rank : String → Nat}
    (forward : ∀ entry ∈ artifact.knots.entries, ∀ name,
      Step.divert (.knot name) ∈ entry.2.steps → rank name < rank entry.1) :
    artifact.LeadsForward rank := by
  intro knot name leads
  cases found : artifact.knots.find? knot with
  | none => simp [stepsOf, found] at leads
  | some content =>
    simp only [stepsOf, found, Option.map_some, Option.getD_some] at leads
    obtain ⟨held, member, same⟩ := Dictionary.exists_of_find? found
    cases Std.LawfulEqCmp.eq_of_compare same
    exact forward _ member name leads

namespace Story

variable {artifact : Artifact} {rank : String → Nat}

/-- How much is still ahead of a place: the rank of its knot, and then the steps to go. -/
def distance (rank : String → Nat) (place : Position) : ℕ ×ₗ ℕ :=
  toLex (rank place.knot, place.ahead.length)

theorem distance_step (knot : String) (step : Step) (ahead : List Step) :
    distance rank ⟨knot, ahead⟩ < distance rank ⟨knot, step :: ahead⟩ :=
  Prod.Lex.toLex_lt_toLex.mpr (.inr ⟨rfl, Nat.lt_succ_self _⟩)

theorem distance_divert {knot name : String} (lower : rank name < rank knot)
    (steps ahead : List Step) : distance rank ⟨name, steps⟩ < distance rank ⟨knot, ahead⟩ :=
  Prod.Lex.toLex_lt_toLex.mpr (.inl lower)

/-- Silent steps that lead to a paragraph lead to a place with less ahead of it. -/
theorem settleWithin_nearer {bound : Nat} {story : Story} {place : Position}
    (forward : artifact.LeadsForward rank) (placed : story.Placed)
    (same : story.artifact = artifact) (silent : story.canContinue = false)
    (stands : story.position = some place)
    (ready : (settleWithin bound story).canContinue) :
    ∃ later, (settleWithin bound story).position = some later ∧
      distance rank later < distance rank place := by
  obtain ⟨knot, ahead⟩ := place
  induction bound generalizing story knot ahead with
  | zero => exact absurd ready (Bool.eq_false_iff.mp silent)
  | succ bound ih =>
    have step := advance_placed placed silent
    cases ahead with
    | nil =>
      simp only [settleWithin, advance, stands] at ready
      exact absurd ready (Bool.eq_false_iff.mp silent)
    | cons first ahead =>
      cases first with
      | text words =>
        simp only [settleWithin, advance, stands]
        exact ⟨_, rfl, distance_step knot _ ahead⟩
      | set name value =>
        simp only [advance, stands] at step
        simp only [settleWithin, advance, stands] at ready ⊢
        obtain ⟨later, there, less⟩ :=
          ih step.1 same step.2.2 ready knot ahead rfl
        exact ⟨later, there, less.trans (distance_step knot _ ahead)⟩
      | divert target =>
        cases target with
        | ending =>
          simp only [settleWithin, advance, stands] at ready
          exact absurd ready (Bool.eq_false_iff.mp silent)
        | knot name =>
          simp only [advance, stands] at step
          simp only [settleWithin, advance, stands] at ready ⊢
          have within := (placed.ahead knot _ stands).subset List.mem_cons_self
          have lower := forward knot name (same ▸ within)
          obtain ⟨later, there, less⟩ :=
            ih step.1 same step.2.2 ready name _ rfl
          exact ⟨later, there, less.trans (distance_divert lower _ _)⟩
      | choices points =>
        simp only [settleWithin, advance, stands] at ready
        exact absurd ready (Bool.eq_false_iff.mp silent)

theorem readsOut_of_forward {story : Story} (forward : artifact.LeadsForward rank)
    (same : story.artifact = artifact) (placed : story.Placed) : story.ReadsOut := by
  by_cases ready : story.canContinue
  · obtain ⟨knot, words, ahead, stands, -⟩ := placed.behindText ready
    -- Each paragraph brings the story nearer to where nothing is ahead.
    induction far : distance rank ⟨knot, ahead⟩ using WellFoundedLT.induction
      generalizing story knot words ahead with
    | _ far ih =>
      subst far
      have onward := next_placed placed
      by_cases again : story.next.canContinue
      · obtain ⟨name, next, rest, there, -⟩ := onward.1.behindText again
        have nearer : distance rank ⟨name, rest⟩ < distance rank ⟨knot, ahead⟩ := by
          rw [next_of_ready ready] at again there
          obtain ⟨later, found, less⟩ :=
            settleWithin_nearer forward placed.withoutPending same rfl stands again
          cases found.symm.trans there
          exact less
        obtain ⟨count, silent⟩ :=
          ih _ nearer (onward.2.trans same) onward.1 again name next rest there rfl
        exact ⟨count + 1, silent⟩
      · exact ⟨1, by simpa using again⟩
  · exact ⟨0, by simpa using ready⟩

theorem readsOutThroughout_of_forward {story : Story}
    (forward : artifact.LeadsForward rank) (same : story.artifact = artifact)
    (placed : story.Placed) : story.ReadsOutThroughout := by
  intro decisions
  induction decisions generalizing story with
  | nil =>
    intro paragraphs reached followed
    cases followed
    exact readsOut_of_forward forward same placed
  | cons decision rest ih =>
    intro paragraphs reached followed
    obtain ⟨chosen, later, taken, onward, -⟩ := exists_follow_cons followed
    have silent := continueMaximally_silent placed (readsOut_of_forward forward same placed)
    obtain ⟨there, unchanged⟩ := choose_placed silent taken
    have sameChosen := unchanged.trans ((continueMaximally_placed placed).2.trans same)
    exact ih sameChosen there later reached onward

/-- A fresh story whose diverts lead forward reads out before every choice that it comes to. -/
theorem start_readsOut {fresh : Story} (forward : artifact.LeadsForward rank)
    (started : start artifact = .ok fresh) : fresh.ReadsOutThroughout := by
  obtain ⟨placed, same⟩ := start_placed started
  exact readsOutThroughout_of_forward forward same placed

end Story

end Tale
