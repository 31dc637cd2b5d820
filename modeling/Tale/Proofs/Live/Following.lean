import Mathlib.Order.Bounds.Basic
import Tale.Live.Replay
import Tale.Proofs.Story.Reading

/-! Following decisions through a story.

A record of decisions is followed by reading up to the next choice before each of them. A story
follows a record as far as a unique longest part in front; a replay finds that part with one step
for each of its decisions and one more that ends it.
-/

set_option autoImplicit false

namespace Tale

namespace Story

def follow : List Nat → Story → Option (List String × Story)
  | [], story => some ([], story)
  | decision :: rest, story =>
    match story.continueMaximally.2.choose decision with
    | .error _ => none
    | .ok chosen => (follow rest chosen).map fun (paragraphs, reached) =>
      (story.continueMaximally.1 ++ paragraphs, reached)

/-- Reading comes to an end before every choice to which decisions lead. -/
def ReadsOutThroughout (story : Story) : Prop :=
  ∀ decisions paragraphs reached, story.follow decisions = some (paragraphs, reached) →
    reached.ReadsOut

theorem follow_cons {story chosen : Story} {decision : Nat} {rest : List Nat}
    (taken : story.continueMaximally.2.choose decision = .ok chosen) :
    story.follow (decision :: rest) = (chosen.follow rest).map fun (paragraphs, reached) =>
      (story.continueMaximally.1 ++ paragraphs, reached) := by
  simp only [follow, taken]

theorem exists_follow_cons {story : Story} {decision : Nat} {rest : List Nat}
    {paragraphs : List String} {reached : Story}
    (followed : story.follow (decision :: rest) = some (paragraphs, reached)) :
    ∃ chosen later, story.continueMaximally.2.choose decision = .ok chosen ∧
      chosen.follow rest = some (later, reached) ∧
      paragraphs = story.continueMaximally.1 ++ later := by
  simp only [follow] at followed
  split at followed
  · cases followed
  · next chosen taken =>
    obtain ⟨⟨later, last⟩, onward, same⟩ := Option.map_eq_some_iff.mp followed
    cases same
    exact ⟨chosen, later, taken, onward, rfl⟩

theorem follow_append (first second : List Nat) (story : Story) :
    story.follow (first ++ second) = (story.follow first).bind fun (earlier, reached) =>
      (reached.follow second).map fun (later, last) => (earlier ++ later, last) := by
  induction first generalizing story with
  | nil => simp [follow]
  | cons decision rest ih =>
    cases taken : story.continueMaximally.2.choose decision with
    | error error => simp [follow, taken]
    | ok chosen =>
      rw [List.cons_append, follow_cons taken, follow_cons taken, ih]
      cases onward : chosen.follow rest with
      | none => rfl
      | some found =>
        simp only [Option.bind_some, Option.map_some]
        cases found.2.follow second <;> simp

theorem follow_singleton {story chosen : Story} {decision : Nat}
    (taken : story.continueMaximally.2.choose decision = .ok chosen) :
    story.follow [decision] = some (story.continueMaximally.1, chosen) := by
  simp [follow, taken]

theorem ReadsOutThroughout.readsOut {story : Story} (ends : story.ReadsOutThroughout) :
    story.ReadsOut :=
  ends [] [] story rfl

theorem ReadsOutThroughout.chosen {story chosen : Story} {decision : Nat}
    (ends : story.ReadsOutThroughout)
    (taken : story.continueMaximally.2.choose decision = .ok chosen) :
    chosen.ReadsOutThroughout := by
  intro decisions paragraphs reached followed
  refine ends (decision :: decisions) (story.continueMaximally.1 ++ paragraphs) reached ?_
  rw [follow_cons taken, followed]
  rfl

theorem follow_placed {story reached : Story} {decisions : List Nat} {paragraphs : List String}
    (placed : story.Placed) (ends : story.ReadsOutThroughout)
    (followed : story.follow decisions = some (paragraphs, reached)) :
    reached.Placed ∧ reached.artifact = story.artifact := by
  induction decisions generalizing story paragraphs with
  | nil =>
    cases followed
    exact ⟨placed, rfl⟩
  | cons decision rest ih =>
    obtain ⟨chosen, later, taken, onward, -⟩ := exists_follow_cons followed
    have silent := continueMaximally_silent placed ends.readsOut
    obtain ⟨there, same⟩ := choose_placed silent taken
    obtain ⟨last, sameLast⟩ := ih there (ends.chosen taken) onward
    exact ⟨last, sameLast.trans (same.trans (continueMaximally_placed placed).2)⟩

theorem follow_silent {story reached : Story} {decisions : List Nat} {paragraphs : List String}
    (placed : story.Placed) (ends : story.ReadsOutThroughout)
    (followed : story.follow decisions = some (paragraphs, reached)) :
    reached.continueMaximally.2.canContinue = false :=
  continueMaximally_silent (follow_placed placed ends followed).1 (ends _ _ _ followed)

/-- Where a story stops following decisions: it has followed a number of them, and the one after
these, if there is one, is not on offer. -/
structure Stops (story : Story) (decisions : List Nat) (count : Nat) (paragraphs : List String)
    (reached : Story) : Prop where
  within : count ≤ decisions.length
  followed : story.follow (decisions.take count) = some (paragraphs, reached)
  stuck : ∀ decision, decisions[count]? = some decision →
    reached.continueMaximally.2.offers.length ≤ decision

theorem exists_stops (story : Story) (decisions : List Nat) :
    ∃ count paragraphs reached, story.Stops decisions count paragraphs reached := by
  induction decisions generalizing story with
  | nil => exact ⟨0, [], story, Nat.le_refl _, rfl, by simp⟩
  | cons decision rest ih =>
    cases taken : story.continueMaximally.2.choose decision with
    | error error =>
      refine ⟨0, [], story, Nat.zero_le _, rfl, fun first same => ?_⟩
      cases same
      by_contra offered
      -- A decision that is refused is not on offer.
      obtain ⟨chosen, onward⟩ := choose_ok_iff.mpr (Nat.not_le.mp offered)
      cases taken.symm.trans onward
    | ok chosen =>
      obtain ⟨count, paragraphs, reached, within, followed, stuck⟩ := ih chosen
      refine ⟨count + 1, story.continueMaximally.1 ++ paragraphs, reached,
        Nat.succ_le_succ within, ?_, stuck⟩
      rw [List.take_succ_cons, follow_cons taken, followed]
      rfl

/-- No longer part of the decisions can be followed than that at which the story stops. -/
theorem Stops.isGreatest {story reached : Story} {decisions : List Nat} {count : Nat}
    {paragraphs : List String} (stops : story.Stops decisions count paragraphs reached) :
    IsGreatest {length | length ≤ decisions.length ∧ (story.follow (decisions.take length)).isSome}
      count := by
  refine ⟨⟨stops.within, by simp [stops.followed]⟩, fun length ⟨within, followed⟩ => ?_⟩
  by_contra longer
  have order : count < length := Nat.not_le.mp longer
  have bound : count < decisions.length := Nat.lt_of_lt_of_le order within
  -- The longer part begins with the shorter one and the decision that is not on offer.
  have split : decisions.take length =
      decisions.take count ++ decisions[count] :: (decisions.take length).drop (count + 1) := by
    have parts := (List.take_append_drop count (decisions.take length)).symm
    rwa [List.take_take, Nat.min_eq_left order.le,
      List.drop_eq_getElem_cons (by simp [bound, order]), List.getElem_take] at parts
  rw [split, follow_append, stops.followed] at followed
  simp only [Option.bind_some, Option.isSome_map] at followed
  obtain ⟨⟨later, last⟩, onward⟩ := Option.isSome_iff_exists.mp followed
  obtain ⟨chosen, -, taken, -, -⟩ := exists_follow_cons onward
  have offered := choose_ok_iff.mp ⟨chosen, taken⟩
  have refused := stops.stuck _ (List.getElem?_eq_getElem bound)
  omega

theorem Stops.tail {story reached : Story} {decision : Nat} {rest : List Nat} {count : Nat}
    {paragraphs : List String}
    (stops : story.Stops (decision :: rest) (count + 1) paragraphs reached) :
    ∃ chosen later, story.continueMaximally.2.choose decision = .ok chosen ∧
      chosen.Stops rest count later reached ∧
      paragraphs = story.continueMaximally.1 ++ later := by
  have followed := stops.followed
  rw [List.take_succ_cons] at followed
  obtain ⟨chosen, later, taken, onward, same⟩ := exists_follow_cons followed
  exact ⟨chosen, later, taken, ⟨Nat.le_of_succ_le_succ stops.within, onward, stops.stuck⟩, same⟩

theorem Stops.refused {story reached : Story} {decision : Nat} {rest : List Nat}
    {paragraphs : List String}
    (stops : story.Stops (decision :: rest) 0 paragraphs reached) :
    paragraphs = [] ∧ reached = story ∧
      story.continueMaximally.2.choose decision =
        .error (.choiceOutOfRange decision story.continueMaximally.2.offers.length) := by
  have followed := stops.followed
  cases followed
  refine ⟨rfl, rfl, ?_⟩
  simp [choose, List.getElem?_eq_none (stops.stuck decision rfl)]

end Story

namespace Live

def ReplayStep.isApplied : ReplayStep → Bool
  | .applied _ _ => true
  | _ => false

namespace Replay

def outcomes : Nat → Replay → Story → List ReplayStep
  | 0, _, _ => []
  | count + 1, replay, story =>
    let (outcome, replay, story) := replay.step story
    outcome :: outcomes count replay story

theorem step_nil (passed : Nat) (story : Story) :
    (Replay.mk passed []).step story = (.exhausted, ⟨passed, []⟩, story) := rfl

theorem step_applied {passed decision : Nat} {rest : List Nat} {story chosen : Story}
    (taken : story.continueMaximally.2.choose decision = .ok chosen) :
    (Replay.mk passed (decision :: rest)).step story =
      (.applied decision story.continueMaximally.1, ⟨passed + 1, rest⟩, chosen) := by
  simp only [step, taken]

theorem step_diverged {passed decision : Nat} {rest : List Nat} {story : Story} {error : StoryError}
    (refused : story.continueMaximally.2.choose decision = .error error) :
    (Replay.mk passed (decision :: rest)).step story =
      (.diverged ⟨passed, decision, story.continueMaximally.2.offers.length⟩
          story.continueMaximally.1,
        ⟨passed + (decision :: rest).length, []⟩, story.continueMaximally.2) := by
  simp only [step, refused]

/-- A replay takes the decisions that the story follows, one a step, and then ends. -/
theorem outcomes_of_stops {story reached : Story} {decisions : List Nat} {count : Nat}
    {paragraphs : List String} (passed : Nat) (stops : story.Stops decisions count paragraphs reached) :
    ∃ taken last, (Replay.mk passed decisions).outcomes (count + 1) story = taken ++ [last] ∧
      taken.length = count ∧ (∀ step ∈ taken, step.isApplied) ∧ last.isApplied = false := by
  induction count generalizing story decisions passed paragraphs with
  | zero =>
    cases decisions with
    | nil => exact ⟨[], .exhausted, rfl, rfl, by simp, rfl⟩
    | cons decision rest =>
      obtain ⟨-, -, refused⟩ := stops.refused
      refine ⟨[], .diverged ⟨passed, decision, story.continueMaximally.2.offers.length⟩
        story.continueMaximally.1, ?_, rfl, by simp, rfl⟩
      simp only [outcomes, step_diverged refused, List.nil_append]
  | succ count ih =>
    cases decisions with
    | nil => cases stops.within
    | cons decision rest =>
      obtain ⟨chosen, later, taken, onward, -⟩ := stops.tail
      obtain ⟨steps, last, rests, length, applied, ended⟩ := ih (passed + 1) onward
      refine ⟨.applied decision story.continueMaximally.1 :: steps, last, ?_, by simp [length], ?_,
        ended⟩
      · rw [outcomes, step_applied taken]
        simp only [rests, List.cons_append]
      · intro step member
        rcases List.mem_cons.mp member with same | later
        · exact same ▸ rfl
        · exact applied step later

end Replay

end Live

end Tale
