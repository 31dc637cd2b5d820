import Mathlib.Logic.Relation
import Tale.Proofs.Story.Closed

/-! What a story can be asked for at any time.

A story that is begun and asked to read or to choose in any order is always in one of three phases:
a paragraph is ready, or choices are on offer, or it has ended. Until it has ended it stands in a
knot of its artifact that it has visited, and all that is on offer leads to a knot or to the end.
-/

set_option autoImplicit false

namespace Tale

namespace Story

inductive Call where
  | continueLine
  | continueMaximally
  | choose (index : Nat)
  deriving DecidableEq, Repr

def perform (story : Story) : Call → Story
  | .continueLine => story.continueLine.2
  | .continueMaximally => story.continueMaximally.2
  | .choose index =>
    match story.choose index with
    | .ok chosen => chosen
    | .error _ => story

/-- The knot in which a story stands exists and was visited. -/
def Known (story : Story) : Prop :=
  ∀ place, story.position = some place →
    story.artifact.knots.contains place.knot ∧ 0 < story.visitCount place.knot

def Moves (story after : Story) : Prop := story.advance = .moving after

/-- Wherever silent steps lead from here, the story stands in a knot that exists and was visited. -/
def NeverLost (story : Story) : Prop :=
  ∀ between, Relation.ReflTransGen Moves story between → between.Known

/-- Offers are numbered in order, and each leads to the end or to a knot that exists. -/
def Offered (story : Story) : Prop :=
  ∀ (index : Nat) (offer : Offer), story.offers[index]? = some offer →
    offer.index = index ∧ story.artifact.Has offer.target

/-- The three phases of a story between two calls. -/
inductive InPhase (story : Story) : Prop where
  | reading (ready : story.canContinue) (alone : story.offers = [])
      (stands : story.position.isSome)
  | choosing (silent : story.canContinue = false) (offered : story.offers ≠ [])
      (stands : story.position.isSome)
  | ended (silent : story.canContinue = false) (alone : story.offers = [])
      (gone : story.position = none)

structure Sound (story : Story) : Prop where
  placed : story.Placed
  closed : story.artifact.Closed
  known : story.Known

structure Settled (story : Story) : Prop extends Sound story where
  offered : story.Offered
  inPhase : story.InPhase

/-- Nothing is ready and nothing is on offer, so that the story has to go on. -/
structure Idle (story : Story) : Prop where
  silent : story.canContinue = false
  alone : story.offers = []

theorem Known.of_ended {story : Story} (ended : story.position = none) : story.Known := by
  intro place stands
  rw [ended] at stands
  cases stands

theorem enter_known (story : Story) {knot : String} (there : story.artifact.knots.contains knot) :
    (story.enter knot).Known := by
  intro place stands
  cases stands
  refine ⟨there, ?_⟩
  simp [visitCount, enter, Std.ReflCmp.compare_self]

theorem Known.onward {story after : Story} {knot : String} {ahead rest : List Step}
    (known : story.Known) (stands : story.position = some ⟨knot, ahead⟩)
    (standsAfter : after.position = some ⟨knot, rest⟩) (artifact : after.artifact = story.artifact)
    (visits : after.visits = story.visits) : after.Known := by
  intro place found
  cases standsAfter.symm.trans found
  obtain ⟨there, visited⟩ := known ⟨knot, ahead⟩ stands
  rw [visitCount] at visited ⊢
  exact ⟨artifact ▸ there, visits ▸ visited⟩

theorem Offered.of_none {story : Story} (alone : story.offers = []) : story.Offered := by
  intro index offer found
  simp [alone] at found

theorem offersOf_getElem? {story : Story} {points : List ChoicePoint} {index : Nat} {offer : Offer}
    (found : (story.offersOf points)[index]? = some offer) :
    offer.index = index ∧ ∃ point ∈ points, offer.target = point.target := by
  simp only [offersOf, List.getElem?_map, List.getElem?_zipIdx, Option.map_map,
    Option.map_eq_some_iff, Function.comp_apply, Nat.zero_add] at found
  obtain ⟨point, selected, rfl⟩ := found
  exact ⟨rfl, point, (List.mem_filter.mp (List.mem_of_getElem? selected)).1, rfl⟩

theorem Sound.enter {story : Story} (sound : story.Sound) (silent : story.canContinue = false)
    {knot : String} (there : story.artifact.knots.contains knot) : (story.enter knot).Sound :=
  ⟨enter_placed story knot silent, sound.closed, enter_known story there⟩

theorem Settled.of_ended {story : Story} (closed : story.artifact.Closed) (idle : story.Idle)
    (ended : story.position = none) : story.Settled where
  placed := .of_ended ended idle.silent
  closed := closed
  known := .of_ended ended
  offered := .of_none idle.alone
  inPhase := .ended idle.silent idle.alone ended

/-- What a step leads to from a sound place where nothing is ready and nothing is on offer. -/
theorem advance_settled {story : Story} (sound : story.Sound) (idle : story.Idle) :
    match story.advance with
    | .settled after => after.Settled ∧ after.artifact = story.artifact
    | .moving after => after.Sound ∧ after.Idle ∧ after.artifact = story.artifact := by
  have placed := advance_placed sound.placed idle.silent
  -- The step that is ahead belongs to the knot in which the story stands.
  have here {knot step rest} (stands : story.position = some ⟨knot, step :: rest⟩) :
      step ∈ story.artifact.stepsOf knot :=
    (sound.placed.ahead _ _ stands).subset List.mem_cons_self
  revert placed
  fun_cases advance story with
  | case1 gone => exact fun _ => ⟨.of_ended sound.closed idle gone, rfl⟩
  | case2 knot stands => exact fun _ => ⟨.of_ended sound.closed ⟨idle.silent, idle.alone⟩ rfl, rfl⟩
  | case3 knot words ahead stands =>
    intro placed
    refine ⟨⟨⟨placed.1, sound.closed, ?_⟩, .of_none idle.alone, .reading rfl idle.alone rfl⟩, rfl⟩
    exact sound.known.onward stands rfl rfl rfl
  | case4 knot name value ahead stands =>
    intro placed
    refine ⟨⟨placed.1, sound.closed, ?_⟩, ⟨idle.silent, idle.alone⟩, rfl⟩
    exact sound.known.onward stands rfl rfl rfl
  | case5 knot name ahead stands =>
    have there : story.artifact.Has (.knot name) := sound.closed.has (here stands) (by simp [Step.targets])
    exact fun _ => ⟨sound.enter idle.silent there, ⟨idle.silent, idle.alone⟩, rfl⟩
  | case6 knot ahead stands =>
    exact fun _ => ⟨.of_ended sound.closed ⟨idle.silent, idle.alone⟩ rfl, rfl⟩
  | case7 knot points ahead stands offers =>
    intro placed
    by_cases nothing : offers.isEmpty
    · have alone : offers = [] := List.isEmpty_iff.mp nothing
      exact ⟨.of_ended sound.closed ⟨idle.silent, alone⟩ (by simp [nothing]), rfl⟩
    · refine ⟨⟨⟨placed.1, sound.closed, ?_⟩, fun index offer found => ?_, ?_⟩, rfl⟩
      · exact sound.known.onward stands (if_neg nothing) rfl rfl
      · obtain ⟨numbered, point, member, same⟩ := offersOf_getElem? found
        refine ⟨numbered, same ▸ sound.closed.has (here stands) ?_⟩
        exact List.mem_map_of_mem member
      · exact .choosing idle.silent (fun none => nothing (List.isEmpty_iff.mpr none))
          (by simp [nothing])

/-- Silent steps end in a settled story, and on the way it is never lost. -/
theorem settleWithin_settled {bound : Nat} {story : Story} (sound : story.Sound)
    (idle : story.Idle) :
    (settleWithin bound story).Settled ∧
      (settleWithin bound story).artifact = story.artifact := by
  induction bound generalizing story with
  | zero => exact ⟨.of_ended sound.closed ⟨idle.silent, idle.alone⟩ rfl, rfl⟩
  | succ bound ih =>
    have step := advance_settled sound idle
    simp only [settleWithin]
    cases led : story.advance with
    | settled after => simpa only [led] using step
    | moving after =>
      simp only [led] at step
      obtain ⟨settled, same⟩ := ih step.1 step.2.1
      exact ⟨settled, same.trans step.2.2⟩

theorem moves_sound {story between : Story} (sound : story.Sound) (idle : story.Idle)
    (moved : Relation.ReflTransGen Moves story between) :
    between.Sound ∧ between.Idle ∧ between.artifact = story.artifact := by
  induction moved with
  | refl => exact ⟨sound, idle, rfl⟩
  | tail _ moves ih =>
    obtain ⟨soundThere, idleThere, same⟩ := ih
    have step := advance_settled soundThere idleThere
    rw [moves] at step
    exact ⟨step.1, step.2.1, step.2.2.trans same⟩

theorem neverLost {story : Story} (sound : story.Sound) (idle : story.Idle) :
    story.NeverLost :=
  fun _ moved => (moves_sound sound idle moved).1.known

theorem blank_enter_sound {artifact : Artifact} (closed : artifact.Closed)
    (there : artifact.knots.contains artifact.start) :
    ((blank artifact).enter artifact.start).Sound ∧ ((blank artifact).enter artifact.start).Idle :=
  ⟨⟨enter_placed _ _ rfl, closed, enter_known _ there⟩, rfl, rfl⟩

theorem start_settled {artifact : Artifact} {story : Story}
    (started : start artifact = .ok story) :
    story.Settled ∧ story.artifact = artifact := by
  obtain ⟨valid, closed, rfl⟩ := start_eq_ok_iff.mp started
  obtain ⟨sound, idle⟩ := blank_enter_sound closed (Artifact.validate_eq_ok_iff.mp valid).2
  exact settleWithin_settled sound idle

/-! ## Calls -/

/-- A story that was told which offer is taken, and has not gone there yet. -/
def taking (story : Story) (offer : Offer) : Story :=
  { story with
    offers := []
    taken := OrderedSet.insert story.taken offer.id }

theorem choose_eq (story : Story) (index : Nat) :
    story.choose index =
      match story.offers[index]? with
      | none => .error (.choiceOutOfRange index story.offers.length)
      | some offer =>
        match offer.target with
        | .knot name => .ok ((story.taking offer).enter name).settle
        | .ending => .ok { story.taking offer with position := none }.settle :=
  rfl

theorem Sound.withoutPending {story : Story} (sound : story.Sound) :
    { story with pending := none }.Sound :=
  ⟨sound.placed.withoutPending, sound.closed, sound.known⟩

namespace Settled

variable {story : Story}

theorem alone_of_ready (settled : story.Settled) (ready : story.canContinue) :
    story.offers = [] := by
  cases settled.inPhase with
  | reading _ alone => exact alone
  | choosing silent | ended silent => exact absurd ready (Bool.eq_false_iff.mp silent)

theorem silent_of_offered (settled : story.Settled) {offer : Offer} (member : offer ∈ story.offers) :
    story.canContinue = false := by
  cases settled.inPhase with
  | reading _ alone | ended _ alone => simp [alone] at member
  | choosing silent => exact silent

theorem next (settled : story.Settled) :
    story.next.Settled ∧ story.next.artifact = story.artifact := by
  by_cases ready : story.canContinue
  · rw [next_of_ready ready]
    exact settleWithin_settled settled.toSound.withoutPending
      ⟨rfl, settled.alone_of_ready ready⟩
  · rw [next_of_silent (by simpa using ready)]
    exact ⟨settled, rfl⟩

theorem iterate_next (settled : story.Settled) (count : Nat) :
    (Story.next^[count] story).Settled ∧
      (Story.next^[count] story).artifact = story.artifact := by
  induction count with
  | zero => exact ⟨settled, rfl⟩
  | succ count ih =>
    rw [Function.iterate_succ_apply']
    obtain ⟨later, same⟩ := ih.1.next
    exact ⟨later, same.trans ih.2⟩

theorem taking_enter (settled : story.Settled) {offer : Offer} (member : offer ∈ story.offers)
    {name : String} (leads : offer.target = .knot name) :
    ((story.taking offer).enter name).Sound ∧ ((story.taking offer).enter name).Idle := by
  have silent := settled.silent_of_offered member
  obtain ⟨index, found⟩ := List.mem_iff_getElem?.mp member
  have there : story.artifact.Has (.knot name) := leads ▸ (settled.offered index offer found).2
  exact ⟨⟨enter_placed _ _ silent, settled.closed, enter_known (story.taking offer) there⟩,
    silent, rfl⟩

theorem choose (settled : story.Settled) {chosen : Story} {index : Nat}
    (taken : story.choose index = .ok chosen) :
    chosen.Settled ∧ chosen.artifact = story.artifact := by
  rw [choose_eq] at taken
  split at taken
  · cases taken
  · next offer found =>
    have member := List.mem_of_getElem? found
    split at taken
    · next name leads =>
      cases taken
      obtain ⟨sound, idle⟩ := settled.taking_enter member leads
      exact settleWithin_settled sound idle
    · cases taken
      have silent := settled.silent_of_offered member
      exact settleWithin_settled ⟨.of_ended rfl silent, settled.closed, .of_ended rfl⟩ ⟨silent, rfl⟩

theorem perform (settled : story.Settled) (call : Call) :
    (story.perform call).Settled ∧ (story.perform call).artifact = story.artifact := by
  cases call with
  | continueLine => exact settled.next
  | continueMaximally =>
    simp only [Story.perform, continueMaximally, readWithin_snd]
    exact settled.iterate_next _
  | choose index =>
    simp only [Story.perform]
    split
    · next chosen taken => exact settled.choose taken
    · exact ⟨settled, rfl⟩

theorem run (settled : story.Settled) (calls : List Call) :
    (calls.foldl Story.perform story).Settled ∧
      (calls.foldl Story.perform story).artifact = story.artifact := by
  induction calls generalizing story with
  | nil => exact ⟨settled, rfl⟩
  | cons call rest ih =>
    obtain ⟨after, same⟩ := settled.perform call
    obtain ⟨last, sameLast⟩ := ih after
    exact ⟨last, sameLast.trans same⟩

theorem hasEnded_iff (settled : story.Settled) : story.hasEnded ↔ story.position = none := by
  cases settled.inPhase with
  | reading ready _ stands =>
    obtain ⟨place, stands⟩ := Option.isSome_iff_exists.mp stands
    simp [hasEnded, stands]
  | choosing _ _ stands =>
    obtain ⟨place, stands⟩ := Option.isSome_iff_exists.mp stands
    simp [hasEnded, stands]
  | ended silent alone gone =>
    have quiet : story.pending = none := by simpa [canContinue] using silent
    simp [hasEnded, gone, quiet, alone]

theorem one_phase (settled : story.Settled) :
    [story.canContinue, !story.offers.isEmpty, story.hasEnded].count true = 1 := by
  have ended := settled.hasEnded_iff
  cases settled.inPhase with
  | reading ready alone stands =>
    have goesOn : story.hasEnded = false := by
      rw [Bool.eq_false_iff, ne_eq, ended]
      exact Option.isSome_iff_ne_none.mp stands
    simp [ready, alone, goesOn]
  | choosing silent offered stands =>
    have goesOn : story.hasEnded = false := by
      rw [Bool.eq_false_iff, ne_eq, ended]
      exact Option.isSome_iff_ne_none.mp stands
    simp [silent, offered, goesOn]
  | ended silent alone gone => simp [silent, alone, ended.mpr gone]

theorem perform_of_ended (settled : story.Settled) (ended : story.hasEnded) (call : Call) :
    story.perform call = story := by
  have gone := settled.hasEnded_iff.mp ended
  cases settled.inPhase with
  | reading _ _ stands | choosing _ _ stands => simp [gone] at stands
  | ended silent alone _ =>
    cases call with
    | continueLine => exact next_of_silent silent
    | continueMaximally => rw [Story.perform, continueMaximally_of_silent silent]
    | choose index => simp [Story.perform, choose_eq, alone]

end Settled

theorem choose_of_length_le {story : Story} {index : Nat} (beyond : story.offers.length ≤ index) :
    story.choose index = .error (.choiceOutOfRange index story.offers.length) := by
  rw [choose_eq, List.getElem?_eq_none beyond]

/-- Whatever a story was asked to do since it was begun, it is in exactly one phase, it stands in a
knot that exists and was visited until it has ended, also between the silent steps of a call, its
offers lead somewhere, exactly the offers that there are can be chosen, and its end is final. -/
theorem run_in_phase {artifact : Artifact} {story : Story}
    (started : start artifact = .ok story) (calls : List Call) :
    let reached := calls.foldl perform story
    reached.artifact = artifact ∧
    [reached.canContinue, !reached.offers.isEmpty, reached.hasEnded].count true = 1 ∧
    (reached.hasEnded = false → ∃ place, reached.position = some place ∧
      artifact.knots.contains place.knot ∧ 0 < reached.visitCount place.knot) ∧
    ((blank artifact).enter artifact.start).NeverLost ∧
    (reached.canContinue → { reached with pending := none }.NeverLost) ∧
    (∀ offer ∈ reached.offers, ∀ name, offer.target = .knot name →
      ((reached.taking offer).enter name).NeverLost) ∧
    (∀ (index : Nat) (offer : Offer), reached.offers[index]? = some offer → offer.index = index ∧
      (offer.target = .ending ∨
        ∃ name, offer.target = .knot name ∧ artifact.knots.contains name)) ∧
    (∀ index, ((∃ chosen, reached.choose index = .ok chosen) ↔ index < reached.offers.length) ∧
      (¬ index < reached.offers.length →
        reached.choose index = .error (.choiceOutOfRange index reached.offers.length) ∧
        reached.perform (.choose index) = reached)) ∧
    (reached.hasEnded → ∀ call, reached.perform call = reached) := by
  intro reached
  obtain ⟨first, same⟩ := start_settled started
  obtain ⟨settled, sameAfter⟩ := first.run calls
  obtain ⟨valid, closed, -⟩ := start_eq_ok_iff.mp started
  have origin : reached.artifact = artifact := sameAfter.trans same
  obtain ⟨beginning, idle⟩ :=
    blank_enter_sound closed (Artifact.validate_eq_ok_iff.mp valid).2
  refine ⟨origin, settled.one_phase, fun unfinished => ?_, neverLost beginning idle,
    fun ready => ?_, fun offer member name leads => ?_, fun index offer found => ?_,
    fun index => ⟨choose_ok_iff, fun beyond => ?_⟩, settled.perform_of_ended⟩
  · have stands : reached.position ≠ none := by
      rw [ne_eq, ← settled.hasEnded_iff]
      exact Bool.eq_false_iff.mp unfinished
    obtain ⟨place, stands⟩ := Option.ne_none_iff_exists'.mp stands
    exact ⟨place, stands, origin ▸ settled.known place stands⟩
  · exact neverLost settled.toSound.withoutPending ⟨rfl, settled.alone_of_ready ready⟩
  · obtain ⟨sound, idle⟩ := settled.taking_enter member leads
    exact neverLost sound idle
  · obtain ⟨numbered, leads⟩ := settled.offered index offer found
    exact ⟨numbered, origin ▸ Artifact.has_iff.mp leads⟩
  · have refused := choose_of_length_le (Nat.not_lt.mp beyond)
    exact ⟨refused, by simp only [perform, refused]⟩

def ford : Artifact where
  format := Artifact.currentFormat
  start := Artifact.rootKnot
  knots := ⟨[("_root", ⟨[.text "A ford.", .choices [⟨"_root.0", "Wade", false, none, .knot "bank"⟩]]⟩),
    ("bank", ⟨[.set "wet" (.bool true), .text "The bank.", .divert .ending]⟩)], by decide⟩
  globals := .empty

/-- Choosing too early and too far, reading, wading and reading on. -/
theorem ford_in_phase : ∃ story, start ford = .ok story ∧
    let reached := [Call.choose 0, .continueLine, .choose 1, .choose 0, .continueMaximally].foldl
      perform story
    reached.hasEnded ∧ (∀ call, reached.perform call = reached) ∧
      reached.choose 0 = .error (.choiceOutOfRange 0 0) := by
  have started : start ford = .ok ((blank ford).enter ford.start).settle := rfl
  refine ⟨_, started, rfl, ?_⟩
  obtain ⟨-, -, -, -, -, -, -, choices, final⟩ := run_in_phase started
    [Call.choose 0, .continueLine, .choose 1, .choose 0, .continueMaximally]
  exact ⟨final rfl, ((choices 0).2 (Nat.lt_irrefl 0)).1⟩

end Story

end Tale
