import Tale.Live.Session
import Tale.Proofs.Story.Forward

/-! Replacing the story of a session.

A reload follows the record through the new story as far as it goes. Everything that comes of it,
the report, the record, the story and the screen, is given by the place where the story stops.
-/

set_option autoImplicit false

namespace Tale.Live

open Story (ReadsOutThroughout Stops)

variable {σ : Type} [Screen σ]

def announce : Option Divergence → σ → σ
  | none => id
  | some divergence => Screen.notice divergence.notice

def divergenceAt (decisions : List Nat) (count : Nat) (reached : Story) : Option Divergence :=
  decisions[count]?.map fun decision =>
    ⟨count, decision, reached.continueMaximally.2.offers.length⟩

def phasesOf (decisions : List Nat) (divergence : Option Divergence) : List Phase :=
  if decisions.isEmpty then [.playing]
  else .replaying :: (divergence.map fun _ => Phase.fallback).toList ++ [.playing]

namespace Session

@[simp] theorem showAll_nil (screen : σ) : showAll [] screen = screen := rfl

theorem showAll_append (first second : List String) (screen : σ) :
    showAll (first ++ second) screen = showAll second (showAll first screen) := by
  simp only [showAll, List.foldl_append]

def Transfer.extend (transfer : Transfer σ) (decisions : List Nat) (paragraphs : List String)
    (story : Story) : Transfer σ :=
  { session := { transfer.session with
      record := ⟨transfer.session.record.decisions ++ decisions⟩
      screen := showAll paragraphs transfer.session.screen }
    story := story
    report := { transfer.report with replayed := transfer.report.replayed + decisions.length } }

def Transfer.fall (transfer : Transfer σ) (divergence : Divergence) : Transfer σ :=
  { transfer with
    session := { transfer.session with
      phase := .fallback
      screen := Screen.notice divergence.notice transfer.session.screen }
    report := { transfer.report with
      divergence := some divergence
      phases := transfer.report.phases ++ [.fallback] } }

theorem Transfer.extend_extend (transfer : Transfer σ) (first second : List Nat)
    (read later : List String) (middle last : Story) :
    (transfer.extend first read middle).extend second later last =
      transfer.extend (first ++ second) (read ++ later) last := by
  simp only [extend, showAll_append, List.append_assoc, List.length_append, Nat.add_assoc]

/-- Any bound on the replay steps that exceeds the number of decisions followed gives the transfer
that an unbounded loop would give. -/
theorem Transfer.follow_of_stops (transfer : Transfer σ) {reached : Story} {decisions : List Nat}
    {count bound : Nat} (passed : Nat) {paragraphs : List String}
    (stops : transfer.story.Stops decisions count paragraphs reached) (bounded : count < bound) :
    Transfer.follow bound ⟨passed, decisions⟩ transfer =
      match decisions[count]? with
      | none => transfer.extend (decisions.take count) paragraphs reached
      | some decision =>
        (transfer.extend (decisions.take count) (paragraphs ++ reached.continueMaximally.1)
          reached.continueMaximally.2).fall
            ⟨passed + count, decision, reached.continueMaximally.2.offers.length⟩ := by
  -- By induction on the decisions followed, each of which takes one step of the bound.
  induction count generalizing transfer decisions passed paragraphs bound with
  | zero =>
    obtain ⟨bound, rfl⟩ := Nat.exists_eq_add_of_lt bounded
    rw [Nat.zero_add]
    cases decisions with
    | nil =>
      cases stops.followed
      simp [Transfer.follow, Replay.step_nil, extend]
    | cons decision rest =>
      obtain ⟨rfl, rfl, refused⟩ := stops.refused
      simp [Transfer.follow, Replay.step_diverged refused, extend, fall, Transfer.enter]
  | succ count ih =>
    obtain ⟨bound, rfl⟩ := Nat.exists_eq_add_of_lt (Nat.zero_lt_of_lt bounded)
    rw [Nat.zero_add] at bounded ⊢
    cases decisions with
    | nil => cases stops.within
    | cons decision rest =>
      obtain ⟨chosen, later, taken, onward, rfl⟩ := stops.tail
      simp only [Transfer.follow, Replay.step_applied taken]
      have step := ih (transfer.extend [decision] transfer.story.continueMaximally.1 chosen)
        (passed + 1) onward (Nat.lt_of_succ_lt_succ bounded)
      refine Eq.trans step ?_
      simp only [extend_extend, List.getElem?_cons_succ, List.take_succ_cons, List.singleton_append,
        List.append_assoc, Nat.add_right_comm passed 1 count, Nat.add_assoc]

theorem present_eq (session : Session σ) (story : Story) :
    present session story = { session with
      story := some story.continueMaximally.2
      screen := Screen.choices story.continueMaximally.2.offers
        (showAll story.continueMaximally.1 session.screen) } := rfl

/-- All that comes of a reload, by where the new story stops following the record. -/
theorem reload_of_stops {session : Session σ} {fresh reached : Story} {count : Nat}
    {paragraphs : List String}
    (stops : fresh.Stops session.record.decisions count paragraphs reached)
    (silent : reached.continueMaximally.2.canContinue = false) :
    let decisions := session.record.decisions
    let divergence := divergenceAt decisions count reached
    session.reload fresh =
      (⟨count, divergence, phasesOf decisions divergence⟩,
        { story := some reached.continueMaximally.2
          record := ⟨decisions.take count⟩
          phase := .playing
          screen := Screen.choices reached.continueMaximally.2.offers
            (announce divergence (showAll (paragraphs ++ reached.continueMaximally.1)
              (Screen.clear session.screen))) }) := by
  intro decisions divergence
  cases empty : session.record.decisions with
  | nil =>
    rw [empty] at stops
    cases Nat.le_zero.mp stops.within
    cases stops.followed
    simp [reload, Record.take, empty, divergence, decisions, divergenceAt, phasesOf,
      Transfer.enter, present_eq, announce, Record.empty]
  | cons first rest =>
    have bounded : count < (first :: rest).length + 1 :=
      Nat.lt_succ_of_le (empty ▸ stops.within)
    rw [empty] at stops
    have replayed (transfer : Transfer σ) (same : transfer.story = fresh) :=
      Transfer.follow_of_stops transfer 0 (same ▸ stops) bounded
    simp only [reload, Record.take, empty, List.isEmpty_cons, Bool.false_eq_true, if_false,
      Replay.ofDecisions, divergence, decisions, divergenceAt, phasesOf]
    rw [replayed _ rfl]
    have length : min count (rest.length + 1) = count := Nat.min_eq_left (Nat.lt_succ_iff.mp bounded)
    cases next : (first :: rest)[count]? with
    | none =>
      simp [present_eq, showAll_append, Transfer.enter, Transfer.extend, Record.empty, announce, length]
    | some decision =>
      -- The story that refused the decision is read up to its choices already.
      have read := Story.continueMaximally_of_silent silent
      simp [present_eq, read, Transfer.enter, Transfer.extend, Transfer.fall, Record.empty, announce,
        length]

theorem phasesOf_divergenceAt {decisions : List Nat} {count : Nat} (reached : Story)
    (within : count ≤ decisions.length) :
    phasesOf decisions (divergenceAt decisions count reached) =
      if decisions = [] then [.playing]
      else if count = decisions.length then [.replaying, .playing]
      else [.replaying, .fallback, .playing] := by
  simp only [phasesOf, divergenceAt, List.isEmpty_iff]
  split
  · rfl
  · split
    · next same => simp [same]
    · next apart =>
      have bound : count < decisions.length := Nat.lt_of_le_of_ne within apart
      simp [List.getElem?_eq_getElem bound]

/-- A reload takes the longest part of the record that the new story can follow. The record keeps
that part, the story stands read out behind it, and the screen shows all that was read on the way.
A decision that is left over is reported, with one notice, as more than what is on offer. -/
theorem reload_follows_longest (session : Session σ) {artifact : Artifact} {fresh : Story}
    (started : Story.start artifact = .ok fresh) (ends : fresh.ReadsOutThroughout) :
    let decisions := session.record.decisions
    let report := (session.reload fresh).1
    let after := (session.reload fresh).2
    ∃ count paragraphs reached,
      IsGreatest {length | length ≤ decisions.length ∧
        (fresh.follow (decisions.take length)).isSome} count ∧
      fresh.follow (decisions.take count) = some (paragraphs, reached) ∧
      report.replayed = count ∧
      after.record = ⟨decisions.take count⟩ ∧
      after.story = some reached.continueMaximally.2 ∧
      reached.continueMaximally.2.canContinue = false ∧
      (report.divergence.isSome ↔ count < decisions.length) ∧
      (∀ divergence, report.divergence = some divergence →
        divergence.decision = count ∧ decisions[count]? = some divergence.index ∧
        divergence.available = reached.continueMaximally.2.offers.length ∧
        divergence.available ≤ divergence.index) ∧
      after.screen = Screen.choices reached.continueMaximally.2.offers
        (announce report.divergence (showAll (paragraphs ++ reached.continueMaximally.1)
          (Screen.clear session.screen))) ∧
      report.phases = (if decisions = [] then [.playing]
        else if count = decisions.length then [.replaying, .playing]
        else [.replaying, .fallback, .playing]) ∧
      after.phase = .playing ∧
      ∃ steps ≤ decisions.length + 1, ∃ taken last,
        (Replay.ofDecisions decisions).outcomes steps fresh = taken ++ [last] ∧
        (∀ step ∈ taken, step.isApplied) ∧ last.isApplied = false := by
  intro decisions report after
  obtain ⟨count, paragraphs, reached, stops⟩ := Story.exists_stops fresh decisions
  have silent := Story.follow_silent (Story.start_placed started).1 ends stops.followed
  have result := reload_of_stops stops silent
  have reported : report = _ := congrArg Prod.fst result
  have left : after = _ := congrArg Prod.snd result
  obtain ⟨taken, last, outcomes, -, applied, ended⟩ :=
    Replay.outcomes_of_stops 0 stops
  refine ⟨count, paragraphs, reached, stops.isGreatest, stops.followed, by rw [reported],
    by rw [left], by rw [left], silent, ?_, ?_, by rw [left, reported], ?_, by rw [left],
    count + 1, Nat.succ_le_succ stops.within, taken, last, outcomes, applied, ended⟩
  · simp [reported, divergenceAt, decisions]
  · intro divergence met
    rw [reported] at met
    obtain ⟨decision, next, rfl⟩ := Option.map_eq_some_iff.mp met
    exact ⟨rfl, next, rfl, stops.stuck decision next⟩
  · rw [reported]
    exact phasesOf_divergenceAt reached stops.within

def gate : Artifact where
  format := Artifact.currentFormat
  start := Artifact.rootKnot
  knots := ⟨[("_root", ⟨[.text "Gate.", .choices
      [⟨"_root.0", "Enter", true, none, .knot "yard"⟩, ⟨"_root.1", "Leave", false, none, .ending⟩]]⟩),
    ("yard", ⟨[.text "Yard.", .choices
      [⟨"yard.0", "Well", false, none, .ending⟩, ⟨"yard.1", "Back", true, none, .knot "_root"⟩]]⟩)],
    by decide⟩
  globals := .empty

theorem gate_leadsForward : gate.LeadsForward fun _ => 0 :=
  Artifact.leadsForward_of_entries (by simp [gate])

theorem gate_starts : ∃ fresh, Story.start gate = .ok fresh :=
  ⟨_, rfl⟩

/-- A session that went through the gate, chose what is no longer in the yard and went on. -/
theorem reload_gate_follows_longest : ∃ fresh, Story.start gate = .ok fresh ∧
    fresh.ReadsOutThroughout ∧
    let session : Session Transcript := ⟨none, ⟨[0, 2, 1]⟩, .playing, .empty⟩
    ∃ count, IsGreatest {length | length ≤ 3 ∧ (fresh.follow ([0, 2, 1].take length)).isSome} count ∧
      (session.reload fresh).1.replayed = count ∧
      (session.reload fresh).2.record = ⟨[0, 2, 1].take count⟩ := by
  obtain ⟨fresh, started⟩ := gate_starts
  have ends := Story.start_readsOut gate_leadsForward started
  obtain ⟨count, -, -, longest, -, replayed, record, -⟩ :=
    reload_follows_longest (⟨none, ⟨[0, 2, 1]⟩, .playing, .empty⟩ : Session Transcript) started ends
  exact ⟨fresh, started, ends, count, longest, replayed, record⟩

end Session

end Tale.Live
