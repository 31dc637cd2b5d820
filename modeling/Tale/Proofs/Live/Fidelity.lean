import Tale.Proofs.Live.Reload

/-! Replay fidelity.

Whatever a session was asked to do before, the story that it runs is the one that a fresh story of
the same artifact becomes when it follows the record, and the transcript shows what is read on the
way. Starting, choosing and reloading preserve this, also when a reload stops early; so a reload
with an unchanged artifact changes nothing that the player sees but the notice of an earlier one.
-/

set_option autoImplicit false

namespace Tale.Live

open Story (ReadsOutThroughout)

inductive Act where
  | start (story : Story)
  | choose (index : Nat)
  | reload (story : Story)

def Act.story? : Act → Option Story
  | .start story => some story
  | .choose _ => none
  | .reload story => some story

/-- A story at its beginning that reads out before every choice. -/
def Fresh (story : Story) : Prop :=
  (∃ artifact, Story.start artifact = .ok story) ∧ story.ReadsOutThroughout

def Shown.isNotice : Shown → Bool
  | .notice _ => true
  | _ => false

namespace Session

variable {σ : Type} [Screen σ]

def perform (session : Session σ) : Act → Session σ
  | .start story => session.start story
  | .choose index =>
    match session.choose index with
    | .ok after => after
    | .error _ => session
  | .reload story => (session.reload story).2

def run (acts : List Act) : Session Transcript := acts.foldl perform (onScreen .empty)

/-- What a transcript shows when some paragraphs were read up to some choices, whatever notices
there are between the paragraphs. -/
def Shows (transcript : Transcript) (paragraphs : List String) (offers : List Offer) : Prop :=
  ∃ before, transcript.entries = before ++ [.choices (offers.map Offer.text)] ∧
    before.filter (!·.isNotice) = paragraphs.map .paragraph

theorem showAll_entries (paragraphs : List String) (transcript : Transcript) :
    (showAll paragraphs transcript).entries = transcript.entries ++ paragraphs.map .paragraph := by
  induction paragraphs generalizing transcript with
  | nil => simp
  | cons words rest ih =>
    change (showAll rest (Screen.paragraph words transcript)).entries = _
    rw [ih]
    simp [Screen.paragraph]

theorem choices_entries (offers : List Offer) (transcript : Transcript) :
    (Screen.choices offers transcript).entries =
      transcript.entries.filter (!·.isChoices) ++ [.choices (offers.map Offer.text)] := rfl

theorem filter_isChoices_paragraphs (paragraphs : List String) :
    (paragraphs.map Shown.paragraph).filter (!·.isChoices) = paragraphs.map .paragraph := by
  simp [List.filter_eq_self, Shown.isChoices]

theorem filter_isNotice_paragraphs (paragraphs : List String) :
    (paragraphs.map Shown.paragraph).filter (!·.isNotice) = paragraphs.map .paragraph := by
  simp [List.filter_eq_self, Shown.isNotice]

theorem Shows.extend {transcript : Transcript} {earlier : List String} {passed : List Offer}
    (shows : Shows transcript earlier passed) (later : List String) (offers : List Offer) :
    Shows (Screen.choices offers (showAll later transcript)) (earlier ++ later) offers := by
  obtain ⟨before, entries, paragraphs⟩ := shows
  refine ⟨_, choices_entries offers _, ?_⟩
  rw [showAll_entries, entries, List.filter_filter]
  simp only [List.filter_append, ← List.filter_filter, filter_isChoices_paragraphs,
    filter_isNotice_paragraphs, List.map_append]
  rw [List.filter_comm, paragraphs, filter_isChoices_paragraphs]
  simp [Shown.isChoices]

/-- A screen that was cleared shows the paragraphs that came since, and perhaps a notice. -/
theorem shows_cleared (transcript : Transcript) (paragraphs : List String)
    (divergence : Option Divergence) (offers : List Offer) :
    Shows (Screen.choices offers (announce divergence
      (showAll paragraphs (Screen.clear transcript)))) paragraphs offers := by
  refine ⟨_, choices_entries offers _, ?_⟩
  have cleared : (Screen.clear transcript).entries = [] := rfl
  cases divergence with
  | none =>
    simp [announce, showAll_entries, cleared, Shown.isChoices, Shown.isNotice]
  | some divergence =>
    simp [announce, Screen.notice, showAll_entries, cleared, Shown.isChoices, Shown.isNotice]

/-- The running story is the replay of the record on a fresh story of its artifact, and the
transcript shows that replay. -/
structure Faithful (session : Session Transcript) : Prop where
  playing : session.phase = .playing
  replayed : ∀ story, session.story = some story → ∃ fresh paragraphs reached,
    Story.start story.artifact = .ok fresh ∧ fresh.ReadsOutThroughout ∧
    fresh.follow session.record.decisions = some (paragraphs, reached) ∧
    story = reached.continueMaximally.2 ∧
    Shows session.screen (paragraphs ++ reached.continueMaximally.1) story.offers

theorem onScreen_faithful : Faithful (onScreen .empty) where
  playing := rfl
  replayed story running := by cases running

theorem start_artifact {artifact : Artifact} {fresh reached : Story} {decisions : List Nat}
    {paragraphs : List String} (started : Story.start artifact = .ok fresh)
    (ends : fresh.ReadsOutThroughout)
    (followed : fresh.follow decisions = some (paragraphs, reached)) :
    Story.start reached.continueMaximally.2.artifact = .ok fresh := by
  obtain ⟨placed, same⟩ := Story.start_placed started
  obtain ⟨there, unchanged⟩ := Story.follow_placed placed ends followed
  rw [(Story.continueMaximally_placed there).2, unchanged, same, started]

theorem start_faithful (session : Session Transcript) {story : Story} (fresh : Fresh story) :
    Faithful (session.start story) where
  playing := rfl
  replayed running same := by
    obtain ⟨⟨artifact, started⟩, ends⟩ := fresh
    cases same
    have unmoved : story.follow [] = some ([], story) := rfl
    refine ⟨story, [], story, start_artifact started ends unmoved, ends, unmoved, rfl, ?_⟩
    exact shows_cleared session.screen story.continueMaximally.1 none _

theorem choose_faithful {session after : Session Transcript} {index : Nat}
    (faithful : Faithful session) (chosen : session.choose index = .ok after) :
    Faithful after := by
  simp only [choose] at chosen
  split at chosen
  · cases chosen
  · next story running =>
    obtain ⟨fresh, paragraphs, reached, started, ends, followed, rfl, shows⟩ :=
      faithful.replayed story running
    split at chosen
    · cases chosen
    · next last taken =>
      cases chosen
      -- The record grows by the decision that was taken, and so does the replay.
      have longer : fresh.follow (session.record.push index).decisions =
          some (paragraphs ++ reached.continueMaximally.1, last) := by
        rw [Record.push, Story.follow_append, followed]
        simp only [Option.bind_some, Story.follow_singleton taken, Option.map_some]
      refine ⟨faithful.playing, ?_⟩
      intro story now
      cases now
      exact ⟨fresh, _, last, start_artifact started ends longer, ends, longer, rfl,
        shows.extend last.continueMaximally.1 _⟩

theorem reload_faithful (session : Session Transcript) {story : Story} (fresh : Fresh story) :
    Faithful (session.reload story).2 := by
  obtain ⟨⟨artifact, started⟩, ends⟩ := fresh
  obtain ⟨count, paragraphs, reached, stops⟩ :=
    Story.exists_stops story session.record.decisions
  have silent := Story.follow_silent (Story.start_placed started).1 ends stops.followed
  rw [reload_of_stops stops silent]
  -- Also a reload that stops early has followed all of the record that it keeps.
  refine ⟨rfl, ?_⟩
  intro running now
  cases now
  exact ⟨story, paragraphs, reached, start_artifact started ends stops.followed, ends,
    stops.followed, rfl, shows_cleared session.screen _ _ _⟩

theorem perform_faithful {session : Session Transcript} {act : Act} (faithful : Faithful session)
    (fresh : ∀ story, act.story? = some story → Fresh story) : Faithful (session.perform act) := by
  cases act with
  | start story => exact start_faithful session (fresh story rfl)
  | choose index =>
    simp only [perform]
    split
    · next after chosen => exact choose_faithful faithful chosen
    · exact faithful
  | reload story => exact reload_faithful session (fresh story rfl)

theorem run_faithful {acts : List Act}
    (fresh : ∀ act ∈ acts, ∀ story, act.story? = some story → Fresh story) :
    Faithful (run acts) := by
  refine List.foldlRecOn acts perform onScreen_faithful fun session faithful act member => ?_
  exact perform_faithful faithful (fresh act member)

/-- Replay fidelity: replacing the running story by a fresh one of the same artifact, after any
acts, replays the whole record and leads to the same story. The transcript keeps its paragraphs and
choices in order and loses its notices. -/
theorem reload_same_artifact {acts : List Act} {story again : Story}
    (fresh : ∀ act ∈ acts, ∀ story, act.story? = some story → Fresh story)
    (running : (run acts).story = some story)
    (restarted : Story.start story.artifact = .ok again) :
    let session := run acts
    let report := (session.reload again).1
    let after := (session.reload again).2
    report.divergence = none ∧ report.replayed = session.record.decisions.length ∧
      report.phases = (if session.record.decisions = [] then [.playing]
        else [.replaying, .playing]) ∧
      after.record = session.record ∧ after.story = some story ∧ after.phase = session.phase ∧
      after.screen.entries = session.screen.entries.filter (!·.isNotice) := by
  intro session report after
  have faithful := run_faithful fresh
  obtain ⟨first, paragraphs, reached, started, ends, followed, rfl, before, entries, shown⟩ :=
    faithful.replayed story running
  cases started.symm.trans restarted
  have stops : again.Stops session.record.decisions session.record.decisions.length paragraphs
      reached := ⟨Nat.le_refl _, by rwa [List.take_length], by simp⟩
  have silent := Story.follow_silent (Story.start_placed started).1 ends followed
  have result := reload_of_stops stops silent
  have whole : divergenceAt session.record.decisions session.record.decisions.length reached =
      none := by simp [divergenceAt]
  have reported : report = _ := congrArg Prod.fst result
  have left : after = _ := congrArg Prod.snd result
  rw [whole] at reported left
  refine ⟨by rw [reported], by rw [reported], ?_, ?_, by rw [left], ?_, ?_⟩
  · rw [reported, ← whole, phasesOf_divergenceAt reached (Nat.le_refl _), if_pos rfl]
  · rw [left, List.take_length]
  · rw [left]
    exact faithful.playing.symm
  · have cleared : (Screen.clear session.screen).entries = [] := rfl
    rw [left, entries, List.filter_append, shown, choices_entries]
    simp only [announce, id, showAll_entries, cleared, List.nil_append, filter_isChoices_paragraphs]
    rfl

theorem gate_fresh {fresh : Story} (started : Story.start gate = .ok fresh) : Fresh fresh :=
  ⟨⟨gate, started⟩, Story.start_readsOut gate_leadsForward started⟩

theorem gate_acts_fresh {fresh : Story} (started : Story.start gate = .ok fresh) :
    ∀ act ∈ [Act.start fresh, .choose 0, .choose 2, .choose 1], ∀ story,
      act.story? = some story → Fresh story := by
  intro act member story handed
  simp only [List.mem_cons, List.not_mem_nil, or_false] at member
  rcases member with rfl | rfl | rfl | rfl
  · cases handed
    exact gate_fresh started
  all_goals cases handed

/-- Through the gate, a choice that the yard does not offer, and back to the gate. -/
theorem reload_same_gate : ∃ fresh story, Story.start gate = .ok fresh ∧
    let session := run [.start fresh, .choose 0, .choose 2, .choose 1]
    session.story = some story ∧ session.record = ⟨[0, 1]⟩ ∧
    (session.reload fresh).1 = ⟨2, none, [.replaying, .playing]⟩ ∧
    (session.reload fresh).2.story = some story := by
  refine ⟨_, _, rfl, rfl, rfl, ?_⟩
  obtain ⟨divergence, replayed, phases, -, same, -⟩ :=
    reload_same_artifact (gate_acts_fresh rfl) rfl rfl
  exact ⟨congr (congrArg₂ Report.mk replayed divergence) phases, same⟩

end Session

end Tale.Live
