import Tale.Proofs.Live.Fidelity
import Tale.Proofs.Story.Phases

/-! What the player sees.

Paragraphs, choices and notices come to a transcript on three ways: when a story is started, when a
choice is taken and when a record is replayed. On all of them the transcript ends with the choices that
the running story offers, shows no others, and holds the paragraphs of the whole record. Notices are
only those of the latest start or reload.
-/

set_option autoImplicit false

namespace Tale.Live

namespace Session

theorem filterMap_filter_of_none (keep : Shown → Bool) {image : Shown → Option String}
    (dropped : ∀ entry, keep entry = false → image entry = none) (entries : List Shown) :
    (entries.filter keep).filterMap image = entries.filterMap image := by
  rw [List.filterMap_filter]
  refine List.filterMap_congr fun entry _ => ?_
  cases kept : keep entry with
  | true => rfl
  | false => exact (dropped entry kept).symm

/-! ## Notices -/

theorem notices_choices (offers : List Offer) (transcript : Transcript) :
    (Screen.choices offers transcript).notices = transcript.notices := by
  unfold Transcript.notices
  rw [choices_entries, List.filterMap_append, filterMap_filter_of_none]
  · simp
  · intro entry dropped
    cases entry with
    | choices words => rfl
    | paragraph words | notice words => cases dropped

theorem notices_showAll (paragraphs : List String) (transcript : Transcript) :
    (showAll paragraphs transcript).notices = transcript.notices := by
  simp [Transcript.notices, showAll_entries, List.filterMap_map]

theorem notices_announce (divergence : Option Divergence) (transcript : Transcript) :
    (announce divergence transcript).notices =
      transcript.notices ++ (divergence.map Divergence.notice).toList := by
  cases divergence with
  | none => simp [announce]
  | some divergence => simp [announce, Transcript.notices, Screen.notice]

theorem notices_present (session : Session Transcript) (story : Story) :
    (present session story).screen.notices = session.screen.notices := by
  rw [present_eq, notices_choices, notices_showAll]

theorem notices_start (session : Session Transcript) (story : Story) :
    (session.start story).screen.notices = [] :=
  notices_present _ story

theorem notices_choose {session after : Session Transcript} {index : Nat}
    (chosen : session.choose index = .ok after) :
    after.screen.notices = session.screen.notices := by
  simp only [choose] at chosen
  split at chosen
  · cases chosen
  · split at chosen
    · cases chosen
    · next last taken =>
      cases chosen
      exact notices_present _ last

/-- A reload leaves the notice of its own divergence and no other. -/
theorem notices_reload (session : Session Transcript) {story : Story} (fresh : Fresh story) :
    (session.reload story).2.screen.notices =
      ((session.reload story).1.divergence.map Divergence.notice).toList := by
  obtain ⟨⟨artifact, started⟩, ends⟩ := fresh
  obtain ⟨count, paragraphs, reached, stops⟩ := Story.exists_stops story session.record.decisions
  have silent := Story.follow_silent (Story.start_placed started).1 ends stops.followed
  rw [reload_of_stops stops silent, notices_choices, notices_announce, notices_showAll]
  rfl

/-- The divergence at which the latest start or reload stopped, if it was a reload that stopped early;
the acts are given with the latest first. -/
def latestDivergence? : List Act → Option Divergence
  | [] => none
  | .start _ :: _ => none
  | .choose _ :: earlier => latestDivergence? earlier
  | .reload story :: earlier => ((run earlier.reverse).reload story).1.divergence

theorem run_concat (acts : List Act) (act : Act) : run (acts ++ [act]) = (run acts).perform act :=
  List.foldl_concat ..

theorem run_notices {acts : List Act}
    (fresh : ∀ act ∈ acts, ∀ story, act.story? = some story → Fresh story) :
    (run acts).screen.notices = ((latestDivergence? acts.reverse).map Divergence.notice).toList := by
  induction acts using List.reverseRecOn with
  | nil => rfl
  | append_singleton acts act ih =>
    have before := ih fun other member => fresh other (List.mem_append_left _ member)
    rw [run_concat, List.reverse_concat]
    cases act with
    | start story => exact notices_start _ story
    | choose index =>
      simp only [perform, latestDivergence?]
      split
      · next after chosen => rw [notices_choose chosen, before]
      · exact before
    | reload story =>
      simp only [perform, latestDivergence?, List.reverse_reverse]
      exact notices_reload _ (fresh _ (List.mem_append_right _ List.mem_cons_self) story rfl)

/-! ## Choices and paragraphs -/

section Shows

variable {transcript : Transcript} {paragraphs : List String} {offers : List Offer}

theorem Shows.choices_once (shows : Shows transcript paragraphs offers) :
    transcript.entries.filter Shown.isChoices = [.choices (offers.map Offer.text)] := by
  obtain ⟨before, entries, shown⟩ := shows
  have none : before.filter Shown.isChoices = [] := by
    rw [List.filter_eq_nil_iff]
    intro entry member listed
    cases entry with
    | paragraph words => cases listed
    | notice words => cases listed
    | choices words =>
      have kept : Shown.choices words ∈ before.filter (!·.isNotice) :=
        List.mem_filter.mpr ⟨member, rfl⟩
      rw [shown] at kept
      simp at kept
  rw [entries, List.filter_append, none]
  rfl

theorem Shows.choices_last (shows : Shows transcript paragraphs offers) :
    transcript.entries.getLast? = some (.choices (offers.map Offer.text)) := by
  obtain ⟨before, entries, -⟩ := shows
  rw [entries, List.getLast?_concat]

theorem Shows.paragraphs_eq (shows : Shows transcript paragraphs offers) :
    transcript.paragraphs = paragraphs := by
  obtain ⟨before, entries, shown⟩ := shows
  unfold Transcript.paragraphs
  rw [entries, List.filterMap_append, ← filterMap_filter_of_none (!·.isNotice) ?_ before, shown]
  · simp [List.filterMap_map]
  · -- What is left out with the notices is no paragraph.
    intro entry dropped
    cases entry with
    | notice words => rfl
    | paragraph words | choices words => cases dropped

end Shows

theorem choose_eq_error_iff {session : Session Transcript} {story : Story}
    (running : session.story = some story) {index : Nat} {error : SessionError} :
    session.choose index = .error error ↔ story.offers.length ≤ index ∧
      error = .story (.choiceOutOfRange index story.offers.length) := by
  simp only [choose, running]
  rcases Nat.lt_or_ge index story.offers.length with within | beyond
  · obtain ⟨chosen, taken⟩ := Story.choose_ok_iff.mpr within
    simp [taken, Nat.not_le.mpr within]
  · simp [Story.choose_of_length_le beyond, beyond, eq_comm]

/-- After any acts the transcript shows where the running story stands: the paragraphs of the whole
record on a fresh story, with the choices on offer behind them and no other choices, and a notice if the
latest start or reload was a reload that stopped early. A choice that fails changes nothing. -/
theorem run_displays {acts : List Act} {story : Story}
    (fresh : ∀ act ∈ acts, ∀ story, act.story? = some story → Fresh story)
    (running : (run acts).story = some story) :
    let session := run acts
    session.phase = .playing ∧ story.canContinue = false ∧
    session.screen.entries.filter Shown.isChoices = [.choices (story.offers.map Offer.text)] ∧
    session.screen.entries.getLast? = some (.choices (story.offers.map Offer.text)) ∧
    (∃ again paragraphs reached, Story.start story.artifact = .ok again ∧
      again.follow session.record.decisions = some (paragraphs, reached) ∧
      reached.continueMaximally.2 = story ∧
      session.screen.paragraphs = paragraphs ++ reached.continueMaximally.1) ∧
    session.screen.notices = ((latestDivergence? acts.reverse).map Divergence.notice).toList ∧
    ∀ index error, session.choose index = .error error →
      (story.offers.length ≤ index ∧
        error = .story (.choiceOutOfRange index story.offers.length)) ∧
      session.perform (.choose index) = session := by
  intro session
  have faithful := run_faithful fresh
  obtain ⟨again, paragraphs, reached, started, ends, followed, rfl, shows⟩ :=
    faithful.replayed story running
  have silent := Story.follow_silent (Story.start_placed started).1 ends followed
  refine ⟨faithful.playing, silent, shows.choices_once, shows.choices_last,
    ⟨again, paragraphs, reached, started, followed, rfl, shows.paragraphs_eq⟩, run_notices fresh,
    fun index error failed => ⟨(choose_eq_error_iff running).mp failed, ?_⟩⟩
  simp only [perform, failed]

theorem ford_fresh {fresh : Story} (started : Story.start Story.ford = .ok fresh) : Fresh fresh := by
  have forward : Story.ford.LeadsForward fun _ => 0 :=
    Artifact.leadsForward_of_entries (by simp [Story.ford])
  exact ⟨⟨_, started⟩, Story.start_readsOut forward started⟩

def detourActs (gate ford : Story) : List Act :=
  [.start gate, .choose 1, .reload ford, .choose 1, .choose 0]

theorem detour_fresh {gateStory fordStory : Story} (left : Story.start gate = .ok gateStory)
    (reached : Story.start Story.ford = .ok fordStory) :
    ∀ act ∈ detourActs gateStory fordStory, ∀ story, act.story? = some story → Fresh story := by
  intro act member story handed
  simp only [detourActs, List.mem_cons, List.not_mem_nil, or_false] at member
  rcases member with rfl | rfl | rfl | rfl | rfl
  · cases handed
    exact gate_fresh left
  · cases handed
  · cases handed
    exact ford_fresh reached
  all_goals cases handed

/-- The player was told once, and waded through the ford after that. -/
theorem detour_displays : ∃ gateStory fordStory story, Story.start gate = .ok gateStory ∧
    Story.start Story.ford = .ok fordStory ∧
    let session := run (detourActs gateStory fordStory)
    session.story = some story ∧ session.record = ⟨[0]⟩ ∧
    session.screen.paragraphs = ["A ford.", "The bank."] ∧
    session.screen.notices = [(⟨0, 1, 1⟩ : Divergence).notice] ∧
    session.screen.entries.getLast? = some (.choices []) := by
  refine ⟨_, _, _, rfl, rfl, rfl, rfl, rfl, ?_⟩
  obtain ⟨-, -, -, last, -, notices, -⟩ := run_displays (detour_fresh rfl rfl) rfl
  exact ⟨notices, last⟩

end Session

end Tale.Live
