import Tale.Loom.Run
import Tale.Proofs.Except
import Tale.Proofs.Live.Reload
import Tale.Proofs.Story.Forward
import Tale.Proofs.Story.Phases
import Tale.Proofs.Text.Numerals

/-! Playing a story by the lines that are typed.

A play waits for a line only where there is something to choose, as a story that was read up to its next
choice and offers none has ended. What a line decides is the number that it reads as, if there is an offer of
that number; no such decision is refused, and every other line leaves the story where it is.
-/

set_option autoImplicit false

namespace Tale.Loom

open Story (ReadsOutThroughout)

/-! ## What lines say -/

/-- A line reads as a number if it is a numeral for it, but for the blanks around it. -/
def Reads (line : String) (number : Nat) : Prop :=
  ∃ numeral : Numeral, numeral.sign ≠ some .minus ∧ numeral.text = Text.trim line.toList ∧
    numeral.value = number

def Leaves (line : String) : Prop :=
  Text.trim line.toList = ['q'] ∨ Text.trim line.toList = ['q', 'u', 'i', 't']

/-- A line decides for the offer whose number it reads as. Players count from one, decisions from zero. -/
def Decides (story : Story) (line : String) (decision : Nat) : Prop :=
  ∃ number, Reads line number ∧ 1 ≤ number ∧ number ≤ story.offers.length ∧ decision = number - 1

/-- The decisions that lines make from a story that was read up to a choice, and the story to which they
lead: up to the end of the story, a line by which the player leaves, or the last line. -/
inductive Answered : Story → List String → List Nat → Story → Prop where
  | exhausted (story : Story) : Answered story [] [] story
  | ended {story : Story} (lines : List String) : story.hasEnded → Answered story lines [] story
  | left {story : Story} {line : String} (lines : List String) : story.hasEnded = false → Leaves line →
      Answered story (line :: lines) [] story
  | decided {story chosen last : Story} {line : String} {lines : List String} {decision : Nat}
      {decisions : List Nat} : story.hasEnded = false → Decides story line decision →
      story.choose decision = .ok chosen → Answered chosen.continueMaximally.2 lines decisions last →
      Answered story (line :: lines) (decision :: decisions) last
  | passed {story last : Story} {line : String} {lines : List String} {decisions : List Nat} :
      story.hasEnded = false → ¬ Leaves line → (∀ decision, ¬ Decides story line decision) →
      Answered story lines decisions last → Answered story (line :: lines) decisions last

theorem reads_iff {line : String} {number : Nat} :
    Reads line number ↔ Text.natural? (Text.trim line.toList) = some number :=
  Text.natural?_eq_some_iff.symm

theorem not_leaves_of_reads {line : String} {number : Nat} (reads : Reads line number) :
    ¬ Leaves line := by
  rw [reads_iff] at reads
  rintro (quits | quits) <;> rw [quits] at reads <;> cases reads

theorem Decides.unique {story : Story} {line : String} {first second : Nat}
    (decides : Decides story line first) (decidesToo : Decides story line second) : first = second := by
  obtain ⟨number, reads, -, -, rfl⟩ := decides
  obtain ⟨other, readsToo, -, -, rfl⟩ := decidesToo
  rw [reads_iff] at reads readsToo
  cases reads.symm.trans readsToo
  rfl

theorem Decides.not_leaves {story : Story} {line : String} {decision : Nat}
    (decides : Decides story line decision) : ¬ Leaves line := by
  obtain ⟨number, reads, -⟩ := decides
  exact not_leaves_of_reads reads

theorem Decides.lt {story : Story} {line : String} {decision : Nat}
    (decides : Decides story line decision) : decision < story.offers.length := by
  obtain ⟨number, -, positive, within, rfl⟩ := decides
  omega

/-- Lines make no other decisions and lead to no other story. -/
theorem Answered.unique {story first second : Story} {lines : List String}
    {decisions others : List Nat} (answered : Answered story lines decisions first)
    (answeredToo : Answered story lines others second) : others = decisions ∧ second = first := by
  induction answered generalizing others with
  | exhausted => cases answeredToo <;> exact ⟨rfl, rfl⟩
  | ended lines past =>
    cases answeredToo with
    | exhausted | ended => exact ⟨rfl, rfl⟩
    | left _ going | decided going | passed going => rw [past] at going; cases going
  | left lines going leaves =>
    cases answeredToo with
    | ended _ past => rw [going] at past; cases past
    | left => exact ⟨rfl, rfl⟩
    | decided _ decides => exact absurd leaves decides.not_leaves
    | passed _ stays => exact absurd leaves stays
  | decided going decides taken _ ih =>
    cases answeredToo with
    | ended _ past => rw [going] at past; cases past
    | left _ _ leaves => exact absurd leaves decides.not_leaves
    | decided _ decidesToo takenToo later =>
      cases decides.unique decidesToo
      cases taken.symm.trans takenToo
      obtain ⟨rfl, rfl⟩ := ih later
      exact ⟨rfl, rfl⟩
    | passed _ _ none => exact absurd decides (none _)
  | passed going stays none _ ih =>
    cases answeredToo with
    | ended _ past => rw [going] at past; cases past
    | left _ _ leaves => exact absurd leaves stays
    | decided _ decides => exact absurd decides (none _)
    | passed _ _ _ later => exact ih later

/-! ## One line -/

namespace Play

variable {play : Play} {now : Story} {line : String}

theorem answer_of_leaves (leaves : Leaves line) :
    play.answer line = .ok { play with isOver := true } := by
  unfold answer
  exact if_pos leaves

theorem answer_of_stays (stays : ¬ Leaves line) :
    play.answer line = play.choose (Text.trim line.toList) := by
  unfold answer
  exact if_neg stays

theorem answer_of_decides (running : play.session.story = some now) {decision : Nat}
    (decides : Decides now line decision) {chosen : Story} (taken : now.choose decision = .ok chosen) :
    play.answer line = .ok { play with session :=
      { play.session with record := play.session.record.push decision }.present chosen } := by
  rw [answer_of_stays decides.not_leaves]
  obtain ⟨number, reads, positive, within, rfl⟩ := decides
  unfold choose
  rw [reads_iff.mp reads]
  simp only [running, Option.map_some, Option.getD_some, positive, within, and_self, if_true]
  unfold Live.Session.choose
  simp only [running, taken]
  rfl

def reminder (offers : List Offer) : String :=
  "  Enter a number between 1 and " ++ toString offers.length ++ "."

theorem answer_of_passed (running : play.session.story = some now) (offered : now.offers ≠ [])
    (stays : ¬ Leaves line) (none : ∀ decision, ¬ Decides now line decision) :
    play.answer line = .ok (play.printLine (reminder now.offers)) := by
  rw [answer_of_stays stays]
  have refused : choose.refuse play now.offers.length = play.printLine (reminder now.offers) :=
    if_neg (by simpa using offered)
  unfold choose
  simp only [running, Option.map_some, Option.getD_some]
  split
  · next number reads =>
    have outside : ¬ (1 ≤ number ∧ number ≤ now.offers.length) := fun ⟨positive, within⟩ =>
      none (number - 1) ⟨number, reads_iff.mpr reads, positive, within, rfl⟩
    rw [if_neg outside, refused]
  · rw [refused]

theorem answerAll_of_finished (finished : play.isFinished) (lines : List String) :
    play.answerAll lines = .ok play := by
  cases lines with
  | nil => rfl
  | cons => exact if_pos finished

theorem answerAll_cons (unfinished : ¬ play.isFinished) (line : String) (lines : List String) :
    play.answerAll (line :: lines) = (play.answer line).bind fun after => after.answerAll lines :=
  if_neg unfinished

theorem answerAll_append (play : Play) (earlier later : List String) :
    play.answerAll (earlier ++ later) = (play.answerAll earlier).bind fun middle => middle.answerAll later := by
  induction earlier generalizing play with
  | nil => rfl
  | cons line earlier ih =>
    by_cases finished : play.isFinished
    · rw [answerAll_of_finished finished, answerAll_of_finished finished]
      exact (answerAll_of_finished finished later).symm
    · rw [List.cons_append, answerAll_cons finished, answerAll_cons finished]
      cases play.answer line with
      | error error => rfl
      | ok after => exact ih after

end Play

structure Playing (play : Play) (now : Story) : Prop where
  running : play.session.story = some now
  settled : now.Settled
  silent : now.canContinue = false
  ends : ∀ decision chosen, now.choose decision = .ok chosen → chosen.ReadsOutThroughout

/-- What a play that waits for a line offers, and what a line does that neither decides nor leaves: it is
answered by a reminder, and nothing else changes. -/
structure Waits (play : Play) (now : Story) : Prop where
  running : play.session.story = some now
  offered : now.offers ≠ []
  unmoved : ∀ line, ¬ Leaves line → (∀ decision, ¬ Decides now line decision) →
    play.answer line = .ok (play.printLine (Play.reminder now.offers))

theorem playing_present (session : Live.Session Terminal) (isOver : Bool) {story : Story}
    (settled : story.Settled) (ends : story.ReadsOutThroughout) :
    Playing ⟨session.present story, isOver⟩ story.continueMaximally.2 where
  running := rfl
  settled := (settled.perform .continueMaximally).1
  silent := Story.continueMaximally_silent settled.placed ends.readsOut
  ends _ _ taken := ends.chosen taken

namespace Playing

variable {play : Play} {now : Story}

theorem isFinished_eq (playing : Playing play now) : play.isFinished = (play.isOver || now.hasEnded) := by
  unfold Play.isFinished
  rw [playing.running]
  rfl

theorem offered (playing : Playing play now) (going : now.hasEnded = false) : now.offers ≠ [] := by
  cases playing.settled.inPhase with
  | reading ready =>
    rw [playing.silent] at ready
    cases ready
  | choosing _ offered => exact offered
  | ended _ _ gone =>
    rw [playing.settled.hasEnded_iff.mpr gone] at going
    cases going

theorem waits (playing : Playing play now) (going : now.hasEnded = false) : Waits play now where
  running := playing.running
  offered := playing.offered going
  unmoved _ := Play.answer_of_passed playing.running (playing.offered going)

inductive Step (play : Play) (now : Story) (line : String) : Play → Prop where
  | left : Leaves line → Step play now line { play with isOver := true }
  | decided {decision : Nat} {chosen : Story} {after : Play} : Decides now line decision →
      now.choose decision = .ok chosen → Playing after chosen.continueMaximally.2 →
      after.isOver = play.isOver →
      after.session.record.decisions = play.session.record.decisions ++ [decision] →
      Step play now line after
  | passed : ¬ Leaves line → (∀ decision, ¬ Decides now line decision) →
      Step play now line (play.printLine (Play.reminder now.offers))

/-- Every line is answered: none of the decisions that a line makes is refused. -/
theorem answer (playing : Playing play now) (going : now.hasEnded = false) (line : String) :
    ∃ after, play.answer line = .ok after ∧ Step play now line after := by
  by_cases leaves : Leaves line
  · exact ⟨_, Play.answer_of_leaves leaves, .left leaves⟩
  by_cases some : ∃ decision, Decides now line decision
  · obtain ⟨decision, decides⟩ := some
    obtain ⟨chosen, taken⟩ := Story.choose_ok_iff.mpr decides.lt
    refine ⟨_, Play.answer_of_decides playing.running decides taken, .decided decides taken ?_ rfl rfl⟩
    exact playing_present _ _ (playing.settled.choose taken).1 (playing.ends _ _ taken)
  · have none := not_exists.mp some
    exact ⟨_, (playing.waits going).unmoved line leaves none, .passed leaves none⟩

theorem printLine (playing : Playing play now) (line : String) : Playing (play.printLine line) now :=
  ⟨playing.running, playing.settled, playing.silent, playing.ends⟩

/-- All lines are answered, and the record grows by the decisions that they make. -/
theorem answerAll (playing : Playing play now) (begun : play.isOver = false) (lines : List String) :
    ∃ last final decisions, play.answerAll lines = .ok last ∧ Playing last final ∧
      Answered now lines decisions final ∧
      last.session.record.decisions = play.session.record.decisions ++ decisions := by
  -- On the lines; the invariant is that the story was read up to a choice or its end.
  induction lines generalizing play now with
  | nil => exact ⟨play, now, [], rfl, playing, .exhausted now, (List.append_nil _).symm⟩
  | cons line lines ih =>
    have finished : play.isFinished = now.hasEnded := by
      rw [playing.isFinished_eq, begun, Bool.false_or]
    by_cases past : now.hasEnded
    · rw [Play.answerAll_of_finished (finished.trans past)]
      exact ⟨play, now, [], rfl, playing, .ended _ past, (List.append_nil _).symm⟩
    have going := Bool.eq_false_iff.mpr past
    obtain ⟨after, answered, step⟩ := playing.answer going line
    rw [Play.answerAll_cons (finished ▸ past), answered]
    cases step with
    | left leaves =>
      refine ⟨{ play with isOver := true }, now, [], ?_, ?_, .left _ going leaves, (List.append_nil _).symm⟩
      · exact Play.answerAll_of_finished rfl lines
      · exact ⟨playing.running, playing.settled, playing.silent, playing.ends⟩
    | decided decides taken onward same grown =>
      obtain ⟨last, final, decisions, all, playingLast, later, record⟩ := ih onward (same.trans begun)
      refine ⟨last, final, _ :: decisions, all, playingLast, .decided going decides taken later, ?_⟩
      rw [record, grown, List.append_assoc, List.singleton_append]
    | passed stays none =>
      obtain ⟨last, final, decisions, all, playingLast, later, record⟩ := ih (playing.printLine _) begun
      exact ⟨last, final, decisions, all, playingLast, .passed going stays none later, record⟩

end Playing

/-! ## The whole play -/

section Whole

variable {tools : Tools} {disk : Disk} {serial : Nat} {config : Option Path} {path : Path}
  {rules : Rules} {unit : StoryUnit} {story : Story}

theorem openPlay_result (file : disk.isFile (disk.identify path))
    (ruled : rulesFor tools disk config ((disk.identify path).parent?.getD "") = .ok rules)
    (built : ((Project.ofRules rules serial).build (disk.sources (rules.loader tools.run))
      (disk.identify path)).1.result = .ok unit)
    (started : unit.story = .ok story) :
    (openPlay tools disk serial config path).result = .ok (.start story) := by
  unfold openPlay
  simp only [file, ruled, built, started, Bool.not_true, Bool.false_eq_true, if_false]

theorem playing_start (started : unit.story = .ok story) (ends : story.ReadsOutThroughout) :
    Playing (.start story) story.continueMaximally.2 :=
  playing_present _ _ (Story.start_settled started).1 ends

/-- Whatever lines are typed, a root that was built and begun is played without a failure. The decisions of
the session are exactly those that the lines make, in order, and wherever the play waits for a line there is
something on offer, and a line that makes no decision and does not leave is answered by a reminder alone. -/
theorem play_follows_lines (file : disk.isFile (disk.identify path))
    (ruled : rulesFor tools disk config ((disk.identify path).parent?.getD "") = .ok rules)
    (built : ((Project.ofRules rules serial).build (disk.sources (rules.loader tools.run))
      (disk.identify path)).1.result = .ok unit)
    (started : unit.story = .ok story) (ends : story.ReadsOutThroughout) (lines : List String) :
    let outcome := play tools disk serial config path lines
    outcome.failure = none ∧ outcome.status = 0 ∧
    ∃ last now, (Play.start story).answerAll lines = .ok last ∧ outcome.output = last.printed ∧
      last.session.story = some now ∧
      (∀ decisions final, Answered story.continueMaximally.2 lines decisions final ↔
        decisions = last.session.record.decisions ∧ final = now) ∧
      ∀ earlier later, earlier ++ later = lines → ∃ middle,
        (Play.start story).answerAll earlier = .ok middle ∧ middle.answerAll later = .ok last ∧
        (middle.isFinished = false → ∃ there, Waits middle there) := by
  intro outcome
  have playing := playing_start started ends
  obtain ⟨last, now, decisions, all, playingLast, answered, record⟩ := playing.answerAll rfl lines
  have recorded : last.session.record.decisions = decisions := record
  have ran : outcome = ⟨last.printed, (openPlay tools disk serial config path).reports, none, disk,
      (openPlay tools disk serial config path).documents⟩ := by
    unfold outcome play
    simp only [openPlay_result file ruled built started, all]
  refine ⟨by rw [ran], by rw [ran]; rfl, last, now, all, by rw [ran], playingLast.running,
    fun others final => ?_, fun earlier later whole => ?_⟩
  · rw [recorded]
    constructor
    · exact answered.unique
    · rintro ⟨rfl, rfl⟩
      exact answered
  · obtain ⟨middle, there, -, reached, playingMiddle, -⟩ := playing.answerAll rfl earlier
    refine ⟨middle, reached, ?_, fun waiting => ⟨there, playingMiddle.waits ?_⟩⟩
    · rwa [← whole, Play.answerAll_append, reached] at all
    · rw [playingMiddle.isFinished_eq, Bool.or_eq_false_iff] at waiting
      exact waiting.2

end Whole

def landing : Disk where
  nodes := .ofList [(["ferry.tale"], .file (Text.encode
    "A landing.\n* Wait -> bank\n* Call -> END\n== bank ==\nThe other bank.\n* Leave -> END\n"))]
  here := []

def ferry : Artifact where
  format := Artifact.currentFormat
  start := Artifact.rootKnot
  knots := ⟨[("_root", ⟨[.text "A landing.", .choices [⟨"_root.0", "Wait", false, none, .knot "bank"⟩,
      ⟨"_root.1", "Call", false, none, .ending⟩]]⟩),
    ("bank", ⟨[.text "The other bank.", .choices [⟨"bank.0", "Leave", false, none, .ending⟩]]⟩)], by decide⟩
  globals := .empty

theorem ferry_leadsForward : ferry.LeadsForward fun _ => 0 :=
  Artifact.leadsForward_of_entries (by simp [ferry])

def ferryLines : List String := ["0", " +1 ", "later", "quit", "1"]

def ferryTools : Tools := ⟨fun _ _ _ => .error "no such command", fun _ => some fun _ => true⟩

theorem ferry_follows_lines : landing.isFile (landing.identify "ferry.tale") ∧ ∃ rules unit story,
    rulesFor ferryTools landing none (((landing.identify "ferry.tale").parent?).getD "") = .ok rules ∧
    ((Project.ofRules rules 0).build (landing.sources (rules.loader ferryTools.run))
      (landing.identify "ferry.tale")).1.result = .ok unit ∧
    unit.story = .ok story ∧ story.ReadsOutThroughout ∧
    (play ferryTools landing 0 none "ferry.tale" ferryLines).status = 0 ∧
    ∃ last, (Play.start story).answerAll ferryLines = .ok last ∧
      (play ferryTools landing 0 none "ferry.tale" ferryLines).output = last.printed ∧
      last.session.record.decisions = [0] := by
  have file : landing.isFile (landing.identify "ferry.tale") := by decide +kernel
  have made : ((rulesFor ferryTools landing none
      (((landing.identify "ferry.tale").parent?).getD "")).toOption.bind
      fun rules => ((Project.ofRules rules 0).build (landing.sources (rules.loader ferryTools.run))
        (landing.identify "ferry.tale")).1.result.toOption.map StoryUnit.artifact) = some ferry := by
    decide +kernel
  obtain ⟨rules, ruled, made⟩ := Option.bind_eq_some_iff.mp made
  obtain ⟨unit, built, compiled⟩ := Option.map_eq_some_iff.mp made
  have told : ((Story.start ferry).toOption.bind fun story =>
      ((Play.start story).answerAll ferryLines).toOption.map fun last =>
        last.session.record.decisions) = some [0] := by
    decide +kernel
  obtain ⟨story, begun, told⟩ := Option.bind_eq_some_iff.mp told
  have ruled := ok_of_toOption ruled
  have built := ok_of_toOption built
  have begun := ok_of_toOption begun
  have started : unit.story = .ok story := by rw [StoryUnit.story, compiled, begun]
  have ends := Story.start_readsOut ferry_leadsForward begun
  obtain ⟨-, status, last, -, all, output, -⟩ :=
    play_follows_lines file ruled built started ends ferryLines
  rw [all] at told
  exact ⟨file, rules, unit, story, ruled, built, started, ends, status, last, all, output,
    Option.some.inj told⟩

end Tale.Loom
