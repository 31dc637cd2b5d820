import Tale.Live.Record
import Tale.Live.Replay
import Tale.Live.Screen

/-! A live session. It plays a story, records the decisions, and keeps the player's place when the
story is replaced: the decisions are replayed on the new story as far as they fit. -/

set_option autoImplicit false

namespace Tale.Live

inductive Phase where
  | replaying
  | playing
  | fallback
  deriving DecidableEq, Repr

def Phase.shown : Phase → String
  | replaying => "replaying"
  | playing => "playing"
  | fallback => "fallback"

structure Report where
  replayed : Nat
  divergence : Option Divergence
  phases : List Phase
  deriving DecidableEq, Repr

inductive SessionError where
  | notStarted
  | story (error : StoryError)
  deriving DecidableEq, Repr

def SessionError.message : SessionError → String
  | notStarted => "no story is running"
  | story error => error.message

structure Session (σ : Type) where
  story : Option Story
  record : Record
  phase : Phase
  screen : σ

namespace Session

variable {σ : Type} [Screen σ]

def onScreen (screen : σ) : Session σ := ⟨none, .empty, .playing, screen⟩

def showAll (paragraphs : List String) (screen : σ) : σ :=
  paragraphs.foldl (fun screen words => Screen.paragraph words screen) screen

def present (session : Session σ) (story : Story) : Session σ :=
  let (paragraphs, story) := story.continueMaximally
  { session with
    story := some story
    screen := Screen.choices story.offers (showAll paragraphs session.screen) }

def start (session : Session σ) (story : Story) : Session σ :=
  present { session with
    record := .empty
    phase := .playing
    screen := Screen.clear session.screen } story

def choose (session : Session σ) (index : Nat) : Except SessionError (Session σ) :=
  match session.story with
  | none => .error .notStarted
  | some story =>
    match story.choose index with
    | .error error => .error (.story error)
    | .ok story => .ok (present { session with record := session.record.push index } story)

structure Transfer (σ : Type) where
  session : Session σ
  story : Story
  report : Report

def Transfer.enter (transfer : Transfer σ) (phase : Phase) : Transfer σ :=
  { transfer with
    session := { transfer.session with phase := phase }
    report := { transfer.report with phases := transfer.report.phases ++ [phase] } }

def Transfer.follow : Nat → Replay → Transfer σ → Transfer σ
  | 0, _, transfer => transfer
  | bound + 1, replay, transfer =>
    match replay.step transfer.story with
    | (.applied index paragraphs, replay, story) =>
      follow bound replay
        { session := { transfer.session with
            record := transfer.session.record.push index
            screen := showAll paragraphs transfer.session.screen }
          story := story
          report := { transfer.report with replayed := transfer.report.replayed + 1 } }
    | (.diverged divergence paragraphs, _, story) =>
      -- What was read on the way to the decision is shown all the same.
      let shown := { transfer with
        session := { transfer.session with screen := showAll paragraphs transfer.session.screen }
        story := story }
      let fallen := shown.enter .fallback
      { fallen with
        session := { fallen.session with
          screen := Screen.notice divergence.notice fallen.session.screen }
        report := { fallen.report with divergence := some divergence } }
    | (.exhausted, _, story) => { transfer with story := story }

/-- Replace the running story and replay the record on the new one. One step for each decision
and one to find that none is left are enough. -/
def reload (session : Session σ) (story : Story) : Report × Session σ :=
  let (decisions, record) := session.record.take
  let cleared : Transfer σ :=
    ⟨{ session with record := record, screen := Screen.clear session.screen }, story, ⟨0, none, []⟩⟩
  let replayed :=
    -- Without decisions there is no replay to pass through.
    if decisions.isEmpty then cleared
    else Transfer.follow (decisions.length + 1) (.ofDecisions decisions) (cleared.enter .replaying)
  let transfer := replayed.enter .playing
  (transfer.report, present transfer.session transfer.story)

end Session

end Tale.Live
