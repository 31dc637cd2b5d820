import Tale.Story.Run

/-! Replaying recorded decisions on another story. Each step reads the story up to its next choice
and takes one decision; the first decision that does not fit ends the replay. -/

set_option autoImplicit false

namespace Tale.Live

/-- A decision that cannot be taken: its place in the record, the index, and how many choices are
on offer. -/
structure Divergence where
  decision : Nat
  index : Nat
  available : Nat
  deriving DecidableEq, Repr

def Divergence.message (divergence : Divergence) : String :=
  "decision " ++ toString divergence.decision ++ " (choice " ++ toString divergence.index ++
    ") is no longer available: " ++ toString divergence.available ++ " choices on offer"

def Divergence.notice (divergence : Divergence) : String :=
  "The story changed and your earlier choices could not all be replayed (" ++
    divergence.message ++ "). Continuing from here."

/-- A cursor over recorded decisions: how many it has passed, and those ahead of it. -/
structure Replay where
  passed : Nat
  remaining : List Nat
  deriving DecidableEq, Repr

inductive ReplayStep where
  | applied (index : Nat) (paragraphs : List String)
  | diverged (divergence : Divergence) (paragraphs : List String)
  | exhausted
  deriving DecidableEq, Repr

namespace Replay

def ofDecisions (decisions : List Nat) : Replay := ⟨0, decisions⟩

/-- Read up to the next choice and take the next decision. A decision that does not fit moves the
cursor past all that remain. -/
def step (replay : Replay) (story : Story) : ReplayStep × Replay × Story :=
  match replay.remaining with
  | [] => (.exhausted, replay, story)
  | index :: rest =>
    let (paragraphs, story) := story.continueMaximally
    match story.choose index with
    | .ok chosen => (.applied index paragraphs, ⟨replay.passed + 1, rest⟩, chosen)
    | .error _ =>
      (.diverged ⟨replay.passed, index, story.offers.length⟩ paragraphs,
        ⟨replay.passed + replay.remaining.length, []⟩, story)

end Replay

end Tale.Live
