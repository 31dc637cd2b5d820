import Tale.Story.Run

/-! What a session shows. A screen takes paragraphs, choices and notices, and can be cleared; a
transcript is the screen that remembers all of it, but only the latest choices. -/

set_option autoImplicit false

namespace Tale.Live

class Screen (σ : Type) where
  paragraph : String → σ → σ
  choices : List Offer → σ → σ
  notice : String → σ → σ
  clear : σ → σ

inductive Shown where
  | paragraph (words : String)
  | choices (words : List String)
  | notice (words : String)
  deriving DecidableEq, Repr

structure Transcript where
  entries : List Shown
  deriving DecidableEq, Repr

def Shown.isChoices : Shown → Bool
  | choices _ => true
  | _ => false

namespace Transcript

def empty : Transcript := ⟨[]⟩

def paragraphs (transcript : Transcript) : List String :=
  transcript.entries.filterMap fun entry => match entry with
    | .paragraph words => some words
    | _ => none

def notices (transcript : Transcript) : List String :=
  transcript.entries.filterMap fun entry => match entry with
    | .notice words => some words
    | _ => none

def lastChoices? (transcript : Transcript) : Option (List String) :=
  transcript.entries.reverse.findSome? fun entry => match entry with
    | .choices words => some words
    | _ => none

instance : Screen Transcript where
  paragraph words transcript := ⟨transcript.entries ++ [.paragraph words]⟩
  choices offers transcript :=
    ⟨transcript.entries.filter (fun entry => !entry.isChoices) ++
      [.choices (offers.map Offer.text)]⟩
  notice words transcript := ⟨transcript.entries ++ [.notice words]⟩
  clear _ := empty

end Transcript

end Tale.Live
