import Tale.Live.Session
import Tale.Text.Blank
import Tale.Text.Decimal

/-! Playing a story in a terminal: paragraphs and choices are printed, and the player answers with
the number of a choice. -/

set_option autoImplicit false

namespace Tale.Loom

structure Terminal where
  printed : String
  /-- Whether something was printed since the screen was cleared. -/
  isUsed : Bool
  deriving DecidableEq, Repr

namespace Terminal

def empty : Terminal := ⟨"", false⟩

def printLine (terminal : Terminal) (line : String) : Terminal :=
  { terminal with printed := terminal.printed ++ line ++ "\n" }

def choiceLines (offers : List Offer) : List String :=
  if offers.isEmpty then ["  THE END"]
  else offers.zipIdx.map fun (offer, place) => "  " ++ toString (place + 1) ++ ". " ++ offer.text

instance : Live.Screen Terminal where
  paragraph words terminal := { terminal.printLine words with isUsed := true }
  choices offers terminal :=
    { ("" :: choiceLines offers).foldl printLine terminal with isUsed := true }
  notice words terminal := { terminal.printLine words with isUsed := true }
  clear terminal :=
    -- What was printed stays; a rule divides it from what comes.
    let cleared :=
      if terminal.isUsed then terminal.printLine (String.ofList (List.replicate 40 '-')) else terminal
    { cleared with isUsed := false }

end Terminal

def typedLines (input : String) : List String :=
  let lines := input.splitOn "\n"
  if lines.getLast? = some "" then lines.dropLast else lines

structure Play where
  session : Live.Session Terminal
  /-- Whether the player has left. -/
  isOver : Bool

namespace Play

def start (story : Story) : Play := ⟨(Live.Session.onScreen .empty).start story, false⟩

def isFinished (play : Play) : Bool :=
  play.isOver || play.session.story.any Story.hasEnded

def printed (play : Play) : String := play.session.screen.printed

def printLine (play : Play) (line : String) : Play :=
  { play with session := { play.session with screen := play.session.screen.printLine line } }

def choose (play : Play) (answer : List Char) : Except Live.SessionError Play :=
  let offered := (play.session.story.map fun story => story.offers.length).getD 0
  match Text.natural? answer with
  | some number =>
    if 1 ≤ number ∧ number ≤ offered then
      (play.session.choose (number - 1)).map fun session => { play with session := session }
    else .ok (refuse offered)
  | none => .ok (refuse offered)
where
  refuse (offered : Nat) : Play :=
    if offered = 0 then play
    else play.printLine ("  Enter a number between 1 and " ++ toString offered ++ ".")

def answer (play : Play) (line : String) : Except Live.SessionError Play :=
  let answer := Text.trim line.toList
  if answer = ['q'] ∨ answer = "quit".toList then .ok { play with isOver := true }
  else play.choose answer

def answerAll (play : Play) : List String → Except Live.SessionError Play
  | [] => .ok play
  | line :: lines => if play.isFinished then .ok play else do (← play.answer line).answerAll lines

end Play

end Tale.Loom
