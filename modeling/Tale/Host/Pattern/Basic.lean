import Tale.Host.Pattern.CharSet

/-! Patterns and the places of a text that they match. A pattern is matched for a whole set of places
at once: from the places where a match may begin to those where it can end, so whether there is a
match does not depend on any order of trying. Sets of places are ascending lists. -/

set_option autoImplicit false

namespace Tale.Host

inductive Pattern.Anchor where
  | textStart
  | textEnd
  | lineStart
  | lineEnd
  | wordEdge
  | noWordEdge
  | wordStart
  | wordEnd
  | wordStartHalf
  | wordEndHalf
  deriving DecidableEq, Repr

inductive Pattern where
  | empty
  | chars (set : Pattern.CharSet)
  | anchor (anchor : Pattern.Anchor)
  | sequence (first second : Pattern)
  | choice (first second : Pattern)
  | repeated (least : Nat) (most : Option Nat) (body : Pattern)
  deriving Repr

namespace Pattern

def before? (text : Array Char) (place : Nat) : Option Char :=
  if place = 0 then none else text[place - 1]?

def Anchor.holds (text : Array Char) (place : Nat) (anchor : Anchor) : Bool :=
  let wordBefore := (before? text place).any CharSet.isWord
  let wordAfter := (text[place]?).any CharSet.isWord
  match anchor with
  | textStart => place == 0
  | textEnd => place == text.size
  | lineStart => place == 0 || before? text place == some '\n'
  | lineEnd => place == text.size || text[place]? == some '\n'
  | wordEdge => wordBefore != wordAfter
  | noWordEdge => wordBefore == wordAfter
  | wordStart => !wordBefore && wordAfter
  | wordEnd => wordBefore && !wordAfter
  | wordStartHalf => !wordBefore
  | wordEndHalf => !wordAfter

def union : List Nat → List Nat → List Nat
  | [], second => second
  | first, [] => first
  | a :: first, b :: second =>
    if a < b then a :: union first (b :: second)
    else if b < a then b :: union (a :: first) second
    else a :: union first second

def without : List Nat → List Nat → List Nat
  | [], _ => []
  | first, [] => first
  | a :: first, b :: second =>
    if a < b then a :: without first (b :: second)
    else if b < a then without (a :: first) second
    else without first second

def stepTimes (step : List Nat → List Nat) : Nat → List Nat → List Nat
  | 0, places => places
  | times + 1, places => if places.isEmpty then [] else stepTimes step times (step places)

/-- All places that at most a number of steps lead to; `reached` are those found so far, of which
`fresh` were found last. -/
def stepsUpTo (step : List Nat → List Nat) : Nat → List Nat → List Nat → List Nat
  | 0, reached, _ => reached
  | times + 1, reached, fresh =>
    -- A place that was reached earlier has had its step already.
    let next := without (step fresh) reached
    if next.isEmpty then reached else stepsUpTo step times (union reached next) next

def ends (text : Array Char) : Pattern → List Nat → List Nat
  | empty, places => places
  | chars set, places =>
    (places.filter fun place => (text[place]?).any set.contains).map (· + 1)
  | anchor condition, places => places.filter fun place => condition.holds text place
  | sequence first second, places => ends text second (ends text first places)
  | choice first second, places => union (ends text first places) (ends text second places)
  | repeated least most body, places =>
    let step := ends text body
    let places := stepTimes step least places
    -- A way that visits no place twice has fewer steps than there are places.
    let more := match most with
      | some most => min (most - least) (text.size + 1)
      | none => text.size + 1
    stepsUpTo step more places places

def isMatch (pattern : Pattern) (text : String) : Bool :=
  let chars := text.toList.toArray
  !(pattern.ends chars (List.range (chars.size + 1))).isEmpty

def weight : Pattern → Nat
  | empty => 1
  | chars set => set.weight
  | anchor _ => 1
  | sequence first second => first.weight + second.weight
  | choice first second => first.weight + second.weight + 1
  | repeated least most body => max 1 (max least (most.getD 0)) * body.weight + 1

end Pattern

end Tale.Host
