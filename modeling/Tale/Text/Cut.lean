/-! Cutting a text at a mark: at its first place or at its last. -/

set_option autoImplicit false

namespace Tale.Text

variable {α : Type} [DecidableEq α]

def cutFrom (mark : List α) (passed : List α) : List α → Option (List α × List α)
  | [] => if mark.isEmpty then some (passed.reverse, []) else none
  | first :: rest =>
    if mark.isPrefixOf (first :: rest) then some (passed.reverse, (first :: rest).drop mark.length)
    else cutFrom mark (first :: passed) rest

def cutFirst (mark text : List α) : Option (List α × List α) := cutFrom mark [] text

def cutLast (mark text : List α) : Option (List α × List α) :=
  (cutFirst mark.reverse text.reverse).map fun (after, before) => (before.reverse, after.reverse)

def afterMark? (mark text : List α) : Option (List α) :=
  if mark.isPrefixOf text then some (text.drop mark.length) else none

end Tale.Text
