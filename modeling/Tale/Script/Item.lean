import Tale.Script.Token
import Tale.Story.Value
import Tale.Text.Quoted

/-! Items of a script: the payload of each token, read. A line that cannot be read is reported
with the reason, and changes nothing about the other lines. -/

set_option autoImplicit false

namespace Tale.Script

open Text

structure ChoiceLine where
  sticky : Bool
  condition : Option String
  text : String
  target : String
  deriving DecidableEq, Repr

inductive Item where
  | inclusion (name : String)
  | declaration (name : String) (value : Value)
  | knot (name : String)
  | text (words : String)
  | divert (target : String)
  | assignment (name : String) (value : Value)
  | choice (line : ChoiceLine)
  | note (words : String)
  deriving DecidableEq, Repr

inductive Role where
  | knotName
  | divertTarget
  | choiceCondition
  | variableName
  deriving DecidableEq, Repr

def Role.shown : Role → String
  | knotName => "knot name"
  | divertTarget => "divert target"
  | choiceCondition => "choice condition"
  | variableName => "variable name"

inductive Fault where
  | missingPath
  | missingEquals (keyword : String)
  | invalidValue (text : String)
  | unclosedCondition
  | missingArrow
  | missingChoiceText
  | missingName (role : Role)
  | invalidName (role : Role) (text : String)
  deriving DecidableEq, Repr

def Fault.message : Fault → String
  | missingPath => "INCLUDE needs a file path"
  | missingEquals keyword => "expected `" ++ keyword ++ " name = value`"
  | invalidValue text => "invalid value: " ++ text
  | unclosedCondition => "unclosed `\x7b` in choice condition"
  | missingArrow => "choice must end with `-> target`"
  | missingChoiceText => "choice has no text"
  | missingName role => "missing " ++ role.shown
  | invalidName role text =>
    "invalid " ++ role.shown ++ ": " ++ String.ofList (quote text.toList)

def isNameStart (c : Char) : Bool := c.isAlpha || c == '_'

def isNamePart (c : Char) : Bool := c.isAlphanum || c == '_'

def isName : List Char → Bool
  | [] => false
  | c :: rest => isNameStart c && rest.all isNamePart

def readName (role : Role) (text : List Char) : Except Fault String :=
  if isName text then .ok (String.ofList text)
  else if text.isEmpty then .error (.missingName role)
  else .error (.invalidName role (String.ofList text))

def unquoted? (text : List Char) : Option (List Char) :=
  match text with
  | '"' :: rest => if rest.getLast? = some '"' then some rest.dropLast else none
  | _ => none

/-- A literal is a truth value, a text in double quotes, or an integer in whose digits
underscores may stand anywhere. -/
def readLiteral? (text : List Char) : Option Value :=
  if text = "true".toList then some (.bool true)
  else if text = "false".toList then some (.bool false)
  else match unquoted? text with
    | some inner => some (.str (String.ofList inner))
    | none => ((integer? (text.filter (· != '_'))).bind word64?).map .int

def readBinding (keyword : String) (body : List Char) : Except Fault (String × Value) :=
  match cutFirst ['='] body with
  | none => .error (.missingEquals keyword)
  | some (before, after) => do
    let name ← readName .variableName (trim before)
    match readLiteral? (trim after) with
    | some value => .ok (name, value)
    | none => .error (.invalidValue (String.ofList (trim after)))

def readCondition (body : List Char) : Except Fault (Option String × List Char) :=
  match body with
  | '{' :: inner =>
    match cutFirst ['}'] inner with
    | none => .error .unclosedCondition
    | some (name, rest) => do
      let condition ← readName .choiceCondition (trim name)
      .ok (some condition, trimStart rest)
  | _ => .ok (none, body)

def readChoice (sticky : Bool) (body : List Char) : Except Fault ChoiceLine := do
  let (condition, rest) ← readCondition (trim body)
  -- The last arrow leads on; any before it belong to the text.
  match cutLast "->".toList rest with
  | none => .error .missingArrow
  | some (before, after) =>
    if (trim before).isEmpty then .error .missingChoiceText
    else
      let target ← readName .divertTarget (trim after)
      .ok ⟨sticky, condition, String.ofList (trim before), target⟩

/-- A line of text may end in an arrow and a target, which stand for a divert after the text. -/
def readText (text : List Char) : Except Fault (List Item) :=
  match cutLast "->".toList text with
  | none => .ok [.text (String.ofList text)]
  | some (before, after) => do
    let target ← readName .divertTarget (trim after)
    let paragraph := trim before
    .ok ((if paragraph.isEmpty then [] else [.text (String.ofList paragraph)]) ++ [.divert target])

def Item.ofToken : Token → Except Fault (List Item)
  | .inclusion name => if name.isEmpty then .error .missingPath else .ok [.inclusion name]
  | .declaration body => do
    let (name, value) ← readBinding "VAR" body.toList
    .ok [.declaration name value]
  | .assignment body => do
    let (name, value) ← readBinding "~" body.toList
    .ok [.assignment name value]
  | .heading name => do .ok [.knot (← readName .knotName name.toList)]
  | .divert target => do .ok [.divert (← readName .divertTarget target.toList)]
  | .choice sticky body => do .ok [.choice (← readChoice sticky body.toList)]
  | .note words => .ok [.note words]
  | .text words => readText words.toList

def readItems (tokens : List (Token × Span)) : List (Item × Span) :=
  tokens.flatMap fun (token, span) =>
    match Item.ofToken token with
    | .ok items => items.map fun item => (item, span)
    | .error _ => []

def readFaults (tokens : List (Token × Span)) : List (Fault × Span) :=
  tokens.filterMap fun (token, span) =>
    match Item.ofToken token with
    | .ok _ => none
    | .error fault => some (fault, span)

end Tale.Script
