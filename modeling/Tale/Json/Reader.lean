import Tale.Json.Lexeme

/-! Reading JSON data from its lexemes. The reader keeps the arrays and objects that are still open
and what may come next; any nesting is read with the same space for each level. -/

set_option autoImplicit false

namespace Tale.Json

/-- An array or object that is still open, its parts last first. -/
inductive Frame where
  | array (items : List Json)
  | object (members : List (Option String × Json))
  | member (members : List (Option String × Json)) (name : Option String)
  deriving Repr

inductive Phase where
  | value
  | itemOrClose
  | name
  | nameOrClose
  | colon
  | separator
  | done (value : Json)
  deriving Repr

structure Reading where
  frames : List Frame
  phase : Phase
  deriving Repr

/-- A value is complete: it goes into the innermost open array or object. -/
def Reading.complete (value : Json) : List Frame → Option Reading
  | [] => some ⟨[], .done value⟩
  | .array items :: outer => some ⟨.array (value :: items) :: outer, .separator⟩
  | .member members name :: outer => some ⟨.object ((name, value) :: members) :: outer, .separator⟩
  | .object _ :: _ => none

def Reading.beginValue (frames : List Frame) : Lexeme → Option Reading
  | .word value => complete value frames
  | .text (some text) => complete (.string text) frames
  | .text none => complete .unpaired frames
  | .openBracket => some ⟨.array [] :: frames, .itemOrClose⟩
  | .openBrace => some ⟨.object [] :: frames, .nameOrClose⟩
  | _ => none

def Reading.beginMember (frames : List Frame) : Lexeme → Option Reading
  | .text name =>
    match frames with
    | .object members :: outer => some ⟨.member members name :: outer, .colon⟩
    | _ => none
  | _ => none

def Reading.close (frames : List Frame) : Lexeme → Option Reading
  | .closeBracket =>
    match frames with
    | .array items :: outer => complete (.array items.reverse) outer
    | _ => none
  | .closeBrace =>
    match frames with
    | .object members :: outer => complete (.object members.reverse) outer
    | _ => none
  | _ => none

def Reading.step (reading : Reading) (lexeme : Lexeme) : Option Reading :=
  match reading.phase, lexeme with
  | .value, lexeme => beginValue reading.frames lexeme
  | .itemOrClose, .closeBracket => close reading.frames .closeBracket
  | .itemOrClose, lexeme => beginValue reading.frames lexeme
  | .name, lexeme => beginMember reading.frames lexeme
  | .nameOrClose, .closeBrace => close reading.frames .closeBrace
  | .nameOrClose, lexeme => beginMember reading.frames lexeme
  | .colon, .colon => some ⟨reading.frames, .value⟩
  | .colon, _ => none
  | .separator, .comma =>
    match reading.frames with
    | .array _ :: _ => some ⟨reading.frames, .value⟩
    | .object _ :: _ => some ⟨reading.frames, .name⟩
    | _ => none
  | .separator, lexeme => close reading.frames lexeme
  | .done _, _ => none

def parse? (text : List Char) : Option Json := do
  let lexemes ← lexemes? text
  match (← lexemes.foldlM Reading.step ⟨[], .value⟩).phase with
  | .done value => some value
  | _ => none

/-! Reading records. A record may be written as an object, whose unknown members are passed over
unread, or as an array with its fields in order. -/

def countName (name : String) (members : List (Option String × Json)) : Nat :=
  (members.filter fun member => member.1 == some name).length

def member? (name : String) (members : List (Option String × Json)) : Option Json :=
  (members.find? fun member => member.1 == some name).map Prod.snd

/-- The fields of a record, in the order of their names; a field may be absent, and none may occur
twice. -/
def fields? (names : List String) : Json → Option (List (Option Json))
  | object members =>
    if members.all (fun member => member.1.isSome) &&
        names.all (fun name => countName name members ≤ 1) then
      some (names.map fun name => member? name members)
    else none
  | array items =>
    if items.length ≤ names.length then
      some (items.map some ++ List.replicate (names.length - items.length) none)
    else none
  | _ => none

def members? : Json → Option (List (String × Json))
  | object members => members.mapM fun (name, value) => name.map fun name => (name, value)
  | _ => none

def text? : Json → Option String
  | string text => some text
  | _ => none

def bool? : Json → Option Bool
  | bool value => some value
  | _ => none

end Tale.Json
