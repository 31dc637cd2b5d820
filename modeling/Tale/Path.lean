import Tale.Dictionary
import Tale.Text.Bytes
import Tale.Text.Cut

/-! Paths as they are written. A path is a row of bytes, which need not encode a text. It keeps its
spelling and is identified by its components: repeated separators, a separator at the end and inner
`.` parts make no difference, while a leading `.` and every `..` do. -/

set_option autoImplicit false

namespace Tale

/-- A name in a directory: any bytes but the separator. -/
abbrev Name := List UInt8

instance : Coe String Name := ⟨Text.encode⟩

inductive Component where
  | root
  | current
  | parent
  | name (text : Name)
  deriving DecidableEq, Repr

abbrev slash : UInt8 := 47

abbrev dot : UInt8 := 46

namespace Component

def rank : Component → Nat
  | root => 0
  | current => 1
  | parent => 2
  | name _ => 3

def bytes : Component → Name
  | root => [slash]
  | current => [dot]
  | parent => [dot, dot]
  | name text => text

instance : Ord Component := ⟨compareLex (compareOn rank) (compareOn bytes)⟩

instance : Std.TransOrd Component :=
  inferInstanceAs (Std.TransCmp (compareLex (compareOn rank) (compareOn bytes)))

instance : Std.LawfulEqOrd Component where
  eq_of_compare {first second} same := by
    have split := compareLex_eq_eq.1 same
    have ranks : first.rank = second.rank := Std.LawfulEqCmp.eq_of_compare split.1
    have bytes : first.bytes = second.bytes := Std.LawfulEqCmp.eq_of_compare split.2
    cases first <;> cases second <;> simp_all [rank, Component.bytes]

end Component

structure Path where
  spelling : List UInt8
  deriving DecidableEq, Repr, Inhabited

namespace Path

def ofText (text : String) : Path := ⟨Text.encode text⟩

instance : Coe String Path := ⟨ofText⟩

def text? (path : Path) : Option String := Text.decode? path.spelling

def shown (path : Path) : String := Text.decodeLossy path.spelling

def isAbsolute (path : Path) : Bool := path.spelling.head? == some slash

def innerComponent? (piece : Name) : Option Component :=
  if piece = [] ∨ piece = [dot] then none
  else if piece = [dot, dot] then some .parent
  else some (.name piece)

def firstComponent? (piece : Name) : Option Component :=
  if piece = [dot] then some .current else innerComponent? piece

def pieces (path : Path) : List Name := path.spelling.splitOn slash

def components (path : Path) : List Component :=
  match path.pieces with
  | [] => []
  | first :: rest =>
    (if path.isAbsolute then [.root] else (firstComponent? first).toList) ++
      rest.filterMap innerComponent?

instance : Ord Path := ⟨compareOn components⟩

instance : Std.TransOrd Path :=
  inferInstanceAs (Std.TransCmp (compareOn components))

/-- Whether two spellings have the same components. -/
def same (first second : Path) : Bool := first.components == second.components

/-- A path read from a directory; an absolute path replaces the directory. -/
def join (base next : Path) : Path :=
  if next.isAbsolute then next
  else if base.spelling = [] ∨ base.spelling.getLast? = some slash then
    ⟨base.spelling ++ next.spelling⟩
  else ⟨base.spelling ++ slash :: next.spelling⟩

/-- Pieces that spell no component, where they stand behind another piece. -/
def isIdle (piece : Name) : Bool := piece == [] || piece == [dot]

def parent? (path : Path) : Option Path :=
  let absolute := path.isAbsolute
  match path.pieces with
  | [] => none
  | first :: rest =>
    match rest.reverse.dropWhile isIdle with
    | [] => if absolute || first.isEmpty then none else some ⟨[]⟩
    | _ :: before =>
      match before.dropWhile isIdle with
      | [] => some (if absolute then ⟨[slash]⟩ else ⟨first⟩)
      | kept => some ⟨[slash].intercalate (first :: kept.reverse)⟩

def ancestorsWithin : Nat → Path → List Path
  | 0, path => [path]
  | bound + 1, path =>
    match path.parent? with
    | none => [path]
    | some above => path :: ancestorsWithin bound above

def ancestors (path : Path) : List Path := path.ancestorsWithin path.pieces.length

def fileName? (path : Path) : Option Name :=
  match path.components.getLast? with
  | some (.name text) => some text
  | _ => none

/-- A file name cut at its last dot. A dot at the start belongs to the stem. -/
def stemAndExtension (name : Name) : Name × Option Name :=
  match Text.cutLast [dot] name with
  | some (before, after) => if before.isEmpty then (name, none) else (before, some after)
  | none => (name, none)

def extension? (path : Path) : Option Name :=
  path.fileName?.bind fun name => (stemAndExtension name).2

def withLastPiece (path : Path) (name : Name) : Path :=
  match path.pieces with
  | [] => path
  | first :: rest =>
    match rest.reverse.dropWhile isIdle with
    | [] => ⟨name⟩
    | _ :: before => ⟨[slash].intercalate (first :: before.reverse ++ [name])⟩

def withExtension (path : Path) (extension : Name) : Path :=
  match path.fileName? with
  | none => path
  | some name =>
    let stem := (stemAndExtension name).1
    path.withLastPiece (if extension.isEmpty then stem else stem ++ dot :: extension)

def ofComponents (components : List Component) : Path :=
  match components with
  | .root :: rest => ⟨slash :: [slash].intercalate (rest.map Component.bytes)⟩
  | _ => ⟨[slash].intercalate (components.map Component.bytes)⟩

def below? (path base : Path) : Option Path :=
  if base.components.isPrefixOf path.components then
    some (ofComponents (path.components.drop base.components.length))
  else none

end Path

end Tale
