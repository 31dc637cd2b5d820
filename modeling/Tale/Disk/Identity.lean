import Tale.Disk.Basic

/-! The identity of a document. A path that leads somewhere is identified by the place where it
arrives. Any other path is cleaned of `.` and `..` first, and then identified by the place of the
longest part in front that leads somewhere, with the other names behind it; so a document that is
gone keeps the identity it had, and one that does not exist yet has the one it will have. -/

set_option autoImplicit false

namespace Tale

/-- The place that components name when no link is followed. -/
def cleanPlace (components : List Component) : Place :=
  components.foldl (fun place component => match component with
    | .root => []
    | .current => place
    | .parent => place.dropLast
    | .name text => place ++ [text]) []

/-- The place of a path whose names are given in reverse, by its longest part that can be resolved;
the root needs no resolving. -/
def settlePlace (resolve? : Path → Option Place) : List Name → Place
  | [] => []
  | name :: above =>
    match resolve? (.ofPlace (above.reverse ++ [name])) with
    | some place => place
    | none => settlePlace resolve? above ++ [name]

def identityBy (resolve? : Path → Option Place) (here : Place) (path : Path) : Place :=
  match resolve? path with
  | some place => place
  | none => settlePlace resolve? (cleanPlace ((Path.ofPlace here).join path).components).reverse

namespace Disk

def resolve? (disk : Disk) (path : Path) : Option Place := (disk.resolve path).toOption

/-- The path that stands for a document, whatever path it was called by. -/
def identify (disk : Disk) (path : Path) : Path :=
  .ofPlace (identityBy disk.resolve? disk.here path)

end Disk

end Tale
