import Tale.Path

/-! Which roots include which files. The same relation is kept from both sides, so that the roots
to rebuild after a change are found without a search. An edge belongs to its root: forgetting a
root removes its own edges and no others. -/

set_option autoImplicit false

namespace Tale.Project

abbrev PathRelation := Dictionary Path (OrderedSet Path)

namespace PathRelation

def image (relation : PathRelation) (path : Path) : OrderedSet Path :=
  (relation.find? path).getD ∅

def add (relation : PathRelation) (first second : Path) : PathRelation :=
  relation.insert first (OrderedSet.insert (relation.image first) second)

def remove (relation : PathRelation) (first second : Path) : PathRelation :=
  match relation.find? first with
  | none => relation
  | some image =>
    let rest := image.erase second
    if rest.isEmpty then relation.erase first else relation.insert first rest

/-- The listing up to the spelling of its paths. -/
def listing (relation : PathRelation) : List (List Component × List (List Component)) :=
  relation.entries.map fun (path, image) => (path.components, image.keys.map Path.components)

end PathRelation

structure Dependencies where
  /-- The files that each root includes. -/
  included : PathRelation
  /-- The roots that include each file. -/
  includers : PathRelation
  deriving DecidableEq

namespace Dependencies

def empty : Dependencies := ⟨∅, ∅⟩

instance : EmptyCollection Dependencies := ⟨empty⟩

def tracks (edges : Dependencies) (root file : Path) : Bool :=
  (edges.included.image root).contains file

/-- Add the edge from a root to a file, unless it is there or the root is the file; and whether it
was added. -/
def track (edges : Dependencies) (root file : Path) : Bool × Dependencies :=
  if root.same file || edges.tracks root file then (false, edges)
  else (true, ⟨edges.included.add root file, edges.includers.add file root⟩)

/-- Forget a root with its edges; and how many there were. -/
def clear (edges : Dependencies) (root : Path) : Nat × Dependencies :=
  let files := edges.included.image root
  (files.size,
    ⟨edges.included.erase root,
      files.keys.foldl (fun includers file => PathRelation.remove includers file root)
        edges.includers⟩)

def affected (edges : Dependencies) (file : Path) : OrderedSet Path := edges.includers.image file

def includedBy? (edges : Dependencies) (root : Path) : Option (OrderedSet Path) :=
  edges.included.find? root

def edgeCount (edges : Dependencies) : Nat := (edges.included.values.map Dictionary.size).foldr (· + ·) 0

def isEmpty (edges : Dependencies) : Bool := edges.included.isEmpty

def agrees (first second : Dependencies) : Bool :=
  first.included.listing == second.included.listing &&
    first.includers.listing == second.includers.listing

end Dependencies

end Tale.Project
