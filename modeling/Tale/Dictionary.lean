/-! Finite maps in the order of their keys. The entries are a strictly ascending list, so two
maps with equal entries are equal and a listing needs no sorting. A key that is already present
keeps the form in which it was first stored. -/

set_option autoImplicit false

namespace Tale

universe u v

/-- A finite map whose keys stand in strictly ascending order. -/
@[ext] structure Dictionary (κ : Type u) (α : Type v) [Ord κ] where
  entries : List (κ × α)
  ascending : entries.Pairwise fun a b => compare a.1 b.1 = .lt

abbrev OrderedSet (κ : Type u) [Ord κ] := Dictionary κ Unit

namespace Dictionary

variable {κ : Type u} {α : Type v} {β : Type v} [Ord κ]

instance [DecidableEq κ] [DecidableEq α] : DecidableEq (Dictionary κ α) := fun first second =>
  decidable_of_iff (first.entries = second.entries) ⟨Dictionary.ext, congrArg entries⟩

def empty : Dictionary κ α := ⟨[], .nil⟩

instance : EmptyCollection (Dictionary κ α) := ⟨empty⟩

instance : Inhabited (Dictionary κ α) := ⟨empty⟩

def keys (map : Dictionary κ α) : List κ := map.entries.map Prod.fst

def values (map : Dictionary κ α) : List α := map.entries.map Prod.snd

def size (map : Dictionary κ α) : Nat := map.entries.length

def isEmpty (map : Dictionary κ α) : Bool := map.entries.isEmpty

def lookup (key : κ) : List (κ × α) → Option (κ × α)
  | [] => none
  | entry :: rest => if compare key entry.1 = .eq then some entry else lookup key rest

def find? (map : Dictionary κ α) (key : κ) : Option α :=
  (lookup key map.entries).map Prod.snd

def contains (map : Dictionary κ α) (key : κ) : Bool := (map.find? key).isSome

def insertEntry (key : κ) (value : α) : List (κ × α) → List (κ × α)
  | [] => [(key, value)]
  | (other, held) :: rest =>
    match compare key other with
    | .lt => (key, value) :: (other, held) :: rest
    | .eq => (other, value) :: rest
    | .gt => (other, held) :: insertEntry key value rest

theorem mem_insertEntry {key : κ} {value : α} {entry : κ × α} {entries : List (κ × α)}
    (member : entry ∈ insertEntry key value entries) :
    entry.1 = key ∨ ∃ held ∈ entries, held.1 = entry.1 := by
  induction entries with
  | nil =>
    simp only [insertEntry, List.mem_singleton] at member
    exact .inl (member ▸ rfl)
  | cons head rest ih =>
    obtain ⟨other, held⟩ := head
    simp only [insertEntry] at member
    split at member
    · rcases List.mem_cons.1 member with same | later
      · exact .inl (same ▸ rfl)
      · exact .inr ⟨entry, later, rfl⟩
    · rcases List.mem_cons.1 member with same | later
      · exact .inr ⟨(other, held), List.mem_cons_self, by rw [same]⟩
      · exact .inr ⟨entry, List.mem_cons_of_mem _ later, rfl⟩
    · rcases List.mem_cons.1 member with same | later
      · exact .inr ⟨(other, held), List.mem_cons_self, by rw [same]⟩
      · rcases ih later with same | ⟨found, foundMember, same⟩
        · exact .inl same
        · exact .inr ⟨found, List.mem_cons_of_mem _ foundMember, same⟩

theorem ascending_insertEntry [Std.TransOrd κ] (key : κ) (value : α) {entries : List (κ × α)}
    (ascending : entries.Pairwise fun a b => compare a.1 b.1 = .lt) :
    (insertEntry key value entries).Pairwise fun a b => compare a.1 b.1 = .lt := by
  induction entries with
  | nil => exact List.pairwise_singleton ..
  | cons head rest ih =>
    obtain ⟨other, held⟩ := head
    obtain ⟨first, later⟩ := List.pairwise_cons.1 ascending
    simp only [insertEntry]
    split
    · next below =>
      refine List.pairwise_cons.2 ⟨fun entry member => ?_, ascending⟩
      rcases List.mem_cons.1 member with same | inRest
      · rw [same]; exact below
      · exact Std.TransCmp.lt_trans below (first entry inRest)
    · exact List.pairwise_cons.2 ⟨first, later⟩
    · next above =>
      refine List.pairwise_cons.2 ⟨fun entry member => ?_, ih later⟩
      rcases mem_insertEntry member with same | ⟨found, inRest, same⟩
      · rw [same]; exact Std.OrientedCmp.lt_of_gt above
      · rw [← same]; exact first found inRest

def insert [Std.TransOrd κ] (map : Dictionary κ α) (key : κ) (value : α) : Dictionary κ α :=
  ⟨insertEntry key value map.entries, ascending_insertEntry key value map.ascending⟩

def erase (map : Dictionary κ α) (key : κ) : Dictionary κ α :=
  ⟨map.entries.filter fun entry => compare key entry.1 ≠ .eq, map.ascending.filter _⟩

def filter (keep : κ → α → Bool) (map : Dictionary κ α) : Dictionary κ α :=
  ⟨map.entries.filter fun entry => keep entry.1 entry.2, map.ascending.filter _⟩

def mapValues (image : α → β) (map : Dictionary κ α) : Dictionary κ β :=
  ⟨map.entries.map fun entry => (entry.1, image entry.2),
    List.pairwise_map.2 map.ascending⟩

/-- The map of some entries, of which a later one replaces an earlier one with its key. -/
def ofList [Std.TransOrd κ] (entries : List (κ × α)) : Dictionary κ α :=
  entries.foldl (fun map entry => map.insert entry.1 entry.2) empty

end Dictionary

namespace OrderedSet

variable {κ : Type u} [Ord κ]

def insert [Std.TransOrd κ] (set : OrderedSet κ) (key : κ) : OrderedSet κ :=
  Dictionary.insert set key ()

def ofList [Std.TransOrd κ] (keys : List κ) : OrderedSet κ :=
  keys.foldl (fun set key => OrderedSet.insert set key) Dictionary.empty

end OrderedSet

end Tale
