import Mathlib.Data.List.Sort
import Tale.Proofs.Disk.LinkFree
import Tale.Proofs.Project.Discovery
import Tale.Proofs.Project.Sources

/-! What is found below a directory where there are no links.

A file below a directory lies at the names that lead to it from there. It is found exactly if it passes the test
and no directory on the way to it is hidden; and each file is found once, so that they stand in strictly
ascending order once they are sorted. A directory is hidden by a dot in front of its name, but not if the name is
no text.
-/

set_option autoImplicit false

namespace Tale

namespace Disk

/-- Every directory is found by its path. -/
def Readable (disk : Disk) : Prop :=
  ∀ place, disk.isDirectoryAt place → disk.resolve (.ofPlace place) = .ok place

theorem readable_of_places {disk : Disk}
    (found : ∀ place ∈ [] :: disk.nodes.keys, disk.isDirectoryAt place →
      disk.resolve (.ofPlace place) = .ok place) : disk.Readable := by
  intro place directory
  refine found place ?_ directory
  by_cases inside : place = []
  · rw [inside]
    exact List.mem_cons_self
  · have there := isDirectoryAt_iff.mp directory
    rw [node?, if_neg (by simpa using inside)] at there
    exact List.mem_cons_of_mem _ (List.mem_map_of_mem (Dictionary.find?_eq_some_iff.mp there))

theorem length_le_spelling (place : Place) :
    place.length ≤ (Path.ofPlace place).spelling.length := by
  rw [Path.ofPlace, List.length_cons]
  induction place using List.reverseRecOn with
  | nil => exact Nat.zero_le _
  | append_singleton place name ih =>
    by_cases inside : place = []
    · simp [inside]
    · rw [intercalate_snoc inside, List.length_append, List.length_append, List.length_append,
        List.length_singleton, List.length_singleton]
      omega

theorem Readable.length_le {disk : Disk} (readable : disk.Readable) {place : Place}
    (directory : disk.isDirectoryAt place) : place.length ≤ longestPath :=
  (length_le_spelling place).trans (checkSpelling_short (resolve_eq_ok.mp (readable place directory)).1)

theorem isDirectory_iff {disk : Disk} {path : Path} : disk.isDirectory path ↔
    ∃ place, disk.resolve path = .ok place ∧ disk.isDirectoryAt place := by
  unfold isDirectory find?
  cases disk.resolve path with
  | error error => simp [Except.toOption]
  | ok place =>
    simp only [Except.toOption, Option.bind_some, Except.ok.injEq, exists_eq_left']
    exact decide_eq_true_iff.trans isDirectoryAt_iff.symm

theorem isDirectory_ofPlace {disk : Disk} (linkFree : disk.LinkFree) (readable : disk.Readable)
    {place : Place} (proper : ProperPlace place) :
    disk.isDirectory (.ofPlace place) = disk.isDirectoryAt place := by
  rw [Bool.eq_iff_iff, isDirectory_iff]
  constructor
  · rintro ⟨reached, resolved, directory⟩
    rwa [resolve_named linkFree resolved, named_ofPlace disk proper] at directory
  · exact fun directory => ⟨place, readable place directory, directory⟩

/-- The names in a directory are those of the nodes that lie in it, each once. -/
theorem names_of_directory {disk : Disk} {path : Path} {place : Place}
    (resolved : disk.resolve path = .ok place) (directory : disk.isDirectoryAt place) :
    ∃ names, disk.names path = .ok names ∧ names.Nodup ∧
      ∀ name, name ∈ names ↔ disk.node? (place ++ [name]) ≠ none := by
  refine ⟨_, names_eq_ok.mpr ⟨place, resolved, directory, rfl⟩, ?_, fun name => ?_⟩
  · have keys : disk.nodes.keys.Nodup := Dictionary.nodup_of_ascending id
      (List.pairwise_map.mpr disk.nodes.ascending)
    refine keys.filterMap fun first second name here hereToo => ?_
    rw [childOf?_eq_some.mp here, childOf?_eq_some.mp hereToo]
  · rw [List.mem_filterMap, node?, if_neg (by simp)]
    constructor
    · rintro ⟨whole, key, child⟩
      cases childOf?_eq_some.mp child
      obtain ⟨⟨other, node⟩, entry, rfl⟩ := List.mem_map.mp key
      rw [Dictionary.find?_eq_some_iff.mpr entry]
      exact Option.some_ne_none node
    · intro there
      obtain ⟨node, found⟩ := Option.ne_none_iff_exists'.mp there
      exact ⟨_, List.mem_map_of_mem (Dictionary.find?_eq_some_iff.mp found), childOf?_eq_some.mpr rfl⟩

end Disk

namespace Project

def isDotted (name : Name) : Bool := name.head? == some dot

theorem isHidden_iff {name : Name} : isHidden name ↔ isDotted name ∧ (Text.decode? name).isSome := by
  have small : '.'.toNat < 128 := by decide
  unfold isHidden isDotted
  cases read : Text.decode? name with
  | none => simp
  | some text =>
    rw [← Text.decode?_eq_some_iff.mp read]
    simpa using (Text.head?_encode_iff small).symm

/-- What is to be found below a place: something that is no directory and passes the test, on the way to which
no directory is hidden. -/
structure Findable (disk : Disk) (hidden : Name → Bool) (wanted : Path → Bool) (place below : Place) : Prop where
  inside : below ≠ []
  there : disk.node? (place ++ below) ≠ none
  noDirectory : disk.isDirectoryAt (place ++ below) = false
  fits : wanted (.ofPlace (place ++ below))
  shown : ∀ name ∈ below.dropLast, hidden name = false

def FindableAt (disk : Disk) (wanted : Path → Bool) (place : Place) (name : Name) (path : Path) : Prop :=
  ∃ below, path = .ofPlace (place ++ name :: below) ∧ Findable disk isHidden wanted place (name :: below)

/-- Some paths are all that is to be found below a place, each once. -/
structure AllFindable (disk : Disk) (hidden : Name → Bool) (wanted : Path → Bool) (place : Place)
    (found : List Path) : Prop where
  once : found.Nodup
  members : ∀ path, path ∈ found ↔
    ∃ below, path = .ofPlace (place ++ below) ∧ Findable disk hidden wanted place below

section Exact

variable {disk : Disk} (wellFormed : disk.WellFormed)

include wellFormed

theorem findable_cons_iff {hidden : Name → Bool} {wanted : Path → Bool} {place below : Place} {name : Name} :
    Findable disk hidden wanted place (name :: below) ↔ disk.node? (place ++ [name]) ≠ none ∧
      if disk.isDirectoryAt (place ++ [name]) then
        hidden name = false ∧ Findable disk hidden wanted (place ++ [name]) below
      else below = [] ∧ wanted (.ofPlace (place ++ [name])) := by
  cases below with
  | nil =>
    constructor
    · rintro ⟨-, there, noDirectory, fits, -⟩
      rw [noDirectory]
      exact ⟨there, rfl, fits⟩
    · rintro ⟨there, rest⟩
      split at rest
      · exact absurd rfl rest.2.inside
      · next noDirectory =>
        exact ⟨List.cons_ne_nil _ _, there, Bool.eq_false_iff.mpr noDirectory, rest.2, by simp⟩
  | cons next below =>
    have split : place ++ name :: next :: below = (place ++ [name]) ++ next :: below := by simp
    constructor
    · rintro ⟨-, there, noDirectory, fits, shown⟩
      rw [split] at there noDirectory fits
      have directory : disk.isDirectoryAt (place ++ [name]) :=
        wellFormed.rooted.directory there (List.prefix_append _ _) (by simp)
      rw [if_pos directory]
      rw [List.dropLast_cons_of_ne_nil (List.cons_ne_nil _ _)] at shown
      exact ⟨Disk.node?_of_isDirectoryAt directory, shown name List.mem_cons_self,
        List.cons_ne_nil _ _, there, noDirectory, fits,
        fun other member => shown other (List.mem_cons_of_mem _ member)⟩
    · rintro ⟨-, rest⟩
      split at rest
      · obtain ⟨visible, -, there, noDirectory, fits, shown⟩ := rest
        rw [← split] at there noDirectory fits
        refine ⟨List.cons_ne_nil _ _, there, noDirectory, fits, ?_⟩
        rw [List.dropLast_cons_of_ne_nil (List.cons_ne_nil _ _)]
        exact List.forall_mem_cons.mpr ⟨visible, shown⟩
      · cases rest.1

theorem findable_apart {wanted : Path → Bool} {place : Place} {first second : Name} {path : Path}
    (found : FindableAt disk wanted place first path) (foundToo : FindableAt disk wanted place second path) :
    first = second := by
  obtain ⟨below, rfl, found⟩ := found
  obtain ⟨other, same, foundToo⟩ := foundToo
  have whole := (Path.ofPlace_inj (wellFormed.names _ found.there) (wellFormed.names _ foundToo.there)).mp same
  exact (List.cons.inj (List.append_cancel_left whole)).1

/-- Where directories with a dot are passed over, the same is to be found, unless something lies in one whose
name is no text. -/
theorem allFindable_isDotted_iff {wanted : Path → Bool} {place : Place} {found : List Path}
    (all : AllFindable disk isHidden wanted place found) :
    AllFindable disk isDotted wanted place found ↔ ¬ ∃ below, Findable disk isHidden wanted place below ∧
      ∃ name ∈ below.dropLast, isDotted name ∧ Text.decode? name = none := by
  constructor
  · rintro ⟨-, members⟩ ⟨below, findable, name, member, dotted, -⟩
    obtain ⟨other, same, findableToo⟩ := (members _).mp ((all.members _).mpr ⟨below, rfl, findable⟩)
    have whole := (Path.ofPlace_inj (wellFormed.names _ findable.there)
      (wellFormed.names _ findableToo.there)).mp same
    obtain rfl := List.append_cancel_left whole
    exact absurd dotted (Bool.eq_false_iff.mp (findableToo.shown name member))
  · intro none
    refine ⟨all.once, fun path => (all.members path).trans ⟨?_, ?_⟩⟩
    · rintro ⟨below, spelled, findable⟩
      refine ⟨below, spelled, { findable with shown := fun name member => ?_ }⟩
      -- A name with a dot is that of a hidden directory if it is a text.
      by_contra dotted
      rw [Bool.not_eq_false] at dotted
      refine none ⟨below, findable, name, member, dotted, Option.not_isSome_iff_eq_none.mp fun text => ?_⟩
      exact Bool.eq_false_iff.mp (findable.shown name member) (isHidden_iff.mpr ⟨dotted, text⟩)
    · rintro ⟨below, spelled, findable⟩
      refine ⟨below, spelled, { findable with shown := fun name member => ?_ }⟩
      rw [Bool.eq_false_iff]
      exact fun hidden => Bool.eq_false_iff.mp (findable.shown name member) (isHidden_iff.mp hidden).1

variable (linkFree : disk.LinkFree) (readable : disk.Readable)

include linkFree readable

theorem collectAt_exact {wanted : Path → Bool} {depth : Nat} {place : Place} {name : Name}
    (proper : ProperPlace place) (there : disk.node? (place ++ [name]) ≠ none)
    (deeper : disk.isDirectoryAt (place ++ [name]) → ∃ found,
      collect disk wanted depth (.ofPlace (place ++ [name])) = .ok found ∧
        AllFindable disk isHidden wanted (place ++ [name]) found) :
    ∃ found, collectAt disk wanted depth (.ofPlace place) name = .ok found ∧ found.Nodup ∧
      ∀ path, path ∈ found ↔ FindableAt disk wanted place name path := by
  have properName : ProperPlace (place ++ [name]) := wellFormed.names _ there
  unfold collectAt
  dsimp only
  rw [Path.join_ofPlace proper properName.last, Disk.isDirectory_ofPlace linkFree readable properName]
  simp only [FindableAt, findable_cons_iff wellFormed]
  split
  · next directory =>
    split
    · next hidden => exact ⟨[], rfl, List.nodup_nil, by simp [hidden]⟩
    · next visible =>
      obtain ⟨found, collected, once, members⟩ := deeper directory
      exact ⟨found, collected, once, fun path => by simp [members, there, visible]⟩
  · split
    · next fits => exact ⟨_, rfl, List.nodup_singleton _, by simp [there, fits]⟩
    · next unfit => exact ⟨[], rfl, List.nodup_nil, by simp [unfit]⟩

/-- Everything is collected that is to be found below a directory, each file once. -/
theorem collect_exact (wanted : Path → Bool) {depth : Nat} {place : Place}
    (directory : disk.isDirectoryAt place) (deep : longestPath < depth + place.length) :
    ∃ found, collect disk wanted depth (.ofPlace place) = .ok found ∧
      AllFindable disk isHidden wanted place found := by
  -- On the depth, which is never used up, as no directory that can be read lies deeper than paths are long.
  induction depth generalizing place with
  | zero =>
    have short := readable.length_le directory
    omega
  | succ depth ih =>
    obtain ⟨names, listed, distinct, members⟩ :=
      Disk.names_of_directory (readable place directory) directory
    have proper : ProperPlace place := wellFormed.names place (Disk.node?_of_isDirectoryAt directory)
    have made (name : Name) (member : name ∈ names) : ∃ found,
        collectAt disk wanted depth (.ofPlace place) name = .ok found ∧ found.Nodup ∧
          ∀ path, path ∈ found ↔ FindableAt disk wanted place name path := by
      refine collectAt_exact wellFormed linkFree readable proper ((members name).mp member) fun inner => ?_
      refine ih inner ?_
      rw [List.length_append, List.length_singleton]
      omega
    have apart (first second : Name) (path : Path) (found : FindableAt disk wanted place first path) :
        FindableAt disk wanted place second path → first = second :=
      findable_apart wellFormed found
    obtain ⟨outputs, mapped, once, exact⟩ := exists_mapM_flatten distinct apart made
    refine ⟨outputs.flatten, collect_succ_eq_ok.mpr ⟨names, outputs, listed, mapped, rfl⟩, once,
      fun path => (exact path).trans ⟨?_, ?_⟩⟩
    · rintro ⟨name, -, below, found⟩
      exact ⟨name :: below, found⟩
    · rintro ⟨_ | ⟨name, below⟩, spelled, found⟩
      · exact absurd rfl found.inside
      · exact ⟨name, (members name).mpr ((findable_cons_iff wellFormed).mp found).1, below, spelled, found⟩

/-- Exactly what is to be found below a directory is discovered, each file once and in ascending order: what is
no directory, matches the pattern for roots, and has no hidden directory above it. Where all directories with a
dot in front of their names should be hidden, that is right unless something lies in one whose name is no text. -/
theorem discover_exact_iff (rules : Rules) {directory : Path} (there : disk.isDirectory directory) :
    ∃ place roots, disk.resolve directory = .ok place ∧ discover disk rules directory = .ok roots ∧
      (roots.Pairwise fun first second => compare first second = .lt) ∧
      AllFindable disk isHidden rules.isRoot place roots ∧
      (AllFindable disk isDotted rules.isRoot place roots ↔
        ¬ ∃ below, Findable disk isHidden rules.isRoot place below ∧
          ∃ name ∈ below.dropLast, isDotted name ∧ Text.decode? name = none) := by
  obtain ⟨place, resolved, inner⟩ := Disk.isDirectory_iff.mp there
  obtain ⟨found, collected, once, members⟩ :=
    collect_exact wellFormed linkFree readable rules.isRoot inner (Nat.lt_add_right _ (Nat.lt_succ_self _))
  rw [← Disk.identify_of_resolve resolved] at collected
  let roots := found.mergeSort fun first second => (compare first second).isLE
  have distinct : roots.Nodup := (List.mergeSort_perm _ _).nodup_iff.mpr once
  have all : AllFindable disk isHidden rules.isRoot place roots :=
    ⟨distinct, fun path => List.mem_mergeSort.trans (members path)⟩
  refine ⟨place, roots, resolved, ?_, ?_, all, allFindable_isDotted_iff wellFormed all⟩
  · rw [discover, collected]
    rfl
  · have sorted : roots.Pairwise fun first second => (compare first second).isLE :=
      List.pairwise_mergeSort (fun _ _ _ => Std.TransCmp.isLE_trans)
        (fun first second => by
          rw [Std.OrientedOrd.eq_swap (a := second)]
          cases compare first second <;> rfl) found
    refine (sorted.and distinct).imp_of_mem fun {first second} member memberToo ⟨below, apart⟩ => ?_
    obtain ⟨way, rfl, findable⟩ := (all.members first).mp member
    obtain ⟨wayToo, rfl, findableToo⟩ := (all.members second).mp memberToo
    rcases Ordering.isLE_iff_eq_lt_or_eq_eq.mp below with less | equal
    · exact less
    -- Two paths to places have the same components only if they are one.
    · exact absurd (congrArg Path.ofPlace (Path.ofPlace_same (wellFormed.names _ findable.there)
        (wellFormed.names _ findableToo.there) (Path.compare_eq_iff.mp equal))) apart

end Exact

/-- A vault that is itself hidden, with a hidden draft, a room, and a hidden directory with a story in it. -/
def vault : Disk where
  nodes := .ofList [([".vault"], .directory), ([".vault", ".draft.tale"], .file []),
    ([".vault", ".old"], .directory), ([".vault", ".old", "lost.tale"], .file []),
    ([".vault", "room"], .directory), ([".vault", "room", "chest.tale"], .file []),
    ([".vault", "room.tale"], .file []), ([".vault", "room.txt"], .file [])]
  here := []

theorem vault_wellFormed : vault.WellFormed where
  rooted := Disk.rooted_of_places (by decide +kernel)
  names := Disk.names_of_places (by decide +kernel)
  home := Disk.isDirectoryAt_root vault

/-- The draft is found, and so is the chest in the room. -/
theorem vault_discovered : vault.WellFormed ∧ vault.LinkFree ∧ vault.Readable ∧
    vault.isDirectory ".vault" ∧ ∃ roots, discover vault taleRules ".vault" = .ok roots ∧
      ↑"/.vault/.draft.tale" ∈ roots ∧ ↑"/.vault/room/chest.tale" ∈ roots ∧
      ↑"/.vault/.old/lost.tale" ∉ roots := by
  have linkFree : vault.LinkFree := Disk.linkFree_of_values (by decide +kernel)
  have readable : vault.Readable := Disk.readable_of_places (by decide +kernel)
  have there : vault.isDirectory ".vault" := by decide +kernel
  obtain ⟨place, roots, resolved, found, -, all, -⟩ :=
    discover_exact_iff vault_wellFormed linkFree readable taleRules there
  have inVault : vault.resolve ".vault" = .ok [".vault"] := by decide +kernel
  cases resolved.symm.trans inVault
  have findable (below : Place) (inside : below ≠ [])
      (there : vault.node? (".vault" :: below) ≠ none)
      (noDirectory : vault.isDirectoryAt (".vault" :: below) = false)
      (fits : taleRules.isRoot (.ofPlace (".vault" :: below)))
      (shown : ∀ name ∈ below.dropLast, isHidden name = false) :
      .ofPlace (".vault" :: below) ∈ roots :=
    (all.members _).mpr ⟨below, rfl, inside, there, noDirectory, fits, shown⟩
  refine ⟨vault_wellFormed, linkFree, readable, there, roots, found, ?_, ?_, ?_⟩
  · exact findable [".draft.tale"] (by simp) (by decide +kernel) (by decide +kernel) (by decide +kernel)
      (by decide +kernel)
  · exact findable ["room", "chest.tale"] (by simp) (by decide +kernel) (by decide +kernel)
      (by decide +kernel) (by decide +kernel)
  · intro member
    obtain ⟨below, spelled, findable⟩ := (all.members _).mp member
    have whole : ([".vault", ".old", "lost.tale"] : Place) = [(".vault" : Name)] ++ below :=
      (Path.ofPlace_inj (by decide +kernel) (vault_wellFormed.names _ findable.there)).mp spelled
    cases whole
    exact absurd (findable.shown ".old" (by simp)) (by decide +kernel)

/-- A cellar whose name is a dot and a byte that begins no character. -/
def cellar : Name := [dot, 255]

def house : Disk where
  nodes := .ofList [([cellar], .directory), ([cellar, "wine.tale"], .file [])]
  here := []

theorem house_wellFormed : house.WellFormed where
  rooted := Disk.rooted_of_places (by decide +kernel)
  names := Disk.names_of_places (by decide +kernel)
  home := Disk.isDirectoryAt_root house

/-- The cellar is searched. -/
theorem house_cellar_searched : house.WellFormed ∧ house.LinkFree ∧ house.Readable ∧
    house.resolve "/" = .ok [] ∧ house.isDirectory "/" ∧
    discover house taleRules "/" = .ok [.ofPlace [cellar, "wine.tale"]] ∧
    ¬ AllFindable house isDotted taleRules.isRoot [] [.ofPlace [cellar, "wine.tale"]] := by
  refine ⟨house_wellFormed, Disk.linkFree_of_values (by decide +kernel),
    Disk.readable_of_places (by decide +kernel), by decide +kernel, by decide +kernel,
    discover_of_collect (by decide +kernel) (by decide +kernel), fun ⟨_, members⟩ => ?_⟩
  obtain ⟨below, same, findable⟩ := (members _).mp (List.mem_singleton_self _)
  have whole : [cellar, ("wine.tale" : Name)] = [] ++ below :=
    (Path.ofPlace_inj (by decide +kernel) (house_wellFormed.names _ findable.there)).mp same
  cases whole
  exact absurd (findable.shown cellar (by simp)) (by decide)

end Project

end Tale
