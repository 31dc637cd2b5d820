import Tale.Proofs.Disk.Editing

/-! Files are identified by their own places, with links or without.

A path that leads to a file is identified by the place of that file. Nothing on the way to that place
from the root is a link, so the identity leads nowhere else and is its own identity.
-/

set_option autoImplicit false

namespace Tale

namespace Disk

/-- Every node lies in a directory. -/
def Rooted (disk : Disk) : Prop :=
  ∀ place name, disk.node? (place ++ [name]) ≠ none → disk.isDirectoryAt place

theorem rooted_of_places {disk : Disk}
    (inside : disk.nodes.keys.all fun place => disk.isDirectoryAt place.dropLast) : disk.Rooted := by
  intro place name there
  unfold node? at there
  rw [if_neg (by simp)] at there
  obtain ⟨node, found⟩ := Option.ne_none_iff_exists'.mp there
  have listed : place ++ [name] ∈ disk.nodes.keys :=
    List.mem_map_of_mem (Dictionary.find?_eq_some_iff.mp found)
  simpa using List.all_eq_true.mp inside _ listed

theorem isDirectoryAt_iff {disk : Disk} {place : Place} :
    disk.isDirectoryAt place ↔ disk.node? place = some .directory :=
  decide_eq_true_iff

theorem node?_of_isDirectoryAt {disk : Disk} {place : Place} (directory : disk.isDirectoryAt place) :
    disk.node? place ≠ none := by
  rw [isDirectoryAt_iff.mp directory]
  nofun

theorem inside_of_file {disk : Disk} {place : Place} {content : List UInt8}
    (file : disk.node? place = some (.file content)) : place ≠ [] := by
  rintro rfl
  simp [node?] at file

theorem Rooted.above {disk : Disk} (rooted : disk.Rooted) {place : Place}
    (there : disk.node? place ≠ none) : disk.isDirectoryAt place.dropLast := by
  cases place using List.reverseRecOn with
  | nil => exact isDirectoryAt_root disk
  | append_singleton above name =>
    rw [List.dropLast_concat]
    exact rooted above name there

theorem Rooted.directory {disk : Disk} (rooted : disk.Rooted) {place other : Place}
    (there : disk.node? place ≠ none) (within : other <+: place) (apart : other ≠ place) :
    disk.isDirectoryAt other := by
  induction place using List.reverseRecOn with
  | nil => exact absurd (List.prefix_nil.mp within) apart
  | append_singleton place name ih =>
    have above := rooted place name there
    rcases List.prefix_concat_iff.mp within with same | earlier
    · exact absurd same apart
    · by_cases same : other = place
      · rw [same]
        exact above
      · apply ih _ earlier same
        intro gone
        simp [isDirectoryAt, gone] at above

/-- A disk as there can be one: every node has a file name and lies in a directory, and relative paths begin
in a directory. -/
structure WellFormed (disk : Disk) : Prop where
  rooted : disk.Rooted
  names : ∀ place, disk.node? place ≠ none → ProperPlace place
  home : disk.isDirectoryAt disk.here

theorem WellFormed.proper {disk : Disk} (wellFormed : disk.WellFormed) : disk.Proper :=
  wellFormed.names _ (node?_of_isDirectoryAt wellFormed.home)

theorem names_of_places {disk : Disk}
    (named : ∀ place ∈ disk.nodes.keys, ProperPlace place) (place : Place)
    (there : disk.node? place ≠ none) : ProperPlace place := by
  unfold node? at there
  split at there
  · next inside =>
    rw [List.isEmpty_iff.mp inside]
    exact properPlace_nil
  · obtain ⟨node, found⟩ := Option.ne_none_iff_exists'.mp there
    exact named place (List.mem_map_of_mem (Dictionary.find?_eq_some_iff.mp found))

/-- No part of the way from the root to a place is a link. -/
def Straight (disk : Disk) (place : Place) : Prop :=
  ∀ other, other <+: place → ∀ target, disk.node? other ≠ some (.link target)

theorem Rooted.straight {disk : Disk} (rooted : disk.Rooted) {place : Place} {node : Node}
    (found : disk.node? place = some node) (solid : ∀ target, node ≠ .link target) :
    disk.Straight place := by
  intro other within target link
  by_cases same : other = place
  · rw [same, found] at link
    exact solid target (Option.some.inj link)
  · have directory := rooted.directory (by simp [found]) within same
    simp [isDirectoryAt, link] at directory

theorem walk_straight {disk : Disk} {through : Place → List Name → Except DiskError Arrival}
    {names : Place} (proper : ProperPlace names) {place reached : Place}
    (straight : disk.Straight (place ++ names))
    (arrived : disk.walk true through place names = .ok (.present reached)) :
    reached = place ++ names := by
  induction names generalizing place with
  | nil =>
    cases arrived
    rw [List.append_nil]
  | cons name rest ih =>
    have onward (straight : disk.Straight (place ++ name :: rest))
        (arrived : disk.walk true through (place ++ [name]) rest = .ok (.present reached)) :
        reached = place ++ name :: rest := by
      rw [List.append_cons] at straight ⊢
      exact ih (fun other member => proper other (List.mem_cons_of_mem _ member)) straight arrived
    by_cases directory : disk.isDirectoryAt place
    · rw [walk_name (proper name List.mem_cons_self) directory] at arrived
      split at arrived
      · cases arrived
      · split at arrived
        · split at arrived <;> cases arrived
        · next target link =>
          have within : place ++ [name] <+: place ++ name :: rest := ⟨rest, by simp⟩
          exact absurd link (straight _ within target)
        · exact onward straight arrived
    · rw [walk_behind_file (by simpa using directory)] at arrived
      cases arrived

theorem resolve_straight {disk : Disk} {place reached : Place} (proper : ProperPlace place)
    (straight : disk.Straight place) (resolved : disk.resolve (.ofPlace place) = .ok reached) :
    reached = place := by
  rw [resolve_eq] at resolved
  by_cases inside : place = []
  · rw [inside, arrive_root] at resolved
    cases resolved
    exact inside.symm
  · obtain ⟨through, arrives⟩ := disk.arrive_ofPlace proper inside
    rw [arrives] at resolved
    obtain ⟨arrival, arrived, resolved⟩ := bind_eq_ok.mp resolved
    obtain ⟨-, -, walked⟩ := bind_eq_ok.mp arrived
    cases arrival with
    | absent directory name => cases resolved
    | present last =>
      cases resolved
      exact walk_straight proper straight walked

theorem identify_straight {disk : Disk} (properDisk : disk.Proper) {place : Place}
    (proper : ProperPlace place) (straight : disk.Straight place) :
    disk.identify (.ofPlace place) = .ofPlace place := by
  have kept (other reached : Place) (within : other <+: place)
      (resolved : disk.resolve? (.ofPlace other) = some reached) : reached = other := by
    have properOther : ProperPlace other := fun name member => proper name (within.subset member)
    apply resolve_straight properOther _ (resolve?_eq_some.mp resolved)
    exact fun earlier inOther => straight earlier (inOther.trans within)
  unfold identify identityBy
  split
  · next reached resolved => rw [kept place reached (List.prefix_refl _) resolved]
  · -- The path is too long to be followed, but then so are only the longest parts of it.
    have named : cleanPlace ((Path.ofPlace disk.here).join (.ofPlace place)).components = place := by
      rw [Path.components_join properDisk]
      exact disk.named_ofPlace proper
    rw [named, settlePlace_eq, List.reverse_reverse]
    rwa [List.reverse_reverse]

theorem identify_isFile {disk : Disk} (proper : disk.Proper) (rooted : disk.Rooted) {path : Path}
    (file : disk.isFile path) : disk.identify (disk.identify path) = disk.identify path := by
  obtain ⟨place, content, resolved, found⟩ := isFile_iff.mp file
  rw [identify_of_resolve resolved]
  exact identify_straight proper (resolve_proper proper resolved)
    (rooted.straight found fun target same => by cases same)

end Disk

end Tale
