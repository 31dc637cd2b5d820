import Tale.Proofs.Disk.Ways

/-! What writing and making directories leave as it was.

Both put nodes where there were none, and writing replaces the content of a file. So every node stays what it
is, except that a file may have another content, and whatever led to a place leads to it still.
-/

set_option autoImplicit false

namespace Tale.Disk

variable {disk before after : Disk} {path : Path}

/-! ## Growing -/

/-- Every node of one disk is on another as well, except that a file may have one of some new contents. No link
is new. -/
structure Grows (new : Place → List UInt8 → Prop) (before after : Disk) : Prop where
  here : after.here = before.here
  links : ∀ place target, after.node? place = some (.link target) →
    before.node? place = some (.link target)
  kept : ∀ place node, before.node? place = some node → after.node? place = some node ∨
    ∃ old content, node = .file old ∧ after.node? place = some (.file content) ∧ new place content

namespace Grows

variable {new : Place → List UInt8 → Prop}

theorem refl (new : Place → List UInt8 → Prop) (disk : Disk) : Grows new disk disk :=
  ⟨rfl, fun _ _ => id, fun _ _ found => .inl found⟩

theorem mono {newer : Place → List UInt8 → Prop} (grows : Grows new before after)
    (within : ∀ place content, new place content → newer place content) : Grows newer before after where
  here := grows.here
  links := grows.links
  kept place node found := (grows.kept place node found).imp_right
    fun ⟨old, content, isFile, there, made⟩ => ⟨old, content, isFile, there, within place content made⟩

theorem trans {middle : Disk} (first : Grows new before middle) (second : Grows new middle after) :
    Grows new before after where
  here := second.here.trans first.here
  links place target link := first.links place target (second.links place target link)
  kept := by
    intro place node found
    rcases first.kept place node found with same | ⟨old, content, isFile, there, made⟩
    · exact second.kept place node same
    · refine .inr ?_
      rcases second.kept place _ there with same | ⟨_, newer, _, thereToo, madeToo⟩
      · exact ⟨old, content, isFile, same, made⟩
      · exact ⟨old, newer, isFile, thereToo, madeToo⟩

theorem ways (grows : Grows new before after) (place : Place) (node : Node)
    (found : before.node? place = some node) (solid : ∀ content, node ≠ .file content) :
    after.node? place = some node := by
  rcases grows.kept place node found with same | ⟨old, _, isFile, _⟩
  · exact same
  · exact absurd isFile (solid old)

theorem keeps (grows : Grows new before after) {reached : Place} (stands : before.Stands reached) :
    before.Keeps after reached where
  here := grows.here
  ways := grows.ways
  goal := by
    refine stands.imp_right fun ⟨content, found⟩ => ?_
    rcases grows.kept reached _ found with same | ⟨_, newer, _, there, _⟩
    · exact ⟨content, same⟩
    · exact ⟨newer, there⟩

theorem resolve (grows : Grows new before after) (wellFormed : before.WellFormed) {reached : Place}
    (resolved : before.resolve path = .ok reached) : after.resolve path = .ok reached :=
  (grows.keeps (wellFormed.stands resolved)).resolve resolved

end Grows

section Put

variable {place : Place} {node : Node} (inside : place ≠ [])

include inside

theorem links_put (solid : ∀ target, node ≠ .link target) (other : Place) (target : Path)
    (link : (disk.put place node).node? other = some (.link target)) :
    disk.node? other = some (.link target) := by
  rw [node?_put _ _ _ _ inside] at link
  split at link
  · exact absurd (Option.some.inj link) (solid target)
  · exact link

theorem grows_put_vacant (new : Place → List UInt8 → Prop) (solid : ∀ target, node ≠ .link target)
    (absent : disk.node? place = none) : Grows new disk (disk.put place node) where
  here := rfl
  links := links_put inside solid
  kept := by
    intro other found there
    refine .inl ?_
    rw [node?_put _ _ _ _ inside, if_neg, there]
    rintro rfl
    rw [absent] at there
    cases there

theorem grows_put_file (content : List UInt8) (free : disk.node? place = none ∨
    ∃ old, disk.node? place = some (.file old)) :
    Grows (fun other bytes => other = place ∧ bytes = content) disk (disk.put place (.file content)) := by
  rcases free with absent | ⟨old, file⟩
  · exact grows_put_vacant inside _ nofun absent
  · refine ⟨rfl, links_put inside nofun, fun other found there => ?_⟩
    rw [node?_put _ _ _ _ inside]
    by_cases same : other = place
    · subst same
      cases file.symm.trans there
      exact .inr ⟨old, content, rfl, by simp, rfl, rfl⟩
    · exact .inl (by rw [if_neg same, there])

theorem WellFormed.put (wellFormed : disk.WellFormed) (proper : ProperPlace place)
    (above : disk.isDirectoryAt place.dropLast) (noDirectory : disk.isDirectoryAt place = false) :
    (disk.put place node).WellFormed := by
  have directories {other : Place} (directory : disk.isDirectoryAt other) :
      (disk.put place node).isDirectoryAt other := by
    unfold isDirectoryAt
    rw [node?_put _ _ _ _ inside, if_neg]
    · exact directory
    · rintro rfl
      rw [noDirectory] at directory
      cases directory
  constructor
  · intro front name there
    apply directories
    rw [node?_put _ _ _ _ inside] at there
    split at there
    · next same =>
      rw [← same, List.dropLast_concat] at above
      exact above
    · exact wellFormed.rooted front name there
  · intro other there
    rw [node?_put _ _ _ _ inside] at there
    split at there
    · next same => rwa [same]
    · exact wellFormed.names other there
  · exact directories wellFormed.home

end Put

theorem Vacant.put {directory : Place} {name : Name} (vacant : disk.Vacant directory name)
    (wellFormed : disk.WellFormed) (node : Node) : (disk.put (directory ++ [name]) node).WellFormed := by
  have isDirectory := vacant.isDirectory
  have proper := wellFormed.names directory (node?_of_isDirectoryAt isDirectory)
  apply wellFormed.put (by simp) (proper.snoc vacant.fileName)
  · rwa [List.dropLast_concat]
  · simp [isDirectoryAt, vacant.absent]

/-! ## Making directories -/

section Directories

variable (new : Place → List UInt8 → Prop) (wellFormed : disk.WellFormed)

include wellFormed

theorem makeDirectory_grows (made : disk.makeDirectory path = .ok after) :
    Grows new disk after ∧ after.WellFormed := by
  unfold makeDirectory at made
  obtain ⟨-, -, made⟩ := bind_eq_ok.mp made
  obtain ⟨arrival, arrived, made⟩ := bind_eq_ok.mp made
  cases arrival with
  | present place => cases made
  | absent directory name =>
    cases made
    have vacant := follow_vacant path.steps_proper arrived
    exact ⟨grows_put_vacant (by simp) new nofun vacant.absent, vacant.put wellFormed _⟩

theorem ensureDirectory_grows (made : disk.ensureDirectory path = .ok after) :
    Grows new disk after ∧ after.WellFormed := by
  unfold ensureDirectory at made
  split at made
  · next there =>
    cases made
    exact makeDirectory_grows new wellFormed there
  · split at made
    · cases made
      exact ⟨.refl new disk, wellFormed⟩
    · cases made

theorem ensureDirectoriesFrom_grows {above : List Path}
    (made : disk.ensureDirectoriesFrom path above = .ok after) :
    Grows new disk after ∧ after.WellFormed := by
  -- On what is above the path, whose directories are made first.
  induction above generalizing path after with
  | nil =>
    unfold ensureDirectoriesFrom at made
    split at made
    · cases made
      exact ⟨.refl new disk, wellFormed⟩
    · exact ensureDirectory_grows new wellFormed made
  | cons parent above ih =>
    unfold ensureDirectoriesFrom at made
    split at made
    · cases made
      exact ⟨.refl new disk, wellFormed⟩
    split at made
    · next parent above same _ =>
      cases same
      obtain ⟨middle, below, made⟩ := bind_eq_ok.mp made
      obtain ⟨first, wellFormedToo⟩ := ih below
      obtain ⟨second, wellFormedAfter⟩ := ensureDirectory_grows new wellFormedToo made
      exact ⟨first.trans second, wellFormedAfter⟩
    · exact ensureDirectory_grows new wellFormed made

theorem ensureDirectories_grows (made : disk.ensureDirectories path = .ok after) :
    Grows new disk after ∧ after.WellFormed :=
  ensureDirectoriesFrom_grows new wellFormed made

end Directories

/-! ## Writing -/

theorem exists_arrival_of_write (wellFormed : disk.WellFormed) {content : List UInt8}
    (written : disk.write path content = .ok after) :
    ∃ arrival, disk.arrive path = .ok arrival ∧ arrival.place ≠ [] ∧
      (disk.node? arrival.place = none ∨ ∃ old, disk.node? arrival.place = some (.file old)) ∧
      after = disk.put arrival.place (.file content) ∧ after.WellFormed := by
  rw [write_eq] at written
  obtain ⟨arrival, arrived, written⟩ := bind_eq_ok.mp written
  refine ⟨arrival, arrived, ?_⟩
  cases arrival with
  | absent directory name =>
    cases written
    have vacant := arrive_vacant arrived
    exact ⟨by simp [Arrival.place], .inl vacant.absent, rfl, vacant.put wellFormed _⟩
  | present place =>
    dsimp only at written
    split at written
    · cases written
    next noDirectory =>
    cases written
    -- A link would have been followed, so there is a file to be replaced.
    have resolved : disk.resolve path = .ok place := by
      unfold Disk.resolve
      rw [arrived]
      rfl
    obtain ⟨old, file⟩ := (wellFormed.stands resolved).resolve_left noDirectory
    have inside := inside_of_file file
    have above : disk.isDirectoryAt place.dropLast := wellFormed.rooted.above (by simp [file])
    exact ⟨inside, .inr ⟨old, file⟩, rfl, wellFormed.put inside
      (resolve_proper wellFormed.proper resolved) above (by simpa using noDirectory)⟩

/-- What was written is at the place to which the path leads, and nothing else is another than before. -/
theorem write_grows (wellFormed : disk.WellFormed) {content : List UInt8}
    (written : disk.write path content = .ok after) :
    ∃ place, after.resolve path = .ok place ∧ after = disk.put place (.file content) ∧
      after.node? place = some (.file content) ∧
      Grows (fun other bytes => other = place ∧ bytes = content) disk after ∧ after.WellFormed := by
  obtain ⟨arrival, arrived, inside, free, rfl, wellFormedToo⟩ := exists_arrival_of_write wellFormed written
  have there : (disk.put arrival.place (.file content)).node? arrival.place = some (.file content) := by
    rw [node?_put _ _ _ _ inside, if_pos rfl]
  have grows := grows_put_file inside content free
  -- Where the path led nowhere before, it leads now to the place at which the file appeared.
  have keeps : disk.Keeps (disk.put arrival.place (.file content)) arrival.place :=
    ⟨grows.here, grows.ways, .inr ⟨content, there⟩⟩
  exact ⟨arrival.place, resolve_keeps keeps arrived, rfl, there, grows, wellFormedToo⟩

end Tale.Disk
