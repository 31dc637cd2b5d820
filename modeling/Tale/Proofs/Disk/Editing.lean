import Tale.Disk.Change
import Tale.Proofs.Dictionary
import Tale.Proofs.Disk.LinkFree
import Tale.Proofs.Project.Sources

/-! Disks before and after some files were written or removed.

As long as directories stay and there are no links, what can be read at a place depends on the node
there alone. All that a change further up can do to a document that cannot be read is to give another
reason: a file that stands where a directory is looked for, instead of nothing at all.
-/

set_option autoImplicit false

namespace Tale

open Project

def Project.LoadError.ofDisk (path : Path) : DiskError → LoadError
  | .missing => .notFound path
  | error => .unreadable path error

namespace Disk

/-- One disk comes of another by writing and removing files without links, in directories that stay;
the paths of these files are listed. -/
structure Edited (before after : Disk) (changed : List Path) : Prop where
  here : before.here = after.here
  linkFree : before.LinkFree
  linkFreeAfter : after.LinkFree
  directories : ∀ place, before.isDirectoryAt place = after.isDirectoryAt place
  listed : ∀ place, before.node? place ≠ after.node? place →
    ∃ path ∈ changed, after.identify path = .ofPlace place

theorem Edited.refl {disk : Disk} (linkFree : disk.LinkFree) : disk.Edited disk [] :=
  ⟨rfl, linkFree, linkFree, fun _ => rfl, fun _ apart => absurd rfl apart⟩

theorem compare_place {first second : Place} : compare first second = .eq ↔ first = second :=
  Std.LawfulEqCmp.compare_eq_iff_eq

theorem node?_put (disk : Disk) (place other : Place) (node : Node) (inside : place ≠ []) :
    (disk.put place node).node? other = if other = place then some node else disk.node? other := by
  unfold put node?
  simp only [Dictionary.find?_insert, compare_place, List.isEmpty_iff]
  by_cases same : other = place
  · subst same
    simp [inside]
  · simp [same]

theorem node?_erase (disk : Disk) (place other : Place) (inside : place ≠ []) :
    Disk.node? { disk with nodes := disk.nodes.erase place } other =
      if other = place then none else disk.node? other := by
  unfold node?
  simp only [Dictionary.find?_erase, compare_place, List.isEmpty_iff]
  by_cases same : other = place
  · subst same
    simp [inside]
  · simp [same]

theorem Edited.step {before after next : Disk} {changed : List Path} {path : Path} {place : Place}
    {node : Option Node} (edited : before.Edited after changed) (proper : after.Proper)
    (here : next.here = after.here) (named : after.named path = place)
    (nodes : ∀ other, next.node? other = if other = place then node else after.node? other)
    (noDirectory : after.isDirectoryAt place = false) (noDirectoryAfter : node ≠ some .directory)
    (noLink : ∀ target, node ≠ some (.link target)) : before.Edited next (path :: changed) := by
  have linkFree : next.LinkFree := by
    intro other target
    rw [nodes]
    split
    · exact noLink target
    · exact edited.linkFreeAfter other target
  have properNext : next.Proper := by
    unfold Proper
    rwa [here]
  have identify (path : Path) : next.identify path = after.identify path := by
    rw [identify_eq linkFree properNext, identify_eq edited.linkFreeAfter proper, Disk.named,
      Disk.named, here]
  refine ⟨edited.here.trans here.symm, edited.linkFree, linkFree, fun other => ?_, fun other apart => ?_⟩
  · rw [edited.directories other]
    unfold isDirectoryAt at noDirectory ⊢
    rw [nodes]
    split
    · next same => simp [same, noDirectory, noDirectoryAfter]
    · rfl
  · by_cases same : other = place
    · refine ⟨path, List.mem_cons_self, ?_⟩
      rw [identify, identify_eq edited.linkFreeAfter proper, named, same]
    · rw [nodes, if_neg same] at apart
      obtain ⟨earlier, member, identity⟩ := edited.listed other apart
      exact ⟨earlier, List.mem_cons_of_mem _ member, (identify earlier).trans identity⟩

theorem arrive_named {disk : Disk} (linkFree : disk.LinkFree) {path : Path} {arrival : Arrival}
    (arrived : disk.arrive path = .ok arrival) : arrival.place = disk.named path := by
  rw [named_eq, ← path.trail_stepsToNode]
  exact follow_named linkFree (arrive_eq_ok.mp arrived).2

theorem isDirectoryAt_root (disk : Disk) : disk.isDirectoryAt [] = true := by
  simp [isDirectoryAt, node?]

/-- A directory has no node of a name, which could be that of a file. -/
structure Vacant (disk : Disk) (directory : Place) (name : Name) : Prop where
  isDirectory : disk.isDirectoryAt directory
  fileName : IsFileName name
  absent : disk.node? (directory ++ [name]) = none

section Arriving

variable {disk : Disk} {throughLast : Bool} {path : Path} {place directory : Place}
  {steps : List Name} {name : Name}

theorem walk_vacant {through : Place → List Name → Except DiskError Arrival}
    (onward : ∀ place steps, ProperSteps steps → through place steps = .ok (.absent directory name) →
      disk.Vacant directory name)
    (names : ProperSteps steps)
    (arrived : disk.walk throughLast through place steps = .ok (.absent directory name)) :
    disk.Vacant directory name := by
  fun_induction walk disk throughLast through place steps with
  | case3 place rest _ ih => exact ih names.tail arrived
  | case4 place rest _ _ ih => exact ih names.tail arrived
  | case6 place last rest isDirectory notCurrent notParent _ missing =>
    cases arrived
    exact ⟨by simpa using isDirectory, names _ List.mem_cons_self notCurrent notParent, missing⟩
  | case9 place name rest _ _ _ _ target =>
    refine onward _ _ (fun step member => ?_) arrived
    rcases List.mem_append.mp member with inTarget | later
    · exact target.stepsToNode_proper step inTarget
    · exact names.tail step later
  | case10 place name rest _ _ _ _ _ _ _ ih => exact ih names.tail arrived
  | case1 | case2 | case5 | case7 | case8 => cases arrived

theorem follow_vacant {links : Nat} (names : ProperSteps steps)
    (arrived : disk.follow throughLast links place steps = .ok (.absent directory name)) :
    disk.Vacant directory name := by
  induction links generalizing place steps with
  | zero => exact walk_vacant (fun _ _ _ refused => by cases refused) names arrived
  | succ links ih => exact walk_vacant (fun _ _ => ih) names arrived

theorem arrive_vacant (arrived : disk.arrive path = .ok (.absent directory name)) :
    disk.Vacant directory name := by
  exact follow_vacant path.stepsToNode_proper (arrive_eq_ok.mp arrived).2

end Arriving

theorem write_eq (disk : Disk) (path : Path) (content : List UInt8) :
    disk.write path content = (disk.arrive path).bind fun arrival => match arrival with
      | .present place =>
        if disk.isDirectoryAt place then .error .isDirectory
        else .ok (disk.put place (.file content))
      | .absent directory name => .ok (disk.put (directory ++ [name]) (.file content)) := by
  unfold write
  cases disk.arrive path with
  | error error => rfl
  | ok arrival =>
    cases arrival with
    | present place =>
      simp only [bind, Except.bind]
      split <;> rfl
    | absent directory name => rfl

theorem Edited.write {before after next : Disk} {changed : List Path} {path : Path}
    {content : List UInt8} (edited : before.Edited after changed) (proper : after.Proper)
    (written : after.write path content = .ok next) : before.Edited next (path :: changed) := by
  have put {place : Place} (named : after.named path = place)
      (noDirectory : after.isDirectoryAt place = false) :
      before.Edited (after.put place (.file content)) (path :: changed) := by
    have inside : place ≠ [] := by
      rintro rfl
      cases (isDirectoryAt_root after).symm.trans noDirectory
    exact edited.step proper rfl named (fun other => node?_put after place other _ inside)
      noDirectory (by simp) (by simp)
  rw [write_eq] at written
  obtain ⟨arrival, arrived, written⟩ := bind_eq_ok.mp written
  have named := (arrive_named edited.linkFreeAfter arrived).symm
  cases arrival with
  | present place =>
    dsimp only at written
    split at written
    · cases written
    · next noDirectory =>
      cases written
      exact put named (Bool.eq_false_iff.mpr noDirectory)
  | absent directory name =>
    cases written
    refine put named ?_
    simp [isDirectoryAt, (arrive_vacant arrived).absent]

theorem locate_named {disk : Disk} (linkFree : disk.LinkFree) {path : Path} {place : Place}
    (located : disk.locate path = .ok place) : disk.named path = place := by
  unfold locate at located
  obtain ⟨-, -, located⟩ := bind_eq_ok.mp located
  obtain ⟨arrival, arrived, located⟩ := bind_eq_ok.mp located
  cases arrival with
  | present place =>
    cases located
    rw [named_eq]
    exact (follow_named linkFree arrived).symm
  | absent directory name => cases located

theorem Edited.remove {before after next : Disk} {changed : List Path} {path : Path}
    (edited : before.Edited after changed) (proper : after.Proper)
    (removed : after.remove path = .ok next) : before.Edited next (path :: changed) := by
  unfold Disk.remove at removed
  obtain ⟨place, located, removed⟩ := bind_eq_ok.mp removed
  split at removed
  · cases removed
  · next noDirectory =>
    cases removed
    have inside : place ≠ [] := by
      rintro rfl
      exact noDirectory (isDirectoryAt_root after)
    exact edited.step proper rfl (locate_named edited.linkFreeAfter located)
      (fun other => node?_erase after place other inside) (Bool.eq_false_iff.mpr noDirectory)
      (by simp) (by simp)

/-- Something changed above a place, and with it why nothing can be read there: before or after a
file stands where a directory is looked for, and otherwise there is nothing. -/
structure Reblocked (before after : Disk) (place : Place) (first second : DiskError) : Prop where
  above : ∃ other, other <+: place ∧ other ≠ place ∧ before.node? other ≠ after.node? other
  errors : (first = .missing ∧ second = .notDirectory) ∨ (first = .notDirectory ∧ second = .missing)

inductive Shift (before after : Disk) (place : Place) :
    Except DiskError Arrival → Except DiskError Arrival → Prop where
  | same {outcome : Except DiskError Arrival}
      (there : ∀ reached, outcome = .ok (.present reached) → reached = place) :
      Shift before after place outcome outcome
  | changed {first second : Except DiskError Arrival}
      (apart : before.node? place ≠ after.node? place) : Shift before after place first second
  | reblocked {first second : DiskError} (reblocked : Reblocked before after place first second) :
      Shift before after place (.error first) (.error second)

theorem walk_behind_file {disk : Disk} {throughLast : Bool}
    {through : Place → List Name → Except DiskError Arrival} {place : Place} {name : Name}
    {rest : List Name} (noDirectory : disk.isDirectoryAt place = false) :
    disk.walk throughLast through place (name :: rest) = .error .notDirectory := by
  simp [walk, noDirectory]

theorem walk_name {disk : Disk} {throughLast : Bool}
    {through : Place → List Name → Except DiskError Arrival} {place : Place} {name : Name}
    {rest : List Name} (fileName : IsFileName name) (directory : disk.isDirectoryAt place = true) :
    disk.walk throughLast through place (name :: rest) =
      if longestName < name.length then .error .nameTooLong
      else match disk.node? (place ++ [name]) with
        | none => if rest.isEmpty then .ok (.absent place name) else .error .missing
        | some (.link target) =>
          if rest.isEmpty && !throughLast then .ok (.present (place ++ [name]))
          else through (if target.isAbsolute then [] else place) (target.stepsToNode ++ rest)
        | some _ => disk.walk throughLast through (place ++ [name]) rest := by
  have notCurrent := fileName.notCurrent
  have notParent := fileName.notParent
  cases found : disk.node? (place ++ [name]) with
  | none => simp [walk, directory, notCurrent, notParent, found]
  | some node =>
    cases node with
    | file | directory | link => simp [walk, directory, notCurrent, notParent, found]

theorem walk_shift {before after : Disk} {changed : List Path} {throughLast : Bool}
    {through throughAfter : Place → List Name → Except DiskError Arrival}
    (edited : before.Edited after changed) {names : Place} (proper : ProperPlace names)
    (place : Place) :
    Shift before after (place ++ names) (before.walk throughLast through place names)
      (after.walk throughLast throughAfter place names) := by
  induction names generalizing place with
  | nil =>
    rw [List.append_nil]
    refine .same fun reached arrived => ?_
    cases arrived
    rfl
  | cons name rest ih =>
    have fileName := proper name List.mem_cons_self
    have onward := ih (fun other member => proper other (List.mem_cons_of_mem _ member))
      (place ++ [name])
    rw [List.append_assoc, List.singleton_append] at onward
    -- Directories stay, so both walks go on from here or neither does.
    have stays := edited.directories place
    by_cases directory : before.isDirectoryAt place = true
    case neg =>
      have noDirectory : before.isDirectoryAt place = false := Bool.eq_false_iff.mpr directory
      rw [walk_behind_file noDirectory, walk_behind_file (stays.symm.trans noDirectory)]
      exact .same fun reached arrived => by cases arrived
    rw [walk_name fileName directory, walk_name fileName (stays.symm.trans directory)]
    by_cases long : longestName < name.length
    case pos =>
      rw [if_pos long, if_pos long]
      exact .same fun reached arrived => by cases arrived
    rw [if_neg long, if_neg long]
    have kinds := edited.directories (place ++ [name])
    unfold isDirectoryAt at kinds
    have apart (differ : before.node? (place ++ [name]) ≠ after.node? (place ++ [name]))
        (more : rest ≠ []) : ∃ other, other <+: place ++ name :: rest ∧ other ≠ place ++ name :: rest ∧
          before.node? other ≠ after.node? other :=
      ⟨place ++ [name], ⟨rest, by simp⟩, by simpa using more.symm, differ⟩
    cases old : before.node? (place ++ [name]) with
    | none =>
      cases new : after.node? (place ++ [name]) with
      | none =>
        refine .same fun reached arrived => ?_
        dsimp only at arrived
        split at arrived <;> cases arrived
      | some node =>
        cases node with
        | link target => exact absurd new (edited.linkFreeAfter _ target)
        | directory => simp [old, new] at kinds
        | file bytes =>
          cases rest with
          | nil => exact .changed (by simp [old, new])
          | cons next more =>
            dsimp only
            -- A file appeared in the way: there was nothing behind it, and now it is no directory.
            rw [if_neg (by simp), walk_behind_file (by simp [isDirectoryAt, new])]
            exact .reblocked ⟨apart (by simp [old, new]) (by simp), .inl ⟨rfl, rfl⟩⟩
    | some node =>
      cases node with
      | link target => exact absurd old (edited.linkFree _ target)
      | directory =>
        have kept : after.node? (place ++ [name]) = some .directory := by simpa [old] using kinds
        rw [kept]
        exact onward
      | file bytes =>
        cases new : after.node? (place ++ [name]) with
        | some node =>
          cases node with
          | link target => exact absurd new (edited.linkFreeAfter _ target)
          | directory | file => exact onward
        | none =>
          cases rest with
          | nil => exact .changed (by simp [old, new])
          | cons next more =>
            dsimp only
            -- A file that was in the way vanished.
            rw [if_neg (by simp), walk_behind_file (by simp [isDirectoryAt, old])]
            exact .reblocked ⟨apart (by simp [old, new]) (by simp), .inr ⟨rfl, rfl⟩⟩

theorem arrive_root (disk : Disk) : disk.arrive (.ofPlace []) = .ok (.present []) := by
  have steps : (Path.ofPlace []).stepsToNode = [[dot]] := by decide +kernel
  have spelled : checkSpelling (.ofPlace []) = .ok () := by rfl
  rw [arrive_eq, spelled, steps]
  simp [Except.bind, follow, mostLinks, walk, origin, Path.isAbsolute_ofPlace, isDirectoryAt_root]

theorem follow_eq_walk (disk : Disk) (throughLast : Bool) (links : Nat) :
    ∃ through, disk.follow throughLast links = disk.walk throughLast through := by
  cases links with
  | zero => exact ⟨_, rfl⟩
  | succ links => exact ⟨_, rfl⟩

theorem arrive_ofPlace (disk : Disk) {place : Place} (proper : ProperPlace place)
    (inside : place ≠ []) : ∃ through, disk.arrive (.ofPlace place) =
      (checkSpelling (.ofPlace place)).bind fun _ => disk.walk true through [] place := by
  obtain ⟨through, followed⟩ := disk.follow_eq_walk true mostLinks
  have origin : disk.origin (.ofPlace place) = [] := by
    simp [Disk.origin, Path.isAbsolute_ofPlace]
  refine ⟨through, ?_⟩
  rw [arrive_eq, origin, Path.stepsToNode_ofPlace proper inside, followed]

theorem arrive_edited {before after : Disk} {changed : List Path}
    (edited : before.Edited after changed) {place : Place} (proper : ProperPlace place) :
    Shift before after place (before.arrive (.ofPlace place)) (after.arrive (.ofPlace place)) := by
  by_cases inside : place = []
  · rw [inside, arrive_root, arrive_root]
    refine .same fun reached arrived => ?_
    cases arrived
    rfl
  · obtain ⟨through, here⟩ := before.arrive_ofPlace proper inside
    obtain ⟨throughAfter, now⟩ := after.arrive_ofPlace proper inside
    rw [here, now]
    cases checkSpelling (.ofPlace place) with
    | error error => exact .same fun reached arrived => by cases arrived
    | ok _ => exact walk_shift edited proper []

theorem resolve_eq (disk : Disk) (path : Path) :
    disk.resolve path = (disk.arrive path).bind fun arrival => match arrival with
      | .present place => .ok place
      | .absent _ _ => .error .missing := by
  unfold resolve
  cases disk.arrive path with
  | error error => rfl
  | ok arrival => cases arrival <;> rfl

/-- A path to a node that was not changed leads there before and after, or neither before nor after. -/
theorem resolve_edited {before after : Disk} {changed : List Path}
    (edited : before.Edited after changed) {place : Place} (proper : ProperPlace place)
    (kept : before.node? place = after.node? place) :
    (before.resolve (.ofPlace place) = after.resolve (.ofPlace place) ∧
      ∀ reached, before.resolve (.ofPlace place) = .ok reached → reached = place) ∨
    ∃ first second, Reblocked before after place first second ∧
      before.resolve (.ofPlace place) = .error first ∧
      after.resolve (.ofPlace place) = .error second := by
  rw [resolve_eq, resolve_eq]
  generalize outcome : before.arrive (.ofPlace place) = first
  generalize outcomeAfter : after.arrive (.ofPlace place) = second
  have shift := arrive_edited edited proper
  rw [outcome, outcomeAfter] at shift
  cases shift with
  | changed apart => exact absurd kept apart
  | reblocked reblocked => exact .inr ⟨_, _, reblocked, rfl, rfl⟩
  | same there =>
    refine .inl ⟨rfl, fun reached resolved => ?_⟩
    cases first with
    | error error => cases resolved
    | ok arrival =>
      cases arrival with
      | absent directory name => cases resolved
      | present last =>
        cases resolved
        exact there _ rfl

theorem isFile_edited {before after : Disk} {changed : List Path}
    (edited : before.Edited after changed) {place : Place} (proper : ProperPlace place)
    (kept : before.node? place = after.node? place) :
    before.isFile (.ofPlace place) = after.isFile (.ofPlace place) := by
  unfold isFile find?
  rcases resolve_edited edited proper kept with ⟨same, there⟩ | ⟨first, second, -, here, now⟩
  · rw [← same]
    cases resolved : before.resolve (.ofPlace place) with
    | error error => rfl
    | ok reached =>
      rw [there reached resolved]
      simp [Except.toOption, kept]
  · rw [here, now]
    rfl

theorem loadDocument_of_error {disk : Disk} {filters : Filters} {path : Path} {error : DiskError}
    (nowhere : disk.resolve path = .error error) :
    disk.loadDocument filters path = .error (.ofDisk path error) := by
  unfold loadDocument
  rw [readText_eq, nowhere]
  cases error <;> rfl

/-- A document that was not changed has the same text as before, or none for the same reason, unless
something changed above it. -/
theorem loadDocument_edited {before after : Disk} {changed : List Path} (filters : Filters)
    (edited : before.Edited after changed) {place : Place} (proper : ProperPlace place)
    (kept : before.node? place = after.node? place) :
    before.loadDocument filters (.ofPlace place) = after.loadDocument filters (.ofPlace place) ∨
    ∃ first second, Reblocked before after place first second ∧
      before.resolve (.ofPlace place) = .error first ∧
      after.resolve (.ofPlace place) = .error second := by
  refine (resolve_edited edited proper kept).imp_left fun ⟨same, there⟩ => ?_
  unfold loadDocument
  rw [readText_eq, readText_eq, ← same]
  cases resolved : before.resolve (.ofPlace place) with
  | error error => rfl
  | ok reached =>
    rw [there reached resolved]
    simp only [Except.bind, kept]

end Disk

end Tale
