import Tale.Proofs.Disk.Leading

/-! The identity of a document is its own identity.

`Canonicalizes` says what is asked of a way to resolve paths: that a place which was reached is reached by
its own path, and that a name behind a path leads where it leads behind the place of that path. Then a path
and the place by which it settles are resolved alike, and a settled place settles as it is. Following any
number of links is such a way.
-/

set_option autoImplicit false

namespace Tale

/-- What is asked of a way to resolve paths. -/
structure Canonicalizes (resolve? : Path → Option Place) : Prop where
  proper : ∀ path reached, resolve? path = some reached → ProperPlace reached
  root : ∀ reached, resolve? (.ofPlace []) = some reached → reached = []
  settled : ∀ path reached, resolve? path = some reached → resolve? (.ofPlace reached) = some reached
  onward : ∀ place name, ProperPlace place → IsFileName name →
    resolve? (.ofPlace (place ++ [name])) =
      (resolve? (.ofPlace place)).bind fun reached => resolve? (.ofPlace (reached ++ [name]))

def identifyBy (resolve? : Path → Option Place) (here : Place) (path : Path) : Path :=
  .ofPlace (identityBy resolve? here path)

theorem Disk.identify_eq_identifyBy (disk : Disk) :
    disk.identify = identifyBy disk.resolve? disk.here := rfl

/-- An absolute path in which no `.` and no `..` is written. -/
structure Path.IsClean (path : Path) : Prop where
  absolute : path.isAbsolute
  pieces : ∀ piece ∈ path.pieces, piece ≠ [dot] ∧ piece ≠ [dot, dot]
  components : .current ∉ path.components ∧ .parent ∉ path.components

theorem Path.isClean_ofPlace {place : Place} (proper : ProperPlace place) :
    (Path.ofPlace place).IsClean where
  absolute := isAbsolute_ofPlace place
  pieces := by
    intro piece member
    rw [pieces_ofPlace proper, List.mem_cons] at member
    rcases member with rfl | member
    · simp
    split at member
    · rw [List.mem_singleton.mp member]
      simp
    · exact ⟨(proper piece member).notCurrent, (proper piece member).notParent⟩
  components := by
    rw [components_ofPlace proper]
    simp

theorem Path.cleanPlace_join {place : Place} (here : Place) (proper : ProperPlace place) :
    cleanPlace ((Path.ofPlace here).join (.ofPlace place)).components = place := by
  rw [join, if_pos (isAbsolute_ofPlace place), cleanPlace_eq, foldl_components, ite_self,
    steps_ofPlace proper, trail_proper proper, List.nil_append]

theorem ProperPlace.tail {name : Name} {names : List Name} (proper : ProperPlace (name :: names)) :
    ProperPlace names :=
  fun other member => proper other (List.mem_cons_of_mem _ member)

theorem ProperPlace.reverse {names : List Name} (proper : ProperPlace names) :
    ProperPlace names.reverse :=
  fun name member => proper name (List.mem_reverse.mp member)

theorem cleanPlace_components_proper (path : Path) : ProperPlace (cleanPlace path.components) :=
  cleanPlace_proper _ fun _ => Path.components_isFileName

theorem settlePlace_resolved {resolve? : Path → Option Place} {place : Place}
    (resolved : resolve? (.ofPlace place) = some place) :
    settlePlace resolve? place.reverse = place := by
  cases place using List.reverseRecOn with
  | nil => rfl
  | append_singleton above name =>
    rw [List.reverse_concat, settlePlace, List.reverse_reverse, resolved]

namespace Canonicalizes

variable {resolve? : Path → Option Place} (canonicalizes : Canonicalizes resolve?)

include canonicalizes

theorem settlePlace_proper {names : List Name} (proper : ProperPlace names) :
    ProperPlace (settlePlace resolve? names) :=
  Disk.settlePlace_proper canonicalizes.proper proper

/-- A path and the place by which it settles are resolved alike. -/
theorem resolve_settlePlace {names : List Name} (proper : ProperPlace names) :
    resolve? (.ofPlace (settlePlace resolve? names)) = resolve? (.ofPlace names.reverse) := by
  induction names with
  | nil => rfl
  | cons name above ih =>
    have fileName := proper name List.mem_cons_self
    rw [List.reverse_cons, settlePlace]
    split
    · next reached resolved => rw [resolved, canonicalizes.settled _ _ resolved]
    · rw [canonicalizes.onward _ name (canonicalizes.settlePlace_proper proper.tail) fileName,
        ih proper.tail, ← canonicalizes.onward _ name proper.tail.reverse fileName]

/-- What is in front of the names that lead nowhere settles as it is, and these lead nowhere behind it. -/
theorem settlePlace_settlePlace {names : List Name} (proper : ProperPlace names) :
    settlePlace resolve? (settlePlace resolve? names).reverse = settlePlace resolve? names := by
  induction names with
  | nil => rfl
  | cons name above ih =>
    have alike := canonicalizes.resolve_settlePlace proper
    cases resolved : resolve? (.ofPlace (above.reverse ++ [name])) with
    | some reached =>
      have here : settlePlace resolve? (name :: above) = reached := by rw [settlePlace, resolved]
      rw [here]
      exact settlePlace_resolved (canonicalizes.settled _ _ resolved)
    | none =>
      have here : settlePlace resolve? (name :: above) = settlePlace resolve? above ++ [name] := by
        rw [settlePlace, resolved]
      -- The name leads nowhere behind the settled place either, so settling peels it off again.
      rw [here, List.reverse_cons, resolved] at alike
      rw [here, List.reverse_concat, settlePlace, List.reverse_reverse, alike, ih proper.tail]

theorem identityBy_proper (here : Place) (path : Path) :
    ProperPlace (identityBy resolve? here path) := by
  unfold identityBy
  split
  · next reached resolved => exact canonicalizes.proper path reached resolved
  · exact canonicalizes.settlePlace_proper (cleanPlace_components_proper _).reverse

theorem identityBy_settlePlace (here : Place) {names : List Name} (proper : ProperPlace names) :
    identityBy resolve? here (.ofPlace (settlePlace resolve? names)) = settlePlace resolve? names := by
  have properPlace := canonicalizes.settlePlace_proper proper
  unfold identityBy
  split
  · next reached resolved =>
    cases names with
    | nil => exact canonicalizes.root reached resolved
    | cons name above =>
      -- The names themselves lead where their settled place does, so that is where they settled.
      rw [canonicalizes.resolve_settlePlace proper, List.reverse_cons] at resolved
      rw [settlePlace, resolved]
  · rw [Path.cleanPlace_join here properPlace]
    exact canonicalizes.settlePlace_settlePlace proper

theorem identityBy_identityBy (here : Place) (path : Path) :
    identityBy resolve? here (.ofPlace (identityBy resolve? here path)) =
      identityBy resolve? here path := by
  cases resolved : resolve? path with
  | some reached =>
    have found : identityBy resolve? here path = reached := by rw [identityBy, resolved]
    rw [found, identityBy, canonicalizes.settled path reached resolved]
  | none =>
    rw [identityBy.eq_def resolve? here path, resolved]
    exact canonicalizes.identityBy_settlePlace here (cleanPlace_components_proper _).reverse

end Canonicalizes

/-! ## Following any number of links -/

namespace Disk

section Choice

open Classical

/-- Where a path leads through any number of links; the empty path leads nowhere. -/
noncomputable def canonical? (disk : Disk) (path : Path) : Option Place :=
  if found : path.spelling ≠ [] ∧ ∃ place, disk.Leads (disk.origin path) path.stepsToNode place then
    some found.2.choose
  else none

end Choice

theorem canonical?_eq_some {disk : Disk} {path : Path} {place : Place} :
    disk.canonical? path = some place ↔
      path.spelling ≠ [] ∧ disk.Leads (disk.origin path) path.stepsToNode place := by
  unfold canonical?
  split
  · next found =>
    constructor
    · intro chosen
      rw [← Option.some.inj chosen]
      exact ⟨found.1, found.2.choose_spec⟩
    · rintro ⟨spelled, leads⟩
      rw [found.2.choose_spec.unique leads]
  · next nowhere =>
    constructor
    · intro found
      cases found
    · rintro ⟨spelled, leads⟩
      exact absurd ⟨spelled, place, leads⟩ nowhere

/-- A path that is not given up is resolved to what it leads to, if it leads anywhere. -/
theorem canonical?_eq_resolve? {disk : Disk} {path : Path} (spelled : checkSpelling path = .ok ())
    (settled : disk.resolve path ≠ .error .tooManyLinks) : disk.canonical? path = disk.resolve? path := by
  have filled : path.spelling ≠ [] := by
    intro empty
    simp [checkSpelling, empty] at spelled
  have unbounded : disk.follow true mostLinks (disk.origin path) path.stepsToNode ≠
      .error .tooManyLinks := by
    intro refused
    rw [resolve_eq, arrive_eq, spelled] at settled
    simp [Except.bind, refused] at settled
  apply Option.ext
  intro place
  rw [canonical?_eq_some, resolve?_eq_some, resolve_eq_ok, and_iff_right filled, and_iff_right spelled]
  constructor
  · intro leads
    exact follow_of_leads leads unbounded
  · exact leads_of_follow path.stepsToNode_proper

theorem canonical?_ofPlace {disk : Disk} {place reached : Place} (proper : ProperPlace place) :
    disk.canonical? (.ofPlace place) = some reached ↔ disk.Leads [] place reached := by
  have spelled : (Path.ofPlace place).spelling ≠ [] := by simp [Path.ofPlace]
  have origin : disk.origin (.ofPlace place) = [] := by
    simp [Disk.origin, Path.isAbsolute_ofPlace]
  rw [canonical?_eq_some, origin]
  by_cases inside : place = []
  · have steps : (Path.ofPlace []).stepsToNode = [[dot]] := by decide +kernel
    rw [inside, steps, Leads.current_iff]
    simp [Path.ofPlace, isDirectoryAt_root]
  · rw [Path.stepsToNode_ofPlace proper inside]
    exact and_iff_right spelled

theorem canonical?_isOpen {disk : Disk} (home : disk.Open disk.here) {path : Path} {place : Place}
    (found : disk.canonical? path = some place) : disk.Open place := by
  apply (canonical?_eq_some.mp found).2.isOpen
  unfold origin
  split
  · exact open_root disk
  · exact home

theorem canonicalizes {disk : Disk} (home : disk.Open disk.here) :
    Canonicalizes disk.canonical? where
  proper := fun path reached found => (canonical?_isOpen home found).proper
  root := by
    intro reached found
    cases (canonical?_ofPlace properPlace_nil).mp found
    rfl
  settled := by
    intro path reached found
    have free := canonical?_isOpen home found
    exact (canonical?_ofPlace free.proper).mpr (Leads.of_open free)
  onward := by
    intro place name proper fileName
    have single : ProperPlace [name] := fun other member => List.mem_singleton.mp member ▸ fileName
    apply Option.ext
    intro last
    rw [canonical?_ofPlace (proper.append single), Option.bind_eq_some_iff]
    constructor
    · intro leads
      obtain ⟨middle, before, behind⟩ := leads.exists_middle
      have free := before.isOpen (open_root disk)
      refine ⟨middle, (canonical?_ofPlace proper).mpr before, ?_⟩
      exact (canonical?_ofPlace (free.proper.append single)).mpr ((Leads.of_open free).append behind)
    · rintro ⟨middle, found, onward⟩
      have before := (canonical?_ofPlace proper).mp found
      have free := before.isOpen (open_root disk)
      obtain ⟨other, again, behind⟩ :=
        ((canonical?_ofPlace (free.proper.append single)).mp onward).exists_middle
      rw [again.unique (Leads.of_open free)] at behind
      exact before.append behind

end Disk

/-- Whatever a path is and whatever is on the disk, its identity is clean and is its own identity. -/
theorem identifyBy_idempotent {resolve? : Path → Option Place} (canonicalizes : Canonicalizes resolve?)
    (here : Place) (path : Path) :
    identifyBy resolve? here (identifyBy resolve? here path) = identifyBy resolve? here path ∧
      (identifyBy resolve? here path).IsClean := by
  constructor
  · exact congrArg Path.ofPlace (canonicalizes.identityBy_identityBy here path)
  · exact Path.isClean_ofPlace (canonicalizes.identityBy_proper here path)

def quay : Disk where
  nodes := .ofList [(["home"], .directory), (["home", "boat"], .link "/srv/dock"),
    (["home", "gone"], .link "nowhere"), (["srv"], .directory), (["srv", "dock"], .directory)]
  here := ["home"]

theorem quay_open : quay.Open quay.here := by
  rw [show quay.here = [] ++ [("home" : Name)] from rfl]
  have fileName : IsFileName "home" := ⟨by decide, by decide, by decide, by decide⟩
  have found : quay.node? ([] ++ [("home" : Name)]) = some .directory := by decide +kernel
  exact (Disk.open_root quay).snoc (Disk.isDirectoryAt_root quay) fileName (by decide) found nofun

theorem identifyBy_quay : identifyBy quay.canonical? quay.here "gone/../boat//later/./today.tale" =
    "/srv/dock/later/today.tale" := by
  have clean : (cleanPlace ((Path.ofPlace quay.here).join
      "gone/../boat//later/./today.tale").components).reverse =
        (["today.tale", "later", "boat", "home"] : Place) := by decide +kernel
  have whole : quay.canonical? "gone/../boat//later/./today.tale" = none := by
    rw [Disk.canonical?_eq_resolve? (by decide +kernel) (by decide +kernel)]
    decide +kernel
  have day : quay.canonical? (.ofPlace ["home", "boat", "later", "today.tale"]) = none := by
    rw [Disk.canonical?_eq_resolve? (by decide +kernel) (by decide +kernel)]
    decide +kernel
  have later : quay.canonical? (.ofPlace ["home", "boat", "later"]) = none := by
    rw [Disk.canonical?_eq_resolve? (by decide +kernel) (by decide +kernel)]
    decide +kernel
  have boat : quay.canonical? (.ofPlace ["home", "boat"]) = some (["srv", "dock"] : Place) := by
    rw [Disk.canonical?_eq_resolve? (by decide +kernel) (by decide +kernel)]
    decide +kernel
  rw [identifyBy, identityBy, whole, clean]
  simp only [settlePlace, List.reverse_cons, List.reverse_nil, List.nil_append, List.cons_append, day,
    later, boat]
  decide +kernel

theorem identifyBy_idempotent_quay : Canonicalizes quay.canonical? ∧
    identifyBy quay.canonical? quay.here "gone/../boat//later/./today.tale" =
      "/srv/dock/later/today.tale" ∧
    identifyBy quay.canonical? quay.here
        (identifyBy quay.canonical? quay.here "gone/../boat//later/./today.tale") =
      identifyBy quay.canonical? quay.here "gone/../boat//later/./today.tale" ∧
    (identifyBy quay.canonical? quay.here "gone/../boat//later/./today.tale").IsClean := by
  have canonicalizes := Disk.canonicalizes quay_open
  exact ⟨canonicalizes, identifyBy_quay, identifyBy_idempotent canonicalizes quay.here _⟩

end Tale
