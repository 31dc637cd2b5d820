import Tale.Proofs.Disk.Leading

/-! Paths that lead where they led before a disk changed.

Only directories and links are passed on the way to a place. So a path leads to the same place on another
disk that has all of these, once there is a file at that place or always was a directory. Whatever becomes of
other files does not matter.
-/

set_option autoImplicit false

namespace Tale.Disk

/-- The directories and links of one disk are on another as well, and a place that is reached is there: as a
directory, or as a file with any content. -/
structure Keeps (before after : Disk) (reached : Place) : Prop where
  here : after.here = before.here
  ways : ∀ place node, before.node? place = some node → (∀ content, node ≠ .file content) →
    after.node? place = some node
  goal : before.isDirectoryAt reached ∨ ∃ content, after.node? reached = some (.file content)

section Keeps

variable {before after : Disk} {arrival : Arrival} {place : Place} {steps : List Name}

theorem Keeps.directory {reached : Place} (keeps : before.Keeps after reached)
    (directory : before.isDirectoryAt place) : after.isDirectoryAt place := by
  rw [isDirectoryAt_iff] at directory ⊢
  exact keeps.ways place _ directory (by simp)

theorem walk_file {disk : Disk} {through : Place → List Name → Except DiskError Arrival}
    {content : List UInt8} (file : disk.node? place = some (.file content))
    (arrived : disk.walk true through place steps = .ok arrival) : steps = [] := by
  cases steps with
  | nil => rfl
  | cons name rest =>
    rw [walk_behind_file (by simp [isDirectoryAt, file])] at arrived
    cases arrived

theorem walk_keeps {through throughAfter : Place → List Name → Except DiskError Arrival}
    (keeps : before.Keeps after arrival.place)
    (onward : ∀ place steps, through place steps = .ok arrival →
      throughAfter place steps = .ok (.present arrival.place))
    (arrived : before.walk true through place steps = .ok arrival) :
    after.walk true throughAfter place steps = .ok (.present arrival.place) := by
  -- Along the walk on the first disk: what it passes is a directory or a link, and is there still.
  fun_induction walk before true through place steps with
  | case1 =>
    cases arrived
    rfl
  | case3 place rest directory ih =>
    have stays := keeps.directory (by simpa using directory)
    simpa [walk, stays] using ih arrived
  | case4 place rest directory _ ih =>
    have stays := keeps.directory (by simpa using directory)
    simpa [walk, stays] using ih arrived
  | case6 place name rest directory notCurrent notParent fits absent last =>
    cases arrived
    cases List.isEmpty_iff.mp last
    have stays := keeps.directory (by simpa using directory)
    -- What was looked for has appeared.
    obtain ⟨content, appeared⟩ : ∃ content, after.node? (place ++ [name]) = some (.file content) :=
      keeps.goal.resolve_left (by simp [isDirectoryAt, Arrival.place, absent])
    simp [walk, stays, notCurrent, notParent, fits, appeared, Arrival.place]
  | case8 place name rest _ _ _ _ target _ last => simp at last
  | case9 place name rest directory notCurrent notParent fits target found last =>
    have stays := keeps.directory (by simpa using directory)
    have kept := keeps.ways _ _ found (by simp)
    simpa [walk, stays, notCurrent, notParent, fits, kept] using onward _ _ arrived
  | case10 place name rest directory notCurrent notParent fits node solid found ih =>
    have stays := keeps.directory (by simpa using directory)
    cases node with
    | link target => exact absurd rfl (solid target)
    | directory =>
      have kept := keeps.ways _ _ found (by simp)
      simpa [walk, stays, notCurrent, notParent, fits, kept] using ih arrived
    | file content =>
      -- Nothing lies behind a file, so this one is what is reached.
      cases walk_file found arrived
      cases arrived
      obtain ⟨other, kept⟩ : ∃ content, after.node? (place ++ [name]) = some (.file content) :=
        keeps.goal.resolve_left (by simp [isDirectoryAt, Arrival.place, found])
      simp [walk, stays, notCurrent, notParent, fits, kept, Arrival.place]
  | case2 | case5 | case7 => cases arrived

-- The bound on links is the same on both disks, as both pass the same links.
theorem follow_keeps {links : Nat} (keeps : before.Keeps after arrival.place)
    (arrived : before.follow true links place steps = .ok arrival) :
    after.follow true links place steps = .ok (.present arrival.place) := by
  induction links generalizing place steps with
  | zero => exact walk_keeps keeps (fun _ _ refused => by cases refused) arrived
  | succ links ih => exact walk_keeps keeps (fun _ _ => ih) arrived

/-- Where a path led, or would have led, it leads now. -/
theorem resolve_keeps {path : Path} (keeps : before.Keeps after arrival.place)
    (arrived : before.arrive path = .ok arrival) : after.resolve path = .ok arrival.place := by
  obtain ⟨spelled, followed⟩ := arrive_eq_ok.mp arrived
  have origin : after.origin path = before.origin path := by simp only [Disk.origin, keeps.here]
  exact resolve_eq_ok.mpr ⟨spelled, origin ▸ follow_keeps keeps followed⟩

theorem Keeps.resolve {path : Path} (keeps : before.Keeps after place)
    (resolved : before.resolve path = .ok place) : after.resolve path = .ok place :=
  resolve_keeps keeps (arrive_of_resolve resolved)

end Keeps

/-! ## What paths lead to -/

def Stands (disk : Disk) (place : Place) : Prop :=
  disk.isDirectoryAt place ∨ ∃ content, disk.node? place = some (.file content)

theorem Leads.stands {disk : Disk} (rooted : disk.Rooted) {place reached : Place} {steps : List Name}
    (leads : disk.Leads place steps reached) (stands : disk.Stands place) : disk.Stands reached := by
  induction leads with
  | done => exact stands
  | current directory onward ih => exact ih stands
  | parent directory onward ih => exact ih (.inl (rooted.above (node?_of_isDirectoryAt directory)))
  | @entered place reached name rest node directory fileName fits found solid onward ih =>
    apply ih
    cases node with
    | file content => exact .inr ⟨content, found⟩
    | directory => exact .inl (isDirectoryAt_iff.mpr found)
    | link target => exact absurd rfl (solid target)
  | linked directory fileName fits found onward ih =>
    apply ih
    split
    · exact .inl (isDirectoryAt_root _)
    · exact .inl directory

theorem WellFormed.stands {disk : Disk} (wellFormed : disk.WellFormed) {path : Path} {reached : Place}
    (resolved : disk.resolve path = .ok reached) : disk.Stands reached := by
  have followed := (resolve_eq_ok.mp resolved).2
  refine (leads_of_follow path.stepsToNode_proper followed).stands wellFormed.rooted (.inl ?_)
  unfold origin
  split
  · exact isDirectoryAt_root disk
  · exact wellFormed.home

/-! ## Paths in two parts -/

section Parts

variable {disk : Disk} {place : Place} {first : List Name}

theorem walk_tooManyLinks {through further : Place → List Name → Except DiskError Arrival}
    {second : List Name}
    (onward : ∀ place steps, through place steps = .error .tooManyLinks →
      further place (steps ++ second) = .error .tooManyLinks)
    (refused : disk.walk true through place first = .error .tooManyLinks) :
    disk.walk true further place (first ++ second) = .error .tooManyLinks := by
  fun_induction walk disk true through place first with
  | case3 place rest directory ih => simpa [walk, directory] using ih refused
  | case4 place rest directory _ ih => simpa [walk, directory] using ih refused
  | case9 place name rest directory notCurrent notParent fits target found last =>
    have later := onward _ _ refused
    rw [List.append_assoc] at later
    simpa [walk, directory, notCurrent, notParent, fits, found] using later
  | case10 place name rest directory notCurrent notParent fits node solid found ih =>
    cases node with
    | link target => exact absurd rfl (solid target)
    | file | directory =>
      simpa [walk, directory, notCurrent, notParent, fits, found] using ih refused
  | case1 | case2 | case5 | case6 | case7 | case8 => cases refused

theorem follow_tooManyLinks {links : Nat} {second : List Name}
    (refused : disk.follow true links place first = .error .tooManyLinks) :
    disk.follow true links place (first ++ second) = .error .tooManyLinks := by
  induction links generalizing place first with
  | zero => exact walk_tooManyLinks (fun _ _ _ => rfl) refused
  | succ links ih => exact walk_tooManyLinks (fun _ _ => ih) refused

end Parts

theorem intercalate_snoc {separator : Name} {names : List Name} (some : names ≠ []) (last : Name) :
    separator.intercalate (names ++ [last]) = separator.intercalate names ++ separator ++ last := by
  induction names with
  | nil => exact absurd rfl some
  | cons first rest ih =>
    cases rest with
    | nil => simp
    | cons second later =>
      have further := ih (by simp)
      rw [List.cons_append] at further
      simp only [List.cons_append, List.intercalate_cons_cons, further, List.append_assoc]

theorem exists_spelling (above : Place) (name : Name) : ∃ more,
    (Path.ofPlace (above ++ [name])).spelling = (Path.ofPlace above).spelling ++ more := by
  unfold Path.ofPlace
  by_cases inside : above = []
  · exact ⟨name, by simp [inside]⟩
  · exact ⟨slash :: name, by simp [intercalate_snoc inside]⟩

theorem checkSpelling_eq_ok {path : Path} : checkSpelling path = .ok () ↔ path.spelling ≠ [] ∧
    0 ∉ path.spelling ∧ path.spelling.length ≤ longestPath := by
  unfold checkSpelling
  by_cases empty : path.spelling = []
  · simp [empty]
  by_cases marked : 0 ∈ path.spelling
  · simp [empty, marked]
  by_cases long : longestPath < path.spelling.length
  · simp [empty, marked, long]
  · simp [empty, marked, long, Nat.le_of_not_lt long]

theorem checkSpelling_above {above : Place} {name : Name}
    (spelled : checkSpelling (.ofPlace (above ++ [name])) = .ok ()) :
    checkSpelling (.ofPlace above) = .ok () := by
  obtain ⟨more, longer⟩ := exists_spelling above name
  rw [checkSpelling_eq_ok, longer, List.length_append] at spelled
  obtain ⟨-, unmarked, short⟩ := spelled
  refine checkSpelling_eq_ok.mpr ⟨by simp [Path.ofPlace], ?_, by omega⟩
  exact fun member => unmarked (List.mem_append_left _ member)

theorem resolve_ofPlace {disk : Disk} {place reached : Place} (proper : ProperPlace place) :
    disk.resolve (.ofPlace place) = .ok reached ↔ checkSpelling (.ofPlace place) = .ok () ∧
      disk.follow true mostLinks [] place = .ok (.present reached) := by
  by_cases inside : place = []
  · have spelled : checkSpelling (.ofPlace []) = .ok () := rfl
    obtain ⟨through, walks⟩ := disk.follow_eq_walk true mostLinks
    rw [inside, resolve_eq, arrive_root, walks]
    simp [spelled, Except.bind, walk]
  · have origin : disk.origin (.ofPlace place) = [] := by
      simp [Disk.origin, Path.isAbsolute_ofPlace]
    rw [resolve_eq_ok, origin, Path.stepsToNode_ofPlace proper inside]

theorem resolve_snoc {disk : Disk} {above reached : Place} {name : Name}
    (proper : ProperPlace (above ++ [name]))
    (resolved : disk.resolve (.ofPlace (above ++ [name])) = .ok reached) :
    ∃ middle, disk.resolve (.ofPlace above) = .ok middle ∧ disk.Leads middle [name] reached := by
  obtain ⟨spelled, followed⟩ := (resolve_ofPlace proper).mp resolved
  have steps : ProperSteps (above ++ [name]) := fun other member _ _ => proper other member
  obtain ⟨middle, before, behind⟩ := (leads_of_follow steps followed).exists_middle
  refine ⟨middle, (resolve_ofPlace proper.front).mpr ⟨checkSpelling_above spelled, ?_⟩, behind⟩
  refine follow_of_leads before fun refused => ?_
  rw [follow_tooManyLinks refused] at followed
  cases followed

end Tale.Disk
