import Tale.Proofs.Disk.Canonical

/-! Where paths lead when any number of links may be followed.

`Leads` says where the pieces of a path lead from a place, through as many links as there are on the way.
What it reaches lies behind no link, so that the path of a place that was reached leads to it again, and
pieces lead on from there as they do behind any other path to it. Following at most so many links finds the
same place, or finds that there is none, unless there are more.
-/

set_option autoImplicit false

namespace Tale.Disk

/-- Some pieces of a path lead from a place to another. -/
inductive Leads (disk : Disk) : Place → List Name → Place → Prop where
  | done {place : Place} : Leads disk place [] place
  | current {place reached : Place} {rest : List Name} (directory : disk.isDirectoryAt place)
      (onward : Leads disk place rest reached) : Leads disk place ([dot] :: rest) reached
  | parent {place reached : Place} {rest : List Name} (directory : disk.isDirectoryAt place)
      (onward : Leads disk place.dropLast rest reached) : Leads disk place ([dot, dot] :: rest) reached
  | entered {place reached : Place} {name : Name} {rest : List Name} {node : Node}
      (directory : disk.isDirectoryAt place) (fileName : IsFileName name)
      (fits : name.length ≤ longestName) (found : disk.node? (place ++ [name]) = some node)
      (solid : ∀ target, node ≠ .link target) (onward : Leads disk (place ++ [name]) rest reached) :
      Leads disk place (name :: rest) reached
  | linked {place reached : Place} {name : Name} {rest : List Name} {target : Path}
      (directory : disk.isDirectoryAt place) (fileName : IsFileName name)
      (fits : name.length ≤ longestName)
      (found : disk.node? (place ++ [name]) = some (.link target))
      (onward : Leads disk (if target.isAbsolute then [] else place) (target.stepsToNode ++ rest)
        reached) : Leads disk place (name :: rest) reached

/-- Every name on the way from the root to a place is that of a node which is no link. -/
def Open (disk : Disk) (place : Place) : Prop :=
  ∀ above name, above ++ [name] <+: place → disk.isDirectoryAt above ∧ IsFileName name ∧
    name.length ≤ longestName ∧
    ∃ node, disk.node? (above ++ [name]) = some node ∧ ∀ target, node ≠ .link target

section Open

variable {disk : Disk} {place : Place}

theorem open_root (disk : Disk) : disk.Open [] := by
  intro above name within
  simp at within

theorem Open.dropLast (free : disk.Open place) : disk.Open place.dropLast :=
  fun above name within => free above name (within.trans (List.dropLast_prefix place))

theorem Open.snoc {name : Name} {node : Node} (free : disk.Open place)
    (directory : disk.isDirectoryAt place) (fileName : IsFileName name)
    (fits : name.length ≤ longestName) (found : disk.node? (place ++ [name]) = some node)
    (solid : ∀ target, node ≠ .link target) : disk.Open (place ++ [name]) := by
  intro above other within
  rcases List.prefix_concat_iff.mp within with same | earlier
  · obtain ⟨rfl, rfl⟩ := List.concat_inj.mp (by simpa using same)
    exact ⟨directory, fileName, fits, node, found, solid⟩
  · exact free above other earlier

theorem Open.proper (free : disk.Open place) : ProperPlace place := by
  intro name member
  obtain ⟨above, below, rfl⟩ := List.append_of_mem member
  exact (free above name ⟨below, by simp⟩).2.1

end Open

namespace Leads

variable {disk : Disk} {place reached : Place} {steps : List Name}

theorem current_iff {rest : List Name} :
    disk.Leads place ([dot] :: rest) reached ↔
      disk.isDirectoryAt place ∧ disk.Leads place rest reached := by
  constructor
  · intro leads
    generalize same : [dot] :: rest = steps at leads
    cases leads with
    | done | parent => simp at same
    | current directory onward =>
      cases same
      exact ⟨directory, onward⟩
    | entered _ fileName | linked _ fileName =>
      exact absurd (List.cons.inj same).1.symm fileName.notCurrent
  · rintro ⟨directory, onward⟩
    exact .current directory onward

theorem parent_iff {rest : List Name} :
    disk.Leads place ([dot, dot] :: rest) reached ↔
      disk.isDirectoryAt place ∧ disk.Leads place.dropLast rest reached := by
  constructor
  · intro leads
    generalize same : [dot, dot] :: rest = steps at leads
    cases leads with
    | done | current => simp at same
    | parent directory onward =>
      cases same
      exact ⟨directory, onward⟩
    | entered _ fileName | linked _ fileName =>
      exact absurd (List.cons.inj same).1.symm fileName.notParent
  · rintro ⟨directory, onward⟩
    exact .parent directory onward

theorem unique {other : Place} (leads : disk.Leads place steps reached)
    (again : disk.Leads place steps other) : reached = other := by
  induction leads with
  | done =>
    cases again
    rfl
  | current directory onward ih => exact ih (current_iff.mp again).2
  | parent directory onward ih => exact ih (parent_iff.mp again).2
  | entered directory fileName fits found solid onward ih =>
    cases again with
    | current => exact absurd rfl fileName.notCurrent
    | parent => exact absurd rfl fileName.notParent
    | entered _ _ _ _ _ onward => exact ih onward
    | linked _ _ _ link =>
      cases found.symm.trans link
      exact absurd rfl (solid _)
  | linked directory fileName fits found onward ih =>
    cases again with
    | current => exact absurd rfl fileName.notCurrent
    | parent => exact absurd rfl fileName.notParent
    | entered _ _ _ node solid =>
      cases found.symm.trans node
      exact absurd rfl (solid _)
    | linked _ _ _ link onward =>
      cases found.symm.trans link
      exact ih onward

theorem append {middle : Place} {more : List Name} (first : disk.Leads place steps middle)
    (second : disk.Leads middle more reached) : disk.Leads place (steps ++ more) reached := by
  induction first with
  | done => exact second
  | current directory onward ih => exact .current directory (ih second)
  | parent directory onward ih => exact .parent directory (ih second)
  | entered directory fileName fits found solid onward ih =>
    exact .entered directory fileName fits found solid (ih second)
  | linked directory fileName fits found onward ih =>
    exact .linked directory fileName fits found (List.append_assoc .. ▸ ih second)

theorem exists_middle {first second : List Name}
    (leads : disk.Leads place (first ++ second) reached) :
    ∃ middle, disk.Leads place first middle ∧ disk.Leads middle second reached := by
  generalize whole : first ++ second = steps at leads
  induction leads generalizing first with
  | @done place =>
    obtain ⟨rfl, rfl⟩ := List.append_eq_nil_iff.mp whole
    exact ⟨place, .done, .done⟩
  | @current place reached rest directory onward ih =>
    rcases List.append_eq_cons_iff.mp whole with ⟨rfl, rfl⟩ | ⟨later, rfl, rfl⟩
    · exact ⟨place, .done, .current directory onward⟩
    · obtain ⟨middle, before, behind⟩ := ih rfl
      exact ⟨middle, .current directory before, behind⟩
  | @parent place reached rest directory onward ih =>
    rcases List.append_eq_cons_iff.mp whole with ⟨rfl, rfl⟩ | ⟨later, rfl, rfl⟩
    · exact ⟨place, .done, .parent directory onward⟩
    · obtain ⟨middle, before, behind⟩ := ih rfl
      exact ⟨middle, .parent directory before, behind⟩
  | @entered place reached name rest node directory fileName fits found solid onward ih =>
    rcases List.append_eq_cons_iff.mp whole with ⟨rfl, rfl⟩ | ⟨later, rfl, rfl⟩
    · exact ⟨place, .done, .entered directory fileName fits found solid onward⟩
    · obtain ⟨middle, before, behind⟩ := ih rfl
      exact ⟨middle, .entered directory fileName fits found solid before, behind⟩
  | @linked place reached name rest target directory fileName fits found onward ih =>
    -- The pieces of the target stand in front of those behind the name, on the same side of the split.
    rcases List.append_eq_cons_iff.mp whole with ⟨rfl, rfl⟩ | ⟨later, rfl, rfl⟩
    · exact ⟨place, .done, .linked directory fileName fits found onward⟩
    · obtain ⟨middle, before, behind⟩ := ih (List.append_assoc ..)
      exact ⟨middle, .linked directory fileName fits found before, behind⟩

/-- Links are followed to their ends, so no link is left on the way to what is reached. -/
theorem isOpen (leads : disk.Leads place steps reached) (free : disk.Open place) :
    disk.Open reached := by
  induction leads with
  | done => exact free
  | current directory onward ih => exact ih free
  | parent directory onward ih => exact ih free.dropLast
  | entered directory fileName fits found solid onward ih =>
    exact ih (free.snoc directory fileName fits found solid)
  | linked directory fileName fits found onward ih =>
    apply ih
    split
    · exact open_root disk
    · exact free

theorem of_open (free : disk.Open place) : disk.Leads [] place place := by
  induction place using List.reverseRecOn with
  | nil => exact .done
  | append_singleton above name ih =>
    obtain ⟨directory, fileName, fits, node, found, solid⟩ := free above name List.prefix_rfl
    have before := ih (by simpa using free.dropLast)
    exact before.append (.entered directory fileName fits found solid .done)

end Leads

/-! ## So many links at most -/

section Following

variable {disk : Disk} {place reached : Place} {steps : List Name}

theorem leads_of_walk {through : Place → List Name → Except DiskError Arrival}
    (onward : ∀ place steps, ProperSteps steps → through place steps = .ok (.present reached) →
      disk.Leads place steps reached)
    (names : ProperSteps steps)
    (arrived : disk.walk true through place steps = .ok (.present reached)) :
    disk.Leads place steps reached := by
  fun_induction walk disk true through place steps with
  | case1 =>
    cases arrived
    exact .done
  | case3 place rest directory ih => exact .current (by simpa using directory) (ih names.tail arrived)
  | case4 place rest directory _ ih =>
    exact .parent (by simpa using directory) (ih names.tail arrived)
  | case8 place name rest _ _ _ _ target _ last => simp at last
  | case9 place name rest directory notCurrent notParent fits target found _ =>
    apply Leads.linked (by simpa using directory) (names name List.mem_cons_self notCurrent notParent)
      (Nat.le_of_not_lt fits) found
    apply onward _ _ _ arrived
    intro step member
    rcases List.mem_append.mp member with inTarget | later
    · exact target.stepsToNode_proper step inTarget
    · exact names.tail step later
  | case10 place name rest directory notCurrent notParent fits node solid found ih =>
    exact .entered (by simpa using directory) (names name List.mem_cons_self notCurrent notParent)
      (Nat.le_of_not_lt fits) found (fun target same => solid target same) (ih names.tail arrived)
  | case2 | case5 | case6 | case7 => cases arrived

theorem leads_of_follow {links : Nat} (names : ProperSteps steps)
    (arrived : disk.follow true links place steps = .ok (.present reached)) :
    disk.Leads place steps reached := by
  induction links generalizing place steps with
  | zero => exact leads_of_walk (fun _ _ _ refused => by cases refused) names arrived
  | succ links ih => exact leads_of_walk (fun _ _ => ih) names arrived

theorem Leads.exists_follow (leads : disk.Leads place steps reached) :
    ∃ links, disk.follow true links place steps = .ok (.present reached) := by
  induction leads with
  | done => exact ⟨0, rfl⟩
  | current directory onward ih =>
    obtain ⟨links, followed⟩ := ih
    obtain ⟨through, walks⟩ := disk.follow_eq_walk true links
    rw [walks] at followed
    refine ⟨links, ?_⟩
    simp [walks, walk, directory, followed]
  | parent directory onward ih =>
    obtain ⟨links, followed⟩ := ih
    obtain ⟨through, walks⟩ := disk.follow_eq_walk true links
    rw [walks] at followed
    refine ⟨links, ?_⟩
    simp [walks, walk, directory, followed]
  | @entered place reached name rest node directory fileName fits found solid onward ih =>
    obtain ⟨links, followed⟩ := ih
    obtain ⟨through, walks⟩ := disk.follow_eq_walk true links
    rw [walks] at followed
    refine ⟨links, ?_⟩
    rw [walks, walk_name fileName directory, if_neg (Nat.not_lt.mpr fits), found]
    cases node with
    | link target => exact absurd rfl (solid target)
    | file | directory => exact followed
  | linked directory fileName fits found onward ih =>
    obtain ⟨links, followed⟩ := ih
    refine ⟨links + 1, ?_⟩
    rw [follow, walk_name fileName directory, if_neg (Nat.not_lt.mpr fits), found]
    simpa using followed

/-- What is found with a way through links is found with any other that goes on from where it gives up. -/
theorem walk_through {through further : Place → List Name → Except DiskError Arrival}
    (same : ∀ place steps, through place steps ≠ .error .tooManyLinks →
      further place steps = through place steps)
    (settled : disk.walk true through place steps ≠ .error .tooManyLinks) :
    disk.walk true further place steps = disk.walk true through place steps := by
  fun_induction walk disk true through place steps with
  | case9 place name rest directory notCurrent notParent fits target found last =>
    rw [walk, if_neg directory, if_neg notCurrent, if_neg notParent, if_neg fits, found]
    simp only [last]
    exact same _ _ settled
  | case1 | case2 | case3 | case4 | case5 | case6 | case7 | case8 | case10 => simp_all [walk]

theorem follow_more {links : Nat} (more : Nat)
    (settled : disk.follow true links place steps ≠ .error .tooManyLinks) :
    disk.follow true (links + more) place steps = disk.follow true links place steps := by
  induction links generalizing place steps with
  | zero =>
    obtain ⟨through, walks⟩ := disk.follow_eq_walk true (0 + more)
    rw [walks]
    exact walk_through (fun _ _ open? => absurd rfl open?) settled
  | succ links ih =>
    rw [Nat.succ_add]
    exact walk_through (fun _ _ => ih) settled

/-- What following finds within its bound is all that there is to be found. -/
theorem follow_of_leads {links : Nat} (leads : disk.Leads place steps reached)
    (settled : disk.follow true links place steps ≠ .error .tooManyLinks) :
    disk.follow true links place steps = .ok (.present reached) := by
  obtain ⟨enough, found⟩ := leads.exists_follow
  -- Both bounds find what their sum finds.
  rw [← follow_more enough settled, Nat.add_comm, follow_more links (by simp [found]), found]

end Following

end Tale.Disk
