import Tale.Proofs.Script.LineByLine
import Tale.Proofs.Script.Termination

/-! The lines from which entries stem.

Every statement, and every report that is made while documents are read, stems from a line of the document
whose path it bears, and that document is the root or was loaded. No other document that is read has its
path. The one exception is a document that is refused because documents are nested beyond the bound, and
then more of them were loaded than the bound says.
-/

set_option autoImplicit false

namespace Tale.Script

open Progress

/-- An entry is a mark, or stems from a line of a document. -/
inductive Stems (includes : Includes) (document : Document) : Entry → Prop where
  | opened : Stems includes document .opened
  | closed : Stems includes document .closed
  | statement {item : Item} {span : Span} (written : (item, span) ∈ itemsOf document.text) :
      Stems includes document (.statement document.path span item)
  | fault {fault : Fault} {span : Span}
      (written : (fault, span) ∈ readFaults (tokens document.text.toList)) :
      Stems includes document (.report ((Finding.malformed fault).inFile document.path span))
  | missing {name reason : String} {span : Span}
      (written : (.inclusion name, span) ∈ itemsOf document.text)
      (refusal : includes.load (includes.resolve name) = .error reason) :
      Stems includes document
        (.report ((Finding.unreadableInclude (includes.resolve name) reason).inFile document.path span))

def refusal (path : Path) : Diagnostic :=
  (Finding.unreadableInclude path "includes are nested too deeply").inFile path ⟨0, 0⟩

/-- What is met on the way from one progress to another stems from a document or from those that are loaded
on the way, none of which was met before. If anything is refused, at least so many are loaded. -/
def Traces (includes : Includes) (document : Document) (least : Nat) (progress last : Progress) : Prop :=
  ∃ entries asked, last.entries = entries ++ progress.entries ∧
    last.consulted = asked ++ progress.consulted ∧ progress.paths <:+ last.paths ∧
    (∀ path ∈ loads asked, progress.knows path = false) ∧
    ∀ entry ∈ entries, (∃ source ∈ document :: loaded includes asked, Stems includes source entry) ∨
      least ≤ (loaded includes asked).length ∧ ∃ path, entry = .report (refusal path)

theorem unknown_earlier {first second : Progress} {path : Path} (paths : first.paths <:+ second.paths)
    (unknown : second.knows path = false) : first.knows path = false :=
  Bool.eq_false_iff.mpr fun known => Bool.eq_false_iff.mp unknown (knows_mono paths known)

namespace Traces

variable {includes : Includes} {document : Document} {least : Nat} {progress middle last : Progress}

theorem refl (includes : Includes) (document : Document) (least : Nat) (progress : Progress) :
    Traces includes document least progress progress :=
  ⟨[], [], rfl, rfl, List.suffix_rfl, nofun, nofun⟩

theorem trans (first : Traces includes document least progress middle)
    (second : Traces includes document least middle last) :
    Traces includes document least progress last := by
  obtain ⟨entries, asked, grown, consulted, paths, new, stems⟩ := first
  obtain ⟨later, askedLater, grownLater, consultedLater, pathsLater, newLater, stemsLater⟩ := second
  refine ⟨later ++ entries, askedLater ++ asked, ?_, ?_, paths.trans pathsLater, ?_, ?_⟩
  · rw [grownLater, grown, List.append_assoc]
  · rw [consultedLater, consulted, List.append_assoc]
  · intro path member
    rw [loads, List.filterMap_append, List.mem_append] at member
    rcases member with inLater | inFirst
    · exact unknown_earlier paths (newLater path inLater)
    · exact new path inFirst
  · intro entry member
    rw [loaded_append, List.length_append]
    rcases List.mem_append.mp member with inLater | inFirst
    · rcases stemsLater entry inLater with ⟨source, among, stem⟩ | ⟨many, refused⟩
      · refine .inl ⟨source, ?_, stem⟩
        exact (List.cons_subset_cons _ (List.subset_append_left _ _)) among
      · exact .inr ⟨by omega, refused⟩
    · rcases stems entry inFirst with ⟨source, among, stem⟩ | ⟨many, refused⟩
      · refine .inl ⟨source, ?_, stem⟩
        exact (List.cons_subset_cons _ (List.subset_append_right _ _)) among
      · exact .inr ⟨by omega, refused⟩

theorem meet {entry : Entry} (stem : Stems includes document entry) (progress : Progress) :
    Traces includes document least progress (progress.meet entry) := by
  refine ⟨[entry], [], rfl, rfl, List.suffix_rfl, nofun, ?_⟩
  intro other member
  rw [List.mem_singleton.mp member]
  exact .inl ⟨document, List.mem_cons_self, stem⟩

theorem asked (name : String) (progress : Progress) :
    Traces includes document least progress (progress.asked includes name) :=
  ⟨[], [.resolve name _], rfl, rfl, List.suffix_rfl, nofun, nofun⟩

theorem begun (includes : Includes) (document : Document) (least : Nat) (progress : Progress) :
    Traces includes document least progress (progress.begun document.path document.text) := by
  rw [begun_eq_reports]
  refine ⟨_, [], rfl, rfl, List.suffix_rfl, nofun, ?_⟩
  intro entry member
  obtain ⟨⟨fault, span⟩, written, rfl⟩ := List.mem_map.mp (List.mem_reverse.mp member)
  exact .inl ⟨document, List.mem_cons_self, .fault written⟩

theorem refused {name reason : String} {span : Span}
    (written : (.inclusion name, span) ∈ itemsOf document.text)
    (unopened : progress.knows (includes.resolve name) = false)
    (missing : includes.load (includes.resolve name) = .error reason) :
    Traces includes document least progress
      (((progress.asked includes name).visited (includes.resolve name)).report
        (.unreadableInclude (includes.resolve name) reason) document.path span) := by
  refine ⟨[_], [.load (includes.resolve name), .resolve name _], rfl, rfl, List.suffix_cons _ _, ?_, ?_⟩
  · intro path member
    rw [List.mem_singleton.mp member]
    exact unopened
  · intro entry member
    rw [List.mem_singleton.mp member]
    exact .inl ⟨document, List.mem_cons_self, .missing written missing⟩

theorem entered {name text : String} (unopened : progress.knows (includes.resolve name) = false)
    (served : includes.load (includes.resolve name) = .ok text)
    (inner : Traces includes ⟨includes.resolve name, text⟩ least
      (((progress.asked includes name).visited (includes.resolve name)).meet .opened) middle) :
    Traces includes document (least + 1) progress (middle.meet .closed) := by
  obtain ⟨entries, asked, grown, consulted, paths, new, stems⟩ := inner
  have within : progress.paths <:+
      (((progress.asked includes name).visited (includes.resolve name)).meet .opened).paths :=
    List.suffix_cons _ _
  have loadedAll : loaded includes
      (asked ++ [.load (includes.resolve name), .resolve name (includes.resolve name)]) =
        loaded includes asked ++ [⟨includes.resolve name, text⟩] := by
    rw [loaded_append, loaded_served served]
  refine ⟨.closed :: (entries ++ [.opened]),
    asked ++ [.load (includes.resolve name), .resolve name (includes.resolve name)],
    ?_, ?_, within.trans paths, ?_, ?_⟩
  · rw [List.cons_append, List.append_assoc]
    exact congrArg (Entry.closed :: ·) grown
  · rw [List.append_assoc]
    exact consulted
  · intro path member
    rw [loads, List.filterMap_append, List.mem_append] at member
    rcases member with later | here
    · exact unknown_earlier within (new path later)
    · rw [List.mem_singleton.mp here]
      exact unopened
  · intro entry member
    rw [loadedAll, List.length_append, List.length_singleton]
    rcases List.mem_cons.mp member with rfl | member
    · exact .inl ⟨document, List.mem_cons_self, .closed⟩
    rcases List.mem_append.mp member with inside | mark
    · rcases stems entry inside with ⟨source, among, stem⟩ | ⟨many, beyond⟩
      · refine .inl ⟨source, List.mem_cons_of_mem _ (List.mem_append.mpr ?_), stem⟩
        rcases List.mem_cons.mp among with rfl | later
        · exact .inr List.mem_cons_self
        · exact .inl later
      · -- What was refused further on was refused behind this document as well.
        exact .inr ⟨Nat.succ_le_succ many, beyond⟩
    · rw [List.mem_singleton.mp mark]
      exact .inl ⟨document, List.mem_cons_self, .opened⟩

section Item

variable {enter : Path → String → Progress → Progress}
  (enters : ∀ (inner : Document) (progress : Progress),
    Traces includes inner least progress (enter inner.path inner.text progress))
include enters

theorem readInclude {name : String} {span : Span}
    (written : (.inclusion name, span) ∈ itemsOf document.text) (progress : Progress) :
    Traces includes document (least + 1) progress
      (readInclude includes enter document.path name span progress) := by
  rcases readInclude_cases includes enter document.path name span progress with
    ⟨-, same⟩ | ⟨-, -, same⟩ | ⟨-, unopened, ⟨reason, missing, same⟩ | ⟨text, served, same⟩⟩
  · rw [same]
    exact refl includes document _ progress
  · rw [same]
    exact asked name progress
  · rw [same]
    exact refused written unopened missing
  · rw [same]
    exact entered unopened served (enters ⟨_, text⟩ _)

theorem readItem {item : Item × Span} (written : item ∈ itemsOf document.text) (progress : Progress) :
    Traces includes document (least + 1) progress
      (readItem includes enter document.path progress item) := by
  obtain ⟨item, span⟩ := item
  cases item with
  | inclusion name => exact readInclude enters written progress
  | declaration | knot | text | divert | assignment | choice | note =>
    exact meet (.statement written) progress

theorem foldl_readItem {items : List (Item × Span)}
    (written : ∀ item ∈ items, item ∈ itemsOf document.text) (progress : Progress) :
    Traces includes document (least + 1) progress
      (items.foldl (Script.readItem includes enter document.path) progress) := by
  induction items generalizing progress with
  | nil => exact refl includes document _ progress
  | cons item rest ih =>
    have first := readItem enters (written item List.mem_cons_self) progress
    exact first.trans (ih (fun other member => written other (List.mem_cons_of_mem _ member)) _)

end Item

/-- With so much room, a document is refused only behind at least as many that were loaded. -/
theorem enterNested (includes : Includes) (depth : Nat) (document : Document) (progress : Progress) :
    Traces includes document depth progress
      (enterNested includes depth document.path document.text progress) := by
  induction depth generalizing document progress with
  | zero =>
    refine ⟨[.report (refusal document.path)], [], rfl, rfl, List.suffix_rfl, nofun, ?_⟩
    intro entry member
    exact .inr ⟨Nat.zero_le _, document.path, List.mem_singleton.mp member⟩
  | succ depth ih =>
    rw [Script.enterNested, readNested_eq]
    exact (begun includes document _ progress).trans (foldl_readItem ih (fun _ => id) _)

end Traces

theorem loaded_reverse (includes : Includes) (consulted : List Consultation) :
    loaded includes consulted.reverse = (loaded includes consulted).reverse := by
  simp only [loaded, loads, List.filterMap_reverse]

/-- What is read stems from the documents that are read, and none but the root has the path of the root. -/
theorem readRoot_traces (includes : Includes) (root : Path) (text : String) :
    (∀ path ∈ loads (readRoot includes root text).consulted, path ≠ root) ∧
    ∀ entry ∈ (readRoot includes root text).entries,
      (∃ document ∈ documents includes root text, Stems includes document entry) ∨
      includes.capacity < (loaded includes (readRoot includes root text).consulted).length ∧
        ∃ path, entry = .report (refusal path) := by
  obtain ⟨entries, asked, grown, consulted, -, new, stems⟩ :=
    Traces.enterNested includes (includes.capacity + 1) ⟨root, text⟩ (.start root)
  have row : (readRoot includes root text).entries = entries.reverse := by
    rw [← List.append_nil entries]
    exact congrArg List.reverse grown
  have questions : (readRoot includes root text).consulted = asked.reverse := by
    rw [← List.append_nil asked]
    exact congrArg List.reverse consulted
  constructor
  · intro path member same
    have earlier : path ∈ loads asked := by
      simpa [questions, loads] using member
    have known : (Progress.start root).knows path := by
      simp [Progress.knows, Progress.start, same]
    cases known.symm.trans (new path earlier)
  · intro entry member
    rw [documents, questions, loaded_reverse, List.length_reverse]
    rcases stems entry (by simpa [row] using member) with ⟨source, among, stem⟩ | ⟨many, refused⟩
    · refine .inl ⟨source, ?_, stem⟩
      simpa using among
    · exact .inr ⟨many, refused⟩

theorem eq_of_mem_documents {includes : Includes} {root : Path} {text : String} {document other : Document}
    (member : document ∈ documents includes root text) (again : other ∈ documents includes root text)
    (same : other.path = document.path) : other = document := by
  have apart := (readRoot_traces includes root text).1
  have loadedFrom {document : Document}
      (among : document ∈ loaded includes (readRoot includes root text).consulted) :
      document.path ∈ loads (readRoot includes root text).consulted ∧
        includes.load document.path = .ok document.text := by
    obtain ⟨path, asked, served⟩ := List.mem_filterMap.mp among
    obtain ⟨content, found, rfl⟩ := Option.map_eq_some_iff.mp served
    refine ⟨asked, ?_⟩
    cases outcome : includes.load path with
    | error reason => simp [outcome, Except.toOption] at found
    | ok loaded =>
      rw [outcome] at found
      exact congrArg Except.ok (Option.some.inj found)
  rcases List.mem_cons.mp member with rfl | first <;> rcases List.mem_cons.mp again with rfl | second
  · rfl
  · exact absurd same (apart _ (loadedFrom second).1)
  · exact absurd same.symm (apart _ (loadedFrom first).1)
  · obtain ⟨path, content⟩ := document
    obtain ⟨path, contentToo⟩ := other
    cases same
    cases (loadedFrom first).2.symm.trans (loadedFrom second).2
    rfl

/-! ## Room for all documents -/

/-- Where reading comes to an end, a bound that leaves room for the documents that are asked for is not
met. -/
theorem Reads.foldl_eq {includes : Includes} {file : Path} {items : List (Item × Span)}
    {progress last : Progress} (reads : Reads includes file items progress last) {depth : Nat}
    (room : (loads last.consulted).length ≤ (loads progress.consulted).length + depth) :
    items.foldl (readItem includes (enterNested includes depth) file) progress = last := by
  induction reads generalizing depth with
  | done => rfl
  | @statement file item span rest progress last plain onward ih =>
    rw [List.foldl_cons]
    cases item with
    | inclusion name => cases plain
    | declaration | knot | text | divert | assignment | choice | note => exact ih room
  | @repeated file name span rest progress last old onward ih =>
    rw [List.foldl_cons, readItem, readInclude, if_pos (List.contains_iff_mem.mpr old)]
    exact ih room
  | @passed file name span rest progress last new old onward ih =>
    rw [List.foldl_cons, readItem, readInclude, if_neg (mt List.contains_iff_mem.mp new)]
    exact (congrArg (List.foldl _ · rest) (if_pos old)).trans (ih room)
  | @refused file name reason span rest progress last new unopened refusal onward ih =>
    let next := (progress.asked includes name).visited (includes.resolve name)
    have opened : (loads next.consulted).length = (loads progress.consulted).length + 1 := rfl
    rw [List.foldl_cons]
    rcases readInclude_cases includes (enterNested includes depth) file name span progress with
      ⟨old, -⟩ | ⟨-, old, -⟩ | ⟨-, -, ⟨other, again, same⟩ | ⟨text, loaded, -⟩⟩
    · exact absurd old new
    · cases old.symm.trans unopened
    · cases refusal.symm.trans again
      rw [readItem, same]
      apply ih
      change _ ≤ (loads next.consulted).length + depth
      omega
    · cases refusal.symm.trans loaded
  | @entered file name text span rest progress middle last new unopened served inner onward within ih =>
    have opened : (loads ((((progress.asked includes name).visited (includes.resolve name)).meet
        .opened).begun (includes.resolve name) text).consulted).length =
          (loads progress.consulted).length + 1 := by
      rw [begun_consulted]
      rfl
    have fewer := loads_length_mono inner.grows.2.2
    have further : (loads middle.consulted).length ≤ (loads last.consulted).length :=
      loads_length_mono onward.grows.2.2
    rw [List.foldl_cons]
    rcases readInclude_cases includes (enterNested includes depth) file name span progress with
      ⟨old, -⟩ | ⟨-, old, -⟩ | ⟨-, -, ⟨reason, refusal, -⟩ | ⟨other, again, same⟩⟩
    · exact absurd old new
    · cases old.symm.trans unopened
    · cases refusal.symm.trans served
    · cases served.symm.trans again
      -- There is room for the document, since it is among those that are asked for.
      obtain ⟨less, rfl⟩ : ∃ less, depth = less + 1 := ⟨depth - 1, by omega⟩
      have reached : enterNested includes (less + 1) (includes.resolve name) text
          (((progress.asked includes name).visited (includes.resolve name)).meet .opened) = middle := by
        rw [enterNested, readNested_eq]
        exact within (by omega)
      rw [readItem, same, reached]
      apply ih
      change _ ≤ (loads middle.consulted).length + _
      omega

/-- Reading within a bound finds the outcome of a reading that ends, if there is room. -/
theorem Reads.readRoot_eq {includes : Includes} {root : Path} {text : String} {last : Progress}
    (reads : Reads includes root (itemsOf text) ((Progress.start root).begun root text) last)
    {capacity : Nat} (room : (loads last.consulted).length ≤ capacity) :
    readRoot { includes with capacity := capacity } root text =
      ⟨last.entries.reverse, last.consulted.reverse⟩ := by
  have reached : readNested includes capacity root text (.start root) = last := by
    rw [readNested_eq]
    exact reads.foldl_eq (Nat.le_add_left_of_le room)
  rw [readRoot, readNested_withCapacity, reached]

theorem Reads.withCapacity {includes : Includes} {file : Path} {items : List (Item × Span)}
    {progress last : Progress} (reads : Reads includes file items progress last) (capacity : Nat) :
    Reads { includes with capacity := capacity } file items progress last := by
  induction reads with
  | done => exact .done
  | statement plain onward ih => exact .statement plain ih
  | repeated old onward ih => exact .repeated old ih
  | passed new old onward ih => exact .passed new old ih
  | refused new unopened refusal onward ih => exact .refused new unopened refusal ih
  | entered new unopened served inner onward within ih => exact .entered new unopened served within ih

end Tale.Script
