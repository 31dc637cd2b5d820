import Mathlib.Data.List.Forall2
import Tale.Proofs.Script.Closure
import Tale.Proofs.Script.Documents

/-! Every pass comes to an end.

Each document that is entered is one that was not entered before, so where only finitely many can be
loaded a pass ends, however they include each other. Each name is resolved once, and each document is
asked for once, the root never. What is met are the entries of the root and of each document that is
loaded, each once, with a report on each document that is not.
-/

set_option autoImplicit false

namespace Tale.Script

open Progress

/-! ## Finitely many documents -/

def Includes.LoadsOnly (includes : Includes) (held : List Path) : Prop :=
  ∀ path text, includes.load path = .ok text → ∃ other ∈ held, path.same other

theorem Includes.LoadsOnly.atMost {includes : Includes} {held : List Path}
    (only : includes.LoadsOnly held) : includes.LoadsAtMost held.length := by
  intro paths apart loads
  have distinct : (paths.map Path.components).Nodup :=
    List.pairwise_map.mpr (apart.imp fun differ same => differ (beq_iff_eq.mpr same))
  have among : paths.map Path.components ⊆ held.map Path.components := by
    intro components member
    obtain ⟨path, listed, rfl⟩ := List.mem_map.mp member
    obtain ⟨text, loaded⟩ := loads path listed
    obtain ⟨other, there, same⟩ := only path text loaded
    exact List.mem_map.mpr ⟨other, there, (beq_iff_eq.mp same).symm⟩
  simpa using (List.subperm_of_subset distinct among).length_le

theorem loadsOnly_includesFrom (directory : Path) (documents : List (Path × String)) :
    (includesFrom directory documents).LoadsOnly (documents.map Prod.fst) := by
  intro path text served
  simp only [includesFrom] at served
  split at served
  · next document found =>
    have same := List.find?_some found
    exact ⟨document.1, List.mem_map_of_mem (List.mem_of_find?_eq_some found), same⟩
  · cases served

theorem readNested_withCapacity (includes : Includes) (capacity depth : Nat) :
    readNested { includes with capacity := capacity } depth = readNested includes depth := by
  induction depth with
  | zero => rfl
  | succ depth ih =>
    rw [readNested, readNested, ih]
    rfl

/-! ## What each document contributes -/

def Statement.entry (statement : Statement) : Entry :=
  .statement statement.file statement.span statement.item

def Document.entries (document : Document) : List Entry :=
  faultReports document.path document.text ++ document.statements.map Statement.entry

def Document.enclosed (document : Document) : List Entry := .opened :: (document.entries ++ [.closed])

def unloaded (includes : Includes) (consulted : List Consultation) : List Path :=
  (loads consulted).filter fun path => (includes.load path).toOption.isNone

def Refuses (includes : Includes) (path : Path) (entry : Entry) : Prop :=
  ∃ reason file span, includes.load path = .error reason ∧
    entry = .report ((Finding.unreadableInclude path reason).inFile file span)

/-- On the way from one progress to another some entries are met, and besides them those of every document
that is loaded, with a report on every other one that is asked for. -/
def Accounts (includes : Includes) (own : List Entry) (progress last : Progress) : Prop :=
  ∃ entries asked refused, last.entries = entries ++ progress.entries ∧
    last.consulted = asked ++ progress.consulted ∧
    List.Forall₂ (Refuses includes) (unloaded includes asked) refused ∧
    entries.Perm (own ++ (loaded includes asked).flatMap Document.enclosed ++ refused)

theorem unloaded_served {includes : Includes} {path : Path} {text : String}
    (served : includes.load path = .ok text) (name : String) :
    unloaded includes [.load path, .resolve name path] = [] := by
  simp [unloaded, loads, Consultation.load?, served, Except.toOption]

theorem missing_refused {includes : Includes} {path : Path} {reason : String}
    (refusal : includes.load path = .error reason) (name : String) :
    loaded includes [.load path, .resolve name path] = [] ∧
      unloaded includes [.load path, .resolve name path] = [path] := by
  simp [loaded, unloaded, loads, Consultation.load?, refusal, Except.toOption]

theorem unloaded_append (includes : Includes) (first second : List Consultation) :
    unloaded includes (first ++ second) = unloaded includes first ++ unloaded includes second := by
  simp [unloaded, loads]

namespace Accounts

variable {includes : Includes} {own more : List Entry} {progress middle last : Progress}

theorem refl (includes : Includes) (progress : Progress) : Accounts includes [] progress progress :=
  ⟨[], [], [], rfl, rfl, .nil, .refl _⟩

theorem trans (first : Accounts includes own progress middle)
    (second : Accounts includes more middle last) : Accounts includes (own ++ more) progress last := by
  obtain ⟨entries, asked, refused, grown, consulted, refuses, same⟩ := first
  obtain ⟨later, askedLater, refusedLater, grownLater, consultedLater, refusesLater, sameLater⟩ := second
  refine ⟨later ++ entries, askedLater ++ asked, refusedLater ++ refused, ?_, ?_, ?_, ?_⟩
  · rw [grownLater, grown, List.append_assoc]
  · rw [consultedLater, consulted, List.append_assoc]
  · rw [unloaded_append]
    exact List.rel_append refusesLater refuses
  · rw [loaded_append, List.flatMap_append]
    refine (sameLater.append same).trans ?_
    rw [List.perm_iff_count]
    intro entry
    simp only [List.count_append]
    omega

theorem meet (includes : Includes) (entry : Entry) (progress : Progress) :
    Accounts includes [entry] progress (progress.meet entry) :=
  ⟨[entry], [], [], rfl, rfl, .nil, .refl _⟩

theorem asked (includes : Includes) (name : String) (progress : Progress) :
    Accounts includes [] progress (progress.asked includes name) :=
  ⟨[], [.resolve name _], [], rfl, rfl, .nil, .refl _⟩

theorem begun (includes : Includes) (file : Path) (text : String) (progress : Progress) :
    Accounts includes (faultReports file text) progress (progress.begun file text) := by
  rw [begun_eq_reports]
  refine ⟨_, [], [], rfl, rfl, .nil, (List.reverse_perm _).trans ?_⟩
  exact .of_eq (by simp [loaded, loads])

theorem refused {name reason : String} (refusal : includes.load (includes.resolve name) = .error reason)
    (file : Path) (span : Span) (progress : Progress) :
    Accounts includes [] progress (((progress.asked includes name).visited (includes.resolve name)).report
      (.unreadableInclude (includes.resolve name) reason) file span) := by
  have missing := missing_refused refusal name
  let report : Entry := .report ((Finding.unreadableInclude (includes.resolve name) reason).inFile file span)
  refine ⟨[report], [.load (includes.resolve name), .resolve name (includes.resolve name)], [report],
    rfl, rfl, ?_, ?_⟩
  · rw [missing.2]
    exact .cons ⟨reason, file, span, refusal, rfl⟩ .nil
  · rw [missing.1]
    exact .refl _

theorem entered {name text : String} (served : includes.load (includes.resolve name) = .ok text)
    (inner : Accounts includes (Document.entries ⟨includes.resolve name, text⟩)
      (((progress.asked includes name).visited (includes.resolve name)).meet .opened) middle) :
    Accounts includes [] progress (middle.meet .closed) := by
  obtain ⟨entries, asked, refused, grown, consulted, refuses, same⟩ := inner
  refine ⟨.closed :: (entries ++ [.opened]),
    asked ++ [.load (includes.resolve name), .resolve name (includes.resolve name)], refused,
    ?_, ?_, ?_, ?_⟩
  · rw [List.cons_append, List.append_assoc]
    exact congrArg (Entry.closed :: ·) grown
  · rw [List.append_assoc]
    exact consulted
  · rwa [unloaded_append, unloaded_served served, List.append_nil]
  · rw [loaded_append, loaded_served served, List.flatMap_append, List.flatMap_singleton,
      Document.enclosed]
    rw [List.perm_iff_count] at same ⊢
    intro entry
    have counted := same entry
    simp only [List.count_append, List.count_cons, List.count_nil] at counted ⊢
    omega

end Accounts

def statementEntries (file : Path) (items : List (Item × Span)) : List Entry :=
  (items.flatMap (statementsOfItem file)).map Statement.entry

theorem Reads.accounts {includes : Includes} {file : Path} {items : List (Item × Span)}
    {progress last : Progress} (reads : Reads includes file items progress last) :
    Accounts includes (statementEntries file items) progress last := by
  induction reads with
  | done => exact .refl _ _
  | @statement file item span rest progress last plain onward ih =>
    have own : statementEntries file ((item, span) :: rest) =
        [.statement file span item] ++ statementEntries file rest := by
      simp [statementEntries, statementsOfItem, plain, Statement.entry]
    rw [own]
    exact (Accounts.meet includes _ progress).trans ih
  | repeated old onward ih => exact ih
  | @passed file name span rest progress last new old onward ih =>
    exact (Accounts.asked includes name progress).trans ih
  | @refused file name reason span rest progress last new unopened refusal onward ih =>
    exact (Accounts.refused refusal file span progress).trans ih
  | @entered file name text span rest progress middle last new unopened loaded inner onward within ih =>
    exact (Accounts.entered loaded ((Accounts.begun includes _ text _).trans within)).trans ih

/-- A reading that ends meets what all documents make, with a report on each one that it asked for in
vain. -/
theorem Reads.entries_perm {includes : Includes} {root : Path} {text : String} {last : Progress}
    (reads : Reads includes root (itemsOf text) ((Progress.start root).begun root text) last) :
    ∃ refused, List.Forall₂ (Refuses includes) (unloaded includes last.consulted) refused ∧
      last.entries.Perm (Document.entries ⟨root, text⟩ ++
        (loaded includes last.consulted).flatMap Document.enclosed ++ refused) := by
  obtain ⟨entries, asked, refused, grown, consulted, refuses, same⟩ :=
    (Accounts.begun includes root text (.start root)).trans reads.accounts
  rw [grown, consulted]
  simp only [Progress.start, List.append_nil]
  exact ⟨refused, refuses, same⟩

/-! ## The end of a pass -/

/-- A pass over any root with any include rules ends if they can load finitely many documents only, and
no bound on nested documents is met that leaves room for those. It resolves each name once, asks for each
document once and never for the root, and processes the root and each document that it loads once. -/
theorem reading_ends {includes : Includes} {held : List Path} (only : includes.LoadsOnly held)
    (root : Path) (text : String) :
    ∃ last, Reads includes root (itemsOf text) ((Progress.start root).begun root text) last ∧
      (∀ capacity, held.length ≤ capacity → readRoot { includes with capacity := capacity } root text =
        ⟨last.entries.reverse, last.consulted.reverse⟩) ∧
      ((last.consulted.filterMap Consultation.resolution?).map Prod.fst).Nodup ∧
      ((loads last.consulted).Pairwise fun first second => ¬ first.same second) ∧
      (∀ path ∈ loads last.consulted, ¬ path.same root) ∧
      ∃ refused, List.Forall₂ (Refuses includes) (unloaded includes last.consulted) refused ∧
        last.entries.Perm (Document.entries ⟨root, text⟩ ++
          (loaded includes last.consulted).flatMap Document.enclosed ++ refused) := by
  have spaced : (Progress.start root).Spaced := List.pairwise_singleton _ _
  have reads (depth : Nat) (room : held.length ≤ depth) :=
    readNested_reads only.atMost depth root text (.start root) spaced (Nat.le_add_left_of_le room)
  have first := reads held.length (Nat.le_refl _)
  have apart : (loads (readNested includes held.length root text (.start root)).consulted ++
      [root]).Pairwise fun first second => ¬ first.same second := by
    obtain ⟨opened, paths, asked⟩ := first.loads_eq
    rw [begun_paths] at paths
    rw [begun_consulted] at asked
    have last := first.spaced (spaced_begun.mpr spaced)
    rw [Progress.Spaced, paths] at last
    rw [asked]
    simpa [Progress.start, loads] using last
  refine ⟨_, first, fun capacity room => ?_, ?_, ?_, ?_, ?_⟩
  · rw [readRoot, readNested_withCapacity, (reads capacity room).unique first]
  · have sound := first.sound (sound_start.begun root text)
    rw [sound.resolutions, List.map_map]
    simpa [Function.comp_def] using sound.distinct
  · exact (List.pairwise_append.mp apart).1
  · exact fun path asked => (List.pairwise_append.mp apart).2.2 path asked root List.mem_cons_self
  · exact first.entries_perm

/-- A cave and a pool that include each other; the cave includes itself, under another name, and the
root. -/
def caveRules : Includes := includesFrom "" [
  ("cave", "INCLUDE main\nINCLUDE cave/\nINCLUDE pool\n"), ("pool", "INCLUDE cave\nWater.\n")]

def caveText : String := "INCLUDE cave\nINCLUDE pool/\nINCLUDE lost\n"

/-- The cave and the pool are loaded once, and one document is not found. -/
theorem caves_end : ∃ last,
    Reads caveRules "main" (itemsOf caveText) ((Progress.start "main").begun "main" caveText) last ∧
      loads last.consulted = ["lost", "pool", "cave"] ∧
      (loads last.consulted).Pairwise (fun first second => ¬ first.same second) ∧
      unloaded caveRules last.consulted = ["lost"] ∧
      ∃ refused, Refuses caveRules "lost" refused ∧
        last.entries.Perm (Document.entries ⟨"main", caveText⟩ ++
          (loaded caveRules last.consulted).flatMap Document.enclosed ++ [refused]) := by
  have only : caveRules.LoadsOnly ["cave", "pool"] := loadsOnly_includesFrom "" _
  obtain ⟨last, reads, outcome, -, apart, -, refused, refuses, same⟩ :=
    reading_ends only "main" caveText
  have asked : loads last.consulted = ["lost", "pool", "cave"] := by
    have consulted : last.consulted =
        (readRoot { caveRules with capacity := 2 } "main" caveText).consulted.reverse := by
      rw [outcome 2 (Nat.le_refl 2), List.reverse_reverse]
    rw [consulted]
    decide +kernel
  have vain : unloaded caveRules last.consulted = ["lost"] := by
    rw [unloaded, asked]
    decide +kernel
  rw [vain] at refuses
  cases refuses with
  | cons refuses none =>
    cases none
    exact ⟨last, reads, asked, apart, vain, _, refuses, same⟩

end Tale.Script
