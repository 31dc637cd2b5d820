import Tale.Proofs.Script.Inlining

/-! What is read of the documents of a pass.

A pass processes the root and every document that it loads. Where it meets no error, the statements of
its reading order are those that the documents make, each as often as it is written, whatever include
line led to a document and however deep. The capacity need not be honest for this: a document beyond it
is reported.
-/

set_option autoImplicit false

namespace Tale.Script

open Progress

structure Statement where
  file : Path
  span : Span
  item : Item
  deriving DecidableEq, Repr

def Entry.statement? : Entry → Option Statement
  | .statement file span item => some ⟨file, span, item⟩
  | _ => none

def Entry.report? : Entry → Option Diagnostic
  | .report diagnostic => some diagnostic
  | _ => none

def statementsIn (row : List Entry) : List Statement := row.filterMap Entry.statement?

theorem mem_statementsIn {row : List Entry} {statement : Statement} :
    statement ∈ statementsIn row ↔
      Entry.statement statement.file statement.span statement.item ∈ row := by
  rw [statementsIn, List.mem_filterMap]
  constructor
  · rintro ⟨entry, member, same⟩
    cases entry with
    | statement file span item =>
      cases same
      exact member
    | report | opened | closed => cases same
  · exact fun member => ⟨_, member, rfl⟩

structure Document where
  path : Path
  text : String
  deriving DecidableEq, Repr

/-- What one item of a document makes. An include line makes no statement of its own. -/
def statementsOfItem (file : Path) (item : Item × Span) : List Statement :=
  if item.1.inclusion?.isSome then [] else [⟨file, item.2, item.1⟩]

def Document.statements (document : Document) : List Statement :=
  (itemsOf document.text).flatMap (statementsOfItem document.path)

theorem Document.mem_statements {document : Document} {statement : Statement} :
    statement ∈ document.statements ↔ statement.file = document.path ∧
      (statement.item, statement.span) ∈ itemsOf document.text ∧ statement.item.inclusion? = none := by
  simp only [statements, statementsOfItem, List.mem_flatMap, List.mem_ite_nil_left, List.mem_singleton,
    Bool.not_eq_true, Option.isSome_eq_false_iff, Option.isNone_iff_eq_none]
  constructor
  · rintro ⟨item, listed, plain, rfl⟩
    exact ⟨rfl, listed, plain⟩
  · obtain ⟨file, span, item⟩ := statement
    rintro ⟨rfl, listed, plain⟩
    exact ⟨_, listed, plain, rfl⟩

def loaded (includes : Includes) (consulted : List Consultation) : List Document :=
  (loads consulted).filterMap fun path => (includes.load path).toOption.map (⟨path, ·⟩)

theorem loaded_append (includes : Includes) (first second : List Consultation) :
    loaded includes (first ++ second) = loaded includes first ++ loaded includes second := by
  simp [loaded, loads]

theorem loaded_served {includes : Includes} {path : Path} {text : String}
    (served : includes.load path = .ok text) (name : String) :
    loaded includes [.load path, .resolve name path] = [⟨path, text⟩] := by
  simp [loaded, loads, Consultation.load?, served, Except.toOption]

def documents (includes : Includes) (root : Path) (text : String) : List Document :=
  ⟨root, text⟩ :: loaded includes (readRoot includes root text).consulted

/-- Unless reading on meets an error, it reports nothing, and adds some statements with all those of the
documents that it loads on the way. -/
def Conveys (includes : Includes) (statements : List Statement) (progress last : Progress) : Prop :=
  ∃ entries asked, last.entries = entries ++ progress.entries ∧
    last.consulted = asked ++ progress.consulted ∧
    ((∀ entry ∈ entries, entry.isFailure = false) → (∀ entry ∈ entries, entry.report? = none) ∧
      (statementsIn entries).Perm
        (statements ++ (loaded includes asked).flatMap Document.statements))

namespace Conveys

variable {includes : Includes} {statements more : List Statement} {progress middle last : Progress}

theorem refl (includes : Includes) (progress : Progress) : Conveys includes [] progress progress :=
  ⟨[], [], rfl, rfl, fun _ => ⟨nofun, .refl _⟩⟩

theorem trans (first : Conveys includes statements progress middle)
    (second : Conveys includes more middle last) :
    Conveys includes (statements ++ more) progress last := by
  obtain ⟨entries, asked, grown, consulted, conveyed⟩ := first
  obtain ⟨later, askedLater, grownLater, consultedLater, conveyedLater⟩ := second
  refine ⟨later ++ entries, askedLater ++ asked, ?_, ?_, fun clean => ?_⟩
  · rw [grownLater, grown, List.append_assoc]
  · rw [consultedLater, consulted, List.append_assoc]
  · rw [List.forall_mem_append] at clean ⊢
    obtain ⟨quiet, same⟩ := conveyed clean.2
    obtain ⟨quietLater, sameLater⟩ := conveyedLater clean.1
    refine ⟨⟨quietLater, quiet⟩, ?_⟩
    rw [statementsIn, List.filterMap_append, loaded_append, List.flatMap_append]
    refine (sameLater.append same).trans ?_
    rw [List.perm_iff_count]
    intro statement
    simp only [List.count_append]
    omega

theorem failure {entry : Entry} (failed : entry.isFailure = true) (asked : List Consultation)
    (entries : last.entries = entry :: progress.entries)
    (consulted : last.consulted = asked ++ progress.consulted) :
    Conveys includes statements progress last := by
  refine ⟨[entry], asked, entries, consulted, fun clean => ?_⟩
  cases failed.symm.trans (clean entry List.mem_cons_self)

theorem begun (includes : Includes) (file : Path) (text : String) (progress : Progress) :
    Conveys includes [] progress (progress.begun file text) := by
  rw [begun_eq_reports]
  refine ⟨_, [], rfl, rfl, fun clean => ?_⟩
  -- Faults are errors, so that where there is none nothing was reported.
  have none : (faultReports file text).reverse = [] := by
    refine List.eq_nil_iff_forall_not_mem.mpr fun entry member => ?_
    obtain ⟨fault, -, rfl⟩ := List.mem_map.mp (List.mem_reverse.mp member)
    cases clean _ member
  rw [none]
  exact ⟨nofun, .refl _⟩

section Item

variable {enter : Path → String → Progress → Progress}
  (enters : ∀ (document : Document) (progress : Progress),
    Conveys includes document.statements progress (enter document.path document.text progress))
include enters

theorem readInclude (file : Path) (name : String) (span : Span) (progress : Progress) :
    Conveys includes [] progress (readInclude includes enter file name span progress) := by
  rcases readInclude_cases includes enter file name span progress with
    ⟨-, same⟩ | ⟨-, -, same⟩ | ⟨-, -, ⟨reason, refusal, same⟩ | ⟨text, served, same⟩⟩
  · rw [same]
    exact refl includes progress
  · rw [same]
    exact ⟨[], [.resolve name _], rfl, rfl, fun _ => ⟨nofun, .refl _⟩⟩
  · rw [same]
    exact failure rfl [.load _, .resolve name _] rfl rfl
  · rw [same]
    obtain ⟨entries, asked, grown, consulted, conveyed⟩ :=
      enters ⟨includes.resolve name, text⟩
        (((progress.asked includes name).visited (includes.resolve name)).meet .opened)
    refine ⟨.closed :: (entries ++ [.opened]),
      asked ++ [.load (includes.resolve name), .resolve name (includes.resolve name)], ?_, ?_,
      fun clean => ?_⟩
    · rw [List.cons_append, List.append_assoc]
      exact congrArg (Entry.closed :: ·) grown
    · rw [List.append_assoc]
      exact consulted
    · have inside : statementsIn (.closed :: (entries ++ [.opened])) = statementsIn entries := by
        rw [statementsIn, List.filterMap_cons_none rfl, List.filterMap_append]
        exact List.append_nil _
      obtain ⟨quiet, same⟩ := conveyed fun entry member =>
        clean entry (List.mem_cons_of_mem _ (List.mem_append_left _ member))
      rw [inside, loaded_append, loaded_served served, List.flatMap_append, List.nil_append,
        List.flatMap_singleton]
      refine ⟨?_, same.trans List.perm_append_comm⟩
      rw [List.forall_mem_cons, List.forall_mem_append, List.forall_mem_singleton]
      exact ⟨rfl, quiet, rfl⟩

theorem readItem (file : Path) (item : Item × Span) (progress : Progress) :
    Conveys includes (statementsOfItem file item) progress
      (readItem includes enter file progress item) := by
  obtain ⟨item, span⟩ := item
  cases item with
  | inclusion name => exact readInclude enters file name span progress
  | declaration | knot | text | divert | assignment | choice | note =>
    exact ⟨[_], [], rfl, rfl, fun _ => ⟨List.forall_mem_singleton.mpr rfl, .refl _⟩⟩

theorem foldl_readItem (file : Path) (items : List (Item × Span)) (progress : Progress) :
    Conveys includes (items.flatMap (statementsOfItem file)) progress
      (items.foldl (Script.readItem includes enter file) progress) := by
  induction items generalizing progress with
  | nil => exact refl includes progress
  | cons item rest ih => exact (readItem enters file item progress).trans (ih _)

end Item

theorem readNested (includes : Includes) (depth : Nat) (document : Document) (progress : Progress) :
    Conveys includes document.statements progress
      (readNested includes depth document.path document.text progress) := by
  induction depth generalizing document progress with
  | zero =>
    rw [readNested_eq]
    -- A document below the bound is refused with an error.
    refine (begun includes document.path document.text progress).trans
      (foldl_readItem (fun inner progress => ?_) _ _ _)
    exact failure rfl [] rfl rfl
  | succ depth ih =>
    rw [readNested_eq]
    exact (begun includes document.path document.text progress).trans (foldl_readItem ih _ _ _)

end Conveys

/-- What is read without an error is what the documents say, each statement as often as it is written,
and nothing is reported. -/
theorem statementsIn_readRoot (includes : Includes) (root : Path) (text : String)
    (clean : ∀ entry ∈ (readRoot includes root text).entries, entry.isFailure = false) :
    (∀ entry ∈ (readRoot includes root text).entries, entry.report? = none) ∧
      (statementsIn (readRoot includes root text).entries).Perm
        ((documents includes root text).flatMap Document.statements) := by
  obtain ⟨entries, asked, grown, consulted, conveyed⟩ :=
    Conveys.readNested includes includes.capacity ⟨root, text⟩ (.start root)
  have row : (readRoot includes root text).entries = entries.reverse := by
    rw [← List.append_nil entries]
    exact congrArg List.reverse grown
  have questions : (readRoot includes root text).consulted = asked.reverse := by
    rw [← List.append_nil asked]
    exact congrArg List.reverse consulted
  rw [row] at clean ⊢
  obtain ⟨quiet, same⟩ := conveyed fun entry member => clean entry (List.mem_reverse.mpr member)
  have order : (loaded includes asked.reverse).Perm (loaded includes asked) := by
    simp only [loaded, loads, List.filterMap_reverse]
    exact List.reverse_perm _
  refine ⟨fun entry member => quiet entry (List.mem_reverse.mp member), ?_⟩
  rw [documents, questions, List.flatMap_cons, statementsIn, List.filterMap_reverse]
  exact ((List.reverse_perm _).trans same).trans ((order.flatMap_right _).symm.append_left _)

theorem statement_mem_readRoot {includes : Includes} {root : Path} {text : String}
    (clean : ∀ entry ∈ (readRoot includes root text).entries, entry.isFailure = false) {file : Path}
    {span : Span} {item : Item} :
    Entry.statement file span item ∈ (readRoot includes root text).entries ↔
      ∃ document ∈ documents includes root text, file = document.path ∧
        (item, span) ∈ itemsOf document.text ∧ item.inclusion? = none := by
  have same := (statementsIn_readRoot includes root text clean).2
  have member : (⟨file, span, item⟩ : Statement) ∈ _ ↔ _ := same.mem_iff
  rw [mem_statementsIn, List.mem_flatMap] at member
  simpa only [Document.mem_statements] using member

end Tale.Script
