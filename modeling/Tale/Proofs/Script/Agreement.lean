import Mathlib.Data.List.Forall2
import Tale.Proofs.Script.Closure

/-! Reading one root under two sets of include rules.

A pass sees the outside through the answers to what it asks and through nothing else. Where two sets
of rules give the same texts for the documents that a pass asks for, and fail for the same ones, it
meets the same entries but for the reasons of the failures, and makes the same story of them.
-/

set_option autoImplicit false

namespace Tale.Script

/-- A way in which diagnostics may be worded differently: each stays as serious as it was. -/
class Rewording (alike : Diagnostic → Diagnostic → Prop) : Prop extends Std.Refl alike where
  severity : ∀ {first second : Diagnostic}, alike first second →
    first.isError = second.isError

inductive Entry.Alike (alike : Diagnostic → Diagnostic → Prop) : Entry → Entry → Prop where
  | report {first second : Diagnostic} (reworded : alike first second) :
      Entry.Alike alike (.report first) (.report second)
  | same (entry : Entry) : Entry.Alike alike entry entry

inductive Includes.AnswersAlike (alike : Diagnostic → Diagnostic → Prop) (first second : Includes)
    (path : Path) : Prop where
  | loaded {text : String} (here : first.load path = .ok text) (there : second.load path = .ok text)
  | refused {reason other : String} (here : first.load path = .error reason)
      (there : second.load path = .error other)
      (reworded : ∀ file span, alike ((Finding.unreadableInclude path reason).inFile file span)
        ((Finding.unreadableInclude path other).inFile file span))

variable {alike : Diagnostic → Diagnostic → Prop}

structure Progress.Alike (alike : Diagnostic → Diagnostic → Prop) (first second : Progress) :
    Prop where
  names : first.names = second.names
  paths : first.paths = second.paths
  consulted : first.consulted = second.consulted
  entries : List.Forall₂ (Entry.Alike alike) first.entries second.entries

namespace Progress.Alike

variable {progress other : Progress}

theorem refl (progress : Progress) : progress.Alike alike progress :=
  ⟨rfl, rfl, rfl, List.forall₂_same.mpr fun entry _ => .same entry⟩

theorem meet {entry otherEntry : Entry} (both : progress.Alike alike other)
    (entries : entry.Alike alike otherEntry) :
    (progress.meet entry).Alike alike (other.meet otherEntry) :=
  ⟨both.names, both.paths, both.consulted, .cons entries both.entries⟩

theorem asked {first second : Includes} {name : String} (both : progress.Alike alike other)
    (resolve : first.resolve name = second.resolve name) :
    (progress.asked first name).Alike alike (other.asked second name) :=
  ⟨congrArg (name :: ·) both.names, both.paths,
    congrArg₂ List.cons (congrArg (Consultation.resolve name) resolve) both.consulted, both.entries⟩

theorem visited (both : progress.Alike alike other) (path : Path) :
    (progress.visited path).Alike alike (other.visited path) :=
  ⟨both.names, congrArg (path :: ·) both.paths,
    congrArg (Consultation.load path :: ·) both.consulted, both.entries⟩

theorem begun (both : progress.Alike alike other) (file : Path) (text : String) :
    (progress.begun file text).Alike alike (other.begun file text) := by
  unfold Progress.begun
  induction readFaults (tokens text.toList) generalizing progress other with
  | nil => exact both
  | cons fault rest ih => exact ih (both.meet (.same _))

end Progress.Alike

/-- Reading goes the same way under rules that answer its questions alike. -/
theorem Reads.transfer {first second : Includes} {file : Path} {items : List (Item × Span)}
    {progress last other : Progress} (resolve : first.resolve = second.resolve)
    (reads : Reads first file items progress last)
    (answers : ∀ path, .load path ∈ last.consulted → first.AnswersAlike alike second path)
    (both : progress.Alike alike other) :
    ∃ reached, Reads second file items other reached ∧ last.Alike alike reached := by
  induction reads generalizing other with
  | done => exact ⟨other, .done, both⟩
  | statement plain onward ih =>
    obtain ⟨reached, onward, alike⟩ := ih answers (both.meet (.same _))
    exact ⟨reached, .statement plain onward, alike⟩
  | repeated old onward ih =>
    obtain ⟨reached, onward, alike⟩ := ih answers both
    exact ⟨reached, .repeated (both.names ▸ old) onward, alike⟩
  | @passed file name span rest progress last new old onward ih =>
    have path := congrFun resolve name
    obtain ⟨reached, onward, alike⟩ := ih answers (both.asked path)
    refine ⟨reached, .passed (both.names ▸ new) ?_ onward, alike⟩
    rwa [Progress.knows, ← path, ← both.paths]
  | @refused file name reason span rest progress last new unopened refusal onward ih =>
    have path := congrFun resolve name
    have asks := onward.grows.2.2.subset List.mem_cons_self
    have unopenedToo : other.knows (second.resolve name) = false := by
      rwa [Progress.knows, ← path, ← both.paths]
    cases answers _ asks with
    | loaded here there => cases refusal.symm.trans here
    | @refused _ otherReason here there reworded =>
      cases refusal.symm.trans here
      obtain ⟨reached, onward, alike⟩ := ih answers
        (((both.asked path).visited (first.resolve name)).meet (.report (reworded file span)))
      refine ⟨reached, .refused (both.names ▸ new) unopenedToo (path ▸ there) ?_, alike⟩
      rwa [← path]
  | @entered file name text span rest progress middle last new unopened loaded inner onward within
      ih =>
    have path := congrFun resolve name
    have asks := inner.grows.2.2
    rw [Progress.begun_consulted] at asks
    -- What the inner document asks for is asked for in the end, so it is answered alike.
    have earlier {path : Path} (member : .load path ∈ middle.consulted) :=
      answers path (onward.grows.2.2.subset member)
    have unopenedToo : other.knows (second.resolve name) = false := by
      rwa [Progress.knows, ← path, ← both.paths]
    cases earlier (asks.subset List.mem_cons_self) with
    | refused here there => cases loaded.symm.trans here
    | loaded here there =>
      cases loaded.symm.trans here
      obtain ⟨center, inner, alikeCenter⟩ := within (fun _ => earlier)
        ((((both.asked path).visited (first.resolve name)).meet (.same .opened)).begun _ _)
      obtain ⟨reached, onward, alike⟩ := ih answers (alikeCenter.meet (.same .closed))
      refine ⟨reached, .entered (both.names ▸ new) unopenedToo (path ▸ there) ?_ onward, alike⟩
      rwa [← path]

namespace Draft

def withDiagnostics (draft : Draft) (diagnostics : List Diagnostic) : Draft :=
  { draft with diagnostics := diagnostics }

/-- A step of an assembly that adds to the diagnostics without looking at those that are there. -/
def Blind (step : Draft → Draft) : Prop :=
  ∀ draft, ∃ new, ∀ earlier,
    step (draft.withDiagnostics earlier) = (step draft).withDiagnostics (new ++ earlier)

theorem Blind.comp {first second : Draft → Draft} (before : Blind first) (after : Blind second) :
    Blind fun draft => second (first draft) := by
  intro draft
  obtain ⟨new, moved⟩ := before draft
  obtain ⟨newer, movedOn⟩ := after (first draft)
  refine ⟨newer ++ new, fun earlier => ?_⟩
  simp only [moved, movedOn, List.append_assoc]

theorem blind_declare (file : Path) (span : Span) (name : String) (value : Value) :
    Blind fun draft => draft.declare file span name value := by
  intro draft
  by_cases known : draft.globals.contains name
  · refine ⟨[(Finding.redeclaredVariable name).inFile file span], fun earlier => ?_⟩
    simp [declare, report, withDiagnostics, known]
  · refine ⟨[], fun earlier => ?_⟩
    simp [declare, withDiagnostics, known]

theorem blind_beginKnot (file : Path) (span : Span) (name : String) :
    Blind fun draft => draft.beginKnot file span name := by
  intro draft
  by_cases known : draft.knots.contains name
  · refine ⟨[(Finding.redefinedKnot name).inFile file span], fun earlier => ?_⟩
    simp [beginKnot, report, withDiagnostics, known]
  · refine ⟨[], fun earlier => ?_⟩
    simp [beginKnot, withDiagnostics, known]

theorem blind_mention (file : Path) (span : Span) (target : Target) :
    Blind fun draft => draft.mention file span target := by
  intro draft
  cases target <;> exact ⟨[], fun earlier => rfl⟩

theorem steps_withDiagnostics (draft : Draft) (diagnostics : List Diagnostic) :
    (draft.withDiagnostics diagnostics).steps = draft.steps := rfl

theorem blind_addStep (file : Path) (span : Span) (step : Step) :
    Blind fun draft => draft.addStep file span step := by
  intro draft
  unfold addStep
  simp only [steps_withDiagnostics]
  split
  · exact ⟨[Finding.unreachable.inFile file span], fun earlier => rfl⟩
  · exact ⟨[], fun earlier => rfl⟩

theorem blind_addChoice (line : ChoiceLine) : Blind fun draft => draft.addChoice line := by
  intro draft
  unfold addChoice
  simp only [steps_withDiagnostics]
  split
  · exact ⟨[], fun earlier => rfl⟩
  · exact ⟨[], fun earlier => rfl⟩

theorem blind_state (file : Path) (span : Span) (item : Item) :
    Blind fun draft => draft.state file span item := by
  cases item with
  | inclusion name => exact fun draft => ⟨[], fun earlier => rfl⟩
  | declaration name value => exact blind_declare file span name value
  | knot name => exact blind_beginKnot file span name
  | text words => exact blind_addStep file span (.text words)
  | divert name =>
    exact (blind_mention file span (target name)).comp (blind_addStep file span (.divert (target name)))
  | assignment name value => exact blind_addStep file span (.set name value)
  | choice line =>
    exact (blind_mention file span (target line.target)).comp (blind_addChoice line)
  | note words => exact fun draft => ⟨[(Finding.note words).inFile file span], fun earlier => rfl⟩

def Alike (alike : Diagnostic → Diagnostic → Prop) (first second : Draft) : Prop :=
  ∃ diagnostics, second = first.withDiagnostics diagnostics ∧
    List.Forall₂ alike first.diagnostics diagnostics

theorem take_alike [Rewording alike] {first second : Draft} {entry other : Entry}
    (drafts : first.Alike alike second) (entries : entry.Alike alike other) :
    (first.take entry).Alike alike (second.take other) := by
  obtain ⟨diagnostics, rfl, related⟩ := drafts
  cases entries with
  | report reworded => exact ⟨_ :: diagnostics, rfl, .cons reworded related⟩
  | same =>
    cases entry with
    | report diagnostic =>
      exact ⟨diagnostic :: diagnostics, rfl, .cons (Std.Refl.refl diagnostic) related⟩
    | statement file span item =>
      obtain ⟨new, moved⟩ := blind_state file span item first
      refine ⟨new ++ diagnostics, moved diagnostics, ?_⟩
      have here := congrArg Draft.diagnostics (moved first.diagnostics)
      change (first.state file span item).diagnostics = new ++ first.diagnostics at here
      change List.Forall₂ alike (first.state file span item).diagnostics _
      rw [here]
      exact List.rel_append (List.forall₂_refl new) related
    | opened => exact ⟨diagnostics, rfl, related⟩
    | closed =>
      unfold take
      simp only [withDiagnostics]
      split
      · exact ⟨diagnostics, rfl, related⟩
      · exact ⟨diagnostics, rfl, related⟩

theorem findings_alike [Rewording alike] {first second : Draft}
    (drafts : first.Alike alike second) :
    List.Forall₂ alike first.findings second.findings := by
  obtain ⟨diagnostics, rfl, related⟩ := drafts
  exact List.rel_append (List.rel_append (List.rel_reverse related) (List.forall₂_refl _))
    (List.forall₂_refl _)

end Draft

theorem assemble_alike [Rewording alike] {first second : List Entry}
    (entries : List.Forall₂ (Entry.Alike alike) first second) :
    (assemble first).Alike alike (assemble second) := by
  have start : Draft.start.Alike alike Draft.start := ⟨[], rfl, .nil⟩
  exact List.rel_foldl (R := Entry.Alike alike)
    (fun _ _ drafts _ _ entries => Draft.take_alike drafts entries) start entries

theorem hasErrors_alike [Rewording alike] {first second : List Diagnostic}
    (diagnostics : List.Forall₂ alike first second) : hasErrors first = hasErrors second := by
  unfold hasErrors
  induction diagnostics with
  | nil => rfl
  | cons reworded rest ih => simp only [List.any_cons, Rewording.severity reworded, ih]

structure Pass.Alike (alike : Diagnostic → Diagnostic → Prop) (first second : Pass) : Prop where
  diagnostics : List.Forall₂ alike first.diagnostics second.diagnostics
  artifact : first.artifact = second.artifact
  consulted : first.consulted = second.consulted

/-- A pass depends on the outside through the answers to its questions alone. -/
theorem compile_alike [Rewording alike] {first second : Includes} {root : Path} {text : String}
    (honest : first.Honest) (honestToo : second.Honest) (resolve : first.resolve = second.resolve)
    (answers : ∀ path, .load path ∈ (compile root text first).consulted →
      first.AnswersAlike alike second path) :
    (compile root text first).Alike alike (compile root text second) := by
  obtain ⟨last, reads, result⟩ := readRoot_reads honest root text
  obtain ⟨other, readsToo, resultToo⟩ := readRoot_reads honestToo root text
  have asked (path : Path) (member : .load path ∈ last.consulted) :
      first.AnswersAlike alike second path := by
    refine answers path ?_
    simpa [compile, result] using member
  obtain ⟨reached, again, both⟩ := reads.transfer resolve asked (.refl _)
  cases readsToo.unique again
  have drafts := assemble_alike (List.rel_reverse both.entries)
  have findings := Draft.findings_alike drafts
  obtain ⟨diagnostics, same, -⟩ := drafts
  refine ⟨?_, ?_, ?_⟩
  · simpa only [compile, result, resultToo] using findings
  · simp only [compile, result, resultToo, hasErrors_alike findings]
    rw [same]
    rfl
  · simp only [compile, result, resultToo, both.consulted]

end Tale.Script
