import Mathlib.Data.List.TakeWhile
import Tale.Proofs.Except
import Tale.Proofs.Script.Placement
import Tale.Proofs.Script.Reading
import Tale.Proofs.Text

/-! Splicing included documents into the text that includes them.

The lines of a document before its first knot line take the place of the include line that opens it
first; the others, from the knot line on, go to the end of the whole text. Lines that include nothing new
are dropped. The result is one text without include lines.
-/

set_option autoImplicit false

namespace Tale.Script

open Text

/-! ## Lines -/

def readLine (line : List Char) : Except Fault (List Item) :=
  match Token.ofLine? line with
  | none => .ok []
  | some (token, _) => Item.ofToken token

def includeName? (line : List Char) : Option String :=
  match readLine line with
  | .ok [.inclusion name] => some name
  | _ => none

def isKnotLine (line : List Char) : Bool :=
  match Token.ofLine? line with
  | some (.heading _, _) => true
  | _ => false

/-- The lines before the first knot line. -/
def leadOf (lines : List (List Char)) : List (List Char) :=
  lines.takeWhile fun line => !isKnotLine line

def restOf (lines : List (List Char)) : List (List Char) :=
  lines.dropWhile fun line => !isKnotLine line

def Readable (line : List Char) : Prop := ∃ items, readLine line = .ok items

def lineItems (line : List Char) : List Item := (readLine line).toOption.getD []

def itemsOfLines (lines : List (List Char)) : List Item := lines.flatMap lineItems

/-! ## Flattening -/

/-- What include lines have led to so far. -/
structure Met where
  names : List String
  paths : List Path

/-- What becomes of some lines: those that stay in their place, and those for the end of the text. -/
@[ext]
structure Spread where
  here : List (List Char)
  later : List (List Char)

namespace Spread

def nothing : Spread := ⟨[], []⟩

instance : Append Spread := ⟨fun first second =>
  ⟨first.here ++ second.here, first.later ++ second.later⟩⟩

@[simp] theorem append_here (first second : Spread) :
    (first ++ second).here = first.here ++ second.here := rfl

@[simp] theorem append_later (first second : Spread) :
    (first ++ second).later = first.later ++ second.later := rfl

theorem append_assoc (first second third : Spread) :
    first ++ second ++ third = first ++ (second ++ third) := by
  ext1 <;> simp

def cut (document : Spread) : Spread where
  here := leadOf document.here
  later := restOf document.here ++ document.later

end Spread

abbrev Flattener := List (List Char) → Met → Spread × Met

def flattenLine (includes : Includes) (enter : Flattener) (line : List Char) (met : Met) :
    Spread × Met :=
  match includeName? line with
  | none => (⟨[line], []⟩, met)
  | some name =>
    if met.names.contains name then (.nothing, met)
    else
      let path := includes.resolve name
      if met.paths.any path.same then (.nothing, ⟨name :: met.names, met.paths⟩)
      else
        match includes.load path with
        | .ok text => enter (linesOf text) ⟨name :: met.names, path :: met.paths⟩
        | .error _ => (.nothing, ⟨name :: met.names, path :: met.paths⟩)

def flattenLines (includes : Includes) (enter : Flattener) : Flattener
  | [], met => (.nothing, met)
  | line :: rest, met =>
    let first := flattenLine includes enter line met
    let others := flattenLines includes enter rest first.2
    (first.1 ++ others.1, others.2)

/-- The lines before the first knot line stay, and what they lead to goes behind the other lines. -/
def flattenDocument (includes : Includes) (enter : Flattener) : Flattener := fun lines met =>
  let lead := flattenLines includes enter (leadOf lines) met
  let rest := flattenLines includes enter (restOf lines) lead.2
  (⟨lead.1.here, rest.1.here ++ lead.1.later ++ rest.1.later⟩, rest.2)

def flattenNested (includes : Includes) : Nat → Flattener
  | 0 => fun _ met => (.nothing, met)
  | depth + 1 => flattenDocument includes (flattenNested includes depth)

def flattenRoot (includes : Includes) (root : Path) (text : String) : List (List Char) :=
  let spread := (flattenLines includes (flattenNested includes includes.capacity) (linesOf text)
    ⟨[], [root]⟩).1
  spread.here ++ spread.later

def flattened (includes : Includes) (root : Path) (text : String) : String :=
  textOf (flattenRoot includes root text)

/-! ## What lines say -/

def Item.IsPlain (item : Item) : Prop := item.inclusion? = none ∧ item.heading? = none

theorem single_of_bind {α : Type} {value : Except Fault α} {image : α → Item} {items : List Item}
    (read : (value >>= fun result => .ok [image result]) = .ok items) :
    ∃ result, items = [image result] := by
  cases value with
  | error fault => cases read
  | ok result =>
    cases read
    exact ⟨result, rfl⟩

theorem isPlain_of_readText {text : List Char} {items : List Item}
    (read : readText text = .ok items) : ∀ item ∈ items, item.IsPlain := by
  unfold readText at read
  split at read
  · cases read
    simp [Item.IsPlain, Item.inclusion?, Item.heading?]
  · next before after cut =>
    obtain ⟨name, -, read⟩ := bind_eq_ok.mp read
    cases read
    split <;> simp [Item.IsPlain, Item.inclusion?, Item.heading?]

/-- A token says what it is marked as: only include lines include, and only knot lines begin knots. -/
theorem ofToken_cases {token : Token} {items : List Item} (read : Item.ofToken token = .ok items) :
    (∃ name, token = .inclusion name ∧ items = [.inclusion name]) ∨
      (∃ name text, token = .heading text ∧ items = [.knot name]) ∨
      (∀ text, token ≠ .heading text) ∧ ∀ item ∈ items, item.IsPlain := by
  have plain {item : Item} (same : items = [item]) (isPlain : item.IsPlain) :
      ∀ item ∈ items, item.IsPlain := by simpa [same] using isPlain
  cases token with
  | inclusion name =>
    simp only [Item.ofToken] at read
    split at read
    · cases read
    · cases read
      exact .inl ⟨name, rfl, rfl⟩
  | heading text =>
    obtain ⟨name, same⟩ := single_of_bind read
    exact .inr (.inl ⟨name, text, rfl, same⟩)
  | declaration | assignment | divert | choice =>
    obtain ⟨_, same⟩ := single_of_bind read
    exact .inr (.inr ⟨nofun, plain same ⟨rfl, rfl⟩⟩)
  | note words =>
    cases read
    exact .inr (.inr ⟨nofun, plain rfl ⟨rfl, rfl⟩⟩)
  | text words => exact .inr (.inr ⟨nofun, isPlain_of_readText read⟩)

theorem leadOf_append_restOf (lines : List (List Char)) : leadOf lines ++ restOf lines = lines :=
  List.takeWhile_append_dropWhile

theorem leadOf_subset (lines : List (List Char)) : leadOf lines ⊆ lines :=
  (List.takeWhile_sublist _).subset

theorem restOf_subset (lines : List (List Char)) : restOf lines ⊆ lines :=
  (List.dropWhile_sublist _).subset

theorem not_knotLine_of_mem_leadOf {lines : List (List Char)} {line : List Char}
    (member : line ∈ leadOf lines) : isKnotLine line = false := by
  have all := List.mem_takeWhile_imp member
  simpa using all

theorem restOf_cases (lines : List (List Char)) :
    restOf lines = [] ∨ ∃ line more, restOf lines = line :: more ∧ isKnotLine line = true := by
  have first := List.head?_dropWhile_not (fun line => !isKnotLine line) lines
  rw [← restOf] at first
  cases rest : restOf lines with
  | nil => exact .inl rfl
  | cons line more =>
    refine .inr ⟨line, more, rfl, ?_⟩
    simpa [rest] using first

section Line

variable {line : List Char}

theorem lineItems_of_include {name : String} (named : includeName? line = some name) :
    lineItems line = [.inclusion name] ∧ Readable line := by
  unfold includeName? at named
  split at named
  · next other read =>
    cases named
    exact ⟨by rw [lineItems, read]; rfl, _, read⟩
  · cases named

theorem line_cases (line : List Char) :
    (∃ name, includeName? line = some name ∧ isKnotLine line = false) ∨
      (includeName? line = none ∧ isKnotLine line = true ∧
        (Readable line → ∃ name, lineItems line = [.knot name])) ∨
      (includeName? line = none ∧ isKnotLine line = false ∧
        ∀ item ∈ lineItems line, item.IsPlain) := by
  unfold includeName? lineItems Readable readLine isKnotLine
  cases Token.ofLine? line with
  | none => exact .inr (.inr ⟨rfl, rfl, fun item member => nomatch member⟩)
  | some found =>
    obtain ⟨token, span⟩ := found
    cases read : Item.ofToken token with
    | error fault =>
      cases token with
      | heading text => exact .inr (.inl ⟨by simp [read], rfl, by simp [read]⟩)
      | inclusion | declaration | divert | assignment | choice | note | text =>
        exact .inr (.inr ⟨by simp [read], rfl, by simp [read, Except.toOption]⟩)
    | ok items =>
      rcases ofToken_cases read with ⟨name, rfl, rfl⟩ | ⟨name, text, rfl, rfl⟩ | ⟨headless, plain⟩
      · exact .inl ⟨name, by simp [read], rfl⟩
      · exact .inr (.inl ⟨by simp [read], rfl, fun _ => ⟨name, by simp [read, Except.toOption]⟩⟩)
      · refine .inr (.inr ⟨?_, ?_, by simpa [read, Except.toOption] using plain⟩)
        · simp only [read]
          split
          · next name same =>
            cases same
            cases (plain _ List.mem_cons_self).1
          · rfl
        · cases token with
          | heading text => exact absurd rfl (headless text)
          | inclusion | declaration | divert | assignment | choice | note | text => rfl

theorem inclusion?_of_not_include (unnamed : includeName? line = none) :
    ∀ item ∈ lineItems line, item.inclusion? = none := by
  rcases line_cases line with ⟨name, named, -⟩ | ⟨-, -, knot⟩ | ⟨-, -, plain⟩
  · cases unnamed.symm.trans named
  · intro item member
    have readable : Readable line := by
      cases read : readLine line with
      | ok items => exact ⟨items, read⟩
      | error fault => simp [lineItems, read, Except.toOption] at member
    obtain ⟨name, same⟩ := knot readable
    rw [same, List.mem_singleton] at member
    cases member
    rfl
  · exact fun item member => (plain item member).1

theorem headings_of_not_knotLine (other : isKnotLine line = false) :
    headings (lineItems line) = [] := by
  rcases line_cases line with ⟨name, named, -⟩ | ⟨-, knot, -⟩ | ⟨-, -, plain⟩
  · rw [(lineItems_of_include named).1]
    rfl
  · cases other.symm.trans knot
  · exact List.filterMap_eq_nil_iff.mpr fun item member => (plain item member).2

theorem not_include_of_knotLine (knot : isKnotLine line = true) : includeName? line = none := by
  rcases line_cases line with ⟨name, -, other⟩ | ⟨unnamed, -⟩ | ⟨unnamed, -⟩
  · cases knot.symm.trans other
  · exact unnamed
  · exact unnamed

theorem lineItems_of_knotLine (knot : isKnotLine line = true) (readable : Readable line) :
    ∃ name, lineItems line = [.knot name] := by
  rcases line_cases line with ⟨name, -, other⟩ | ⟨-, -, named⟩ | ⟨-, other, -⟩
  · cases knot.symm.trans other
  · exact named readable
  · cases knot.symm.trans other

end Line

/-! ## What flattening leaves -/

/-- What holds of all lines that stay, and of all lines for the end. -/
def Spread.Satisfies (stays goes : List Char → Prop) (spread : Spread) : Prop :=
  (∀ line ∈ spread.here, stays line) ∧ ∀ line ∈ spread.later, goes line

section Flatten

variable (includes : Includes) {enter : Flattener} {stays goes : List Char → Prop}

theorem Spread.Satisfies.append {first second : Spread} (left : first.Satisfies stays goes)
    (right : second.Satisfies stays goes) : (first ++ second).Satisfies stays goes :=
  ⟨List.forall_mem_append.mpr ⟨left.1, right.1⟩, List.forall_mem_append.mpr ⟨left.2, right.2⟩⟩

theorem Spread.satisfies_nothing : Spread.nothing.Satisfies stays goes := ⟨nofun, nofun⟩

theorem flattenLine_satisfies (enters : ∀ text met, (enter (linesOf text) met).1.Satisfies stays goes)
    {line : List Char} (own : includeName? line = none → stays line) (met : Met) :
    (flattenLine includes enter line met).1.Satisfies stays goes := by
  unfold flattenLine
  split
  · next unnamed => exact ⟨fun other member => List.mem_singleton.mp member ▸ own unnamed, nofun⟩
  · split
    · exact Spread.satisfies_nothing
    · dsimp only
      split
      · exact Spread.satisfies_nothing
      · split
        · exact enters _ _
        · exact Spread.satisfies_nothing

theorem flattenLines_satisfies
    (enters : ∀ text met, (enter (linesOf text) met).1.Satisfies stays goes)
    {lines : List (List Char)} (own : ∀ line ∈ lines, includeName? line = none → stays line)
    (met : Met) : (flattenLines includes enter lines met).1.Satisfies stays goes := by
  induction lines generalizing met with
  | nil => exact Spread.satisfies_nothing
  | cons line rest ih =>
    exact (flattenLine_satisfies includes enters (own line List.mem_cons_self) met).append
      (ih (fun other member => own other (List.mem_cons_of_mem _ member)) _)

section Include

variable {line : List Char} {name : String} (named : includeName? line = some name) {met : Met}
include named

theorem flattenLine_repeated (old : name ∈ met.names) :
    flattenLine includes enter line met = (.nothing, met) := by
  simp [flattenLine, named, old]

theorem flattenLine_passed (new : name ∉ met.names)
    (old : met.paths.any (includes.resolve name).same = true) :
    flattenLine includes enter line met = (.nothing, ⟨name :: met.names, met.paths⟩) := by
  simp only [flattenLine, named, List.contains_iff_mem, if_neg new, if_pos old]

theorem flattenLine_entered (new : name ∉ met.names)
    (unopened : met.paths.any (includes.resolve name).same = false) {text : String}
    (loaded : includes.load (includes.resolve name) = .ok text) :
    flattenLine includes enter line met =
      enter (linesOf text) ⟨name :: met.names, includes.resolve name :: met.paths⟩ := by
  simp [flattenLine, named, new, unopened, loaded]

end Include

theorem flattenLines_append (enter : Flattener) (first second : List (List Char)) (met : Met) :
    flattenLines includes enter (first ++ second) met =
      let before := flattenLines includes enter first met
      let after := flattenLines includes enter second before.2
      (before.1 ++ after.1, after.2) := by
  induction first generalizing met with
  | nil => rfl
  | cons line rest ih =>
    simp only [List.cons_append, flattenLines, ih, Spread.append_assoc]

/-- An included document puts no knot line where it is included. -/
theorem flattenNested_leading (depth : Nat) (lines : List (List Char)) (met : Met) :
    ∀ line ∈ (flattenNested includes depth lines met).1.here, isKnotLine line = false := by
  induction depth generalizing lines met with
  | zero => exact nofun
  | succ depth ih =>
    have enters (text : String) (met : Met) :
        (flattenNested includes depth (linesOf text) met).1.Satisfies (isKnotLine · = false)
          fun _ => True := ⟨ih _ met, fun _ _ => trivial⟩
    exact (flattenLines_satisfies includes enters
      (fun line member _ => not_knotLine_of_mem_leadOf member) met).1

/-- It makes no difference whether a document is cut before it is flattened or after. -/
theorem flattenDocument_eq_cut
    (leading : ∀ lines met, ∀ line ∈ (enter lines met).1.here, isKnotLine line = false)
    (lines : List (List Char)) (met : Met) :
    flattenDocument includes enter lines met =
      ((flattenLines includes enter lines met).1.cut, (flattenLines includes enter lines met).2) := by
  have enters (text : String) (met : Met) : (enter (linesOf text) met).1.Satisfies
      (isKnotLine · = false) fun _ => True := ⟨leading _ met, fun _ _ => trivial⟩
  have whole := flattenLines_append includes enter (leadOf lines) (restOf lines) met
  rw [leadOf_append_restOf] at whole
  rw [whole, flattenDocument]
  dsimp only
  generalize leads : flattenLines includes enter (leadOf lines) met = lead
  generalize ends : flattenLines includes enter (restOf lines) lead.2 = rest
  have free : ∀ line ∈ lead.1.here, (!isKnotLine line) = true := by
    have all := (flattenLines_satisfies includes enters
      (fun line (member : line ∈ leadOf lines) _ => not_knotLine_of_mem_leadOf member) met).1
    rw [leads] at all
    simpa using all
  have bound : leadOf rest.1.here = [] ∧ restOf rest.1.here = rest.1.here := by
    rcases restOf_cases lines with none | ⟨line, more, same, knot⟩
    · rw [none] at ends
      rw [← ends]
      exact ⟨rfl, rfl⟩
    · have stays : rest.1.here = line :: (flattenLines includes enter more lead.2).1.here := by
        rw [← ends, same, flattenLines, flattenLine, not_include_of_knotLine knot]
        rfl
      simp [stays, leadOf, restOf, knot]
  have first : leadOf (lead.1.here ++ rest.1.here) = lead.1.here := by
    rw [leadOf, List.takeWhile_append_of_pos free, ← leadOf, bound.1, List.append_nil]
  have second : restOf (lead.1.here ++ rest.1.here) = rest.1.here := by
    rw [restOf, List.dropWhile_append_of_pos free, ← restOf, bound.2]
  simp only [Spread.cut, Spread.append_here, Spread.append_later, first, second, List.append_assoc]

end Flatten

/-- No line of a flattened root includes anything, and none holds the end of a line. -/
theorem flattenRoot_lines (includes : Includes) (root : Path) (text : String) :
    ∀ line ∈ flattenRoot includes root text, includeName? line = none ∧ '\n' ∉ line := by
  have own (text : String) : ∀ line ∈ linesOf text, includeName? line = none →
      includeName? line = none ∧ '\n' ∉ line :=
    fun line member unnamed => ⟨unnamed, not_mem_of_mem_splitOn _ line member⟩
  have nested (depth : Nat) (text : String) (met : Met) :
      (flattenNested includes depth (linesOf text) met).1.Satisfies
        (fun line => includeName? line = none ∧ '\n' ∉ line)
        (fun line => includeName? line = none ∧ '\n' ∉ line) := by
    induction depth generalizing text met with
    | zero => exact Spread.satisfies_nothing
    | succ depth ih =>
      have lead := flattenLines_satisfies includes ih (fun line member => own text line
        (leadOf_subset _ member)) met
      have rest := flattenLines_satisfies includes ih (fun line member => own text line
        (restOf_subset _ member))
        (flattenLines includes (flattenNested includes depth) (leadOf (linesOf text)) met).2
      exact ⟨lead.1, List.forall_mem_append.mpr
        ⟨List.forall_mem_append.mpr ⟨rest.1, lead.2⟩, rest.2⟩⟩
  have all := flattenLines_satisfies includes (nested includes.capacity) (own text) ⟨[], [root]⟩
  exact List.forall_mem_append.mpr all

end Tale.Script
