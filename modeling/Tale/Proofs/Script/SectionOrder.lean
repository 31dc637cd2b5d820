import Tale.Proofs.Script.Inlining

/-! The order of sections.

What stands behind a knot line belongs to its knot wherever the line stands. Sections that begin with knot
lines can therefore be put in any order, with no difference to the story that is compiled, nor to whether
there is one.
-/

set_option autoImplicit false

namespace Tale.Script

open Text

/-! ## Texts and lines -/

/-- A text consists of some lines; the end of the last one may be written or not. -/
def ConsistsOf (text : String) (lines : List (List Char)) : Prop :=
  linesOf text = lines ∨ linesOf text = lines ++ [[]]

namespace ConsistsOf

variable {text : String} {lines : List (List Char)}

theorem items_eq (consists : ConsistsOf text lines) :
    itemsOfLines (linesOf text) = itemsOfLines lines := by
  rcases consists with same | same
  · rw [same]
  · rw [same, itemsOfLines_append]
    exact List.append_nil _

theorem forall_iff (consists : ConsistsOf text lines) (fits : List Char → Prop) (blank : fits []) :
    (∀ line ∈ linesOf text, fits line) ↔ ∀ line ∈ lines, fits line := by
  rcases consists with same | same
  · rw [same]
  · rw [same, List.forall_mem_append, and_iff_left (List.forall_mem_singleton.mpr blank)]

end ConsistsOf

theorem itemsOfLines_flatten (sections : List (List (List Char))) :
    itemsOfLines sections.flatten = (sections.map itemsOfLines).flatten := by
  induction sections with
  | nil => rfl
  | cons lines rest ih => rw [List.flatten_cons, itemsOfLines_append, ih, List.map_cons, List.flatten_cons]

def isSection (lines : List (List Char)) : Bool := lines.head?.any isKnotLine

theorem headed_section {lines : List (List Char)} (begun : isSection lines)
    (readable : ∀ line ∈ lines, Readable line) : Headed (itemsOfLines lines) := by
  cases lines with
  | nil => cases begun
  | cons line rest =>
    obtain ⟨name, begins⟩ := lineItems_of_knotLine begun (readable line List.mem_cons_self)
    exact .inr ⟨name, itemsOfLines rest, by rw [itemsOfLines, List.flatMap_cons, begins]; rfl⟩

/-! ## Items in any order -/

theorem Headed.flatten {sections : List (List Item)} (headed : ∀ items ∈ sections, Headed items) :
    Headed sections.flatten := by
  induction sections with
  | nil => exact .inl rfl
  | cons items rest ih =>
    rw [List.forall_mem_cons] at headed
    exact headed.1.append (ih headed.2)

theorem share_flatten {sections : List (List Item)} (headed : ∀ items ∈ sections, Headed items)
    (knot opened : String) :
    share knot opened sections.flatten = sections.flatMap (share knot opened) := by
  induction sections with
  | nil => rfl
  | cons items rest ih =>
    rw [List.forall_mem_cons] at headed
    rw [List.flatten_cons, (Headed.flatten headed.2).share_append, ih headed.2, List.flatMap_cons]

/-- Where no knot is made twice, it does not matter to any knot in which order the sections come. -/
theorem flatMap_share_perm {sections others : List (List Item)} (same : sections.Perm others)
    (headed : ∀ items ∈ sections, Headed items) {opened : String}
    (once : (opened :: headings sections.flatten).Nodup) (knot : String) :
    sections.flatMap (share knot opened) = others.flatMap (share knot opened) := by
  induction same with
  | nil => rfl
  | cons items same ih =>
    rw [List.forall_mem_cons] at headed
    rw [List.flatten_cons, headings_append] at once
    have within := once.sublist ((List.sublist_append_right _ _).cons_cons opened)
    rw [List.flatMap_cons, List.flatMap_cons, ih headed.2 within]
  | swap first second rest =>
    simp only [List.forall_mem_cons] at headed
    simp only [List.flatten_cons, headings_append, ← List.append_assoc] at once
    have within := once.sublist ((List.sublist_append_left _ _).cons_cons opened)
    have trade : share knot opened first ++ share knot opened second =
        share knot opened second ++ share knot opened first := headed.2.1.share_comm within
    simp only [List.flatMap_cons, ← List.append_assoc, trade]
  | trans same later ih ihLater =>
    have names := (same.flatten.filterMap Item.heading?).cons opened
    rw [ih headed once]
    exact ihLater (fun items member => headed items (same.mem_iff.mpr member)) (names.nodup_iff.mp once)

theorem Rearranged.of_sections {first second : List Entry} {sound : Prop} {lead : List Item}
    {sections others : List (List Item)} (same : sections.Perm others)
    (headed : sound → ∀ items ∈ sections, Headed items)
    (comes : ComesTo first sound (lead ++ sections.flatten) [])
    (comesToo : ComesTo second sound (lead ++ others.flatten) []) : Rearranged first second where
  reports := comes.reports.trans comesToo.reports.symm
  items := by
    have items := comes.items
    have itemsToo := comesToo.items
    rw [List.append_nil] at items itemsToo
    exact items.trans ((same.flatten.append_left lead).trans itemsToo.symm)
  places faultless knot := by
    have sound := comes.reports.mp faultless.reports
    have headed := headed sound
    have headedToo : ∀ items ∈ others, Headed items :=
      fun items member => headed items (same.mem_iff.mpr member)
    have once : (knotNames (lead ++ sections.flatten ++ [])).Nodup :=
      ((comes.items.filterMap _).cons _).nodup_iff.mp faultless.knotsOnce
    have onceToo : (knotNames (lead ++ others.flatten ++ [])).Nodup := by
      rw [List.append_nil] at once ⊢
      exact (((same.flatten.append_left lead).filterMap _).cons _).nodup_iff.mp once
    have within : (Artifact.rootKnot :: headings sections.flatten).Nodup := by
      rw [List.append_nil, knotNames, headings_append] at once
      exact once.sublist ((List.sublist_append_right _ _).cons_cons _)
    rw [comes.shares sound once, comesToo.shares sound onceToo,
      (Headed.flatten headed).share_append, (Headed.flatten headedToo).share_append,
      share_flatten headed, share_flatten headedToo, flatMap_share_perm same headed within]

/-! ## Texts in any order -/

/-- A text of a preamble and of sections that begin with knot lines, none of which includes anything,
compiles to the same artifact as a text with the sections in another order, or neither compiles. -/
theorem compileSource_section_order {first second : String} {preamble : List (List Char)}
    {sections others : List (List (List Char))} (begun : ∀ lines ∈ sections, isSection lines)
    (same : sections.Perm others) (consists : ConsistsOf first (preamble ++ sections.flatten))
    (consistsToo : ConsistsOf second (preamble ++ others.flatten))
    (unnamed : ∀ line ∈ linesOf first, includeName? line = none) :
    (compileSource first).artifact = (compileSource second).artifact := by
  have lines : (preamble ++ sections.flatten).Perm (preamble ++ others.flatten) :=
    same.flatten.append_left preamble
  have readable : (∀ line ∈ linesOf second, Readable line) ↔ ∀ line ∈ linesOf first, Readable line := by
    rw [consists.forall_iff Readable ⟨[], rfl⟩, consistsToo.forall_iff Readable ⟨[], rfl⟩]
    exact forall_congr' fun line => by rw [lines.mem_iff]
  have unnamedToo : ∀ line ∈ linesOf second, includeName? line = none := by
    rw [consists.forall_iff (includeName? · = none) rfl] at unnamed
    exact (consistsToo.forall_iff (includeName? · = none) rfl).mpr
      fun line member => unnamed line (lines.mem_iff.mpr member)
  have comes := readRoot_plain first unnamed
  have comesToo := readRoot_plain second unnamedToo
  rw [consists.items_eq, itemsOfLines_append, itemsOfLines_flatten] at comes
  rw [consistsToo.items_eq, itemsOfLines_append, itemsOfLines_flatten, readable] at comesToo
  rw [compileSource, compileSource, compile_artifact, compile_artifact]
  refine (Rearranged.of_sections (same.map itemsOfLines) (fun sound => ?_) comes comesToo).outcome_eq
  rw [consists.forall_iff Readable ⟨[], rfl⟩, List.forall_mem_append] at sound
  intro items member
  obtain ⟨lines, listed, rfl⟩ := List.mem_map.mp member
  refine headed_section (begun lines listed) fun line inside => sound.2 line ?_
  exact List.mem_flatten.mpr ⟨lines, listed, inside⟩

def houseText : String :=
  "-> hall\n== hall ==\n* Up -> attic\n+ Down -> cellar\n== attic ==\nVAR lamp = false\nDust. -> hall\n" ++
    "== cellar ==\n~ lamp = true\n-> hall\n"

def reorderedHouseText : String :=
  "-> hall\n== cellar ==\n~ lamp = true\n-> hall\n== hall ==\n* Up -> attic\n+ Down -> cellar\n" ++
    "== attic ==\nVAR lamp = false\nDust. -> hall"

/-- Both houses compile to one story. -/
theorem house_section_order : (compileSource houseText).artifact.isSome ∧
    (compileSource houseText).artifact = (compileSource reorderedHouseText).artifact := by
  let hall := ["== hall ==".toList, "* Up -> attic".toList, "+ Down -> cellar".toList]
  let attic := ["== attic ==".toList, "VAR lamp = false".toList, "Dust. -> hall".toList]
  let cellar := ["== cellar ==".toList, "~ lamp = true".toList, "-> hall".toList]
  have begun : ∀ lines ∈ [hall, attic, cellar], isSection lines := by decide +kernel
  have same : [hall, attic, cellar].Perm [cellar, hall, attic] := by decide +kernel
  have consists : ConsistsOf houseText (["-> hall".toList] ++ [hall, attic, cellar].flatten) :=
    .inr (by decide +kernel)
  have consistsToo : ConsistsOf reorderedHouseText (["-> hall".toList] ++ [cellar, hall, attic].flatten) :=
    .inl (by decide +kernel)
  exact ⟨by decide +kernel,
    compileSource_section_order begun same consists consistsToo (by decide +kernel)⟩

end Tale.Script
