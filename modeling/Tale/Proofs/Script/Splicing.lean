import Tale.Proofs.Script.Flattening

/-! Why splicing keeps a story.

Moving a block of lines that begins with a knot line changes the order in which statements are met, but
not the order within any knot: the block holds whole knots, and no knot is made twice. So a row of entries
and the lines that it comes to give each knot the same statements, however includes are nested.
-/

set_option autoImplicit false

namespace Tale.Script

/-! ## Items in sections -/

def lastKnot (opened : String) (items : List Item) : String :=
  items.foldl (fun knot item => item.heading?.getD knot) opened

def sectioned (opened : String) : List Item → List (String × Item)
  | [] => []
  | item :: rest =>
    (item.heading?.getD opened, item) :: sectioned (item.heading?.getD opened) rest

def share (knot opened : String) (items : List Item) : List Item :=
  itemsOfKnot knot (sectioned opened items)

/-- Items that go to knots of their own. -/
def Headed (items : List Item) : Prop := items = [] ∨ ∃ name rest, items = .knot name :: rest

theorem headings_append (first second : List Item) :
    headings (first ++ second) = headings first ++ headings second := List.filterMap_append

theorem headings_cons (item : Item) (rest : List Item) :
    headings (item :: rest) = item.heading?.toList ++ headings rest := by
  rw [headings, List.filterMap_cons]
  cases item.heading? <;> rfl

theorem share_cons (knot opened : String) (item : Item) (rest : List Item) :
    share knot opened (item :: rest) =
      (if item.heading?.getD opened = knot then [item] else []) ++
        share knot (item.heading?.getD opened) rest := by
  rw [← itemsOfKnot_singleton, share, share, ← itemsOfKnot_append]
  rfl

theorem share_append (knot opened : String) (first second : List Item) :
    share knot opened (first ++ second) =
      share knot opened first ++ share knot (lastKnot opened first) second := by
  induction first generalizing opened with
  | nil => rfl
  | cons item rest ih =>
    rw [List.cons_append, share_cons, share_cons, ih, List.append_assoc]
    rfl

theorem lastKnot_append (opened : String) (first second : List Item) :
    lastKnot opened (first ++ second) = lastKnot (lastKnot opened first) second := List.foldl_append

theorem lastKnot_of_headless {items : List Item} (headless : headings items = [])
    (opened : String) : lastKnot opened items = opened := by
  induction items with
  | nil => rfl
  | cons item rest ih =>
    rw [headings_cons, List.append_eq_nil_iff, Option.toList_eq_nil_iff] at headless
    rw [lastKnot, List.foldl_cons, headless.1]
    exact ih headless.2

theorem share_eq_nil {knot opened : String} {items : List Item} (apart : opened ≠ knot)
    (unmade : knot ∉ headings items) : share knot opened items = [] := by
  induction items generalizing opened with
  | nil => rfl
  | cons item rest ih =>
    rw [headings_cons, List.mem_append, not_or] at unmade
    have elsewhere : item.heading?.getD opened ≠ knot := by
      cases begins : item.heading? with
      | none => exact apart
      | some name =>
        rintro rfl
        exact unmade.1 (by simp [begins])
    rw [share_cons, if_neg elsewhere, ih elsewhere unmade.2]
    rfl

theorem nodup_lastKnot {opened : String} {items : List Item} {names : List String}
    (once : (opened :: (headings items ++ names)).Nodup) :
    (lastKnot opened items :: names).Nodup := by
  induction items generalizing opened with
  | nil => exact once
  | cons item rest ih =>
    refine ih (once.sublist ?_)
    rw [headings_cons]
    cases begins : item.heading? <;> simp [begins]

namespace Headed

variable {items more : List Item}

theorem append (headed : Headed items) (headedToo : Headed more) : Headed (items ++ more) := by
  rcases headed with rfl | ⟨name, rest, rfl⟩
  · exact headedToo
  · exact .inr ⟨name, rest ++ more, rfl⟩

theorem share_eq (headed : Headed items) (knot opened other : String) :
    share knot opened items = share knot other items := by
  rcases headed with rfl | ⟨name, rest, rfl⟩ <;> rfl

theorem share_eq_nil (headed : Headed items) {knot : String} (unmade : knot ∉ headings items)
    (opened : String) : share knot opened items = [] := by
  rcases headed with rfl | ⟨name, rest, rfl⟩
  · rfl
  · have apart : name ≠ knot := fun same => unmade (same ▸ List.mem_cons_self)
    change share knot name (.knot name :: rest) = []
    exact Script.share_eq_nil apart unmade

theorem share_append (headed : Headed more) (knot opened : String) (items : List Item) :
    share knot opened (items ++ more) = share knot opened items ++ share knot opened more := by
  rw [Script.share_append, headed.share_eq knot _ opened]

/-- Headed items can trade places with others if no knot is made by both. -/
theorem share_comm (headed : Headed items) {knot opened : String}
    (once : (opened :: (headings more ++ headings items)).Nodup) :
    share knot opened items ++ share knot opened more =
      share knot opened more ++ share knot opened items := by
  obtain ⟨new, once⟩ := List.nodup_cons.mp once
  rw [List.mem_append, not_or] at new
  by_cases made : knot ∈ headings items
  · have apart : opened ≠ knot := fun same => new.2 (same ▸ made)
    have unmade : knot ∉ headings more := fun member =>
      (List.nodup_append.mp once).2.2 knot member knot made rfl
    rw [Script.share_eq_nil apart unmade, List.append_nil, List.nil_append]
  · rw [headed.share_eq_nil made, List.append_nil, List.nil_append]

end Headed

theorem share_append_headless {items more : List Item} (headless : headings items = [])
    (knot opened : String) :
    share knot opened (items ++ more) = share knot opened items ++ share knot opened more := by
  rw [share_append, lastKnot_of_headless headless]

/-- The items of a document and of the lines behind its include line, in the order in which they are
met and in the order in which they are written. -/
theorem share_entered {lead rest deep goes : List Item} (headless : headings lead = [])
    (moved : Headed (rest ++ deep)) (ends : Headed deep) (last : Headed goes) (opened : String)
    (stays : List Item)
    (once : (opened :: (headings stays ++ headings (rest ++ deep))).Nodup) (knot : String) :
    (share knot opened (lead ++ rest) ++ share knot opened deep) ++
        (share knot opened stays ++ share knot opened goes) =
      share knot opened (lead ++ stays) ++ share knot opened (rest ++ deep ++ goes) := by
  have trade : share knot opened (rest ++ deep) ++ share knot opened stays =
      share knot opened stays ++ share knot opened (rest ++ deep) := moved.share_comm once
  calc
    _ = share knot opened lead ++ (share knot opened (rest ++ deep) ++ share knot opened stays) ++
          share knot opened goes := by
      rw [share_append_headless headless, ends.share_append]
      simp only [List.append_assoc]
    _ = share knot opened lead ++ (share knot opened stays ++ share knot opened (rest ++ deep)) ++
          share knot opened goes := by rw [trade]
    _ = _ := by
      rw [share_append_headless headless, last.share_append]
      simp only [List.append_assoc]

/-! ## Rows and lines -/

theorem itemsOfLines_append (first second : List (List Char)) :
    itemsOfLines (first ++ second) = itemsOfLines first ++ itemsOfLines second := List.flatMap_append

/-- The lines of a document are read to a row and flattened to a spread at the same time. The entries
of a line hold its items; a document that is entered reports what is wrong with its lines, and is cut at
its first knot line. -/
inductive Spliced : List (List Char) → List Entry → Spread → Prop where
  | done : Spliced [] [] .nothing
  | kept {line : List Char} {lines : List (List Char)} {statements row : List Entry}
      {spread : Spread} (stated : statements.map Entry.item? = (lineItems line).map some)
      (onward : Spliced lines row spread) :
      Spliced (line :: lines) (statements ++ row) (⟨[line], []⟩ ++ spread)
  | passed {line : List Char} {lines : List (List Char)} {row : List Entry} {spread : Spread}
      (readable : Readable line) (onward : Spliced lines row spread) :
      Spliced (line :: lines) row spread
  | entered {line : List Char} {lines inside : List (List Char)} {reports within row : List Entry}
      {document spread : Spread} (readable : Readable line)
      (silent : ∀ entry ∈ reports, ∃ diagnostic, entry = .report diagnostic)
      (reported : (∀ entry ∈ reports, entry.isFailure = false) ↔ ∀ line ∈ inside, Readable line)
      (inner : Spliced inside within document) (onward : Spliced lines row spread) :
      Spliced (line :: lines) (.opened :: (reports ++ within) ++ .closed :: row)
        (document.cut ++ spread)

theorem itemsIn_append (row more : List Entry) : itemsIn (row ++ more) = itemsIn row ++ itemsIn more :=
  List.filterMap_append

theorem itemsIn_stated {statements : List Entry} {items : List Item}
    (stated : statements.map Entry.item? = items.map some) : itemsIn statements = items := by
  have all : (statements.map Entry.item?).filterMap id = (items.map some).filterMap id :=
    congrArg _ stated
  simpa [itemsIn, List.filterMap_map] using all

theorem itemsIn_silent {reports : List Entry}
    (silent : ∀ entry ∈ reports, ∃ diagnostic, entry = .report diagnostic) :
    itemsIn reports = [] := by
  refine List.filterMap_eq_nil_iff.mpr fun entry member => ?_
  obtain ⟨diagnostic, rfl⟩ := silent entry member
  rfl

theorem isFailure_of_stated {statements : List Entry} {items : List Item}
    (stated : statements.map Entry.item? = items.map some) :
    ∀ entry ∈ statements, entry.isFailure = false := by
  intro entry member
  have inside := List.mem_map_of_mem (f := Entry.item?) member
  rw [stated] at inside
  obtain ⟨item, -, same⟩ := List.mem_map.mp inside
  cases entry with
  | statement file span item => rfl
  | report | opened | closed => cases same

theorem placed_stated {statements : List Entry} {items : List Item}
    (stated : statements.map Entry.item? = items.map some) (cursor : Cursor) :
    cursor.after statements = ⟨lastKnot cursor.current items, cursor.suspended⟩ ∧
      cursor.placed statements = sectioned cursor.current items := by
  induction items generalizing statements cursor with
  | nil =>
    cases List.map_eq_nil_iff.mp stated
    exact ⟨rfl, rfl⟩
  | cons item rest ih =>
    obtain ⟨entry, more, rfl, same, others⟩ := List.map_eq_cons_iff.mp stated
    have moved : cursor.move entry = ⟨item.heading?.getD cursor.current, cursor.suspended⟩ := by
      cases entry with
      | report | opened | closed => cases same
      | statement file span stated =>
        cases same
        cases item <;> rfl
    obtain ⟨after, placed⟩ := ih others (cursor.move entry)
    constructor
    · rw [Cursor.after, List.foldl_cons, ← Cursor.after, after, moved]
      rfl
    · rw [Cursor.placed, placed, Cursor.place?, same, moved]
      rfl

theorem placed_silent {reports : List Entry}
    (silent : ∀ entry ∈ reports, ∃ diagnostic, entry = .report diagnostic) (cursor : Cursor) :
    cursor.after reports = cursor ∧ cursor.placed reports = [] := by
  induction reports with
  | nil => exact ⟨rfl, rfl⟩
  | cons entry rest ih =>
    obtain ⟨diagnostic, rfl⟩ := silent entry List.mem_cons_self
    exact ih fun other member => silent other (List.mem_cons_of_mem _ member)

theorem headed_restOf {lines : List (List Char)} (readable : ∀ line ∈ restOf lines, Readable line) :
    Headed (itemsOfLines (restOf lines)) := by
  rcases restOf_cases lines with none | ⟨line, more, same, knot⟩
  · rw [none]
    exact .inl rfl
  · rw [same] at readable ⊢
    obtain ⟨name, begins⟩ := lineItems_of_knotLine knot (readable line List.mem_cons_self)
    exact .inr ⟨name, itemsOfLines more, by rw [itemsOfLines, List.flatMap_cons, begins]; rfl⟩

theorem headings_leadOf (lines : List (List Char)) :
    headings (itemsOfLines (leadOf lines)) = [] := by
  rw [headings, itemsOfLines, List.filterMap_flatMap, List.flatMap_eq_nil_iff]
  exact fun line member => headings_of_not_knotLine (not_knotLine_of_mem_leadOf member)

theorem itemsOfLines_parts (lines : List (List Char)) :
    itemsOfLines lines = itemsOfLines (leadOf lines) ++ itemsOfLines (restOf lines) := by
  rw [← itemsOfLines_append, leadOf_append_restOf]

theorem forall_parts (lines : List (List Char)) {fits : List Char → Prop} :
    (∀ line ∈ lines, fits line) ↔
      (∀ line ∈ leadOf lines, fits line) ∧ ∀ line ∈ restOf lines, fits line := by
  rw [← List.forall_mem_append, leadOf_append_restOf]

/-- A row gives each knot its items among those that stay, and then among those that go; behind it the
knot is open in which those that stay end. -/
structure Gives (cursor : Cursor) (row : List Entry) (here later : List Item) : Prop where
  after : cursor.after row = ⟨lastKnot cursor.current here, cursor.suspended⟩
  shares : ∀ knot, itemsOfKnot knot (cursor.placed row) =
    share knot cursor.current here ++ share knot cursor.current later

namespace Gives

variable {cursor : Cursor} {row : List Entry}

theorem kept {here later items : List Item} {statements : List Entry}
    (stated : statements.map Entry.item? = items.map some) (headed : Headed later)
    (onward : Gives (cursor.after statements) row here later) :
    Gives cursor (statements ++ row) (items ++ here) later := by
  obtain ⟨after, placed⟩ := placed_stated stated cursor
  constructor
  · rw [Cursor.after_append, onward.after, after, lastKnot_append]
  · intro knot
    rw [Cursor.placed_append, itemsOfKnot_append, placed, onward.shares, after, share_append,
      headed.share_eq knot (lastKnot cursor.current items) cursor.current, List.append_assoc]
    rfl

/-- A document begins in the knot that is open at its include line, which is open again behind it. -/
theorem entered {lead rest deep stays goes : List Item} (headless : headings lead = [])
    (moved : Headed (rest ++ deep)) (ends : Headed deep) (last : Headed goes)
    (once : (cursor.current :: (headings stays ++ headings (rest ++ deep))).Nodup)
    {reports within : List Entry}
    (silent : ∀ entry ∈ reports, ∃ diagnostic, entry = .report diagnostic)
    (inner : Gives (cursor.move .opened) within (lead ++ rest) deep)
    (onward : Gives cursor row stays goes) :
    Gives cursor (.opened :: (reports ++ within) ++ .closed :: row) (lead ++ stays)
      (rest ++ deep ++ goes) := by
  obtain ⟨same, none⟩ := placed_silent silent (cursor.move .opened)
  have before : cursor.after (.opened :: (reports ++ within)) =
      ⟨lastKnot cursor.current (lead ++ rest), cursor.current :: cursor.suspended⟩ := by
    change (cursor.move .opened).after (reports ++ within) = _
    rw [Cursor.after_append, same, inner.after]
    rfl
  have placed : cursor.placed (.opened :: (reports ++ within)) =
      (cursor.move .opened).placed within := by
    change (cursor.move .opened).placed (reports ++ within) = _
    rw [Cursor.placed_append, none, same, List.nil_append]
  have resumed : (cursor.after (.opened :: (reports ++ within))).move .closed = cursor := by
    rw [before]
    rfl
  constructor
  · rw [Cursor.after_append]
    change ((cursor.after (.opened :: (reports ++ within))).move .closed).after row = _
    rw [resumed, onward.after, lastKnot_append, lastKnot_of_headless headless]
  · intro knot
    rw [Cursor.placed_append, itemsOfKnot_append, placed, inner.shares]
    change _ ++ itemsOfKnot knot
      (((cursor.after (.opened :: (reports ++ within))).move .closed).placed row) = _
    rw [resumed, onward.shares]
    exact share_entered headless moved ends last cursor.current stays once knot

end Gives

namespace Spliced

variable {lines : List (List Char)} {row : List Entry} {spread : Spread}

theorem items_perm (spliced : Spliced lines row spread) :
    (itemsIn row).Perm (itemsOfLines (spread.here ++ spread.later)) := by
  induction spliced with
  | done => exact .refl _
  | passed readable onward ih => exact ih
  | @kept line lines statements row spread stated onward ih =>
    rw [itemsIn_append, itemsIn_stated stated]
    exact ih.append_left _
  | @entered line lines inside reports within row document spread readable silent reported inner onward
      ihInner ihOnward =>
    have items : itemsIn (.opened :: (reports ++ within) ++ .closed :: row) =
        itemsIn within ++ itemsIn row := by
      rw [itemsIn_append]
      change itemsIn (reports ++ within) ++ itemsIn row = _
      rw [itemsIn_append, itemsIn_silent silent, List.nil_append]
    rw [items]
    refine (ihInner.append ihOnward).trans ?_
    simp only [Spread.append_here, Spread.append_later, Spread.cut, itemsOfLines_append,
      itemsOfLines_parts document.here, List.append_assoc]
    -- Only the lines that stay behind the included ones are met later than they are written.
    refine .append_left _ ?_
    simpa only [List.append_assoc] using List.perm_append_comm_assoc
      (itemsOfLines (restOf document.here) ++ itemsOfLines document.later)
      (itemsOfLines spread.here) (itemsOfLines spread.later)

theorem readable_iff (spliced : Spliced lines row spread) :
    ((∀ line ∈ lines, Readable line) ∧ ∀ entry ∈ row, entry.isFailure = false) ↔
      ∀ line ∈ spread.here ++ spread.later, Readable line := by
  induction spliced with
  | done => simp [Spread.nothing]
  | passed readable onward ih =>
    rw [← ih, List.forall_mem_cons, and_iff_right readable]
  | kept stated onward ih =>
    have sound := isFailure_of_stated stated
    simp only [List.forall_mem_cons, List.forall_mem_append, Spread.append_here,
      Spread.append_later, List.cons_append, List.nil_append] at ih ⊢
    tauto
  | @entered line lines inside reports within row document spread readable silent reported inner onward
      ihInner ihOnward =>
    simp only [List.forall_mem_cons, List.forall_mem_append, Spread.append_here, List.cons_append,
      Spread.append_later, Spread.cut, Entry.isFailure, true_and,
      forall_parts document.here] at ihInner ihOnward ⊢
    tauto

theorem headed (spliced : Spliced lines row spread)
    (readable : ∀ line ∈ spread.later, Readable line) : Headed (itemsOfLines spread.later) := by
  induction spliced with
  | done => exact .inl rfl
  | passed _ onward ih => exact ih readable
  | kept stated onward ih => exact ih readable
  | @entered line lines inside reports within row document spread _ silent reported inner onward
      ihInner ihOnward =>
    simp only [Spread.append_later, Spread.cut, List.forall_mem_append] at readable
    obtain ⟨⟨rest, later⟩, others⟩ := readable
    simp only [Spread.append_later, Spread.cut, itemsOfLines_append]
    exact ((headed_restOf rest).append (ihInner later)).append (ihOnward others)

/-- Each knot gets its items from the lines that stay, and then those from the lines that go. -/
theorem gives (spliced : Spliced lines row spread) (cursor : Cursor)
    (readable : ∀ line ∈ spread.here ++ spread.later, Readable line)
    (once : (cursor.current :: headings (itemsOfLines (spread.here ++ spread.later))).Nodup) :
    Gives cursor row (itemsOfLines spread.here) (itemsOfLines spread.later) := by
  induction spliced generalizing cursor with
  | done => exact ⟨rfl, fun knot => rfl⟩
  | passed _ onward ih => exact ih cursor readable once
  | @kept line lines statements row spread stated onward ih =>
    have readable : ∀ line ∈ spread.here ++ spread.later, Readable line :=
      fun other member => readable other (List.mem_cons_of_mem _ member)
    have once : (cursor.current :: (headings (lineItems line) ++
        headings (itemsOfLines (spread.here ++ spread.later)))).Nodup := by
      rw [← headings_append]
      exact once
    refine .kept stated (onward.headed (List.forall_mem_append.mp readable).2) (ih _ readable ?_)
    rw [(placed_stated stated cursor).1]
    exact nodup_lastKnot once
  | @entered line lines inside reports within row document spread _ silent reported inner onward
      ihInner ihOnward =>
    simp only [Spread.append_here, Spread.append_later, Spread.cut, List.forall_mem_append]
      at readable
    obtain ⟨⟨lead, stays⟩, ⟨rest, deep⟩, goes⟩ := readable
    have moved : Headed (itemsOfLines (restOf document.here) ++ itemsOfLines document.later) :=
      (headed_restOf rest).append (inner.headed deep)
    simp only [Spread.append_here, Spread.append_later, Spread.cut, itemsOfLines_append,
      headings_append, headings_leadOf, List.nil_append] at once ⊢
    -- Both the document and the lines behind it begin in the open knot, and make fewer knots.
    have inside := ihInner (cursor.move .opened)
      (List.forall_mem_append.mpr ⟨(forall_parts _).mpr ⟨lead, rest⟩, deep⟩) (by
        refine once.sublist (.cons_cons _ ?_)
        rw [itemsOfLines_append, itemsOfLines_parts, headings_append, headings_append,
          headings_leadOf, List.nil_append]
        exact (List.sublist_append_left _ _).trans (List.sublist_append_right _ _))
    have behind := ihOnward cursor (List.forall_mem_append.mpr ⟨stays, goes⟩) (by
      refine once.sublist (.cons_cons _ ?_)
      rw [itemsOfLines_append, headings_append]
      exact .append_left (List.sublist_append_right _ _) _)
    rw [itemsOfLines_parts document.here] at inside
    refine .entered (headings_leadOf _) moved (inner.headed deep) (onward.headed goes) ?_ silent
      inside behind
    refine once.sublist (.cons_cons _ (.append_left ?_ _))
    rw [headings_append]
    exact List.sublist_append_left _ _

end Spliced

/-! ## Whole roots -/

/-- The row of a root comes to some items that stay in their place and some that go behind them, and it
has an error in a line unless all lines are sound. -/
structure ComesTo (row : List Entry) (sound : Prop) (here later : List Item) : Prop where
  reports : (∀ entry ∈ row, entry.isFailure = false) ↔ sound
  items : (itemsIn row).Perm (here ++ later)
  headed : sound → Headed later
  shares : sound → (knotNames (here ++ later)).Nodup → ∀ knot,
    itemsOfKnot knot (Cursor.start.placed row) =
      share knot Artifact.rootKnot here ++ share knot Artifact.rootKnot later

theorem Spliced.comesTo {lines : List (List Char)} {reports row : List Entry} {spread : Spread}
    (spliced : Spliced lines row spread)
    (silent : ∀ entry ∈ reports, ∃ diagnostic, entry = .report diagnostic)
    (reported : (∀ entry ∈ reports, entry.isFailure = false) ↔ ∀ line ∈ lines, Readable line) :
    ComesTo (reports ++ row) (∀ line ∈ spread.here ++ spread.later, Readable line)
      (itemsOfLines spread.here) (itemsOfLines spread.later) where
  reports := by rw [← spliced.readable_iff, List.forall_mem_append, reported]
  items := by
    rw [itemsIn_append, itemsIn_silent silent, List.nil_append, ← itemsOfLines_append]
    exact spliced.items_perm
  headed sound := spliced.headed (List.forall_mem_append.mp sound).2
  shares sound once knot := by
    obtain ⟨same, none⟩ := placed_silent silent Cursor.start
    rw [← itemsOfLines_append] at once
    rw [Cursor.placed_append, none, same, List.nil_append]
    exact (spliced.gives Cursor.start sound once).shares knot

/-- A row makes the same story as the row of the lines that it comes to. -/
theorem ComesTo.rearranged {row flat : List Entry} {sound : Prop} {here later : List Item}
    (spliced : ComesTo row sound here later) (plain : ComesTo flat sound (here ++ later) []) :
    Rearranged row flat where
  reports := spliced.reports.trans plain.reports.symm
  items := by
    have items := plain.items
    rw [List.append_nil] at items
    exact spliced.items.trans items.symm
  places faultless knot := by
    have sound := spliced.reports.mp faultless.reports
    have once : (knotNames (here ++ later)).Nodup :=
      ((spliced.items.filterMap _).cons _).nodup_iff.mp faultless.knotsOnce
    rw [spliced.shares sound once, plain.shares sound (by rwa [List.append_nil]),
      (spliced.headed sound).share_append]
    exact (List.append_nil _).symm

end Tale.Script
