import Mathlib.Data.List.Nodup

/-! Results that may be errors, and what is made of many inputs if none of them gives an error. -/

set_option autoImplicit false

namespace Tale

variable {α β ε : Type}

theorem ok_of_toOption {outcome : Except ε α} {value : α} (some : outcome.toOption = some value) :
    outcome = .ok value := by
  cases outcome with
  | error error => cases some
  | ok found =>
    cases some
    rfl

theorem bind_eq_ok {first : Except ε α} {next : α → Except ε β} {result : β} :
    first >>= next = .ok result ↔ ∃ value, first = .ok value ∧ next value = .ok result := by
  cases first <;> simp [bind, Except.bind]

theorem mapError_eq_ok {δ : Type} {outcome : Except ε α} {change : ε → δ} {value : α} :
    outcome.mapError change = .ok value ↔ outcome = .ok value := by
  cases outcome <;> simp [Except.mapError]

theorem exists_of_mapM {f : α → Except ε β} {inputs : List α} {outputs : List β}
    (mapped : inputs.mapM f = .ok outputs) {output : β} (member : output ∈ outputs) :
    ∃ input ∈ inputs, f input = .ok output := by
  induction inputs generalizing outputs with
  | nil =>
    cases mapped
    cases member
  | cons input rest ih =>
    rw [List.mapM_cons] at mapped
    obtain ⟨made, first, mapped⟩ := bind_eq_ok.mp mapped
    obtain ⟨others, later, mapped⟩ := bind_eq_ok.mp mapped
    cases mapped
    rcases List.mem_cons.mp member with rfl | inside
    · exact ⟨input, List.mem_cons_self, first⟩
    · obtain ⟨source, there, same⟩ := ih later inside
      exact ⟨source, List.mem_cons_of_mem _ there, same⟩

/-- Lists that are made of different inputs, and have no member in common, are distinct when they are put
together. -/
theorem exists_mapM_flatten {make : α → Except ε (List β)} {Has : α → β → Prop}
    {inputs : List α} (distinct : inputs.Nodup)
    (apart : ∀ first second item, Has first item → Has second item → first = second)
    (made : ∀ input ∈ inputs, ∃ items, make input = .ok items ∧ items.Nodup ∧
      ∀ item, item ∈ items ↔ Has input item) :
    ∃ outputs, inputs.mapM make = .ok outputs ∧ outputs.flatten.Nodup ∧
      ∀ item, item ∈ outputs.flatten ↔ ∃ input ∈ inputs, Has input item := by
  induction inputs with
  | nil => exact ⟨[], rfl, List.nodup_nil, by simp⟩
  | cons input rest ih =>
    obtain ⟨notLater, distinctRest⟩ := List.nodup_cons.mp distinct
    obtain ⟨items, first, itemsDistinct, hasFirst⟩ := made input List.mem_cons_self
    obtain ⟨others, later, othersDistinct, hasLater⟩ :=
      ih distinctRest fun other member => made other (List.mem_cons_of_mem _ member)
    refine ⟨items :: others, ?_, ?_, fun item => ?_⟩
    · rw [List.mapM_cons, first, later]
      rfl
    · refine List.nodup_append.mpr ⟨itemsDistinct, othersDistinct, ?_⟩
      rintro item here _ there rfl
      obtain ⟨other, member, has⟩ := (hasLater item).mp there
      cases apart input other item ((hasFirst item).mp here) has
      exact notLater member
    · rw [List.flatten_cons, List.mem_append, hasFirst, hasLater, List.exists_mem_cons_iff]

end Tale
