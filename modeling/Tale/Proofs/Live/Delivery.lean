import Mathlib.Data.List.Chain
import Tale.Live.Delivery
import Tale.Proofs.Story.Phases

/-! What becomes of units over a whole session.

Callbacks are registered and units accepted in any order. A session is touched by transfers alone,
each of which calls the latest callback once; and a unit is a duplicate only right behind itself,
where units that failed or never came do not count.
-/

set_option autoImplicit false

namespace Tale.Live

inductive Delivery.Act (κ : Type) where
  | register (callback : κ)
  | accept (unit : Option StoryUnit)

def Delivery.Act.callback? {κ : Type} : Delivery.Act κ → Option κ
  | .register callback => some callback
  | .accept _ => none

structure Receipt (κ : Type) where
  unit : Option StoryUnit
  answer : Except StoryError Update
  calls : List (Call κ)

def Receipt.transfer? {κ : Type} (receipt : Receipt κ) : Option UnitId :=
  match receipt.answer with
  | .ok (.transferred id) => some id
  | _ => none

/-- A unit is recorded as delivered if it was transferred or if the whole session is to be loaded
anew from it, because there is no callback. -/
def Receipt.recorded? {κ : Type} (receipt : Receipt κ) : Option UnitId :=
  match receipt.answer with
  | .ok (.transferred _) | .ok (.fullReload _) => receipt.unit.map StoryUnit.id
  | _ => none

namespace Delivery

variable {κ σ : Type}

def begun : Option StoryUnit → Delivery κ
  | none => empty
  | some unit => ofUnit unit

def receipt (delivery : Delivery κ) (unit : Option StoryUnit) : Receipt κ :=
  match delivery.accept unit with
  | .ok (update, call, _) => ⟨unit, .ok update, call.toList⟩
  | .error error => ⟨unit, .error error, []⟩

def perform (delivery : Delivery κ) : Act κ → Delivery κ
  | .register callback => delivery.register callback
  | .accept unit =>
    match delivery.accept unit with
    | .ok (_, _, after) => after
    | .error _ => delivery

def receipts (delivery : Delivery κ) : List (Act κ) → List (Receipt κ)
  | [] => []
  | .register callback :: rest => (delivery.register callback).receipts rest
  | .accept unit :: rest =>
    delivery.receipt unit :: (delivery.perform (.accept unit)).receipts rest

def latest? (acts : List (Act κ)) : Option κ := (acts.filterMap Act.callback?).getLast?

def recorded? (delivery : Delivery κ) (acts : List (Act κ)) : Option UnitId :=
  ((delivery.receipts acts).filterMap Receipt.recorded?).getLast?.or delivery.lastDelivered

def transfers (delivery : Delivery κ) (acts : List (Act κ)) : List UnitId :=
  (delivery.receipts acts).filterMap Receipt.transfer?

theorem receipts_append (delivery : Delivery κ) (acts later : List (Act κ)) :
    delivery.receipts (acts ++ later) =
      delivery.receipts acts ++ (acts.foldl perform delivery).receipts later := by
  induction acts generalizing delivery with
  | nil => rfl
  | cons act rest ih =>
    cases act with
    | register callback => exact ih (delivery.register callback)
    | accept unit => simp only [List.cons_append, receipts, ih, List.foldl_cons]

/-! ## One unit -/

/-- The five ways in which a unit is dealt with: what came of it, and the state afterwards. -/
inductive Accepts (delivery : Delivery κ) : Receipt κ → Delivery κ → Prop where
  | missing : Accepts delivery ⟨none, .ok (.fullReload noUnitReason), []⟩ delivery
  | uncalled (unit : StoryUnit) (unregistered : delivery.callback = none) :
      Accepts delivery ⟨some unit, .ok (.fullReload noCallbackReason), []⟩
        { delivery with lastDelivered := some unit.id }
  | duplicate (unit : StoryUnit) {callback : κ} (registered : delivery.callback = some callback)
      (again : delivery.lastDelivered = some unit.id) :
      Accepts delivery ⟨some unit, .ok .duplicate, []⟩ delivery
  | broken (unit : StoryUnit) {callback : κ} {error : StoryError}
      (registered : delivery.callback = some callback)
      (new : delivery.lastDelivered ≠ some unit.id) (failed : unit.story = .error error) :
      Accepts delivery ⟨some unit, .error error, []⟩ delivery
  | transferred (unit : StoryUnit) {callback : κ} {story : Story}
      (registered : delivery.callback = some callback)
      (new : delivery.lastDelivered ≠ some unit.id) (made : unit.story = .ok story) :
      Accepts delivery ⟨some unit, .ok (.transferred unit.id), [⟨callback, story⟩]⟩
        { delivery with lastDelivered := some unit.id }

theorem accepts (delivery : Delivery κ) (unit : Option StoryUnit) :
    Accepts delivery (delivery.receipt unit) (delivery.perform (.accept unit)) := by
  cases unit with
  | none => exact .missing
  | some unit =>
    cases registered : delivery.callback with
    | none =>
      simp only [receipt, perform, accept, registered, Option.toList_none]
      rw [← registered]
      exact .uncalled unit registered
    | some callback =>
      by_cases again : delivery.lastDelivered = some unit.id
      · simp only [receipt, perform, accept, registered, again, if_true, Option.toList_none]
        exact .duplicate unit registered again
      · cases made : unit.story with
        | error error =>
          simp only [receipt, perform, accept, registered, again, if_false, made]
          exact .broken unit registered again made
        | ok story =>
          simp only [receipt, perform, accept, registered, again, if_false, made,
            Option.toList_some]
          rw [← registered]
          exact .transferred unit registered again made

/-! ## A whole session -/

/-- What the state of deliveries says about the acts that led to it. -/
structure Reflects (delivery begun : Delivery κ) (acts : List (Act κ)) : Prop where
  callback : delivery.callback = latest? acts
  recorded : delivery.lastDelivered = begun.recorded? acts
  -- Behind a transfer nothing else is recorded: the callback stays, so no unit goes without one.
  transferred : ∀ id, (begun.transfers acts).getLast? = some id →
    delivery.callback.isSome ∧ delivery.lastDelivered = some id
  apart : (begun.transfers acts).IsChain (· ≠ ·)

theorem begun_reflects (initial : Option StoryUnit) :
    Reflects (begun initial) (begun initial : Delivery κ) [] where
  callback := by cases initial <;> rfl
  recorded := rfl
  transferred id last := by cases last
  apart := .nil

section Step

variable {delivery begun : Delivery κ} {acts : List (Act κ)}

theorem Reflects.register (reflects : Reflects delivery begun acts) (callback : κ) :
    Reflects (delivery.register callback) begun (acts ++ [.register callback]) := by
  have receipts : begun.receipts (acts ++ [.register callback]) = begun.receipts acts := by
    rw [receipts_append]
    exact List.append_nil _
  refine ⟨?_, ?_, ?_, ?_⟩
  · simp [latest?, Delivery.register, Act.callback?]
  · rw [recorded?, receipts]
    exact reflects.recorded
  · intro id last
    rw [transfers, receipts] at last
    exact ⟨rfl, (reflects.transferred id last).2⟩
  · rw [transfers, receipts]
    exact reflects.apart

theorem Reflects.accept (same : acts.foldl perform begun = delivery)
    (reflects : Reflects delivery begun acts) (unit : Option StoryUnit) :
    Reflects (delivery.perform (.accept unit)) begun (acts ++ [.accept unit]) := by
  have receipts : begun.receipts (acts ++ [.accept unit]) =
      begun.receipts acts ++ [delivery.receipt unit] := by
    rw [receipts_append, same]
    rfl
  have callback : latest? (acts ++ [.accept unit]) = latest? acts := by
    simp [latest?, Act.callback?]
  have recorded : begun.recorded? (acts ++ [.accept unit]) =
      (delivery.receipt unit).recorded?.or (begun.recorded? acts) := by
    rw [recorded?, receipts, List.filterMap_append, List.getLast?_append]
    cases found : (delivery.receipt unit).recorded? <;> simp [found, recorded?]
  have transfers : begun.transfers (acts ++ [.accept unit]) =
      begun.transfers acts ++ (delivery.receipt unit).transfer?.toList := by
    rw [Delivery.transfers, receipts, List.filterMap_append]
    cases found : (delivery.receipt unit).transfer? <;> simp [found, Delivery.transfers]
  -- A unit that is not transferred leaves the transfers as they are.
  have idle (none : (delivery.receipt unit).transfer? = none) :
      begun.transfers (acts ++ [.accept unit]) = begun.transfers acts := by
    rw [transfers, none, Option.toList_none, List.append_nil]
  have accepted := delivery.accepts unit
  generalize delivery.receipt unit = receipt at *
  generalize delivery.perform (.accept unit) = after at *
  cases accepted with
  | missing | duplicate | broken =>
    have idle := idle rfl
    refine ⟨reflects.callback.trans callback.symm, reflects.recorded.trans recorded.symm, ?_, ?_⟩
    · rw [idle]
      exact reflects.transferred
    · rw [idle]
      exact reflects.apart
  | uncalled given unregistered =>
    have idle := idle rfl
    refine ⟨reflects.callback.trans callback.symm, recorded.symm, ?_, ?_⟩
    · intro id last
      rw [idle] at last
      have registered := (reflects.transferred id last).1
      rw [unregistered] at registered
      cases registered
    · rw [idle]
      exact reflects.apart
  | transferred given registered new made =>
    refine ⟨reflects.callback.trans callback.symm, recorded.symm, ?_, ?_⟩
    · intro id last
      rw [transfers] at last
      simp only [Receipt.transfer?, Option.toList_some, List.getLast?_concat] at last
      exact ⟨by simp [registered], last⟩
    · rw [transfers]
      apply List.IsChain.append reflects.apart (.singleton _)
      intro id last next found
      rw [(reflects.transferred id last).2] at new
      cases found
      exact fun again => new (congrArg some again)

end Step

theorem reflects_run (initial : Option StoryUnit) (acts : List (Act κ)) :
    Reflects (acts.foldl perform (begun initial)) (begun initial) acts := by
  induction acts using List.reverseRecOn with
  | nil => exact begun_reflects initial
  | append_singleton acts act ih =>
    rw [List.foldl_concat]
    cases act with
    | register callback => exact ih.register callback
    | accept unit => exact ih.accept rfl unit

end Delivery

@[ext] structure Stage (κ σ : Type) where
  delivery : Delivery κ
  session : σ

namespace Stage

variable {κ σ : Type}

/-- An act on a session; `react` is what a callback does to the session when it gets a story. -/
def perform (react : κ → Story → σ → σ) (stage : Stage κ σ) (act : Delivery.Act κ) :
    Stage κ σ where
  delivery := stage.delivery.perform act
  session :=
    match act with
    | .register _ => stage.session
    | .accept unit => (stage.delivery.receipt unit).calls.foldl
        (fun session call => react call.callback call.story session) stage.session

theorem foldl_delivery (react : κ → Story → σ → σ) (stage : Stage κ σ)
    (acts : List (Delivery.Act κ)) :
    (acts.foldl (perform react) stage).delivery = acts.foldl Delivery.perform stage.delivery := by
  induction acts generalizing stage with
  | nil => rfl
  | cons act rest ih => exact ih (stage.perform react act)

end Stage

section Protocol

variable {κ σ : Type}

/-- Whatever was registered and accepted before, a unit is transferred exactly if it is given, there is
a callback, it is not the unit that was recorded last, and its story can be begun; then the latest
callback is called once with that story, and otherwise none is called. A duplicate, a broken unit and
a missing one change nothing at all. Transfers that follow each other are of different units. -/
theorem deliveries_follow_protocol (react : κ → Story → σ → σ) (initial : Option StoryUnit)
    (session : σ) (acts : List (Delivery.Act κ)) :
    let begun : Delivery κ := .begun initial
    let stage := acts.foldl (Stage.perform react) ⟨begun, session⟩
    (begun.transfers acts).IsChain (· ≠ ·) ∧
    ∀ unit : Option StoryUnit,
      let receipt := stage.delivery.receipt unit
      let after := stage.perform react (.accept unit)
      (receipt.calls ≠ [] ↔ ∃ id, receipt.answer = .ok (.transferred id)) ∧
      ((∃ id, receipt.answer = .ok (.transferred id)) ↔
        ∃ given callback story, unit = some given ∧ Delivery.latest? acts = some callback ∧
          begun.recorded? acts ≠ some given.id ∧ given.story = .ok story) ∧
      (∀ id, receipt.answer = .ok (.transferred id) →
        ∃ given callback story, unit = some given ∧ given.id = id ∧
          Delivery.latest? acts = some callback ∧ given.story = .ok story ∧
          receipt.calls = [⟨callback, story⟩] ∧
          after.session = react callback story stage.session) ∧
      (receipt.answer = .ok .duplicate ∨ (∃ error, receipt.answer = .error error) ∨ unit = none →
        after = stage) := by
  intro begun stage
  have reflects : Delivery.Reflects stage.delivery begun acts := by
    have run := Delivery.reflects_run (κ := κ) initial acts
    rwa [← Stage.foldl_delivery react ⟨begun, session⟩ acts] at run
  refine ⟨reflects.apart, fun unit => ?_⟩
  rw [← reflects.callback, ← reflects.recorded]
  intro receipt after
  have session : after.session = receipt.calls.foldl
      (fun session call => react call.callback call.story session) stage.session := rfl
  have given : receipt.unit = unit := by
    change (stage.delivery.receipt unit).unit = unit
    unfold Delivery.receipt
    split <;> rfl
  have unchanged (still : after.delivery = stage.delivery) (silent : receipt.calls = []) :
      after = stage := by
    rw [silent] at session
    exact Stage.ext still session
  have accepted : Delivery.Accepts stage.delivery receipt after.delivery :=
    stage.delivery.accepts unit
  clear_value receipt
  generalize after.delivery = delivery at accepted unchanged
  subst given
  cases accepted with
  | missing => simp [unchanged]
  | uncalled unit unregistered => simp [unregistered]
  | duplicate unit registered again => simp [registered, again, unchanged]
  | broken unit registered new failed => simp [failed, unchanged]
  | transferred unit registered new made => simp [registered, new, made, session]

def fordUnit (serial : Nat) : StoryUnit := ⟨.ofSerial serial, "ford.tale", none, Story.ford⟩

def fordActs : List (Delivery.Act Nat) :=
  [.accept (some (fordUnit 0)), .register 1, .accept (some (fordUnit 0)), .register 2, .accept none]

def noted (callback : Nat) (_ : Story) (session : List Nat) : List Nat := session ++ [callback]

/-- The next unit goes to the callback that came last, and the same unit once more does nothing. -/
theorem ford_delivered :
    let stage := fordActs.foldl (Stage.perform noted) ⟨.begun none, []⟩
    (stage.perform noted (.accept (some (fordUnit 1)))).session = [2] ∧
      stage.perform noted (.accept (some (fordUnit 0))) = stage := by
  intro stage
  obtain ⟨-, all⟩ := deliveries_follow_protocol noted none [] fordActs
  obtain ⟨-, transferred, told, -⟩ := all (some (fordUnit 1))
  have new : (Delivery.begun none : Delivery Nat).recorded? fordActs ≠ some (fordUnit 1).id := by
    decide +kernel
  obtain ⟨id, answer⟩ := transferred.mpr ⟨fordUnit 1, 2, _, rfl, rfl, new, rfl⟩
  obtain ⟨given, callback, story, -, -, latest, -, -, session⟩ := told id answer
  cases latest
  exact ⟨session, (all (some (fordUnit 0))).2.2.2 (.inl rfl)⟩

end Protocol

end Tale.Live
