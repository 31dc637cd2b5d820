import Tale.Proofs.Story.History

/-! What the history of a play leaves open.

A story keeps the numbers of visits, the ids of the choices that were taken and the values of its
variables. These sum up the history, so the story offers the choices that the history leaves open,
provided that ids tell all choices apart.
-/

set_option autoImplicit false

namespace Tale

namespace Play

open Story

/-- What a story keeps sums up what has happened, and each event followed from those before it. -/
structure Faithful (declared : String → Option Value) (points : String → List ChoicePoint)
    (play : Play) : Prop where
  bindings : ∀ name, play.story.bindings.find? name = Past.value declared play.past name
  visits : ∀ knot, play.story.visitCount knot = play.past.count (.entered knot)
  taken : ∀ id, play.story.taken.contains id ↔ ∃ knot number point,
    .took knot number ∈ play.past ∧ (points knot)[number]? = some point ∧ point.id = id
  follows : ∀ later event earlier, play.past = later ++ event :: earlier →
    event.Follows declared points earlier

def Standing (points : String → List ChoicePoint) (play : Play) : Prop :=
  play.story.offers ≠ [] → ∃ knot ahead earlier,
    play.story.position = some ⟨knot, .choices (points knot) :: ahead⟩ ∧
      play.past = .faced knot play.story.offers :: earlier ∧
      play.story.offers = play.story.offersOf (points knot)

theorem Standing.of_none {points : String → List ChoicePoint} {play : Play}
    (alone : play.story.offers = []) : play.Standing points := fun some => absurd alone some

section Faithfulness

variable {declared : String → Option Value} {points : String → List ChoicePoint} {story : Story}
  {past : List Event}

theorem follows_cons {event : Event} (here : event.Follows declared points past)
    (before : ∀ later event earlier, past = later ++ event :: earlier →
      event.Follows declared points earlier) :
    ∀ later other earlier, event :: past = later ++ other :: earlier →
      other.Follows declared points earlier := by
  intro later other earlier split
  cases later with
  | nil =>
    cases split
    exact here
  | cons first later =>
    cases split
    exact before later other earlier rfl

namespace Faithful

theorem congr {other : Story} (faithful : Faithful declared points ⟨story, past⟩)
    (bindings : other.bindings = story.bindings) (visits : other.visits = story.visits)
    (taken : other.taken = story.taken) : Faithful declared points ⟨other, past⟩ where
  bindings name := by
    rw [← faithful.bindings]
    exact congrArg (Dictionary.find? · name) bindings
  visits knot := by
    rw [← faithful.visits]
    exact congrArg (fun visits => (Dictionary.find? visits knot).getD 0) visits
  taken id := by
    rw [← faithful.taken]
    dsimp only
    rw [taken]
  follows := faithful.follows

theorem enter (faithful : Faithful declared points ⟨story, past⟩) (knot : String) :
    Faithful declared points ⟨story.enter knot, .entered knot :: past⟩ where
  bindings := faithful.bindings
  visits other := by
    have before : story.visitCount other = past.count (.entered other) := faithful.visits other
    have here : story.visitCount knot = past.count (.entered knot) := faithful.visits knot
    change ((story.visits.insert knot (story.visitCount knot + 1)).find? other).getD 0 = _
    rw [Dictionary.find?_insert_eq, List.count_cons]
    by_cases same : other = knot
    · simp [same, here]
    · have apart : ¬ knot = other := fun same' => same same'.symm
      simpa [same, apart, visitCount] using before
  taken id := by simpa [Story.enter] using faithful.taken id
  follows := follows_cons trivial faithful.follows

theorem assign (faithful : Faithful declared points ⟨story, past⟩) (name : String) (value : Value) :
    Faithful declared points
      ⟨{ story with bindings := story.bindings.insert name value }, .assigned name value :: past⟩ where
  bindings other := by
    have before : story.bindings.find? other = Past.value declared past other :=
      faithful.bindings other
    change (story.bindings.insert name value).find? other = _
    rw [Dictionary.find?_insert_eq, Past.value, List.findSome?_cons]
    by_cases same : other = name
    · simp [same, Past.given?]
    · have apart : ¬ name = other := fun same' => same same'.symm
      simpa [same, apart, Past.given?, Past.value] using before
  visits knot := by
    have before : story.visitCount knot = past.count (.entered knot) := faithful.visits knot
    simpa [visitCount] using before
  taken id := by simpa using faithful.taken id
  follows := follows_cons trivial faithful.follows

theorem face (faithful : Faithful declared points ⟨story, past⟩) {knot : String}
    {offers : List Offer} (isOpen : offers = Past.offers declared past knot (points knot)) :
    Faithful declared points ⟨story, .faced knot offers :: past⟩ where
  bindings := faithful.bindings
  visits knot := by simpa using faithful.visits knot
  taken id := by simpa using faithful.taken id
  follows := follows_cons isOpen faithful.follows

theorem holds_eq (faithful : Faithful declared points ⟨story, past⟩) (condition : String) :
    story.holds condition = Past.holds declared past condition := by
  have bindings : story.bindings.find? condition = Past.value declared past condition :=
    faithful.bindings condition
  have visits : story.visitCount condition = past.count (.entered condition) :=
    faithful.visits condition
  unfold Story.holds Past.holds
  rw [bindings, visits]
  cases Past.value declared past condition with
  | some value => rfl
  | none => simp [List.count_pos_iff]

theorem isOffered_eq (faithful : Faithful declared points ⟨story, past⟩) {artifact : Artifact}
    (labelled : artifact.Labelled points) {knot : String} {point : ChoicePoint} {number : Nat}
    (found : (points knot)[number]? = some point) :
    story.isOffered point = Past.isOpen declared past knot (point, number) := by
  have taken : story.taken.contains point.id ↔ .took knot number ∈ past := by
    rw [faithful.taken]
    constructor
    · rintro ⟨other, numberToo, same, took, foundToo, alike⟩
      obtain ⟨rfl, rfl⟩ := labelled.apart _ _ _ _ _ _ foundToo found alike
      exact took
    · exact fun took => ⟨knot, number, point, took, found, rfl⟩
  have conditions : story.holds = Past.holds declared past := funext faithful.holds_eq
  unfold isOffered Past.isOpen
  rw [conditions]
  by_cases took : .took knot number ∈ past
  · simp [took, taken.mpr took]
  · simp [took, mt taken.mp took]

theorem passing_eq (faithful : Faithful declared points ⟨story, past⟩) {artifact : Artifact}
    (labelled : artifact.Labelled points) (knot : String) :
    story.passing (points knot) =
      (points knot).zipIdx.filter (Past.isOpen declared past knot) := by
  apply List.filter_congr
  intro choice member
  exact faithful.isOffered_eq labelled (List.mem_zipIdx_iff_getElem?.mp member)

/-- The story offers what its past leaves open. -/
theorem offersOf_eq (faithful : Faithful declared points ⟨story, past⟩) {artifact : Artifact}
    (labelled : artifact.Labelled points) (knot : String) :
    story.offersOf (points knot) = Past.offers declared past knot (points knot) := by
  have bindings : (fun name => (story.bindings.find? name).map Value.shown) =
      fun name => (Past.value declared past name).map Value.shown := by
    funext name
    exact congrArg (Option.map Value.shown) (faithful.bindings name)
  have texts : story.interpolate = Past.interpolate declared past := by
    funext text
    unfold Story.interpolate Past.interpolate
    rw [bindings]
  rw [Story.offersOf_eq, faithful.passing_eq labelled, texts, Past.offers]

theorem take (faithful : Faithful declared points ⟨story, past⟩) {knot : String} {number : Nat}
    {point : ChoicePoint} {offer : Offer} (found : (points knot)[number]? = some point)
    (isOpen : Past.isOpen declared past knot (point, number))
    (last : ∃ offers earlier, past = .faced knot offers :: earlier) (same : offer.id = point.id) :
    Faithful declared points ⟨story.taking offer, .took knot number :: past⟩ where
  bindings := faithful.bindings
  visits other := by
    have before : story.visitCount other = past.count (.entered other) := faithful.visits other
    simpa [taking, visitCount] using before
  taken id := by
    change (Dictionary.insert story.taken offer.id ()).contains id ↔ _
    rw [Dictionary.contains_insert_iff, faithful.taken]
    constructor
    · rintro (rfl | ⟨other, numberToo, held, took, foundToo, alike⟩)
      · exact ⟨knot, number, point, List.mem_cons_self, found, same.symm⟩
      · exact ⟨other, numberToo, held, List.mem_cons_of_mem _ took, foundToo, alike⟩
    · rintro ⟨other, numberToo, held, took, foundToo, alike⟩
      rcases List.mem_cons.mp took with here | before
      · cases here
        cases found.symm.trans foundToo
        exact .inl (alike.symm.trans same.symm)
      · exact .inr ⟨other, numberToo, held, before, foundToo, alike⟩
  follows := follows_cons ⟨last, point, found, isOpen⟩ faithful.follows

end Faithful

/-! ## Plays -/

variable {artifact : Artifact}

/-- One step is recorded faithfully, and a story that settles stands before what it offers. -/
theorem Faithful.advance (faithful : Faithful declared points ⟨story, past⟩)
    (labelled : story.artifact.Labelled points) (sound : story.Sound) (idle : story.Idle) :
    match story.advance with
    | .settled after => Faithful declared points ⟨after, story.event?.toList ++ past⟩ ∧
        Standing points ⟨after, story.event?.toList ++ past⟩
    | .moving after => Faithful declared points ⟨after, story.event?.toList ++ past⟩ := by
  fun_cases Story.advance story with
  | case1 gone =>
    rw [event?, gone]
    exact ⟨faithful, .of_none idle.alone⟩
  | case2 knot stands =>
    rw [event?, stands]
    exact ⟨faithful.congr rfl rfl rfl, .of_none idle.alone⟩
  | case3 knot words ahead stands =>
    rw [event?, stands]
    exact ⟨faithful.congr rfl rfl rfl, .of_none idle.alone⟩
  | case4 knot name value ahead stands =>
    rw [event?, stands]
    exact (faithful.assign name value).congr rfl rfl rfl
  | case5 knot name ahead stands =>
    rw [event?, stands]
    exact faithful.enter name
  | case6 knot ahead stands =>
    rw [event?, stands]
    exact ⟨faithful.congr rfl rfl rfl, .of_none idle.alone⟩
  | case7 knot choices ahead stands offers =>
    have block : choices = points knot := labelled.block knot choices
      ((sound.placed.ahead _ _ stands).subset List.mem_cons_self)
    rw [event?, stands]
    subst block
    constructor
    · exact (faithful.face (faithful.offersOf_eq labelled knot)).congr rfl rfl rfl
    · intro some
      refine ⟨knot, ahead, past, ?_, rfl, rfl⟩
      have some : offers ≠ [] := some
      simp [some]

theorem Faithful.settleWithin {play : Play} (faithful : Faithful declared points play)
    (labelled : play.story.artifact.Labelled points) (sound : play.story.Sound)
    (idle : play.story.Idle) (bound : Nat) :
    Faithful declared points (settleWithin bound play) ∧
      Standing points (settleWithin bound play) := by
  induction bound generalizing play with
  | zero => exact ⟨faithful.congr rfl rfl rfl, .of_none idle.alone⟩
  | succ bound ih =>
    have recorded := faithful.advance labelled sound idle
    have step := advance_settled sound idle
    simp only [Play.settleWithin]
    cases led : play.story.advance with
    | settled after => simpa only [led] using recorded
    | moving after =>
      simp only [led] at recorded step
      obtain ⟨soundAfter, idleAfter, same⟩ := step
      exact ih recorded (same ▸ labelled) soundAfter idleAfter

/-- What holds of a play between two calls. -/
structure Recorded (declared : String → Option Value) (points : String → List ChoicePoint)
    (artifact : Artifact) (play : Play) : Prop where
  settled : play.story.Settled
  origin : play.story.artifact = artifact
  faithful : Faithful declared points play
  standing : Standing points play

theorem settle_recorded (labelled : artifact.Labelled points) {play : Play}
    (faithful : Faithful declared points play) (sound : play.story.Sound) (idle : play.story.Idle)
    (origin : play.story.artifact = artifact) : Recorded declared points artifact play.settle := by
  obtain ⟨faithfulAfter, standing⟩ :=
    faithful.settleWithin (origin ▸ labelled) sound idle silentBound
  have onward : (Story.settleWithin silentBound play.story).Settled ∧
      (Story.settleWithin silentBound play.story).artifact = play.story.artifact :=
    settleWithin_settled sound idle
  rw [← settleWithin_story] at onward
  exact ⟨onward.1, onward.2.trans origin, faithfulAfter, standing⟩

theorem start_recorded (labelled : artifact.Labelled points) {story : Story}
    (started : Story.start artifact = .ok story) :
    Recorded artifact.globals.find? points artifact (start artifact) := by
  obtain ⟨valid, closed, -⟩ := start_eq_ok_iff.mp started
  obtain ⟨sound, idle⟩ := blank_enter_sound closed (Artifact.validate_eq_ok_iff.mp valid).2
  have nothing : Faithful artifact.globals.find? points ⟨blank artifact, []⟩ := by
    refine ⟨fun name => rfl, fun knot => rfl, fun id => ?_, fun later event earlier split => ?_⟩
    · simp [blank, Dictionary.contains, Dictionary.find?, Dictionary.lookup, Dictionary.empty]
    · simp at split
  exact settle_recorded labelled (nothing.enter artifact.start) sound idle rfl

namespace Recorded

variable {play : Play}

theorem next (recorded : Recorded declared points artifact play)
    (labelled : artifact.Labelled points) : Recorded declared points artifact play.next := by
  unfold Play.next
  split
  · next ready =>
    exact settle_recorded labelled (recorded.faithful.congr rfl rfl rfl)
      recorded.settled.toSound.withoutPending ⟨rfl, recorded.settled.alone_of_ready ready⟩
      recorded.origin
  · exact recorded

theorem exists_taken (recorded : Recorded declared points artifact play) {index : Nat}
    {offer : Offer} (found : play.story.offers[index]? = some offer) :
    ∃ knot number point earlier offers, play.past = .faced knot offers :: earlier ∧
      (points knot)[number]? = some point ∧ play.story.isOffered point ∧ offer.id = point.id ∧
      play.story.taken? index = some (.took knot number) := by
  have some : play.story.offers ≠ [] := by
    intro none
    rw [none] at found
    cases found
  obtain ⟨knot, ahead, earlier, stands, last, same⟩ := recorded.standing some
  rw [same, Story.offersOf_eq, List.getElem?_map, List.getElem?_zipIdx, Option.map_map,
    Option.map_eq_some_iff] at found
  obtain ⟨choice, passes, rfl⟩ := found
  obtain ⟨member, offered⟩ := List.mem_filter.mp (List.mem_of_getElem? passes)
  refine ⟨knot, choice.2, choice.1, earlier, _, last, List.mem_zipIdx_iff_getElem?.mp member, offered,
    rfl, ?_⟩
  rw [taken?, stands]
  dsimp only
  rw [passes, Option.map_some]

theorem choose (recorded : Recorded declared points artifact play)
    (labelled : artifact.Labelled points) (index : Nat) :
    Recorded declared points artifact (play.choose index) := by
  unfold Play.choose
  cases found : play.story.offers[index]? with
  | none => exact recorded
  | some offer =>
    obtain ⟨knot, number, point, earlier, offers, last, held, offered, same, took⟩ :=
      recorded.exists_taken found
    have isOpen : Past.isOpen declared play.past knot (point, number) := by
      rw [← recorded.faithful.isOffered_eq labelled held]
      exact offered
    have taken := recorded.faithful.take held isOpen ⟨offers, earlier, last⟩ same
    have member := List.mem_of_getElem? found
    have silent := recorded.settled.silent_of_offered member
    dsimp only
    rw [took, Option.toList_some, List.singleton_append]
    cases leads : offer.target with
    | knot name =>
      obtain ⟨sound, idle⟩ := recorded.settled.taking_enter member leads
      exact settle_recorded labelled (taken.enter name) sound idle recorded.origin
    | ending =>
      exact settle_recorded labelled (taken.congr rfl rfl rfl)
        ⟨.of_ended rfl silent, recorded.settled.closed, .of_ended rfl⟩ ⟨silent, rfl⟩ recorded.origin

theorem perform (recorded : Recorded declared points artifact play)
    (labelled : artifact.Labelled points) (call : Call) :
    Recorded declared points artifact (play.perform call) := by
  cases call with
  | continueLine => exact recorded.next labelled
  | choose index => exact recorded.choose labelled index
  | continueMaximally =>
    rw [Play.perform]
    generalize textSteps play.story.artifact = count
    induction count with
    | zero => exact recorded
    | succ count ih =>
      rw [Function.iterate_succ_apply']
      exact ih.next labelled

theorem run (recorded : Recorded declared points artifact play)
    (labelled : artifact.Labelled points) (calls : List Call) :
    Recorded declared points artifact (calls.foldl Play.perform play) := by
  induction calls generalizing play with
  | nil => exact recorded
  | cons call rest ih => exact ih (recorded.perform labelled call)

end Recorded

end Faithfulness

theorem count_le_one {event : Event} {past : List Event}
    (once : ∀ later earlier, past = later ++ event :: earlier → event ∉ earlier) :
    past.count event ≤ 1 := by
  induction past with
  | nil => simp
  | cons first earlier ih =>
    have rest := ih fun later before split => once (first :: later) before (by rw [split]; rfl)
    rw [List.count_cons]
    split
    · next same =>
      have new : event ∉ earlier := once [] earlier (by rw [← eq_of_beq same]; rfl)
      simp [List.count_eq_zero.mpr new]
    · omega

end Play

end Tale
