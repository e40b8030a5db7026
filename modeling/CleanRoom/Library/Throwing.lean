import Mathlib.Data.List.Basic
import Mathlib.Data.List.Count
import Mathlib.Data.List.Forall2
import Mathlib.Tactic.Common

/-!
# Computations that may throw

Partial correctness of `Except` computations, and the loops over a list whose
body may throw. `Ensures` says what every result that is returned satisfies; it
says nothing about an exception. Its rules are equivalences, so a body written
with `do` is taken apart by rewriting and never by unfolding the monad.
-/

namespace CleanRoom.Throwing

variable {Error Value Other : Type}

def Ensures (post : Value → Prop) (computation : Except Error Value) : Prop :=
  ∀ value, computation = .ok value → post value

@[simp] theorem ensures_ok (post : Value → Prop) (value : Value) :
    Ensures post (.ok value : Except Error Value) ↔ post value := by
  constructor
  · intro ensures
    exact ensures value rfl
  · intro holds other same
    cases same
    exact holds

@[simp] theorem ensures_pure (post : Value → Prop) (value : Value) :
    Ensures post (pure value : Except Error Value) ↔ post value :=
  ensures_ok post value

@[simp] theorem ensures_error (post : Value → Prop) (error : Error) :
    Ensures post (.error error : Except Error Value) := by
  intro value same
  cases same

@[simp] theorem ensures_throw (post : Value → Prop) (error : Error) :
    Ensures post (throw error : Except Error Value) :=
  ensures_error post error

theorem bind_eq_ok {first : Except Error Value} {next : Value → Except Error Other}
    {result : Other} :
    (first >>= next) = .ok result ↔ ∃ value, first = .ok value ∧ next value = .ok result := by
  cases first with
  | error error => simp [Bind.bind, Except.bind]
  | ok value => simp [Bind.bind, Except.bind]

theorem of_bind {first : Except Error Value} {next : Value → Except Error Other}
    {result : Other} (returned : (first >>= next) = .ok result) :
    ∃ value, first = .ok value ∧ next value = .ok result :=
  bind_eq_ok.mp returned

theorem of_guard {condition : Prop} [Decidable condition] {error : Error}
    {next : Except Error Value} {result : Value}
    (returned : (if condition then .error error else next) = .ok result) :
    ¬ condition ∧ next = .ok result := by
  split at returned
  · cases returned
  · exact ⟨‹_›, returned⟩

theorem then_eq_ok (check : Except Error Unit) (next : Except Error Other) (result : Other) :
    (check >>= fun _ => next) = .ok result ↔ check = .ok () ∧ next = .ok result := by
  cases check with
  | error error => simp [Bind.bind, Except.bind]
  | ok value => simp [Bind.bind, Except.bind]

theorem guarded_eq_ok (condition : Prop) [Decidable condition] (check : Except Error Unit)
    (next : Unit → Except Error Other) (result : Other) :
    (if condition then check >>= next else next ()) = .ok result ↔
      (condition → check = .ok ()) ∧ next () = .ok result := by
  by_cases holds : condition
  · rw [if_pos holds]
    constructor
    · intro returned
      obtain ⟨_, checked, returned⟩ := of_bind returned
      exact ⟨fun _ => checked, returned⟩
    · rintro ⟨checked, returned⟩
      exact bind_eq_ok.mpr ⟨(), checked holds, returned⟩
  · rw [if_neg holds]
    exact ⟨fun returned => ⟨fun held => absurd held holds, returned⟩, fun both => both.2⟩

theorem map_eq_ok {computation : Except Error Value} {convert : Value → Other} {result : Other} :
    computation.map convert = .ok result ↔
      ∃ value, computation = .ok value ∧ convert value = result := by
  cases computation with
  | error error => simp [Except.map]
  | ok value => simp [Except.map]

theorem of_map {computation : Except Error Value} {convert : Value → Other} {result : Other}
    (returned : computation.map convert = .ok result) :
    ∃ value, computation = .ok value ∧ convert value = result :=
  map_eq_ok.mp returned

@[simp] theorem ensures_bind (post : Other → Prop) (first : Except Error Value)
    (next : Value → Except Error Other) :
    Ensures post (first >>= next) ↔
      ∀ value, first = .ok value → Ensures post (next value) := by
  simp only [Ensures, bind_eq_ok]
  constructor
  · intro ensures value returned result finished
    exact ensures result ⟨value, returned, finished⟩
  · rintro ensures result ⟨value, returned, finished⟩
    exact ensures value returned result finished

theorem forM_eq_ok {Item : Type} (body : Item → Except Error Unit) (items : List Item) :
    items.forM body = .ok () ↔ ∀ item ∈ items, body item = .ok () := by
  induction items with
  | nil => simp [Pure.pure, Except.pure]
  | cons item items ih =>
      change (body item >>= fun _ => items.forM body) = .ok () ↔ _
      rw [then_eq_ok, List.forall_mem_cons, ← ih]

theorem foldlM_map {Item Inner Outer : Type} (embed : Inner → Outer)
    (step : Inner → Item → Except Error Inner) (outer : Outer → Item → Except Error Outer)
    (commutes : ∀ state item, outer (embed state) item = (step state item).map embed)
    (items : List Item) (start : Inner) :
    items.foldlM outer (embed start) = (items.foldlM step start).map embed := by
  induction items generalizing start with
  | nil => rfl
  | cons item items ih =>
      rw [List.foldlM_cons, List.foldlM_cons, commutes]
      cases step start item with
      | error error => rfl
      | ok next => exact ih next

theorem foldlM_of_ok {Item State : Type} (body : State → Item → Except Error State)
    (next : State → Item → State) (items : List Item) (start : State)
    (returns : ∀ item ∈ items, ∀ state, body state item = .ok (next state item)) :
    items.foldlM body start = .ok (items.foldl next start) := by
  induction items generalizing start with
  | nil => rfl
  | cons item items ih =>
      obtain ⟨here, later⟩ := List.forall_mem_cons.mp returns
      rw [List.foldlM_cons, here start, List.foldl_cons]
      exact ih (next start item) later

theorem foldlM_ok_steps {Item State : Type} (body : State → Item → Except Error State)
    (items : List Item) (start result : State) (returned : items.foldlM body start = .ok result) :
    ∀ item ∈ items, ∃ state next, body state item = .ok next := by
  induction items generalizing start with
  | nil => exact List.forall_mem_nil _
  | cons item items ih =>
      rw [List.foldlM_cons] at returned
      obtain ⟨next, here, later⟩ := of_bind returned
      exact List.forall_mem_cons.mpr ⟨⟨start, next, here⟩, ih next later⟩

theorem ensures_foldlM {Item State : Type} (related : State → Prop)
    (body : State → Item → Except Error State) (items : List Item) (start : State)
    (initial : related start)
    (step : ∀ state item, item ∈ items → related state → Ensures related (body state item)) :
    Ensures related (items.foldlM body start) := by
  induction items generalizing start with
  | nil => simpa using initial
  | cons item rest ih =>
      simp only [List.foldlM_cons, ensures_bind]
      intro next returned
      have kept : related next := step start item (by simp) initial next returned
      exact ih next kept (by
        intro state other member
        exact step state other (List.mem_cons_of_mem _ member))

section Loops

variable {Item : Type}

def countM (test : Item → Except Error Bool) : List Item → Except Error Nat
  | [] => .ok 0
  | item :: rest => do
      let hit ← test item
      let count ← countM test rest
      return if hit then count + 1 else count

theorem loop_of_ok {Result : Type} {test : Item → Except Error Value} {decision : Item → Value}
    {loop : List Item → Except Error Result} {result : List Item → Result}
    (empty : loop [] = .ok (result []))
    (step : ∀ item rest, test item = .ok (decision item) → loop rest = .ok (result rest) →
      loop (item :: rest) = .ok (result (item :: rest)))
    (items : List Item) (decided : ∀ item ∈ items, test item = .ok (decision item)) :
    loop items = .ok (result items) := by
  induction items with
  | nil => exact empty
  | cons item rest ih =>
      obtain ⟨here, later⟩ := List.forall_mem_cons.mp decided
      exact step item rest here (ih later)

theorem countM_of_ok (test : Item → Except Error Bool) (decision : Item → Bool)
    (items : List Item) (decided : ∀ item ∈ items, test item = .ok (decision item)) :
    countM test items = .ok (items.countP decision) := by
  apply loop_of_ok rfl _ items decided
  intro item rest tested later
  rw [countM, tested, later]
  cases hit : decision item <;> simp [Bind.bind, Except.bind, pure, Except.pure, hit]

theorem allM_of_ok (test : Item → Except Error Bool) (decision : Item → Bool)
    (items : List Item) (decided : ∀ item ∈ items, test item = .ok (decision item)) :
    items.allM test = .ok (items.all decision) := by
  apply loop_of_ok rfl _ items decided
  intro item rest tested later
  rw [List.allM, tested, later]
  cases hit : decision item <;> simp [Bind.bind, Except.bind, pure, Except.pure, hit]

theorem anyM_of_ok (test : Item → Except Error Bool) (decision : Item → Bool)
    (items : List Item) (decided : ∀ item ∈ items, test item = .ok (decision item)) :
    items.anyM test = .ok (items.any decision) := by
  apply loop_of_ok rfl _ items decided
  intro item rest tested later
  rw [List.anyM, tested, later]
  cases hit : decision item <;> simp [Bind.bind, Except.bind, pure, Except.pure, hit]

theorem mapM_of_ok (read : Item → Except Error Value) (result : Item → Value)
    (items : List Item) (known : ∀ item ∈ items, read item = .ok (result item)) :
    items.mapM read = .ok (items.map result) := by
  apply loop_of_ok rfl _ items known
  intro item rest tested later
  rw [List.mapM_cons, tested, later]
  rfl

theorem anyM_true (test : Item → Except Error Bool) (items : List Item)
    (passed : items.anyM test = .ok true) : ∃ item ∈ items, test item = .ok true := by
  induction items with
  | nil => cases passed
  | cons item rest ih =>
      rw [List.anyM] at passed
      obtain ⟨hit, tested, continued⟩ := of_bind passed
      cases hit with
      | true => exact ⟨item, List.mem_cons_self, tested⟩
      | false =>
          obtain ⟨other, later, hit⟩ := ih continued
          exact ⟨other, List.mem_cons_of_mem _ later, hit⟩

theorem anyM_false (test : Item → Except Error Bool) (items : List Item)
    (failed : items.anyM test = .ok false) : ∀ item ∈ items, test item = .ok false := by
  induction items with
  | nil => simp
  | cons item rest ih =>
      rw [List.anyM] at failed
      obtain ⟨hit, tested, continued⟩ := of_bind failed
      cases hit with
      | true => cases continued
      | false =>
          intro other member
          rcases List.mem_cons.mp member with same | later
          · rw [same, tested]
          · exact ih continued other later

theorem allM_eq_ok (test : Item → Except Error Bool) (items : List Item) (verdict : Bool)
    (returned : items.allM test = .ok verdict) :
    items.anyM (fun item => (! ·) <$> test item) = .ok !verdict := by
  rw [List.allM_eq_not_anyM_not] at returned
  obtain ⟨found, tested, turned⟩ := of_map returned
  rw [tested, ← turned, Bool.not_not]

theorem of_negated (tested : Except Error Bool) (verdict : Bool)
    (returned : (! ·) <$> tested = .ok verdict) : tested = .ok !verdict := by
  obtain ⟨found, rfl, turned⟩ := of_map returned
  rw [← turned, Bool.not_not]

theorem allM_true (test : Item → Except Error Bool) (items : List Item)
    (passed : items.allM test = .ok true) : ∀ item ∈ items, test item = .ok true := by
  intro item member
  exact of_negated _ _ (anyM_false _ items (allM_eq_ok test items true passed) item member)

theorem allM_false (test : Item → Except Error Bool) (items : List Item)
    (failed : items.allM test = .ok false) : ∃ item ∈ items, test item = .ok false := by
  obtain ⟨item, member, found⟩ := anyM_true _ items (allM_eq_ok test items false failed)
  exact ⟨item, member, of_negated _ _ found⟩

theorem allM_true_iff (test : Item → Except Error Bool) (items : List Item) :
    items.allM test = .ok true ↔ ∀ item ∈ items, test item = .ok true := by
  constructor
  · exact allM_true test items
  · intro passes
    rw [allM_of_ok test (fun _ => true) items passes]
    simp

end Loops

/-- The computation does not throw. -/
def Answers (computation : Except Error Value) : Prop :=
  ∃ value, computation = .ok value

@[simp] theorem answers_ok (value : Value) : Answers (.ok value : Except Error Value) :=
  ⟨value, rfl⟩

@[simp] theorem answers_pure (value : Value) : Answers (pure value : Except Error Value) :=
  ⟨value, rfl⟩

@[simp] theorem not_answers_error (error : Error) :
    ¬Answers (.error error : Except Error Value) := by
  rintro ⟨value, returned⟩
  cases returned

theorem answers_of_mapM {Item : Type} {read : Item → Except Error Value} {items : List Item}
    {results : List Value} (succeeds : items.mapM read = .ok results) :
    ∀ item ∈ items, Answers (read item) := by
  induction items generalizing results with
  | nil => simp
  | cons item rest ih =>
      rw [List.mapM_cons] at succeeds
      obtain ⟨value, found, succeeds⟩ := of_bind succeeds
      obtain ⟨values, others, _⟩ := of_bind succeeds
      exact List.forall_mem_cons.mpr ⟨⟨value, found⟩, ih others⟩

theorem answers_bind (first : Except Error Value) (next : Value → Except Error Other) :
    Answers (first >>= next) ↔ ∃ value, first = .ok value ∧ Answers (next value) := by
  constructor
  · rintro ⟨result, returned⟩
    obtain ⟨value, done, finished⟩ := of_bind returned
    exact ⟨value, done, result, finished⟩
  · rintro ⟨value, done, result, finished⟩
    exact ⟨result, bind_eq_ok.mpr ⟨value, done, finished⟩⟩

theorem answers_map (convert : Value → Other) (computation : Except Error Value) :
    Answers (convert <$> computation) ↔ Answers computation := by
  cases computation with
  | error error => simp [Functor.map, Except.map]
  | ok value => simp [Functor.map, Except.map]

section AnsweringLoops

variable {Item : Type} (test : Item → Except Error Bool)

/-- A loop that stops at the first item with the given verdict answers if every
item that it reaches can be tested. -/
def ReachedAnswer (stop : Bool) (items : List Item) : Prop :=
  ∀ before item after, items = before ++ item :: after →
    (∀ earlier ∈ before, test earlier = .ok (!stop)) → Answers (test item)

theorem reached_answer_cons (stop : Bool) (item : Item) (rest : List Item) :
    ReachedAnswer test stop (item :: rest) ↔
      ∃ hit, test item = .ok hit ∧ (hit ≠ stop → ReachedAnswer test stop rest) := by
  constructor
  · intro reaches
    obtain ⟨hit, tested⟩ := reaches [] item rest rfl (by simp)
    refine ⟨hit, tested, ?_⟩
    intro continued before other after split passed
    refine reaches (item :: before) other after (by rw [split]; rfl) ?_
    intro earlier member
    rcases List.mem_cons.mp member with rfl | later
    · rw [tested]
      cases hit <;> cases stop <;> simp_all
    · exact passed earlier later
  · rintro ⟨hit, tested, continued⟩ before other after split passed
    cases before with
    | nil =>
        cases split
        exact ⟨hit, tested⟩
    | cons first before =>
        cases split
        have missed := passed item List.mem_cons_self
        rw [tested] at missed
        cases missed
        exact continued (by cases stop <;> simp) before other after rfl
          fun earlier member => passed earlier (List.mem_cons_of_mem _ member)

theorem answers_anyM (items : List Item) :
    Answers (items.anyM test) ↔ ReachedAnswer test true items := by
  induction items with
  | nil => exact ⟨fun _ before item after split => by simp at split, fun _ => ⟨false, rfl⟩⟩
  | cons item rest ih =>
      rw [List.anyM, answers_bind, reached_answer_cons]
      refine exists_congr fun hit => and_congr_right fun _ => ?_
      cases hit with
      | true => simp
      | false => simpa using ih

theorem answers_allM (items : List Item) :
    Answers (items.allM test) ↔ ReachedAnswer test false items := by
  induction items with
  | nil => exact ⟨fun _ before item after split => by simp at split, fun _ => ⟨true, rfl⟩⟩
  | cons item rest ih =>
      rw [List.allM, answers_bind, reached_answer_cons]
      refine exists_congr fun hit => and_congr_right fun _ => ?_
      cases hit with
      | true => simpa using ih
      | false => simp

theorem answers_countM (items : List Item) :
    Answers (countM test items) ↔ ∀ item ∈ items, Answers (test item) := by
  induction items with
  | nil => simp [countM]
  | cons item rest ih =>
      rw [countM, List.forall_mem_cons, ← ih, answers_bind]
      constructor
      · rintro ⟨hit, tested, counted⟩
        obtain ⟨count, done, _⟩ := (answers_bind _ _).mp counted
        exact ⟨⟨hit, tested⟩, ⟨count, done⟩⟩
      · rintro ⟨⟨hit, tested⟩, ⟨count, done⟩⟩
        exact ⟨hit, tested, (answers_bind _ _).mpr ⟨count, done, answers_pure _⟩⟩

end AnsweringLoops

end CleanRoom.Throwing
