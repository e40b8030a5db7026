import Mathlib.Data.List.Basic
import Mathlib.Tactic.Common

/-!
# Two runs of stateful programs

An action changes a state and gives a value or throws; what it did to the state
before it threw stays. `Alike` compares two actions: from states that are related
in one way they give the same outcome and states that are related in another.
-/

namespace CleanRoom.TwoRuns

inductive Matches {Error Value Other : Type} (related : Value → Other → Prop) :
    Except Error Value → Except Error Other → Prop where
  | ok (value : Value) (other : Other) (holds : related value other) :
      Matches related (.ok value) (.ok other)
  | error (error : Error) : Matches related (.error error) (.error error)

section

variable {Error First Second Value Other : Type}

theorem matches_bind (related : First → Second → Prop) (results : Value → Other → Prop)
    (left : Except Error First) (right : Except Error Second) (next : First → Except Error Value)
    (other : Second → Except Error Other) (same : Matches related left right)
    (onwards : ∀ first second, related first second → Matches results (next first) (other second)) :
    Matches results (left >>= next) (right >>= other) := by
  cases same with
  | ok first second holds => exact onwards first second holds
  | error error => exact .error error

theorem matches_self (results : Value → Value → Prop) (reflexive : ∀ value, results value value)
    (computation : Except Error Value) : Matches results computation computation := by
  cases computation with
  | ok value => exact .ok value value (reflexive value)
  | error error => exact .error error

theorem matches_eq (left right : Except Error Value) (same : Matches Eq left right) :
    left = right := by
  cases same with
  | ok value other holds => rw [holds]
  | error error => rfl

end

def Action (State Error Value : Type) : Type := State → Except Error Value × State

variable {State Error : Type}

namespace Action

variable {Value Other : Type}

def bind (action : Action State Error Value) (next : Value → Action State Error Other) :
    Action State Error Other := fun state =>
  match action state with
  | (.ok value, after) => next value after
  | (.error error, after) => (.error error, after)

instance : Monad (Action State Error) where
  pure value := fun state => (.ok value, state)
  bind := bind

def ofExcept (computation : Except Error Value) : Action State Error Value :=
  fun state => (computation, state)

def attempt (action : Action State Error Value) (handler : Error → Action State Error Value) :
    Action State Error Value := fun state =>
  match action state with
  | (.ok value, after) => (.ok value, after)
  | (.error error, after) => handler error after

def get : Action State Error State := fun state => (.ok state, state)

def modify (change : State → State) : Action State Error Unit := fun state =>
  (.ok (), change state)

def gather {Item : Type} (action : Item → Action State Error Value) :
    List Item → Action State Error (List (Except Error Value))
  | [] => pure []
  | item :: items => fun state =>
      let (outcome, after) := action item state
      (gather action items >>= fun outcomes => pure (outcome :: outcomes)) after

end Action

def Alike {Value : Type} (before after : State → State → Prop)
    (left right : Action State Error Value) : Prop :=
  ∀ first second, before first second →
    (left first).1 = (right second).1 ∧ after (left first).2 (right second).2

section

variable {Value Other : Type} (before middle after : State → State → Prop)

theorem alike_pure (value : Value) :
    Alike before before (pure value : Action State Error Value) (pure value) :=
  fun _ _ related => ⟨rfl, related⟩

theorem alike_bind (left right : Action State Error Value)
    (next other : Value → Action State Error Other) (weaker : ∀ s t, middle s t → after s t)
    (first : Alike before middle left right)
    (second : ∀ value, Alike middle after (next value) (other value)) :
    Alike before after (left >>= next) (right >>= other) := by
  intro one two related
  obtain ⟨same, relatedAfter⟩ := first one two related
  change ((left.bind next) one).1 = ((right.bind other) two).1 ∧
    after ((left.bind next) one).2 ((right.bind other) two).2
  unfold Action.bind
  generalize left one = leftEnd at same relatedAfter
  generalize right two = rightEnd at same relatedAfter
  obtain ⟨leftOutcome, leftState⟩ := leftEnd
  obtain ⟨rightOutcome, rightState⟩ := rightEnd
  dsimp only at same relatedAfter
  subst same
  cases leftOutcome with
  | ok value => exact second value leftState rightState relatedAfter
  | error error => exact ⟨rfl, weaker _ _ relatedAfter⟩

variable {left right : Action State Error Value}

theorem alike_attempt (handler other : Error → Action State Error Value)
    (weaker : ∀ s t, middle s t → after s t) (first : Alike before middle left right)
    (second : ∀ error, Alike middle after (handler error) (other error)) :
    Alike before after (left.attempt handler) (right.attempt other) := by
  intro one two related
  obtain ⟨same, relatedAfter⟩ := first one two related
  unfold Action.attempt
  generalize left one = leftEnd at same relatedAfter
  generalize right two = rightEnd at same relatedAfter
  obtain ⟨leftOutcome, leftState⟩ := leftEnd
  obtain ⟨rightOutcome, rightState⟩ := rightEnd
  dsimp only at same relatedAfter
  subst same
  cases leftOutcome with
  | ok value => exact ⟨rfl, weaker _ _ relatedAfter⟩
  | error error => exact second error leftState rightState relatedAfter

theorem alike_of_except (computation : Except Error Value) :
    Alike before before (Action.ofExcept computation : Action State Error Value)
      (Action.ofExcept computation) :=
  fun _ _ related => ⟨rfl, related⟩

theorem alike_modify (change other : State → State)
    (kept : ∀ s t, before s t → after (change s) (other t)) :
    Alike before after (Action.modify change : Action State Error Unit) (Action.modify other) :=
  fun _ _ related => ⟨rfl, kept _ _ related⟩

theorem alike_read (read : State → Except Error Value)
    (same : ∀ s t, before s t → read s = read t) :
    Alike before before (Action.get >>= fun state => Action.ofExcept (read state))
      (Action.get >>= fun state => Action.ofExcept (read state)) :=
  fun first second related => ⟨same first second related, related⟩

theorem alike_then
    (next other : Value → Action State Error Other) (first : Alike before before left right)
    (second : ∀ value, Alike before before (next value) (other value)) :
    Alike before before (left >>= next) (right >>= other) :=
  alike_bind before before before left right next other (fun _ _ related => related) first second

theorem alike_gather {Item : Type} (action other : Item → Action State Error Value)
    (items : List Item) (each : ∀ item ∈ items, Alike before before (action item) (other item)) :
    Alike before before (Action.gather action items) (Action.gather other items) := by
  induction items with
  | nil => exact alike_pure before []
  | cons item items ih =>
      obtain ⟨here, rest⟩ := List.forall_mem_cons.mp each
      intro first second related
      obtain ⟨same, relatedAfter⟩ := here first second related
      simp only [Action.gather]
      rw [same]
      exact alike_then _ _ _ (ih rest) (fun outcomes => alike_pure before _) _ _ relatedAfter

end

end CleanRoom.TwoRuns
