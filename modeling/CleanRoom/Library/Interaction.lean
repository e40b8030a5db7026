import Mathlib.Data.List.Basic
import Mathlib.Tactic.Common

/-!
# Programs that share a state

A program makes one request after the other to a shared state, each of them
atomic, and other programs and an environment may change the state in between.
`Correct` is the proof obligation of one program: whatever the others do within
an invariant and a relation between earlier and later states, its own requests
stay within them, and its result satisfies a postcondition. A pool of correct
programs keeps the invariant in every interleaving.
-/

namespace CleanRoom.Interaction

inductive Program (Request : Type) (Answer : Request → Type) (Error Value : Type) where
  | done (value : Value)
  | fail (error : Error)
  | perform (request : Request) (next : Answer request → Program Request Answer Error Value)

variable {Request : Type} {Answer : Request → Type} {Error : Type}

namespace Program

variable {Value Other : Type}

def bind (program : Program Request Answer Error Value)
    (next : Value → Program Request Answer Error Other) : Program Request Answer Error Other :=
  match program with
  | .done value => next value
  | .fail error => .fail error
  | .perform request rest => .perform request fun answer => (rest answer).bind next

instance : Monad (Program Request Answer Error) where
  pure := .done
  bind := bind

def recover (program : Program Request Answer Error Value)
    (handler : Error → Program Request Answer Error Value) : Program Request Answer Error Value :=
  match program with
  | .done value => .done value
  | .fail error => handler error
  | .perform request rest => .perform request fun answer => (rest answer).recover handler

def ask (request : Request) : Program Request Answer Error (Answer request) :=
  .perform request .done

def ofExcept : Except Error Value → Program Request Answer Error Value
  | .ok value => .done value
  | .error error => .fail error

def mark {Caller : Type} (caller : Caller) : Program Request Answer Error Value →
    Program (Caller × Request) (fun marked => Answer marked.2) Error Value
  | .done value => .done value
  | .fail error => .fail error
  | .perform request next => .perform (caller, request) fun answer => (next answer).mark caller

/-! A server that answers every request in one way executes a program to its end. -/

section

variable {State : Type} (serve : (request : Request) → State → Answer request × State)

def run : Program Request Answer Error Value → State → Except Error Value × State
  | .done value, state => (.ok value, state)
  | .fail error, state => (.error error, state)
  | .perform request next, state =>
      let (answer, after) := serve request state
      (next answer).run after

theorem run_bind (program : Program Request Answer Error Value)
    (next : Value → Program Request Answer Error Other) (state : State) :
    run serve (program >>= next) state =
      match run serve program state with
      | (.ok value, after) => run serve (next value) after
      | (.error error, after) => (.error error, after) := by
  induction program generalizing state with
  | done value => rfl
  | fail error => rfl
  | perform request rest ih => exact ih _ _

theorem run_bind_ok (program : Program Request Answer Error Value)
    (next : Value → Program Request Answer Error Other) (state after : State) (value : Value)
    (ran : run serve program state = (.ok value, after)) :
    run serve (program >>= next) state = run serve (next value) after := by
  rw [run_bind, ran]

theorem run_recover (program : Program Request Answer Error Value)
    (handler : Error → Program Request Answer Error Value) (state : State) :
    run serve (program.recover handler) state =
      match run serve program state with
      | (.ok value, after) => (.ok value, after)
      | (.error error, after) => run serve (handler error) after := by
  induction program generalizing state with
  | done value => rfl
  | fail error => rfl
  | perform request rest ih => exact ih _ _

theorem run_recover_ok (program : Program Request Answer Error Value)
    (handler : Error → Program Request Answer Error Value) (state after : State) (value : Value)
    (ran : run serve program state = (.ok value, after)) :
    run serve (program.recover handler) state = (.ok value, after) := by
  rw [run_recover, ran]

theorem run_of_except (computation : Except Error Value) (state : State) :
    run serve (ofExcept computation) state = (computation, state) := by
  cases computation with
  | ok value => rfl
  | error error => rfl

end

end Program

/-- What all parties keep: an invariant of states, and a relation between a
state and every later one. -/
structure Discipline (State : Type) where
  invariant : State → Prop
  later : State → State → Prop
  later_refl : ∀ state, later state state
  later_trans : ∀ first second third, later first second → later second third → later first third

section

variable {State Value Other : Type}

abbrev Responds (State : Type) (Answer : Request → Type) :=
  (request : Request) → State → Answer request → State → Prop

variable (responds : Responds State Answer) (discipline : Discipline State)

def Correct (post : Except Error Value → State → Prop) :
    Program Request Answer Error Value → State → Prop
  | .done value, state => post (.ok value) state
  | .fail error, state => post (.error error) state
  | .perform request next, state =>
      ∀ before, discipline.invariant before → discipline.later state before →
        ∀ answer after, responds request before answer after →
          discipline.invariant after ∧ discipline.later before after ∧
            Correct post (next answer) after

def Stable (post : Except Error Value → State → Prop) : Prop :=
  ∀ outcome state after, post outcome state → discipline.later state after → post outcome after

variable {responds discipline}

variable {program : Program Request Answer Error Value} {post : Except Error Value → State → Prop}
  {state : State}

theorem correct_later (stable : Stable discipline post) (state after : State)
    (correct : Correct responds discipline post program state)
    (later : discipline.later state after) :
    Correct responds discipline post program after := by
  cases program with
  | done value => exact stable _ _ _ correct later
  | fail error => exact stable _ _ _ correct later
  | perform request next =>
      intro before invariant laterBefore
      exact correct before invariant (discipline.later_trans _ _ _ later laterBefore)

theorem correct_weaken (strong post : Except Error Value → State → Prop)
    (program : Program Request Answer Error Value) (state : State)
    (correct : Correct responds discipline strong program state)
    (weaker : ∀ outcome after, strong outcome after → post outcome after) :
    Correct responds discipline post program state := by
  induction program generalizing state with
  | done value => exact weaker _ _ correct
  | fail error => exact weaker _ _ correct
  | perform request next ih =>
      intro before invariant later answer after answered
      obtain ⟨kept, ordered, rest⟩ := correct before invariant later answer after answered
      exact ⟨kept, ordered, ih answer after rest⟩

theorem correct_ordered (start state : State) (ordered : discipline.later start state)
    (correct : Correct responds discipline post program state) :
    Correct responds discipline (fun outcome after => post outcome after ∧
      discipline.later start after) program state := by
  induction program generalizing state with
  | done value => exact ⟨correct, ordered⟩
  | fail error => exact ⟨correct, ordered⟩
  | perform request next ih =>
      intro before invariant later answer after answered
      obtain ⟨kept, laterAfter, rest⟩ := correct before invariant later answer after answered
      have onwards := discipline.later_trans _ _ _ later laterAfter
      exact ⟨kept, laterAfter, ih answer after (discipline.later_trans _ _ _ ordered onwards) rest⟩

theorem correct_bind (middle : Except Error Value → State → Prop)
    (post : Except Error Other → State → Prop) (program : Program Request Answer Error Value)
    (next : Value → Program Request Answer Error Other) (state : State)
    (first : Correct responds discipline middle program state)
    (succeeds : ∀ value after, middle (.ok value) after →
      Correct responds discipline post (next value) after)
    (fails : ∀ error after, middle (.error error) after → post (.error error) after) :
    Correct responds discipline post (program >>= next) state := by
  induction program generalizing state with
  | done value => exact succeeds value state first
  | fail error => exact fails error state first
  | perform request rest ih =>
      intro before invariant later answer after answered
      obtain ⟨kept, ordered, correct⟩ := first before invariant later answer after answered
      exact ⟨kept, ordered, ih answer after correct⟩

theorem correct_recover (middle post : Except Error Value → State → Prop)
    (program : Program Request Answer Error Value)
    (handler : Error → Program Request Answer Error Value) (state : State)
    (first : Correct responds discipline middle program state)
    (succeeds : ∀ value after, middle (.ok value) after → post (.ok value) after)
    (fails : ∀ error after, middle (.error error) after →
      Correct responds discipline post (handler error) after) :
    Correct responds discipline post (program.recover handler) state := by
  induction program generalizing state with
  | done value => exact succeeds value state first
  | fail error => exact fails error state first
  | perform request rest ih =>
      intro before invariant later answer after answered
      obtain ⟨kept, ordered, correct⟩ := first before invariant later answer after answered
      exact ⟨kept, ordered, ih answer after correct⟩

theorem correct_mark {Caller : Type}
    (respondsTo : Responds State fun marked : Caller × Request => Answer marked.2)
    (caller : Caller) (post : Except Error Value → State → Prop)
    (program : Program Request Answer Error Value) (state : State)
    (correct : Correct (fun request => respondsTo (caller, request)) discipline post program
      state) : Correct respondsTo discipline post (program.mark caller) state := by
  induction program generalizing state with
  | done value => exact correct
  | fail error => exact correct
  | perform request next ih =>
      intro before invariant later answer after answered
      obtain ⟨kept, ordered, rest⟩ := correct before invariant later answer after answered
      exact ⟨kept, ordered, ih answer after rest⟩

/-! Postconditions that say nothing of failures. -/

def Returns (fact : Value → State → Prop) : Except Error Value → State → Prop
  | .ok value, state => fact value state
  | .error _, _ => True

theorem returns_bind (middle : Value → State → Prop) (fact : Other → State → Prop)
    (next : Value → Program Request Answer Error Other)
    (first : Correct responds discipline (Returns middle) program state)
    (second : ∀ value after, middle value after → discipline.later state after →
      Correct responds discipline (Returns fact) (next value) after) :
    Correct responds discipline (Returns fact) (program >>= next) state := by
  refine correct_bind _ _ _ _ _
    (correct_ordered state state (discipline.later_refl state) first) ?_ ?_
  · intro value after reached
    exact second value after reached.1 reached.2
  · intro error after _
    trivial

theorem returns_recover (fact : Value → State → Prop)
    (handler : Error → Program Request Answer Error Value)
    (first : Correct responds discipline (Returns fact) program state)
    (handles : ∀ error after, Correct responds discipline (Returns fact) (handler error) after) :
    Correct responds discipline (Returns fact) (program.recover handler) state :=
  correct_recover _ _ _ _ _ first (fun _ _ holds => holds) fun error after _ => handles error after

end

structure Service (Call State : Type) (Answer : Request → Type) (Error Value : Type) where
  responds : Responds State Answer
  body : Call → Program Request Answer Error Value
  enter : Call → State → State
  environment : State → State → Prop

section

variable {Call State Value : Type}

/-- The shared state and the calls that have begun. -/
structure Pool (Call State : Type) (Answer : Request → Type) (Error Value : Type) where
  state : State
  threads : List (Call × Program Request Answer Error Value)

inductive Step (service : Service Call State Answer Error Value) :
    Pool Call State Answer Error Value → Pool Call State Answer Error Value → Prop where
  | enter (state : State) (threads : List (Call × Program Request Answer Error Value))
      (call : Call) :
      Step service ⟨state, threads⟩
        ⟨service.enter call state, threads ++ [(call, service.body call)]⟩
  | perform (state after : State) (before behind : List (Call × Program Request Answer Error Value))
      (call : Call) (request : Request)
      (next : Answer request → Program Request Answer Error Value) (answer : Answer request)
      (answered : service.responds request state answer after) :
      Step service ⟨state, before ++ (call, .perform request next) :: behind⟩
        ⟨after, before ++ (call, next answer) :: behind⟩
  | environment (state after : State)
      (threads : List (Call × Program Request Answer Error Value))
      (acts : service.environment state after) :
      Step service ⟨state, threads⟩ ⟨after, threads⟩

/-- The pools that a service reaches from a state in which no call has begun. -/
inductive Reaches (service : Service Call State Answer Error Value) (start : State) :
    Pool Call State Answer Error Value → Prop where
  | start : Reaches service start ⟨start, []⟩
  | step (pool next : Pool Call State Answer Error Value) (reached : Reaches service start pool)
      (step : Step service pool next) : Reaches service start next

variable {service : Service Call State Answer Error Value}
  {serve : (request : Request) → State → Answer request × State}
  {threads : List (Call × Program Request Answer Error Value)} {start : State} {call : Call}

theorem reaches_run (serves : ∀ request state,
      service.responds request state (serve request state).1 (serve request state).2)
    (program : Program Request Answer Error Value) (state : State)
    (reached : Reaches service start ⟨state, threads ++ [(call, program)]⟩) :
    Reaches service start ⟨(Program.run serve program state).2,
      threads ++ [(call, .ofExcept (Program.run serve program state).1)]⟩ := by
  induction program generalizing state with
  | done value => exact reached
  | fail error => exact reached
  | perform request next ih =>
      exact ih _ _ (.step _ _ reached
        (.perform state _ threads [] call request next _ (serves request state)))

theorem reaches_call (serves : ∀ request state,
      service.responds request state (serve request state).1 (serve request state).2)
    (state after : State) (reached : Reaches service start ⟨state, threads⟩)
    (outcome : Except Error Value)
    (ran : Program.run serve (service.body call) (service.enter call state) = (outcome, after)) :
    Reaches service start ⟨after, threads ++ [(call, .ofExcept outcome)]⟩ := by
  have entered := reaches_run serves (service.body call)
    (service.enter call state) (.step _ _ reached (.enter state threads call))
  rwa [ran] at entered

structure Service.Keeps (service : Service Call State Answer Error Value)
    (discipline : Discipline State) (post : Call → Except Error Value → State → Prop) : Prop where
  stable : ∀ call, Stable discipline (post call)
  enter : ∀ call state, discipline.invariant state →
    discipline.invariant (service.enter call state) ∧
      discipline.later state (service.enter call state) ∧
      Correct service.responds discipline (post call) (service.body call) (service.enter call state)
  environment : ∀ state after, discipline.invariant state → service.environment state after →
    discipline.invariant after ∧ discipline.later state after

theorem reaches_correct (discipline : Discipline State)
    (post : Call → Except Error Value → State → Prop) (keeps : service.Keeps discipline post)
    (invariant : discipline.invariant start) (pool : Pool Call State Answer Error Value)
    (reached : Reaches service start pool) :
    discipline.invariant pool.state ∧ ∀ thread ∈ pool.threads,
      Correct service.responds discipline (post thread.1) thread.2 pool.state := by
  induction reached with
  | start => exact ⟨invariant, List.forall_mem_nil _⟩
  | step pool next _ step ih =>
      obtain ⟨kept, correct⟩ := ih
      cases step with
      | enter state threads call =>
          obtain ⟨entered, later, begins⟩ := keeps.enter call state kept
          refine ⟨entered, ?_⟩
          intro thread member
          rcases List.mem_append.mp member with running | new
          · exact correct_later (keeps.stable _) _ _ (correct thread running) later
          · rw [List.mem_singleton.mp new]
            exact begins
      | perform state after before behind call request next answer answered =>
          have acting := correct (call, .perform request next) (by simp)
          obtain ⟨keptAfter, later, rest⟩ := acting state kept (discipline.later_refl state)
            answer after answered
          refine ⟨keptAfter, ?_⟩
          intro thread member
          rcases List.mem_append.mp member with other | member
          · exact correct_later (keeps.stable _) _ _
              (correct thread (List.mem_append_left _ other)) later
          · rcases List.mem_cons.mp member with rfl | other
            · exact rest
            · exact correct_later (keeps.stable _) _ _
                (correct thread (List.mem_append_right _ (List.mem_cons_of_mem _ other))) later
      | environment state after threads acts =>
          obtain ⟨keptAfter, later⟩ := keeps.environment state after kept acts
          refine ⟨keptAfter, ?_⟩
          intro thread member
          exact correct_later (keeps.stable _) _ _ (correct thread member) later

end

end CleanRoom.Interaction
