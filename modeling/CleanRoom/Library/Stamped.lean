import CleanRoom.Library.Interaction

/-!
# Programs that remember when they asked

Some requests of a program are watched. The stamped program carries the time of the last
watched request beside every later request and beside its outcome, and each answer tells
the time at which it was given. So the obligations of a program can speak of how old its
knowledge is, although the program itself never sees the time.
-/

namespace CleanRoom.Interaction

variable {Request : Type} {Answer : Request → Type} {Error Value Other Time State : Type}

def Program.stamp (watched : Request → Bool) : Time → Program Request Answer Error Value →
    Program (Time × Request) (fun stamped => Answer stamped.2 × Time) (Time × Error) (Time × Value)
  | time, .done value => .done (time, value)
  | time, .fail error => .fail (time, error)
  | time, .perform request next => .perform (time, request) fun answered =>
      Program.stamp watched (if watched request then answered.2 else time) (next answered.1)

/-- A fact about the value at the end, and one about the failure. -/
def Ends (fact : Time → Value → State → Prop) (fault : Time → Error → State → Prop) :
    Except (Time × Error) (Time × Value) → State → Prop
  | .ok (time, value), state => fact time value state
  | .error (time, error), state => fault time error state

def Timely (watched : Request → Bool)
    (responds : Responds State fun stamped : Time × Request => Answer stamped.2 × Time)
    (discipline : Discipline State) (fact : Time → Value → State → Prop)
    (fault : Time → Error → State → Prop) (time : Time)
    (program : Program Request Answer Error Value) (state : State) : Prop :=
  Correct responds discipline (Ends fact fault) (program.stamp watched time) state

variable {watched : Request → Bool}
  {responds : Responds State fun stamped : Time × Request => Answer stamped.2 × Time}
  {discipline : Discipline State}

variable {fault : Time → Error → State → Prop} {next : Value → Program Request Answer Error Other}
  {fact : Time → Value → State → Prop} {program : Program Request Answer Error Value}
  {state : State} {time : Time} {computation : Except Error Value} {value : Value}

theorem timely_done (holds : fact time value state) :
    Timely watched responds discipline fact fault time
      (pure value : Program Request Answer Error Value) state :=
  holds

theorem timely_fail (error : Error) (holds : fault time error state) :
    Timely watched responds discipline fact fault time
      (.fail error : Program Request Answer Error Value) state :=
  holds

theorem stamp_bind (time : Time) (program : Program Request Answer Error Value)
    (next : Value → Program Request Answer Error Other) :
    (program >>= next).stamp watched time =
      program.stamp watched time >>= fun stamped => (next stamped.2).stamp watched stamped.1 := by
  induction program generalizing time with
  | done value => rfl
  | fail error => rfl
  | perform request rest ih =>
      change Program.perform _ _ = Program.perform _ _
      exact congrArg _ (funext fun answered => ih answered.1 _)

theorem stamp_recover (time : Time) (program : Program Request Answer Error Value)
    (handler : Error → Program Request Answer Error Value) :
    (program.recover handler).stamp watched time =
      (program.stamp watched time).recover fun stamped =>
        (handler stamped.2).stamp watched stamped.1 := by
  induction program generalizing time with
  | done value => rfl
  | fail error => rfl
  | perform request rest ih =>
      change Program.perform _ _ = Program.perform _ _
      exact congrArg _ (funext fun answered => ih answered.1 _)

theorem timely_bind (middle : Time → Value → State → Prop) (fact : Time → Other → State → Prop)
    (first : Timely watched responds discipline middle fault time program state)
    (second : ∀ time value after, middle time value after → discipline.later state after →
      Timely watched responds discipline fact fault time (next value) after) :
    Timely watched responds discipline fact fault time (program >>= next) state := by
  unfold Timely
  rw [stamp_bind]
  refine correct_bind _ _ _ _ _
    (correct_ordered state state (discipline.later_refl state) first) ?_ ?_
  · intro stamped after reached
    exact second stamped.1 stamped.2 after reached.1 reached.2
  · intro error after reached
    exact reached.1

theorem timely_recover (middle fault : Time → Error → State → Prop)
    (handler : Error → Program Request Answer Error Value)
    (first : Timely watched responds discipline fact middle time program state)
    (handles : ∀ time error after, middle time error after → discipline.later state after →
      Timely watched responds discipline fact fault time (handler error) after) :
    Timely watched responds discipline fact fault time (program.recover handler) state := by
  unfold Timely
  rw [stamp_recover]
  refine correct_recover _ _ _ _ _
    (correct_ordered state state (discipline.later_refl state) first) ?_ ?_
  · intro stamped after reached
    exact reached.1
  · intro stamped after reached
    exact handles stamped.1 stamped.2 after reached.1 reached.2

theorem timely_weaken (strong fact : Time → Value → State → Prop)
    (strongFault fault : Time → Error → State → Prop)
    (correct : Timely watched responds discipline strong strongFault time program state)
    (weaker : ∀ time value after, strong time value after → discipline.later state after →
      fact time value after)
    (weakerFault : ∀ time error after, strongFault time error after → fault time error after) :
    Timely watched responds discipline fact fault time program state := by
  refine correct_weaken _ _ _ _
    (correct_ordered state state (discipline.later_refl state) correct) ?_
  intro outcome after holds
  cases outcome with
  | ok stamped => exact weaker stamped.1 stamped.2 after holds.1 holds.2
  | error stamped => exact weakerFault stamped.1 stamped.2 after holds.1

theorem timely_computed (fact : Time → Other → State → Prop)
    (fails : ∀ error, computation = .error error → fault time error state)
    (rest : ∀ value, computation = .ok value →
      Timely watched responds discipline fact fault time (next value) state) :
    Timely watched responds discipline fact fault time (Program.ofExcept computation >>= next)
      state := by
  cases computation with
  | ok value => exact rest value rfl
  | error error => exact fails error rfl

theorem timely_known (fact : Time → Other → State → Prop) (known : computation = .ok value)
    (rest : Timely watched responds discipline fact fault time (next value) state) :
    Timely watched responds discipline fact fault time (Program.ofExcept computation >>= next)
      state := by
  rw [known]
  exact rest

theorem timely_of_except (fails : ∀ error, computation = .error error → fault time error state)
    (holds : ∀ value, computation = .ok value → fact time value state) :
    Timely watched responds discipline fact fault time
      (Program.ofExcept computation : Program Request Answer Error Value) state := by
  cases computation with
  | ok value => exact holds value rfl
  | error error => exact fails error rfl

theorem timely_ask (request : Request) (fact : Time → Answer request → State → Prop)
    (answers : ∀ before, discipline.invariant before → discipline.later state before →
      ∀ answer now after, responds (time, request) before (answer, now) after →
        discipline.invariant after ∧ discipline.later before after ∧
          fact (if watched request then now else time) answer after) :
    Timely watched responds discipline fact fault time (Program.ask request) state := by
  intro before invariant later answered after responded
  exact answers before invariant later answered.1 answered.2 after responded

/-! A server of the requests of all callers, as one of them sees it: the time of its last
watched request is part of the state. -/

section

variable {Caller : Type}

def seenBy (watched : Request → Bool)
    (serve : (marked : Caller × (Time × Request)) → State → (Answer marked.2.2 × Time) × State)
    (caller : Caller) (request : Request) (state : State × Time) :
    Answer request × (State × Time) :=
  let answered := serve (caller, state.2, request) state.1
  (answered.1.1, answered.2, if watched request then answered.1.2 else state.2)

variable {serve : (marked : Caller × (Time × Request)) → State →
  (Answer marked.2.2 × Time) × State}

variable {program : Program Request Answer Error Value}
  {next : Value → Program Request Answer Error Other} {caller : Caller} {state after : State}
  {time now : Time} {start : State}

theorem mark_bind :
    (program >>= next).mark caller =
      program.mark caller >>= fun value => (next value).mark caller := by
  induction program with
  | done value => rfl
  | fail error => rfl
  | perform request rest ih => exact congrArg (Program.perform _) (funext ih)

theorem run_stamped (caller : Caller) (program : Program Request Answer Error Value)
    (state after : State) (time now : Time) (value : Value)
    (ran : Program.run (seenBy watched serve caller) program (state, time) =
      (.ok value, after, now)) :
    Program.run serve ((program.stamp watched time).mark caller) state =
      (.ok (now, value), after) := by
  induction program generalizing state time with
  | done found =>
      cases ran
      rfl
  | fail error => cases ran
  | perform request next ih => exact ih _ _ _ ran

theorem program_bind_assoc {Last : Type} (last : Other → Program Request Answer Error Last) :
    program >>= next >>= last = program >>= fun value => next value >>= last := by
  induction program with
  | done value => rfl
  | fail error => rfl
  | perform request rest ih => exact congrArg (Program.perform _) (funext ih)

theorem program_bind_pure (program : Program Request Answer Error Value) :
    program >>= pure = program := by
  induction program with
  | done value => rfl
  | fail error => rfl
  | perform request rest ih => exact congrArg (Program.perform _) (funext ih)

theorem reaches_beginning {Call : Type} {Answers : Request → Type}
    (service : Service Call State Answers Error Value) (start : State)
    (answer : (request : Request) → State → Answers request × State) (serves : ∀ request state,
      service.responds request state (answer request state).1 (answer request state).2)
    (call : Call) (before behind : List (Call × Program Request Answers Error Value))
    (first : Program Request Answers Error Other)
    (rest : Other → Program Request Answers Error Value) (state after : State) (value : Other)
    (ran : Program.run answer first state = (.ok value, after))
    (reached : Reaches service start ⟨state, before ++ (call, first >>= rest) :: behind⟩) :
    Reaches service start ⟨after, before ++ (call, rest value) :: behind⟩ := by
  induction first generalizing state with
  | done found =>
      cases ran
      exact reached
  | fail error => cases ran
  | perform request next ih =>
      exact ih _ _ ran (.step _ _ reached
        (.perform state _ before behind call request _ _ (serves request state)))

variable {Call : Type}
  (service : Service Call State (fun marked : Caller × (Time × Request) =>
    Answer marked.2.2 × Time) (Time × Error) (Time × Value))
  (serves : ∀ marked state,
    service.responds marked state (serve marked state).1 (serve marked state).2)
  (call : Call) (before behind : List (Call × Program (Caller × (Time × Request))
    (fun marked => Answer marked.2.2 × Time) (Time × Error) (Time × Value)))

include serves

theorem reaches_stamped (first : Program Request Answer Error Other)
    (rest : Other → Program Request Answer Error Value) (value : Other)
    (ran : Program.run (seenBy watched serve caller) first (state, time) = (.ok value, after, now))
    (reached : Reaches service start
      ⟨state, before ++ (call, ((first >>= rest).stamp watched time).mark caller) :: behind⟩) :
    Reaches service start
      ⟨after, before ++ (call, ((rest value).stamp watched now).mark caller) :: behind⟩ := by
  rw [stamp_bind, mark_bind] at reached
  exact reaches_beginning service start serve serves call before behind _ _ state after
    (now, value) (run_stamped caller first state after time now value ran) reached

theorem reaches_stamped_end (value : Value)
    (ran : Program.run (seenBy watched serve caller) program (state, time) =
      (.ok value, after, now)) (reached : Reaches service start
      ⟨state, before ++ (call, (program.stamp watched time).mark caller) :: behind⟩) :
    Reaches service start ⟨after, before ++ (call, .done (now, value)) :: behind⟩ := by
  rw [← program_bind_pure program] at reached
  exact reaches_stamped service serves call before behind program pure value ran reached

end

end CleanRoom.Interaction
