import CleanRoom.Analytics.RunQuery
import Mathlib.Data.List.Flatten
import Mathlib.Data.List.Perm.Basic
import Mathlib.Data.List.Sort

/-!
# The order of the segments of a query

`run_query` groups the segments by their execution sequence, runs the groups in ascending
order and takes its output from the group of the running maximum, which starts at zero. The
tasks of a group run one behind the other, since nothing in them suspends.
-/

namespace CleanRoom.Analytics

open TwoRuns

variable {Value : Type} (spark : Spark Value) (host : PythonHost)

/-- Segments one after another, up to the first that fails. -/
def runInTurn : List QuerySegment → SparkAction Value (List (DataFrame Value))
  | [] => pure []
  | segment :: segments => do
      let result ← runQuerySegment spark host segment
      let results ← runInTurn segments
      return result :: results

def executeSegments (query : Query) : SparkAction Value (Option (DataFrame Value)) := do
  Action.ofExcept (checkLastStep query)
  runSteps spark host query query.steps none

def finishQuery (config : QueryConfiguration) (rowCounts : List Nat)
    (output : Option (DataFrame Value)) : SparkAction Value Unit :=
  Action.attempt
    (do
      let rowCountWritten ← writeOutput spark host config output
      record (.queryExecutionCompleted host.durationSec)
      record (.auditQueryCompleted "run_query" host.jobId)
      record (.queryStatistics (rowCounts.foldl (· + ·) 0) rowCountWritten host.durationSec))
    fun error => do
      record (.queryExecutionFailed error)
      record (.auditQueryFailed "run_query" host.jobId error)
      throw error

section

variable {State Error First Second : Type}

theorem action_bind_ok (action : Action State Error First)
    (next : First → Action State Error Second)
    (state after : State) (value : First) (ran : action state = (.ok value, after)) :
    (action >>= next) state = next value after := by
  change Action.bind action next state = _
  simp [Action.bind, ran]

theorem action_bind_cases (action : Action State Error First)
    (next : First → Action State Error Second) (state after : State) (value : Second)
    (ran : (action >>= next) state = (.ok value, after)) :
    ∃ first middle, action state = (.ok first, middle) ∧
      next first middle = (.ok value, after) := by
  change Action.bind action next state = _ at ran
  unfold Action.bind at ran
  split at ran
  next first middle done => exact ⟨first, middle, done, ran⟩
  next => cases ran

end

theorem run_query_finishes (config : QueryConfiguration) (query : Query)
    (startDate endDate : String) (session loaded after : Session Value) (rowCounts : List Nat)
    (output : Option (DataFrame Value))
    (loads : loadDatasets spark host config startDate endDate session = (.ok rowCounts, loaded))
    (executes : executeSegments spark host query loaded = (.ok output, after)) :
    runQuery spark host config query startDate endDate session =
      finishQuery spark host config rowCounts output after := by
  obtain ⟨_, middle, checked, ran⟩ := action_bind_cases _ _ _ _ _ executes
  unfold runQuery finishQuery Action.attempt
  rw [action_bind_ok _ _ _ _ _ loads, action_bind_ok _ _ _ _ _ checked,
    action_bind_ok _ _ _ _ _ ran]

theorem gather_in_turn (segments : List QuerySegment) (session after : Session Value)
    (results : List (DataFrame Value))
    (ran : runInTurn spark host segments session = (.ok results, after)) :
    Action.gather (runQuerySegment spark host) segments session =
      (.ok (results.map .ok), after) := by
  induction segments generalizing session results with
  | nil =>
      cases ran
      rfl
  | cons segment segments induction =>
      obtain ⟨result, middle, first, others⟩ := action_bind_cases _ _ _ _ _ ran
      obtain ⟨rest, last, second, ended⟩ := action_bind_cases _ _ _ _ _ others
      cases ended
      unfold Action.gather
      rw [first]
      dsimp only
      rw [action_bind_ok _ _ _ _ _ (induction middle rest second)]
      rfl

theorem all_ok (results : List (DataFrame Value)) :
    (results.map .ok : List (Except String (DataFrame Value))).mapM id = .ok results := by
  induction results with
  | nil => rfl
  | cons result results induction =>
      rw [List.map_cons, List.mapM_cons, induction]
      rfl

theorem run_step_in_turn (query : Query) (step : Int) (session after : Session Value)
    (results : List (DataFrame Value))
    (ran : runInTurn spark host (query.segmentsAt step) session = (.ok results, after)) :
    runStep spark host query step session = (.ok results, after) := by
  unfold runStep
  rw [action_bind_ok _ _ _ _ _ (gather_in_turn spark host _ _ _ _ ran), all_ok]
  rfl

theorem run_in_turn_append (first second : List QuerySegment) (session after : Session Value)
    (results : List (DataFrame Value))
    (ran : runInTurn spark host (first ++ second) session = (.ok results, after)) :
    ∃ middle before rest, runInTurn spark host first session = (.ok before, middle) ∧
      runInTurn spark host second middle = (.ok rest, after) ∧ results = before ++ rest := by
  induction first generalizing session results with
  | nil => exact ⟨session, [], results, rfl, ran, rfl⟩
  | cons segment first induction =>
      obtain ⟨result, middle, one, others⟩ := action_bind_cases _ _ _ _ _ ran
      obtain ⟨more, last, second, ended⟩ := action_bind_cases _ _ _ _ _ others
      cases ended
      obtain ⟨reached, before, rest, begun, completed, rfl⟩ := induction middle more second
      refine ⟨reached, result :: before, rest, ?_, completed, rfl⟩
      unfold runInTurn
      rw [action_bind_ok _ _ _ _ _ one, action_bind_ok _ _ _ _ _ begun]
      rfl

theorem run_in_turn_length (segments : List QuerySegment) (session after : Session Value)
    (results : List (DataFrame Value))
    (ran : runInTurn spark host segments session = (.ok results, after)) :
    results.length = segments.length := by
  induction segments generalizing session results with
  | nil =>
      cases ran
      rfl
  | cons segment segments induction =>
      obtain ⟨result, middle, _, others⟩ := action_bind_cases _ _ _ _ _ ran
      obtain ⟨more, last, second, ended⟩ := action_bind_cases _ _ _ _ _ others
      cases ended
      simp [induction middle more second]

theorem run_steps_in_turn (query : Query) (steps : List Int) (session after : Session Value)
    (output : Option (DataFrame Value)) (results : List (DataFrame Value))
    (earlier : query.lastStep ∉ steps)
    (ran : runInTurn spark host ((steps ++ [query.lastStep]).flatMap query.segmentsAt) session =
      (.ok results, after)) :
    ∃ before last, results = before ++ last ∧
      last.length = (query.segmentsAt query.lastStep).length ∧
      runSteps spark host query (steps ++ [query.lastStep]) output session =
        (.ok last.head?, after) := by
  induction steps generalizing session output results with
  | nil =>
      simp only [List.nil_append, List.flatMap_singleton] at ran ⊢
      refine ⟨[], results, rfl, run_in_turn_length spark host _ _ _ _ ran, ?_⟩
      unfold runSteps
      rw [action_bind_ok _ _ _ _ _ (run_step_in_turn spark host query _ _ _ _ ran), if_pos rfl]
      rfl
  | cons step steps induction =>
      simp only [List.mem_cons, not_or] at earlier
      simp only [List.cons_append, List.flatMap_cons] at ran ⊢
      obtain ⟨middle, first, rest, begun, completed, rfl⟩ :=
        run_in_turn_append spark host _ _ _ _ _ ran
      obtain ⟨before, last, rfl, same, steps⟩ :=
        induction middle output rest earlier.2 completed
      refine ⟨first ++ before, last, by simp, same, ?_⟩
      unfold runSteps
      rw [action_bind_ok _ _ _ _ _ (run_step_in_turn spark host query _ _ _ _ begun),
        if_neg earlier.1]
      exact steps

variable {last : QuerySegment} {segments : List QuerySegment}

theorem groups_perm (steps : List Int) (distinct : steps.Nodup) :
    (steps.flatMap fun step => segments.filter fun segment => segment.executionSequence = step).Perm
      (segments.filter fun segment => segment.executionSequence ∈ steps) := by
  induction steps with
  | nil => simp
  | cons step steps induction =>
      obtain ⟨fresh, distinct⟩ := List.nodup_cons.mp distinct
      have split := List.filter_append_perm (fun segment => segment.executionSequence = step)
        (segments.filter fun segment => segment.executionSequence ∈ step :: steps)
      rw [List.filter_filter, List.filter_filter] at split
      rw [List.flatMap_cons]
      refine List.Perm.trans (List.Perm.append (List.Perm.of_eq ?_)
        ((induction distinct).trans (List.Perm.of_eq ?_))) split
      · apply List.filter_congr
        intro segment _
        by_cases same : segment.executionSequence = step <;> simp [same]
      · apply List.filter_congr
        intro segment _
        by_cases same : segment.executionSequence = step <;> simp [same, fresh]

theorem mem_steps (query : Query) (step : Int) :
    step ∈ query.steps ↔ ∃ segment ∈ query.segments, segment.executionSequence = step := by
  simp [Query.steps, List.mem_mergeSort]

theorem steps_sorted (query : Query) : query.steps.Pairwise (· ≤ ·) := by
  have sorted := @List.pairwise_mergeSort Int (fun left right => decide (left ≤ right))
    (fun one two three => by simp; omega) (fun one two => by simp; omega)
    (query.segments.map QuerySegment.executionSequence).dedup
  simpa [Query.steps] using sorted

theorem steps_nodup (query : Query) : query.steps.Nodup :=
  (List.mergeSort_perm _ _).nodup_iff.mpr (List.nodup_dedup _)

def Query.order (query : Query) : List QuerySegment := query.steps.flatMap query.segmentsAt

theorem order_perm (query : Query) : query.order.Perm query.segments := by
  refine (groups_perm query.steps (steps_nodup query)).trans
    (List.Perm.of_eq (List.filter_eq_self.mpr ?_))
  intro segment member
  simpa using (mem_steps query _).mpr ⟨segment, member, rfl⟩

theorem order_sorted (query : Query) : query.order.Pairwise fun first second =>
    first.executionSequence ≤ second.executionSequence := by
  have at_step : ∀ step, ∀ segment ∈ query.segmentsAt step, segment.executionSequence = step := by
    intro step segment member
    simpa using (List.mem_filter.mp member).2
  refine List.pairwise_flatMap.mpr ⟨?_, (steps_sorted query).imp ?_⟩
  · intro step _
    refine List.pairwise_of_forall_mem_list ?_
    intro first one second two
    rw [at_step step first one, at_step step second two]
  · intro first second less one memberOne two memberTwo
    rw [at_step first one memberOne, at_step second two memberTwo]
    exact less

theorem last_step_spec (query : Query) :
    0 ≤ query.lastStep ∧
      (∀ segment ∈ query.segments, segment.executionSequence ≤ query.lastStep) ∧
      (query.lastStep = 0 ∨
        ∃ segment ∈ query.segments, segment.executionSequence = query.lastStep) := by
  have general : ∀ (segments : List QuerySegment) (start : Int),
      let last := segments.foldl (fun last segment =>
        if segment.executionSequence > last then segment.executionSequence else last) start
      start ≤ last ∧ (∀ segment ∈ segments, segment.executionSequence ≤ last) ∧
        (last = start ∨ ∃ segment ∈ segments, segment.executionSequence = last) := by
    intro segments
    induction segments with
    | nil => simp
    | cons segment segments induction =>
        intro start
        obtain ⟨above, all, found⟩ := induction
          (if segment.executionSequence > start then segment.executionSequence else start)
        simp only [List.foldl_cons, List.forall_mem_cons]
        split at above
        next greater =>
          rw [if_pos greater] at all found ⊢
          refine ⟨by omega, ⟨by omega, all⟩, .inr ?_⟩
          rcases found with same | ⟨other, member, same⟩
          · exact ⟨segment, List.mem_cons_self, same.symm⟩
          · exact ⟨other, List.mem_cons_of_mem _ member, same⟩
        next notGreater =>
          rw [if_neg notGreater] at all found ⊢
          refine ⟨above, ⟨by omega, all⟩, ?_⟩
          rcases found with same | ⟨other, member, same⟩
          · exact .inl same
          · exact .inr ⟨other, List.mem_cons_of_mem _ member, same⟩
  exact general query.segments 0

/-- The greatest sequence is held by one segment alone. -/
structure HasLast (query : Query) (last : QuerySegment) : Prop where
  greatest : ∀ segment ∈ query.segments, segment.executionSequence ≤ last.executionSequence
  alone : query.segmentsAt last.executionSequence = [last]

/-- The segments run one after another, each once and in the order of their sequences, and
the query goes on to write what the last of them gave. -/
def RunsInOrder (config : QueryConfiguration) (query : Query) (last : QuerySegment)
    (startDate endDate : String) (session loaded : Session Value) (rowCounts : List Nat) : Prop :=
  ∃ earlier results output after,
    (earlier ++ [last]).Perm query.segments ∧
    (earlier ++ [last]).Pairwise (fun first second =>
      first.executionSequence ≤ second.executionSequence) ∧
    runInTurn spark host (earlier ++ [last]) loaded = (.ok (results ++ [output]), after) ∧
    executeSegments spark host query loaded = (.ok (some output), after) ∧
    runQuery spark host config query startDate endDate session =
      finishQuery spark host config rowCounts (some output) after

theorem last_mem (query : Query) (has : HasLast query last) :
    last ∈ query.segments := by
  have member : last ∈ query.segmentsAt last.executionSequence := by
    rw [has.alone]
    simp
  exact (List.mem_filter.mp member).1

theorem last_step_eq (query : Query) (has : HasLast query last)
    (counted : 0 ≤ last.executionSequence) : query.lastStep = last.executionSequence := by
  obtain ⟨_, above, found⟩ := last_step_spec query
  have reached := above last (last_mem query has)
  rcases found with zero | ⟨segment, member, same⟩
  · omega
  · have below := has.greatest segment member
    omega

theorem steps_end (query : Query) (has : HasLast query last) :
    ∃ steps, query.steps = steps ++ [last.executionSequence] ∧
      last.executionSequence ∉ steps := by
  have present := (mem_steps query _).mpr ⟨last, last_mem query has, rfl⟩
  rcases List.eq_nil_or_concat query.steps with none | ⟨steps, final, split⟩
  · rw [none] at present
    cases present
  · rw [List.concat_eq_append] at split
    have sorted := steps_sorted query
    have distinct := steps_nodup query
    rw [split] at present sorted distinct
    obtain ⟨segment, member, same⟩ := (mem_steps query final).mp (by simp [split])
    have below := has.greatest segment member
    have above : last.executionSequence ≤ final := by
      rcases List.mem_append.mp present with earlier | final
      · exact (List.pairwise_append.mp sorted).2.2 _ earlier _ (by simp)
      · simp at final
        omega
    have equal : final = last.executionSequence := by omega
    subst equal
    refine ⟨steps, split, ?_⟩
    intro again
    exact (List.nodup_append.mp distinct).2.2 _ again _ (by simp) rfl

/-- With all segments succeeding, they run in their order and the last one is written exactly
when its sequence is not negative. -/
theorem query_runs_in_order_iff (config : QueryConfiguration) (query : Query)
    (last : QuerySegment) (has : HasLast query last) (startDate endDate : String)
    (session loaded after : Session Value) (rowCounts : List Nat)
    (results : List (DataFrame Value))
    (loads : loadDatasets spark host config startDate endDate session = (.ok rowCounts, loaded))
    (succeed : runInTurn spark host query.order loaded = (.ok results, after)) :
    RunsInOrder spark host config query last startDate endDate session loaded rowCounts ↔
      0 ≤ last.executionSequence := by
  constructor
  · rintro ⟨_, _, _, _, _, _, _, executes, _⟩
    obtain ⟨_, _, checked, _⟩ := action_bind_cases _ _ _ _ _ executes
    by_contra negative
    obtain ⟨positive, _, _⟩ := last_step_spec query
    have nothing : query.segmentsAt query.lastStep = [] := by
      refine List.filter_eq_nil_iff.mpr ?_
      intro segment member same
      have below := has.greatest segment member
      simp at same
      omega
    have some_segment : query.segments ≠ [] := List.ne_nil_of_mem (last_mem query has)
    simp [checkLastStep, nothing, some_segment, Action.ofExcept] at checked
  · intro counted
    have lastStep := last_step_eq query has counted
    obtain ⟨steps, split, earlier⟩ := steps_end query has
    rw [← lastStep] at split earlier
    have alone : query.segmentsAt query.lastStep = [last] := by rw [lastStep, has.alone]
    have order : query.order = steps.flatMap query.segmentsAt ++ [last] := by
      rw [Query.order, split, List.flatMap_append, List.flatMap_singleton, alone]
    obtain ⟨before, final, rfl, single, ran⟩ := run_steps_in_turn spark host query steps loaded
      after none results earlier (by rw [← split]; exact succeed)
    rw [alone] at single
    obtain ⟨output, rfl⟩ := List.length_eq_one_iff.mp single
    have executes : executeSegments spark host query loaded = (.ok (some output), after) := by
      have checked : checkLastStep query = .ok () := by simp [checkLastStep, alone]
      unfold executeSegments
      rw [checked, split]
      exact ran
    refine ⟨steps.flatMap query.segmentsAt, before, output, after, ?_, ?_, ?_, executes,
      run_query_finishes spark host config query startDate endDate session loaded after rowCounts
        (some output) loads executes⟩
    · rw [← order]
      exact order_perm query
    · rw [← order]
      exact order_sorted query
    · rw [← order]
      exact succeed

/-- A statement gives itself as its only row. -/
def echoSpark : Spark String where
  viewKey := .ok
  select _ _ := .ok []
  atLeast _ _ _ := .ok fun _ => true
  unionCheck _ := .ok ()
  relations _ := []
  evaluate statement _ := .ok ⟨⟨[], [[statement]]⟩, [], [], id⟩
  save _ := .ok ()

def quietHost : PythonHost := ⟨fun _ => .ok 1, fun _ => "", fun _ => "", "", "", ""⟩

def emptySession : Session String :=
  ⟨[], ⟨fun _ _ _ _ => .ok [], fun _ _ => .ok ⟨[], []⟩⟩, [], []⟩

def echoConfiguration : QueryConfiguration :=
  ⟨[], ⟨"out", "out", "/mnt/out", .csv, some [], []⟩⟩

def plainSegment (step : Int) (data : String) : QuerySegment := ⟨step, data, none, none⟩

theorem echo_in_turn (session : Session String)
    (plain : ∀ segment ∈ segments, segment = plainSegment segment.executionSequence segment.data) :
    ∃ results after, runInTurn echoSpark quietHost segments session = (.ok results, after) := by
  induction segments generalizing session with
  | nil => exact ⟨[], session, rfl⟩
  | cons segment segments induction =>
      rw [List.forall_mem_cons] at plain
      obtain ⟨first, plain⟩ := plain
      have ran : ∃ result middle,
          runQuerySegment echoSpark quietHost segment session = (.ok result, middle) := by
        rw [first]
        exact ⟨_, _, rfl⟩
      obtain ⟨result, middle, ran⟩ := ran
      obtain ⟨results, after, others⟩ := induction middle plain
      refine ⟨result :: results, after, ?_⟩
      unfold runInTurn
      rw [action_bind_ok _ _ _ _ _ ran, action_bind_ok _ _ _ _ _ others]
      rfl

def twoSteps : Query := ⟨[plainSegment 2 "join", plainSegment 1 "left"]⟩

theorem two_steps_in_order :
    RunsInOrder echoSpark quietHost echoConfiguration twoSteps (plainSegment 2 "join") "" ""
      emptySession emptySession [] := by
  have plain : ∀ segment ∈ twoSteps.order,
      segment = plainSegment segment.executionSequence segment.data := by
    intro segment member
    rw [(order_perm twoSteps).mem_iff] at member
    simp only [twoSteps, List.mem_cons, List.not_mem_nil, or_false] at member
    rcases member with rfl | rfl <;> rfl
  obtain ⟨results, after, succeed⟩ := echo_in_turn emptySession plain
  exact (query_runs_in_order_iff echoSpark quietHost echoConfiguration twoSteps
    (plainSegment 2 "join") ⟨by simp [twoSteps, plainSegment], rfl⟩ "" "" emptySession emptySession
    after [] results rfl succeed).mpr (by decide)

/-- A query whose only sequence is negative fails before its segment runs. -/
theorem negative_sequence_fails :
    (runQuery echoSpark quietHost echoConfiguration ⟨[plainSegment (-1) "join"]⟩ "" ""
      emptySession).1 = .error "There should be just 1 last segment but there are 0." ∧
    ¬RunsInOrder echoSpark quietHost echoConfiguration ⟨[plainSegment (-1) "join"]⟩
      (plainSegment (-1) "join") "" "" emptySession emptySession [] := by
  refine ⟨rfl, ?_⟩
  rintro ⟨_, _, _, _, _, _, _, executed, _⟩
  cases executed

end CleanRoom.Analytics
