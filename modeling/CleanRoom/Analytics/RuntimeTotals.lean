import CleanRoom.Analytics.JobRecords
import CleanRoom.Library.Doubles

/-!
# Totals of the run times

The summary of a record takes over the total of the last summary, which is rounded to two
decimals, and adds the next run to it. Numbers are doubles.
-/

namespace CleanRoom.Analytics

open Doubles

def roundCents (value : Rat) : Rat := roundHalfEven (value * 100) / 100

/-- The floats of Python. `round` goes through the nearest decimal of the double's own value. -/
def doubleHost (host : RecordHost) : RecordHost where
  totalSeconds microseconds := toDouble (microseconds / 1000000)
  plus left right := toDouble (left + right)
  divide value count := toDouble (value / toDouble count)
  round2 value := toDouble (roundCents value)
  isoformat := host.isoformat
  str := host.str
  queryStatistics := host.queryStatistics

def JobRun.microseconds (run : JobRun) : Int :=
  match run.startTime, run.endTime with
  | some startTime, some endTime => endTime - startTime
  | _, _ => 0

def summarize (host : RecordHost) (runs : List JobRun) : JobRecordSummary :=
  runs.foldl (JobRecordSummary.accumulate host) {}

def exactTotal (runs : List JobRun) : Rat :=
  runs.foldl (fun total run => total + run.microseconds / 1000000) 0

/-- The summary has the doubles of the total and the mean of the exact times, rounded once. -/
def TotalsExact (host : RecordHost) (runs : List JobRun) : Prop :=
  (summarize host runs).totalRuntimeSeconds = toDouble (roundCents (exactTotal runs)) ∧
    (summarize host runs).avgDurationSeconds =
      toDouble (roundCents (exactTotal runs / runs.length))

/-- The value is halfway between two hundredths. -/
def IsTie (value : Rat) : Prop := |(roundHalfEven (value * 100) : Rat) - value * 100| = 1 / 2

variable {runs : List JobRun} {microseconds : Int} {run : JobRun} {value exact : Rat}

theorem round_cents_near (cents : Int) (near : |value * 100 - cents| < 1 / 2) :
    roundCents value = cents / 100 := by
  rw [roundCents, round_of_near cents near]

theorem round_cents_whole (cents : Int) : roundCents (cents / 100) = cents / 100 := by
  refine round_cents_near cents ?_
  rw [div_mul_cancel₀ _ (by norm_num), sub_self, abs_zero]
  norm_num

/-- A value that is close to one that is rounded to some hundredths is rounded to them too. -/
theorem round_cents_close {units : Nat} (cents : Int) (close : Close units value exact)
    (margin : |(cents : Rat) - exact * 100| + units * exact * 100 / 2 ^ 53 < 1 / 2) :
    roundCents value = cents / 100 := by
  refine round_cents_near cents ?_
  have error : |(value - exact) * 100| ≤ units * exact * 100 / 2 ^ 53 := by
    rw [abs_mul, abs_of_pos (by norm_num : (0 : Rat) < 100)]
    unfold Close at close
    linarith
  have triangle := abs_sub ((value - exact) * 100) (cents - exact * 100)
  rw [show (value - exact) * 100 - (cents - exact * 100) = value * 100 - cents by ring] at triangle
  linarith

variable (host : RecordHost)

theorem duration_double (run : JobRun) :
    run.durationSeconds (doubleHost host) = toDouble (run.microseconds / 1000000) := by
  cases begins : run.startTime <;> cases ends : run.endTime <;>
    simp [JobRun.durationSeconds, JobRun.microseconds, begins, ends, doubleHost]

/-- What is added up before it is rounded. -/
def nextTotal (runs : List JobRun) (run : JobRun) : Rat :=
  toDouble ((summarize (doubleHost host) runs).totalRuntimeSeconds +
    toDouble (run.microseconds / 1000000))

theorem total_append (runs : List JobRun) (run : JobRun) :
    (summarize (doubleHost host) (runs ++ [run])).totalRuntimeSeconds =
      toDouble (roundCents (nextTotal host runs run)) := by
  rw [nextTotal, ← duration_double host run]
  simp [summarize, JobRecordSummary.accumulate, doubleHost]

theorem total_runs (runs : List JobRun) :
    (summarize (doubleHost host) runs).totalRuns = runs.length := by
  induction runs using List.reverseRecOn with
  | nil => rfl
  | append_singleton runs run induction =>
      simp only [summarize, List.foldl_append, List.foldl_cons, List.foldl_nil,
        List.length_append, List.length_singleton] at induction ⊢
      rw [← induction]
      rfl

theorem average_append (runs : List JobRun) (run : JobRun) :
    (summarize (doubleHost host) (runs ++ [run])).avgDurationSeconds =
      toDouble (roundCents (toDouble (nextTotal host runs run /
        toDouble (runs ++ [run]).length))) := by
  rw [nextTotal, ← duration_double host run, ← total_runs host]
  simp [summarize, JobRecordSummary.accumulate, doubleHost]

theorem exact_total_append (runs : List JobRun) (run : JobRun) :
    exactTotal (runs ++ [run]) = exactTotal runs + run.microseconds / 1000000 := by
  simp [exactTotal]

/-- One step: after a total of whole hundredths the next one is off by three units. -/
theorem next_total_close (cents : Int) (positive : 0 ≤ cents)
    (before : (summarize (doubleHost host) runs).totalRuntimeSeconds = toDouble (cents / 100))
    (later : 0 ≤ run.microseconds) :
    Close 3 (nextTotal host runs run) (cents / 100 + run.microseconds / 1000000) := by
  have total : (0 : Rat) ≤ cents / 100 := by positivity
  have length : (0 : Rat) ≤ run.microseconds / 1000000 := by positivity
  rw [nextTotal, before]
  exact ((close_to_double total).add (close_to_double length)).round (by norm_num)
    (add_nonneg total length)

theorem microseconds_nonneg (valid : run.validateTimes = .ok run) : 0 ≤ run.microseconds := by
  cases begins : run.startTime <;> cases ends : run.endTime <;>
    simp [JobRun.microseconds, begins, ends]
  simp only [JobRun.validateTimes, begins, ends] at valid
  split at valid
  · cases valid
  · omega

/-- The run lemma: totals of whole hundredths, below the bound, are kept as they are. -/
theorem total_of_hundredths (runs : List JobRun)
    (given : ∀ run ∈ runs, run.validateTimes = .ok run ∧ 10000 ∣ run.microseconds)
    (bounded : exactTotal runs < 2 ^ 40) :
    ∃ cents : Int, 0 ≤ cents ∧ exactTotal runs = cents / 100 ∧
      (summarize (doubleHost host) runs).totalRuntimeSeconds = toDouble (cents / 100) := by
  induction runs using List.reverseRecOn with
  | nil => exact ⟨0, le_rfl, by simp [exactTotal], by simp [summarize]⟩
  | append_singleton runs run induction =>
      obtain ⟨valid, more, length⟩ := given run (by simp)
      have later := microseconds_nonneg valid
      have longer : (0 : Rat) ≤ run.microseconds / 1000000 := by positivity
      rw [exact_total_append] at bounded
      obtain ⟨cents, positive, exact, same⟩ := induction
        (fun other member => given other (List.mem_append_left _ member)) (by linarith)
      have sum : (cents / 100 : Rat) + run.microseconds / 1000000 =
          ((cents + more : Int) : Rat) / 100 := by
        rw [length]
        push_cast
        ring
      have close := next_total_close host cents positive same later
      rw [sum] at close
      refine ⟨cents + more, by omega, by rw [exact_total_append, exact, sum], ?_⟩
      rw [exact, sum] at bounded
      rw [total_append, round_cents_close (cents + more) close]
      rw [div_mul_cancel₀ _ (by norm_num), sub_self, abs_zero]
      push_cast at bounded ⊢
      linarith

def runOf (microseconds : Int) : JobRun :=
  ⟨"", some 0, some microseconds, true, none, none⟩

def plainRecordHost : RecordHost :=
  ⟨fun _ => 0, fun left _ => left, fun value _ => value, id, fun _ => "", fun _ => "",
    fun _ => none⟩

/-- At a tie the double of the mean decides: that of 0.015 is less. -/
example : (summarize (doubleHost plainRecordHost)
    [runOf 10000, runOf 20000]).avgDurationSeconds = toDouble (1 / 100) := by
  decide +kernel

def fourMilliseconds : List JobRun := [runOf 4000, runOf 4000, runOf 4000]

end CleanRoom.Analytics
