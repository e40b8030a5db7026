import CleanRoom.Analytics.JobRecords
import CleanRoom.Library.Interference

/-!
# Runs counted in the record of a query

What the record of a query holds after any interleaving of polls. Optimistic locking makes
the stored summary that of all runs recorded so far, and the stored list their last ones.
A run is left out when it is found in the stored list. Each job is counted once exactly
when no run that has passed out of the list is recorded again.
-/

namespace CleanRoom.Analytics

open Interaction RecentItems

def storedRuns (cluster : Cluster) (queryId : String) : List JobRun :=
  ((cluster.records queryId).map JobRecord.existingRuns).getD []

def storedSummary (cluster : Cluster) (queryId : String) : JobRecordSummary :=
  ((cluster.records queryId).map JobRecord.existingSummary).getD {}

section

variable (host : RecordHost)

def accumulateAll (runs : List JobRun) : JobRecordSummary :=
  runs.foldl (JobRecordSummary.accumulate host) {}

variable {queryId : String} {cluster : Cluster} {runs : List JobRun} {before after : Cluster}
  {app : SparkApplication} {jobId : String} {run : JobRun} {record : JobRecord}

theorem accumulate_all_concat :
    accumulateAll host (runs ++ [run]) = (accumulateAll host runs).accumulate host run := by
  rw [accumulateAll, List.foldl_append]
  rfl

theorem accumulate_all_total :
    (accumulateAll host runs).totalRuns = runs.length := by
  induction runs using List.reverseRecOn with
  | nil => rfl
  | append_singleton runs run ih =>
      rw [accumulate_all_concat, List.length_append, List.length_singleton, ← ih]
      rfl

theorem accumulate_all_balanced :
    (accumulateAll host runs).totalRuns =
      (accumulateAll host runs).successfulRuns + (accumulateAll host runs).failedRuns := by
  induction runs using List.reverseRecOn with
  | nil => rfl
  | append_singleton runs run ih =>
      rw [accumulate_all_concat]
      simp only [JobRecordSummary.accumulate]
      rw [ih]
      split <;> omega

/-- Each recorded job contributes once to the summary, total runs are successful and failed
runs, and the last distinct runs are stored in the order of recording. -/
structure CountsOnce (cluster : Cluster) (queryId : String) : Prop where
  summary : storedSummary cluster queryId =
    accumulateAll host (firsts JobRun.runId (cluster.recorded queryId))
  balanced : (storedSummary cluster queryId).totalRuns =
    (storedSummary cluster queryId).successfulRuns + (storedSummary cluster queryId).failedRuns
  runs : storedRuns cluster queryId =
    recent historyLimit (firsts JobRun.runId (cluster.recorded queryId))

structure Tracked (cluster : Cluster) (queryId : String) : Prop where
  runs : storedRuns cluster queryId = recent historyLimit (cluster.recorded queryId)
  summary : storedSummary cluster queryId = accumulateAll host (cluster.recorded queryId)
  fresh : Fresh JobRun.runId historyLimit (cluster.recorded queryId)

variable {host}

theorem counts_once_iff_nodup (tracked : Tracked host cluster queryId) :
    CountsOnce host cluster queryId ↔
      ((cluster.recorded queryId).map JobRun.runId).Nodup := by
  constructor
  · intro once
    apply nodup_of_firsts_length
    have total := congrArg JobRecordSummary.totalRuns (once.summary.symm.trans tracked.summary)
    rwa [accumulate_all_total, accumulate_all_total] at total
  · intro distinct
    have same := firsts_of_nodup JobRun.runId _ distinct
    refine ⟨?_, ?_, ?_⟩
    · rw [same]
      exact tracked.summary
    · rw [tracked.summary]
      exact accumulate_all_balanced _
    · rw [same]
      exact tracked.runs

def Known (queryId : String) (record : JobRecord) (cluster : Cluster) : Prop :=
  ∃ current, cluster.records queryId = some current ∧
    (record.resourceVersion < current.resourceVersion ∨ current = record)

variable (host) in
def recordDiscipline : Discipline Cluster where
  invariant cluster := ∀ queryId, Tracked host cluster queryId
  later before after := ∀ queryId record, Known queryId record before → Known queryId record after
  later_refl _ _ _ known := known
  later_trans _ _ _ first second queryId record known :=
    second queryId record (first queryId record known)

theorem known_of_found (found : cluster.records queryId = some record) :
    Known queryId record cluster :=
  ⟨record, found, .inr rfl⟩

theorem same_records_keep (kept : (recordDiscipline host).invariant before)
    (records : after.records = before.records) (recorded : after.recorded = before.recorded) :
    (recordDiscipline host).invariant after ∧ (recordDiscipline host).later before after := by
  constructor
  · intro queryId
    obtain ⟨runs, summary, fresh⟩ := kept queryId
    rw [storedRuns, ← records] at runs
    rw [storedSummary, ← records] at summary
    rw [← recorded] at runs summary fresh
    exact ⟨runs, summary, fresh⟩
  · intro queryId record known
    obtain ⟨current, found, ahead⟩ := known
    exact ⟨current, records ▸ found, ahead⟩

theorem created_keeps (kept : (recordDiscipline host).invariant before)
    (created : Created queryId record before after) :
    (recordDiscipline host).invariant after ∧ (recordDiscipline host).later before after := by
  obtain ⟨absent, empty, rfl⟩ := created
  have unchanged (other : String) (differs : other ≠ queryId) :
      (before.withRecord queryId record).records other = before.records other := if_neg differs
  have written : (before.withRecord queryId record).records queryId = some record := if_pos rfl
  constructor
  · intro other
    obtain ⟨runs, summary, fresh⟩ := kept other
    by_cases same : other = queryId
    · subst same
      rw [storedRuns, absent] at runs
      rw [storedSummary, absent] at summary
      refine ⟨?_, ?_, fresh⟩
      · rw [storedRuns, written, Option.map_some, Option.getD_some, JobRecord.existingRuns, empty]
        exact runs
      · rw [storedSummary, written, Option.map_some, Option.getD_some,
          JobRecord.existingSummary, empty]
        exact summary
    · rw [storedRuns, ← unchanged other same] at runs
      rw [storedSummary, ← unchanged other same] at summary
      exact ⟨runs, summary, fresh⟩
  · intro other known knownBefore
    obtain ⟨current, found, ahead⟩ := knownBefore
    have differs : other ≠ queryId := by
      rintro rfl
      cases absent.symm.trans found
    exact ⟨current, (unchanged other differs).trans found, ahead⟩

theorem patched_keeps (queryId : String) (loaded : JobRecord) (run : JobRun)
    (record : JobRecord) (before after : Cluster)
    (kept : (recordDiscipline host).invariant before) (known : Known queryId loaded before)
    (missing : run.runId ∉ loaded.existingRuns.map JobRun.runId)
    (patched : Patched queryId loaded.resourceVersion run
      (applyHistoryLimit (loaded.existingRuns ++ [run]))
      (loaded.existingSummary.accumulate host run) record before after) :
    (recordDiscipline host).invariant after ∧ (recordDiscipline host).later before after := by
  obtain ⟨current, found, version, newer, status, rfl⟩ := patched
  -- A record of the version that was read is the record that was read.
  have unchangedRecord : current = loaded := by
    obtain ⟨stored, foundAgain, ahead⟩ := known
    cases Option.some.inj (found.symm.trans foundAgain)
    rcases ahead with advanced | same
    · omega
    · exact same
  subst unchangedRecord
  have written : (before.withRun queryId record run).records queryId = some record := if_pos rfl
  have noted : (before.withRun queryId record run).recorded queryId =
      before.recorded queryId ++ [run] := if_pos rfl
  have unchanged (other : String) (differs : other ≠ queryId) :
      (before.withRun queryId record run).records other = before.records other := if_neg differs
  have unnoted (other : String) (differs : other ≠ queryId) :
      (before.withRun queryId record run).recorded other = before.recorded other :=
    if_neg differs
  constructor
  · intro other
    obtain ⟨runs, summary, fresh⟩ := kept other
    by_cases same : other = queryId
    · subst same
      rw [storedRuns, found, Option.map_some, Option.getD_some] at runs
      rw [storedSummary, found, Option.map_some, Option.getD_some] at summary
      refine ⟨?_, ?_, ?_⟩
      · rw [storedRuns, written, noted, Option.map_some, Option.getD_some,
          JobRecord.existingRuns, status, ← recent_concat, ← runs]
        rfl
      · rw [storedSummary, written, noted, Option.map_some, Option.getD_some,
          JobRecord.existingSummary, status, accumulate_all_concat, ← summary]
        rfl
      · rw [noted, Fresh, each_concat, ← runs]
        exact ⟨fresh, missing⟩
    · rw [storedRuns, ← unchanged other same, ← unnoted other same] at runs
      rw [storedSummary, ← unchanged other same, ← unnoted other same] at summary
      rw [← unnoted other same] at fresh
      exact ⟨runs, summary, fresh⟩
  · intro other read knownBefore
    obtain ⟨stored, foundStored, ahead⟩ := knownBefore
    by_cases same : other = queryId
    · subst same
      cases Option.some.inj (found.symm.trans foundStored)
      refine ⟨record, written, .inl ?_⟩
      rcases ahead with older | rfl
      · omega
      · omega
    · exact ⟨stored, (unchanged other same).trans foundStored, ahead⟩

def Quiet : ClusterRequest → Prop
  | .patchStatus _ _ _ _ _ => False
  | _ => True

theorem quiet_keeps (request : ClusterRequest) (before : Cluster) (answer : ClusterAnswer request)
    (after : Cluster) (quiet : Quiet request) (kept : (recordDiscipline host).invariant before)
    (answered : clusterResponds request before answer after) :
    (recordDiscipline host).invariant after ∧ (recordDiscipline host).later before after := by
  cases request with
  | getSparkApp name | getRecord queryId =>
      obtain ⟨rfl, _⟩ := answered
      exact ⟨kept, (recordDiscipline host).later_refl _⟩
  | listEvents name uid | utcNow =>
      cases answered
      exact ⟨kept, (recordDiscipline host).later_refl _⟩
  | createRecord queryId =>
      cases answer with
      | ok record => exact created_keeps kept answered
      | error error =>
          rcases answered with ⟨_, rfl | ⟨record, created⟩⟩ | ⟨_, _, rfl⟩
          · exact ⟨kept, (recordDiscipline host).later_refl _⟩
          · exact created_keeps kept created
          · exact ⟨kept, (recordDiscipline host).later_refl _⟩
  | patchStatus queryId version latestRun runs summary => exact quiet.elim
  | annotate name key value =>
      have marked (annotated : Annotated name key value before after) :
          (recordDiscipline host).invariant after ∧
            (recordDiscipline host).later before after := by
        obtain ⟨app, _, rfl⟩ := annotated
        exact same_records_keep kept rfl rfl
      cases answer with
      | ok _ => exact marked answered
      | error error =>
          rcases answered with rfl | annotated
          · exact ⟨kept, (recordDiscipline host).later_refl _⟩
          · exact marked annotated

variable (host) in
def KeepsRecords {Value : Type} (program : Frontend Value) : Prop :=
  ∀ cluster, Correct clusterResponds (recordDiscipline host) (Returns fun _ _ => True) program
    cluster

theorem keeps_of_makes {Value : Type} (program : Frontend Value) (quiet : Makes Quiet program) :
    KeepsRecords host program :=
  correct_of_makes _ quiet_keeps program quiet

theorem keeps_bind {Value Other : Type} (program : Frontend Value) (next : Value → Frontend Other)
    (first : KeepsRecords host program) (second : ∀ value, KeepsRecords host (next value)) :
    KeepsRecords host (program >>= next) :=
  fun cluster => returns_bind _ _ _ (first cluster) fun value after _ _ => second value after

theorem keeps_recover {Value : Type} (program : Frontend Value)
    (handler : Raised → Frontend Value) (first : KeepsRecords host program)
    (second : ∀ error, KeepsRecords host (handler error)) :
    KeepsRecords host (program.recover handler) :=
  fun cluster => returns_recover _ _ (first cluster) second

theorem keeps_conflict_retry {Value : Type} (program : Frontend Value) (retries : Nat)
    (keeps : KeepsRecords host program) : KeepsRecords host (conflictRetry program retries) := by
  induction retries with
  | zero => exact keeps
  | succ retries ih =>
      apply keeps_recover _ _ keeps
      intro error
      split
      · exact ih
      · exact keeps_of_makes _ trivial

theorem get_job_record_known :
    Correct clusterResponds (recordDiscipline host)
      (Returns fun found after => ∀ record, found = some record → Known queryId record after)
      (getJobRecord queryId) cluster := by
  have asked : Correct clusterResponds (recordDiscipline host)
      (Returns fun answer after => ∀ record, answer = .ok record → Known queryId record after)
      (Program.ask (ClusterRequest.getRecord queryId) : Frontend (Except Raised JobRecord))
      cluster := by
    intro before kept _ answer after answered
    obtain ⟨rfl, reads⟩ := answered
    refine ⟨kept, (recordDiscipline host).later_refl _, ?_⟩
    rintro record rfl
    exact known_of_found reads
  refine returns_bind _ _ _ asked ?_
  intro answer after known _
  split
  · next record =>
      rintro _ ⟨⟩
      exact known record rfl
  · rintro _ ⟨⟩
  · trivial

theorem create_job_record_known :
    Correct clusterResponds (recordDiscipline host) (Returns (Known queryId))
      (createJobRecord queryId) cluster := by
  intro before kept _ answer after answered
  obtain ⟨keptAfter, later⟩ := quiet_keeps (.createRecord queryId) before answer after trivial kept
    answered
  refine ⟨keptAfter, later, ?_⟩
  cases answer with
  | ok record =>
      obtain ⟨_, _, rfl⟩ := answered
      exact known_of_found (if_pos rfl)
  | error error => trivial

theorem get_or_create_known :
    Correct clusterResponds (recordDiscipline host) (Returns (Known queryId))
      (getOrCreateJobRecord queryId) cluster := by
  refine returns_bind _ _ _ get_job_record_known ?_
  intro found after known _
  cases found with
  | some record => exact known record rfl
  | none =>
      refine returns_recover _ _ create_job_record_known ?_
      intro error again
      split
      · refine returns_bind _ _ _ get_job_record_known ?_
        intro second last knownLast _
        cases second with
        | some record => exact knownLast record rfl
        | none => trivial
      · trivial

theorem patch_keeps (queryId : String) (loaded : JobRecord) (run : JobRun) (cluster : Cluster)
    (known : Known queryId loaded cluster)
    (missing : run.runId ∉ loaded.existingRuns.map JobRun.runId) :
    Correct clusterResponds (recordDiscipline host) (Returns fun _ _ => True)
      (patchJobRecordStatus host queryId loaded.resourceVersion run
        (applyHistoryLimit (loaded.existingRuns ++ [run])) loaded.existingSummary) cluster := by
  intro before kept later answer after answered
  have knownBefore := later queryId loaded known
  have effect (record : JobRecord) := patched_keeps queryId loaded run record before after kept
    knownBefore missing
  cases answer with
  | ok record =>
      obtain ⟨keptAfter, laterAfter⟩ := effect record answered
      exact ⟨keptAfter, laterAfter, trivial⟩
  | error error =>
      rcases answered with ⟨_, rfl | ⟨record, patched⟩⟩ | ⟨_, rfl, _⟩ | ⟨_, _, rfl⟩
      · exact ⟨kept, (recordDiscipline host).later_refl _, trivial⟩
      · obtain ⟨keptAfter, laterAfter⟩ := effect record patched
        exact ⟨keptAfter, laterAfter, trivial⟩
      · exact ⟨kept, (recordDiscipline host).later_refl _, trivial⟩
      · exact ⟨kept, (recordDiscipline host).later_refl _, trivial⟩

theorem add_run_once_keeps :
    KeepsRecords host (addRunOnce host queryId run) := by
  intro cluster
  refine returns_bind _ _ _ get_or_create_known ?_
  intro record after known _
  split
  · trivial
  · next missing => exact patch_keeps queryId record run after known missing

theorem add_run_keeps :
    KeepsRecords host (addRun host queryId run) := by
  apply keeps_recover
  · exact keeps_conflict_retry _ _ add_run_once_keeps
  · intro error
    split
    · exact keeps_of_makes _ trivial
    · exact keeps_of_makes _ trivial

theorem record_job_run_keeps (status : SparkApplicationStatus) (events : List CoreEvent) :
    KeepsRecords host (recordJobRun host app jobId status events) := by
  rw [recordJobRun]
  split
  · exact keeps_of_makes _ trivial
  · split
    · exact keeps_of_makes _ trivial
    · refine keeps_recover _ _ ?_ fun _ => keeps_of_makes _ trivial
      apply keeps_bind
      · apply keeps_of_makes
        rw [endTimeOf]
        split
        · trivial
        · exact makes_ask _ trivial
      · intro endTime
        apply keeps_bind
        · exact keeps_of_makes _ (makes_of_except _)
        · intro run
          apply keeps_bind _ _ add_run_keeps
          intro _
          exact keeps_of_makes _ ⟨trivial, fun _ => trivial⟩

theorem get_spark_app_keeps (name : String) : KeepsRecords host (getSparkApp name) := by
  apply keeps_of_makes
  apply makes_bind _ _ (makes_ask _ trivial)
  intro answer
  split <;> trivial

theorem related_events_keeps :
    KeepsRecords host (relatedEvents app jobId) := by
  apply keeps_of_makes
  rw [relatedEvents]
  split
  · trivial
  · split
    · trivial
    · apply makes_bind _ _ (makes_ask _ trivial)
      intro answer
      split <;> trivial

theorem get_status_keeps : KeepsRecords host (getStatus host jobId) := by
  apply keeps_recover
  · apply keeps_bind _ _ (get_spark_app_keeps jobId)
    intro app
    split
    · exact keeps_of_makes _ trivial
    · next status _ =>
        apply keeps_bind _ _ related_events_keeps
        intro events
        split
        · apply keeps_bind _ _ (record_job_run_keeps status events)
          intro _
          exact keeps_of_makes _ trivial
        · exact keeps_of_makes _ trivial
  · intro error
    split <;> exact keeps_of_makes _ trivial

theorem frontend_keeps :
    (frontendService host).Keeps (recordDiscipline host) fun _ => Returns fun _ _ => True := by
  refine ⟨?_, ?_, ?_⟩
  · intro jobId outcome cluster after holds _
    cases outcome <;> trivial
  · intro jobId cluster kept
    exact ⟨kept, (recordDiscipline host).later_refl _, get_status_keeps cluster⟩
  · intro before after kept acts
    exact same_records_keep kept acts.1 acts.2

/-- Nothing has been recorded. -/
structure Unrecorded (cluster : Cluster) : Prop where
  records : ∀ queryId, cluster.records queryId = none
  recorded : ∀ queryId, cluster.recorded queryId = []

theorem unrecorded_tracked (start : Unrecorded cluster) :
    (recordDiscipline host).invariant cluster := by
  intro queryId
  refine ⟨?_, ?_, ?_⟩
  · rw [storedRuns, start.records, start.recorded]
    rfl
  · rw [storedSummary, start.records, start.recorded]
    rfl
  · rw [start.recorded]
    exact each_nil _

theorem reaches_tracked (start : Cluster) (unrecorded : Unrecorded start)
    (pool : Pool String Cluster ClusterAnswer Raised StatusResponse)
    (reached : Reaches (frontendService host) start pool) (queryId : String) :
    Tracked host pool.state queryId :=
  (reaches_correct _ _ frontend_keeps (unrecorded_tracked unrecorded) pool
    reached).1 queryId

/-- Each recorded job is counted once exactly when no patch was applied for a run that had
passed out of the stored list by then. -/
theorem runs_counted_once_iff (start : Cluster) (unrecorded : Unrecorded start)
    (pool : Pool String Cluster ClusterAnswer Raised StatusResponse)
    (reached : Reaches (frontendService host) start pool) (queryId : String) :
    CountsOnce host pool.state queryId ↔
      NoneReturns JobRun.runId historyLimit (pool.state.recorded queryId) := by
  have tracked := reaches_tracked start unrecorded pool reached queryId
  rw [counts_once_iff_nodup tracked]
  exact nodup_iff_none_returns _ tracked.fresh

def steadyServe (annotates : Bool) :
    (request : ClusterRequest) → Cluster → ClusterAnswer request × Cluster
  | .getSparkApp name, cluster =>
      ((cluster.apps name).elim (.error (.api 404)) .ok, cluster)
  | .listEvents _ _, cluster => (.ok [], cluster)
  | .utcNow, cluster => (0, cluster)
  | .getRecord queryId, cluster =>
      ((cluster.records queryId).elim (.error (.api 404)) .ok, cluster)
  | .createRecord queryId, cluster =>
      match cluster.records queryId with
      | none => (.ok ⟨1, none⟩, cluster.withRecord queryId ⟨1, none⟩)
      | some _ => (.error (.api 409), cluster)
  | .patchStatus queryId version latestRun runs summary, cluster =>
      match cluster.records queryId with
      | none => (.error (.api 404), cluster)
      | some current =>
          if current.resourceVersion = version then
            let record := ⟨version + 1, some ⟨some latestRun, runs, some summary⟩⟩
            (.ok record, cluster.withRun queryId record latestRun)
          else (.error (.api 409), cluster)
  | .annotate name key value, cluster =>
      match cluster.apps name with
      | none => (.error (.api 404), cluster)
      | some app =>
          if annotates then (.ok (), cluster.withApp name (app.annotated key value))
          else (.error (.api 500), cluster)

theorem reads_found {Value : Type} (found : Option Value) :
    Reads found (found.elim (.error (.api 404)) .ok) := by
  cases found with
  | none => exact .inr ⟨rfl, rfl⟩
  | some value => rfl

theorem steady_responds (annotates : Bool) (request : ClusterRequest) (cluster : Cluster) :
    clusterResponds request cluster (steadyServe annotates request cluster).1
      (steadyServe annotates request cluster).2 := by
  cases request with
  | getSparkApp name => exact ⟨rfl, reads_found _⟩
  | listEvents name uid => rfl
  | utcNow => rfl
  | getRecord queryId => exact ⟨rfl, reads_found _⟩
  | createRecord queryId =>
      simp only [steadyServe]
      split
      · next absent => exact ⟨absent, rfl, rfl⟩
      · next record present =>
          refine .inr ⟨rfl, ?_, rfl⟩
          rw [present]
          exact Option.some_ne_none record
  | patchStatus queryId version latestRun runs summary =>
      simp only [steadyServe]
      split
      · next absent => exact .inr (.inr ⟨rfl, absent, rfl⟩)
      · next current present =>
          split
          · next same =>
              exact ⟨current, present, same, Nat.lt_succ_self version, rfl, rfl⟩
          · next stale => exact .inr (.inl ⟨rfl, rfl, current, present, stale⟩)
  | annotate name key value =>
      simp only [steadyServe]
      split
      · exact .inl rfl
      · next app present =>
          split
          · exact ⟨app, present, rfl⟩
          · exact .inl rfl

variable (host) in
def pollAll (annotates : Bool) (jobs : List String) (cluster : Cluster) : Cluster :=
  jobs.foldl (fun state job =>
    (Program.run (steadyServe annotates) (getStatus host job) state).2) cluster

theorem reaches_poll_all (annotates : Bool) (start : Cluster) (jobs : List String) :
    ∃ threads, Reaches (frontendService host) start
      ⟨pollAll host annotates jobs start, threads⟩ := by
  induction jobs using List.reverseRecOn with
  | nil => exact ⟨[], .start⟩
  | append_singleton jobs job ih =>
      obtain ⟨threads, reached⟩ := ih
      rw [pollAll, List.foldl_append]
      exact ⟨_, reaches_call (steady_responds annotates) _ _ reached _ rfl⟩

end

def salesHost : RecordHost where
  totalSeconds microseconds := microseconds / 1000000
  plus left right := left + right
  divide total count := total / count
  round2 value := (value * 100).floor / 100
  isoformat _ := ""
  str _ := ""
  queryStatistics _ := none

/-- Every job is a completed run of one query. -/
def salesCluster : Cluster where
  apps _ := some ⟨none, [("query_id", "sales")], [],
    some ⟨.completed, none, some 0, some 1000000⟩⟩
  records _ := none
  recorded _ := []

theorem sales_unrecorded : Unrecorded salesCluster :=
  ⟨fun _ => rfl, fun _ => rfl⟩

/-- Two jobs, the first polled again. -/
theorem two_jobs_counted_once :
    CountsOnce salesHost (pollAll salesHost true ["job-0", "job-1", "job-0"] salesCluster)
      "sales" := by
  obtain ⟨threads, reached⟩ := @reaches_poll_all salesHost true salesCluster
    ["job-0", "job-1", "job-0"]
  have short : ((pollAll salesHost true ["job-0", "job-1", "job-0"] salesCluster).recorded
      "sales").length ≤ historyLimit := by decide +kernel
  apply (runs_counted_once_iff salesCluster sales_unrecorded _ reached "sales").mpr
  exact none_returns_of_short _ short

/-- The names of jobs whose annotation fails, with the first job again behind twenty others. -/
def returningJobs : List String :=
  (List.range 21).map (fun number => "job-" ++ toString number) ++ ["job-0"]

/-- Twenty other runs are recorded, and the job that has passed out is counted again. -/
theorem returning_job_counted_twice :
    Unrecorded salesCluster ∧ ∃ pool, Reaches (frontendService salesHost) salesCluster pool ∧
      ¬ CountsOnce salesHost pool.state "sales" := by
  refine ⟨sales_unrecorded, ?_⟩
  obtain ⟨threads, reached⟩ := @reaches_poll_all salesHost false salesCluster returningJobs
  refine ⟨_, reached, ?_⟩
  have tracked := reaches_tracked salesCluster sales_unrecorded _ reached "sales"
  have repeated : ¬ (((pollAll salesHost false returningJobs salesCluster).recorded
      "sales").map JobRun.runId).Nodup := by decide +kernel
  exact fun once => repeated ((counts_once_iff_nodup tracked).mp once)

/-- In every interleaving a record is consistent with itself, also when a job is counted twice:
no update is lost, so the stored runs are as many as were counted, up to the limit. -/
theorem records_consistent_when_interleaved {host : RecordHost} (start : Cluster)
    (unrecorded : Unrecorded start)
    (pool : Pool String Cluster ClusterAnswer Raised StatusResponse)
    (reached : Reaches (frontendService host) start pool) (queryId : String) :
    ((storedRuns pool.state queryId).map JobRun.runId).Nodup ∧
      (storedRuns pool.state queryId).length =
        min (storedSummary pool.state queryId).totalRuns historyLimit ∧
      (storedSummary pool.state queryId).totalRuns =
        (storedSummary pool.state queryId).successfulRuns +
          (storedSummary pool.state queryId).failedRuns := by
  obtain ⟨runs, summary, fresh⟩ := reaches_tracked start unrecorded pool reached queryId
  rw [runs, summary]
  refine ⟨recent_keys_nodup _ fresh, ?_, accumulate_all_balanced host⟩
  rw [accumulate_all_total, recent, List.length_drop]
  omega

theorem polled_records_consistent : Unrecorded salesCluster ∧
    ((storedRuns (pollAll salesHost false returningJobs salesCluster) "sales").map
      JobRun.runId).Nodup := by
  obtain ⟨threads, reached⟩ := @reaches_poll_all salesHost false salesCluster returningJobs
  exact ⟨sales_unrecorded,
    (records_consistent_when_interleaved salesCluster sales_unrecorded _ reached "sales").1⟩

end CleanRoom.Analytics
