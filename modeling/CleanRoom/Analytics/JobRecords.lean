import CleanRoom.Library.Interaction
import CleanRoom.Library.RecentItems

/-!
# Records of the runs of a query

`get_status` and `_record_job_run` of the frontend's `main.py`, with
`job_record_client.py` and `job_record_models.py`. The first poll of a terminated job
adds its run to the `JobRecord` of the query, and annotates the application. An update of
a record starts over when Kubernetes answers with a conflict. Floating-point numbers are
rationals and their operations the host's; metrics and log lines are left out.
-/

namespace CleanRoom.Analytics

open Interaction RecentItems

inductive ApplicationState where
  | new
  | submitted
  | running
  | completed
  | failed
  | submissionFailed
  | pendingRerun
  | invalidating
  | succeeding
  | failing
  | suspending
  | suspended
  | resuming
  | unknown
deriving DecidableEq

def ApplicationState.value : ApplicationState → String
  | .new => ""
  | .submitted => "SUBMITTED"
  | .running => "RUNNING"
  | .completed => "COMPLETED"
  | .failed => "FAILED"
  | .submissionFailed => "SUBMISSION_FAILED"
  | .pendingRerun => "PENDING_RERUN"
  | .invalidating => "INVALIDATING"
  | .succeeding => "SUCCEEDING"
  | .failing => "FAILING"
  | .suspending => "SUSPENDING"
  | .suspended => "SUSPENDED"
  | .resuming => "RESUMING"
  | .unknown => "UNKNOWN"

def terminalStates : List ApplicationState :=
  [.completed, .failed, .submissionFailed]

structure SparkApplicationStatus where
  state : ApplicationState
  errorMessage : Option String
  lastSubmissionAttemptTime : Option Int
  terminationTime : Option Int

structure SparkApplication where
  uid : Option String
  labels : List (String × String)
  annotations : List (String × String)
  status : Option SparkApplicationStatus

def jobRecordRecordedAnnotation : String := "cleanroom.azure.com/job-record-recorded"

structure CoreEvent where
  name : Option String
  reason : Option String
  message : Option String
  type : Option String
  firstTimestamp : Option Int
  lastTimestamp : Option Int
  count : Option Nat

structure JobRunError where
  code : String
  message : String
deriving DecidableEq

/-- `SparkErrorCode.from_state` -/
def sparkErrorCode : ApplicationState → String
  | .failed => "SPARK_JOB_FAILED"
  | .submissionFailed => "SPARK_SUBMISSION_FAILED"
  | _ => "SPARK_JOB_FAILED"

/-- `error_message or …`: an empty message is replaced too. -/
def JobRunError.fromState (state : ApplicationState) (errorMessage : Option String) :
    JobRunError where
  code := sparkErrorCode state
  message :=
    let terminated := "Spark job terminated with state: " ++ state.value
    match errorMessage with
    | none => terminated
    | some message => if message = "" then terminated else message

structure JobRunStats where
  rowsRead : Int
  rowsWritten : Int
deriving DecidableEq

structure JobRun where
  runId : String
  startTime : Option Int
  endTime : Option Int
  isSuccessful : Bool
  error : Option JobRunError
  stats : Option JobRunStats
deriving DecidableEq

structure JobRecordSummary where
  totalRuns : Nat := 0
  successfulRuns : Nat := 0
  failedRuns : Nat := 0
  totalRuntimeSeconds : Rat := 0
  avgDurationSeconds : Rat := 0
  totalRowsRead : Int := 0
  totalRowsWritten : Int := 0
deriving DecidableEq

structure JobRecordStatus where
  latestRun : Option JobRun
  runs : List JobRun
  summary : Option JobRecordSummary

structure JobRecord where
  resourceVersion : Nat
  status : Option JobRecordStatus

/-- The exceptions of the frontend. -/
inductive Raised where
  /-- `ApiException` with its status -/
  | api (status : Nat)
  | resourceNotFound (message : String)
  | jobRecordError (message : String)
  | jobRecordConflictError (message : String)
  | valueError (message : String)
  | httpException (status : Nat) (detail : String)
  | other (message : String)

structure RecordHost where
  totalSeconds : Int → Rat
  plus : Rat → Rat → Rat
  divide : Rat → Nat → Rat
  /-- `round(value, 2)` -/
  round2 : Rat → Rat
  isoformat : Int → String
  str : Raised → String
  /-- `QueryStatisticsData.model_validate_json`: the rows read and written -/
  queryStatistics : String → Option (Int × Int)

variable (host : RecordHost)

/-- `JobRun(…)` with `validate_times` -/
def JobRun.validateTimes (run : JobRun) : Except Raised JobRun :=
  match run.startTime, run.endTime with
  | some startTime, some endTime =>
      if endTime < startTime then .error (.valueError "end_time must be after start_time")
      else .ok run
  | _, _ => .ok run

def JobRun.durationSeconds (run : JobRun) : Rat :=
  match run.startTime, run.endTime with
  | some startTime, some endTime => host.totalSeconds (endTime - startTime)
  | _, _ => 0

def JobRecordSummary.accumulate (summary : JobRecordSummary) (run : JobRun) :
    JobRecordSummary :=
  let totalRuns := summary.totalRuns + 1
  let totalRuntime := host.plus summary.totalRuntimeSeconds (run.durationSeconds host)
  { totalRuns := totalRuns
    successfulRuns := summary.successfulRuns + if run.isSuccessful then 1 else 0
    failedRuns := summary.failedRuns + if run.isSuccessful then 0 else 1
    totalRuntimeSeconds := host.round2 totalRuntime
    avgDurationSeconds := host.round2 (host.divide totalRuntime totalRuns)
    totalRowsRead := summary.totalRowsRead + (run.stats.map JobRunStats.rowsRead).getD 0
    totalRowsWritten :=
      summary.totalRowsWritten + (run.stats.map JobRunStats.rowsWritten).getD 0 }

inductive ClusterRequest where
  | getSparkApp (name : String)
  | listEvents (name uid : String)
  | utcNow
  | getRecord (queryId : String)
  | createRecord (queryId : String)
  | patchStatus (queryId : String) (resourceVersion : Nat) (latestRun : JobRun)
      (runs : List JobRun) (summary : JobRecordSummary)
  | annotate (name key value : String)

abbrev ClusterAnswer : ClusterRequest → Type
  | .getSparkApp _ => Except Raised SparkApplication
  | .listEvents _ _ => Except Raised (List CoreEvent)
  | .utcNow => Int
  | .getRecord _ => Except Raised JobRecord
  | .createRecord _ => Except Raised JobRecord
  | .patchStatus _ _ _ _ _ => Except Raised JobRecord
  | .annotate _ _ _ => Except Raised Unit

abbrev Frontend (Value : Type) := Program ClusterRequest ClusterAnswer Raised Value

def historyLimit : Nat := 20

def maxRetryAttempts : Nat := 5

def isConflictError : Raised → Bool
  | .api 409 => true
  | _ => false

/-- `_conflict_retry`: the waits between attempts are left out. -/
def conflictRetry {Value : Type} (program : Frontend Value) : (retries : Nat) → Frontend Value
  | 0 => program
  | retries + 1 => program.recover fun error =>
      if isConflictError error then conflictRetry program retries else .fail error

def applyHistoryLimit (runs : List JobRun) : List JobRun :=
  recent historyLimit runs

def getJobRecord (queryId : String) : Frontend (Option JobRecord) := do
  match ← Program.ask (ClusterRequest.getRecord queryId) with
  | .ok record => pure (some record)
  | .error (.api 404) => pure none
  | .error error => .fail error

def createJobRecord (queryId : String) : Frontend JobRecord := do
  .ofExcept (← Program.ask (ClusterRequest.createRecord queryId))

/-- `_get_or_create_job_record`, whose creation may lose a race. -/
def getOrCreateJobRecord (queryId : String) : Frontend JobRecord := do
  match ← getJobRecord queryId with
  | some record => pure record
  | none =>
      (createJobRecord queryId).recover fun error =>
        if isConflictError error then do
          match ← getJobRecord queryId with
          | some record => pure record
          | none => .fail (.jobRecordError s!"Failed to get JobRecord {queryId} after conflict")
        else .fail error

def JobRecord.existingRuns (record : JobRecord) : List JobRun :=
  (record.status.map JobRecordStatus.runs).getD []

def JobRecord.existingSummary (record : JobRecord) : JobRecordSummary :=
  (record.status.bind JobRecordStatus.summary).getD {}

def patchJobRecordStatus (queryId : String) (resourceVersion : Nat) (latestRun : JobRun)
    (runs : List JobRun) (existingSummary : JobRecordSummary) : Frontend JobRecord := do
  let summary := existingSummary.accumulate host latestRun
  .ofExcept
    (← Program.ask (ClusterRequest.patchStatus queryId resourceVersion latestRun runs summary))

def addRunOnce (queryId : String) (run : JobRun) : Frontend JobRecord := do
  let record ← getOrCreateJobRecord queryId
  if run.runId ∈ record.existingRuns.map JobRun.runId then pure record
  else
    patchJobRecordStatus host queryId record.resourceVersion run
      (applyHistoryLimit (record.existingRuns ++ [run])) record.existingSummary

def addRunWithRetry (queryId : String) (run : JobRun) : Frontend JobRecord :=
  conflictRetry (addRunOnce host queryId run) (maxRetryAttempts - 1)

def addRun (queryId : String) (run : JobRun) : Frontend JobRecord :=
  (addRunWithRetry host queryId run).recover fun error =>
    if isConflictError error then
      .fail (.jobRecordConflictError
        s!"Failed to add run to JobRecord {queryId} after {maxRetryAttempts} retries")
    else .fail error

/-- `_parse_query_stats_from_events`: the first statistics event that can be read -/
def parseQueryStatsFromEvents : List CoreEvent → Int × Int
  | [] => (0, 0)
  | event :: rest =>
      match event.message with
      | some message =>
          if event.reason = some "QUERY_STATISTICS" ∧ message ≠ "" then
            match host.queryStatistics message with
            | some rows => rows
            | none => parseQueryStatsFromEvents rest
          else parseQueryStatsFromEvents rest
      | none => parseQueryStatsFromEvents rest

def jobRun (jobId : String) (status : SparkApplicationStatus) (events : List CoreEvent)
    (endTime : Int) : Except Raised JobRun :=
  let isSuccessful := decide (status.state = .completed)
  let (rowsRead, rowsWritten) := parseQueryStatsFromEvents host events
  JobRun.validateTimes
    { runId := jobId
      startTime := status.lastSubmissionAttemptTime
      endTime := some endTime
      isSuccessful := isSuccessful
      error :=
        if isSuccessful then none
        else some (JobRunError.fromState status.state status.errorMessage)
      stats := some ⟨rowsRead, rowsWritten⟩ }

/-- `job_status.terminationTime or utc_now()` -/
def endTimeOf (status : SparkApplicationStatus) : Frontend Int :=
  match status.terminationTime with
  | some time => pure time
  | none => Program.ask ClusterRequest.utcNow

/-- The annotation is set at best: a failure is only logged. -/
def markRecorded (jobId : String) : Frontend Unit := do
  let _ ← Program.ask (ClusterRequest.annotate jobId jobRecordRecordedAnnotation "true")
  pure ()

/-- The part of `_record_job_run` behind its checks of the label -/
def addJobRun (queryId jobId : String) (status : SparkApplicationStatus)
    (events : List CoreEvent) : Frontend Unit := do
  let endTime ← endTimeOf status
  let run ← .ofExcept (jobRun host jobId status events endTime)
  let _ ← addRun host queryId run
  markRecorded jobId

/-- `_record_job_run`, which lets no exception out. -/
def recordJobRun (app : SparkApplication) (jobId : String) (status : SparkApplicationStatus)
    (events : List CoreEvent) : Frontend Unit :=
  match app.labels.lookup "query_id" with
  | none => pure ()
  | some queryId =>
      if queryId = "" then pure ()
      else (addJobRun host queryId jobId status events).recover fun _ => pure ()

structure EventEntry where
  name : Option String
  reason : Option String
  message : Option String
  type : Option String
  firstTimestamp : Option String
  lastTimestamp : Option String
  count : Option Nat

def CoreEvent.entry (event : CoreEvent) : EventEntry :=
  ⟨event.name, event.reason, event.message, event.type,
    event.firstTimestamp.map host.isoformat, event.lastTimestamp.map host.isoformat, event.count⟩

/-- The answer to a poll; a status that is absent is reported as `UNKNOWN`. -/
structure StatusResponse where
  id : String
  status : Option SparkApplicationStatus
  events : List EventEntry

def getSparkApp (name : String) : Frontend SparkApplication := do
  match ← Program.ask (ClusterRequest.getSparkApp name) with
  | .ok app => pure app
  | .error (.api 404) => .fail (.resourceNotFound s!"Spark Application {name} not found")
  | .error error => .fail error

/-- The events of the application, none when they cannot be listed. -/
def relatedEvents (app : SparkApplication) (jobId : String) : Frontend (List CoreEvent) :=
  match app.uid with
  | none => pure []
  | some uid =>
      if uid = "" then pure []
      else do
        match ← Program.ask (ClusterRequest.listEvents jobId uid) with
        | .ok events => pure events
        | .error _ => pure []

/-- `is_recorded`: the annotation has a value that is not empty. -/
def SparkApplication.isRecorded (app : SparkApplication) : Bool :=
  (app.annotations.lookup jobRecordRecordedAnnotation).any fun value => value ≠ ""

def pollStatus (jobId : String) : Frontend StatusResponse := do
  let app ← getSparkApp jobId
  match app.status with
  | none => pure ⟨jobId, none, []⟩
  | some status =>
      let events ← relatedEvents app jobId
      if status.state ∈ terminalStates ∧ app.isRecorded = false then
        recordJobRun host app jobId status events
      pure ⟨jobId, some status, events.map (CoreEvent.entry host)⟩

def getStatus (jobId : String) : Frontend StatusResponse :=
  (pollStatus host jobId).recover fun error =>
    match error with
    | .resourceNotFound _ => .fail (.httpException 404 s!"Job with ID {jobId} not found")
    | error => .fail (.httpException 500 ("Failed to get job status: " ++ host.str error))

/-- The applications and the records, and the runs in the order in which patches of the
records were applied. -/
structure Cluster where
  apps : String → Option SparkApplication
  records : String → Option JobRecord
  recorded : String → List JobRun

def Cluster.withApp (cluster : Cluster) (name : String) (app : SparkApplication) : Cluster :=
  { cluster with apps := fun other => if other = name then some app else cluster.apps other }

def Cluster.withRecord (cluster : Cluster) (queryId : String) (record : JobRecord) : Cluster :=
  { cluster with
    records := fun other => if other = queryId then some record else cluster.records other }

def Cluster.withRun (cluster : Cluster) (queryId : String) (record : JobRecord) (run : JobRun) :
    Cluster where
  apps := cluster.apps
  records other := if other = queryId then some record else cluster.records other
  recorded other :=
    if other = queryId then cluster.recorded queryId ++ [run] else cluster.recorded other

def SparkApplication.annotated (app : SparkApplication) (key value : String) :
    SparkApplication :=
  { app with annotations := (key, value) :: app.annotations }

def Unavailable : Raised → Prop
  | .api status => status ≠ 404 ∧ status ≠ 409
  | .other _ => True
  | _ => False

def Created (queryId : String) (record : JobRecord) (before after : Cluster) : Prop :=
  before.records queryId = none ∧ record.status = none ∧ after = before.withRecord queryId record

def Patched (queryId : String) (resourceVersion : Nat) (latestRun : JobRun) (runs : List JobRun)
    (summary : JobRecordSummary) (record : JobRecord) (before after : Cluster) : Prop :=
  ∃ current, before.records queryId = some current ∧
    current.resourceVersion = resourceVersion ∧ resourceVersion < record.resourceVersion ∧
    record.status = some ⟨some latestRun, runs, some summary⟩ ∧
    after = before.withRun queryId record latestRun

def Annotated (name key value : String) (before after : Cluster) : Prop :=
  ∃ app, before.apps name = some app ∧ after = before.withApp name (app.annotated key value)

def Reads {Value : Type} (found : Option Value) (answer : Except Raised Value) : Prop :=
  match answer with
  | .ok value => found = some value
  | .error error => Unavailable error ∨ found = none ∧ error = .api 404

/-- How Kubernetes answers. A failure of an update may hide that it took effect. -/
def clusterResponds : Responds Cluster ClusterAnswer
  | .getSparkApp name, before, answer, after =>
      after = before ∧ Reads (before.apps name) answer
  | .listEvents _ _, before, _, after => after = before
  | .utcNow, before, _, after => after = before
  | .getRecord queryId, before, answer, after =>
      after = before ∧ Reads (before.records queryId) answer
  | .createRecord queryId, before, answer, after =>
      match answer with
      | .ok record => Created queryId record before after
      | .error error =>
          Unavailable error ∧ (after = before ∨ ∃ record, Created queryId record before after) ∨
            error = .api 409 ∧ before.records queryId ≠ none ∧ after = before
  | .patchStatus queryId version latestRun runs summary, before, answer, after =>
      match answer with
      | .ok record => Patched queryId version latestRun runs summary record before after
      | .error error =>
          Unavailable error ∧ (after = before ∨
            ∃ record, Patched queryId version latestRun runs summary record before after) ∨
          error = .api 409 ∧ after = before ∧
            (∃ record, before.records queryId = some record ∧ record.resourceVersion ≠ version) ∨
          error = .api 404 ∧ before.records queryId = none ∧ after = before
  | .annotate name key value, before, answer, after =>
      match answer with
      | .ok () => Annotated name key value before after
      | .error _ => after = before ∨ Annotated name key value before after

def frontendService : Service String Cluster ClusterAnswer Raised StatusResponse where
  responds := clusterResponds
  body := getStatus host
  enter _ cluster := cluster
  environment before after :=
    after.records = before.records ∧ after.recorded = before.recorded

end CleanRoom.Analytics
