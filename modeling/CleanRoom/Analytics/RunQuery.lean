import CleanRoom.Analytics.DatasetLoader
import Mathlib.Data.List.Dedup

/-!
# Running a query

`run_query.py`: the datasets are loaded, the segments of the query run step by step,
and the output of the last segment is written to the datasink. The text of a
statement goes to Spark as it is.
-/

namespace CleanRoom.Analytics

open TwoRuns

variable {Value : Type}

structure PreCondition where
  viewName : String
  minRowCount : Int

structure PostFilter where
  columnName : String
  value : Int

structure QuerySegment where
  executionSequence : Int
  data : String
  preConditions : Option (List PreCondition)
  postFilters : Option (List PostFilter)

structure Query where
  segments : List QuerySegment

structure QueryConfiguration where
  datasets : List DatasetInfo
  datasink : DatasetInfo

def checkPreCondition (spark : Spark Value) (views : List (String × DataFrame Value))
    (enforcement : PreCondition) : Except String Unit := do
  let viewName := enforcement.viewName
  if viewName ∉ views.map Prod.fst then
    .error s!"View {viewName} does not exist in the Spark catalog. Exiting"
  else do
    let frame ← findView spark views viewName
    if (frame.count : Int) < enforcement.minRowCount then
      .error (s!"Pre-segment enforcement failed for view {viewName}: " ++
        s!"row count {frame.count} is less than minRowCount {enforcement.minRowCount}")
    else .ok ()

def preSegmentEnforcement (spark : Spark Value) (views : List (String × DataFrame Value))
    (enforcements : List PreCondition) : Except String Unit :=
  enforcements.forM (checkPreCondition spark views)

def postSegmentFiltering (spark : Spark Value) (host : PythonHost) (frame : DataFrame Value)
    (enforcements : List PostFilter) : Except String (DataFrame Value) := do
  let missingColumns :=
    ((enforcements.map PostFilter.columnName).filter fun name => name ∉ frame.columns).dedup
  if missingColumns.length > 0 then
    .error (s!"Required columns: {host.setText missingColumns} missing in the output " ++
      "for PostSegmentFilteringEnforcement")
  else enforcements.foldlM (fun frame enforcement =>
    filterAtLeast spark frame enforcement.columnName enforcement.value) frame

def runQuerySegment (spark : Spark Value) (host : PythonHost) (segment : QuerySegment) :
    SparkAction Value (DataFrame Value) := do
  let stepNumber := toString segment.executionSequence
  Action.attempt
    (do
      record (.querySegmentExecutionStarted stepNumber)
      Action.get >>= fun session => Action.ofExcept
        (preSegmentEnforcement spark session.views (segment.preConditions.getD []))
      let result ← sql spark segment.data
      let result ← Action.ofExcept
        (postSegmentFiltering spark host result (segment.postFilters.getD []))
      record (.querySegmentExecutionCompleted (toString result.count) stepNumber)
      return result)
    fun error => do
      record (.querySegmentExecutionFailed stepNumber error)
      throw error

def Query.steps (query : Query) : List Int :=
  (query.segments.map QuerySegment.executionSequence).dedup.mergeSort fun left right => left ≤ right

def Query.segmentsAt (query : Query) (step : Int) : List QuerySegment :=
  query.segments.filter fun segment => segment.executionSequence = step

def Query.lastStep (query : Query) : Int :=
  query.segments.foldl
    (fun last segment => if segment.executionSequence > last then segment.executionSequence
      else last) 0

def checkLastStep (query : Query) : Except String Unit :=
  let lastSegments := query.segmentsAt query.lastStep
  if query.segments ≠ [] ∧ lastSegments.length ≠ 1 then
    .error s!"There should be just 1 last segment but there are {lastSegments.length}."
  else .ok ()

/-- A step whose segments all ran, or the first failure among them. -/
def runStep (spark : Spark Value) (host : PythonHost) (query : Query) (step : Int) :
    SparkAction Value (List (DataFrame Value)) := do
  let results ← Action.gather (runQuerySegment spark host) (query.segmentsAt step)
  Action.ofExcept (results.mapM id)

def runSteps (spark : Spark Value) (host : PythonHost) (query : Query) :
    List Int → Option (DataFrame Value) → SparkAction Value (Option (DataFrame Value))
  | [], output => return output
  | step :: steps, output => do
      let results ← runStep spark host query step
      runSteps spark host query steps (if query.lastStep = step then results.head? else output)

def loadDatasets (spark : Spark Value) (host : PythonHost) (config : QueryConfiguration)
    (startDate endDate : String) : SparkAction Value (List Nat) := do
  let results ← Action.gather (loadDatasetAsync spark host startDate endDate) config.datasets
  Action.ofExcept (results.mapM id)

def writeOutput (spark : Spark Value) (host : PythonHost) (config : QueryConfiguration) :
    Option (DataFrame Value) → SparkAction Value Nat
  | none => return 0
  | some output => writeDatasetAsync spark host config.datasink output

def runQuery (spark : Spark Value) (host : PythonHost) (config : QueryConfiguration)
    (query : Query) (startDate endDate : String) : SparkAction Value Unit :=
  Action.attempt
    (do
      let rowCounts ← loadDatasets spark host config startDate endDate
      Action.ofExcept (checkLastStep query)
      let output ← runSteps spark host query query.steps none
      let rowCountWritten ← writeOutput spark host config output
      record (.queryExecutionCompleted host.durationSec)
      record (.auditQueryCompleted "run_query" host.jobId)
      record (.queryStatistics (rowCounts.foldl (· + ·) 0) rowCountWritten host.durationSec))
    fun error => do
      record (.queryExecutionFailed error)
      record (.auditQueryFailed "run_query" host.jobId error)
      throw error

end CleanRoom.Analytics
