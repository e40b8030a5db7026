import CleanRoom.Analytics.SchemaParsing
import CleanRoom.Library.Throwing
import Mathlib.Data.List.Infix

/-!
# Loading and writing datasets

`dataset_loader.py`. The files of a dataset are read for each day of a range, or all
at once, with the columns of the dataset's schema; the frame is cut down to the
allowed fields before it becomes a view. Dates are ordinals of days.
-/

namespace CleanRoom.Analytics

open TwoRuns

variable {Value : Type}

def fieldType (fields : List Field) (name : String) : Option DataType :=
  (fields.reverse.find? fun field => field.name == name).map Field.dataType

def isSchemaCompatible (frameSchema expectedSchema : List Field) : Bool :=
  frameSchema.all fun field =>
    match fieldType expectedSchema field.name with
    | none => false
    | some expected => fieldType frameSchema field.name == some expected

structure PythonHost where
  /-- `datetime.strptime` with `%Y-%m-%d`, as the ordinal of the day. -/
  strptime : String → Except String Nat
  strftime : Nat → String
  setText : List String → String
  currentDate : String
  durationSec : String
  jobId : String

def maxOrdinal : Nat := 3652059

def osPathJoin (path part : String) : String :=
  if path = "" ∨ path.toList.getLast? = some '/' then path ++ part else path ++ "/" ++ part

def readOptions : DatasetFormat → ReadOptions
  | .csv => ⟨"*.csv", some false, true⟩
  | .json => ⟨"*.json", none, true⟩
  | .parquet => ⟨"*.parquet", none, true⟩

def loadDatasetFolder (files : Files Value) (dataset : DatasetInfo) (dataPath : String) :
    Except String (DataFrame Value) := do
  let schema ← parseJsonSchema dataset.schema
  return ⟨schema, ← files.read dataset.format dataPath schema (readOptions dataset.format)⟩

def pathMissing : String := "Path does not exist"

def loadDay (host : PythonHost) (files : Files Value) (dataset : DatasetInfo) (current : Nat)
    (frames : List (DataFrame Value)) : Except String (List (DataFrame Value)) :=
  match loadDatasetFolder files dataset (osPathJoin dataset.path (host.strftime current)) with
  | .ok frame => .ok (frames ++ [frame])
  | .error error => if pathMissing.toList <:+: error.toList then .ok frames else .error error

/-- The loop over the days from `current` on, of which at most `fuel` are left. -/
def loadDays (host : PythonHost) (files : Files Value) (dataset : DatasetInfo) (last : Nat) :
    Nat → Nat → List (DataFrame Value) → Except String (List (DataFrame Value))
  | 0, _, frames => .ok frames
  | fuel + 1, current, frames =>
      if current ≤ last then do
        let frames ← loadDay host files dataset current frames
        if current = maxOrdinal then .error "date value out of range"
        else loadDays host files dataset last fuel (current + 1) frames
      else .ok frames

def loadRange (host : PythonHost) (files : Files Value) (dataset : DatasetInfo)
    (startDate endDate : String) : Except String (List (DataFrame Value)) := do
  if startDate ≠ "" ∧ endDate ≠ "" then
    let first ← host.strptime startDate
    let last ← host.strptime endDate
    loadDays host files dataset last (last + 1 - first) first []
  else return []

def consolidate (spark : Spark Value) (host : PythonHost) (files : Files Value)
    (dataset : DatasetInfo) (startDate endDate : String) : Except String (DataFrame Value) := do
  match ← loadRange host files dataset startDate endDate with
  | [] => loadDatasetFolder files dataset dataset.path
  | first :: rest => rest.foldlM (unionByName spark) first

def loadFrame (spark : Spark Value) (host : PythonHost) (files : Files Value)
    (dataset : DatasetInfo) (startDate endDate : String) : Except String (DataFrame Value) := do
  selectFields spark dataset.allowedFields
    (← consolidate spark host files dataset startDate endDate)

def dateOrMissing (date : String) : String := if date ≠ "" then date else "NA"

def loadDatasetAsync (spark : Spark Value) (host : PythonHost) (startDate endDate : String)
    (dataset : DatasetInfo) : SparkAction Value Nat := do
  record (.datasetLoadStarted dataset.name dataset.path (dateOrMissing startDate)
    (dateOrMissing endDate))
  Action.attempt
    (do
      let frame ← Action.get >>= fun session => Action.ofExcept
        (loadFrame spark host session.files dataset startDate endDate)
      createOrReplaceTempView spark dataset.viewName frame
      record (.datasetLoadCompleted dataset.name (toString frame.count) dataset.path)
      record (.auditDatasetLoadCompleted "dataset_loader" dataset.name host.jobId)
      return frame.count)
    fun error => do
      record (.datasetLoadFailed dataset.name dataset.path error)
      record (.auditDatasetLoadFailed "dataset_loader" dataset.name host.jobId)
      throw error

def DatasetFormat.value : DatasetFormat → String
  | .csv => "csv"
  | .json => "json"
  | .parquet => "parquet"

def outputPath (host : PythonHost) (dataset : DatasetInfo) : String :=
  s!"{dataset.path}/{host.currentDate}/{host.jobId}"

def save (spark : Spark Value) (entry : Write Value) : SparkAction Value Unit := do
  Action.modify fun session => { session with writes := session.writes ++ [entry] }
  Action.ofExcept (spark.save entry)

def outputFrame (spark : Spark Value) (dataset : DatasetInfo) (frame : DataFrame Value) :
    Except String (DataFrame Value) := do
  let frame ← selectFields spark dataset.allowedFields frame
  let datasetSchema ← parseJsonSchema dataset.schema
  if ¬isSchemaCompatible frame.schema datasetSchema then
    .error "DataFrame schema does not match expected dataset schema."
  else return frame

def writeDatasetAsync (spark : Spark Value) (host : PythonHost) (dataset : DatasetInfo)
    (frame : DataFrame Value) : SparkAction Value Nat := do
  record (.datasetWriteStarted dataset.name dataset.path)
  let path := outputPath host dataset
  Action.attempt
    (do
      let frame ← Action.ofExcept (outputFrame spark dataset frame)
      save spark ⟨path, dataset.format.value, true, frame⟩
      record (.datasetWriteCompleted dataset.name path (toString frame.count))
      record (.auditDatasetWriteCompleted "dataset_loader" dataset.name path
        (toString frame.count) host.jobId)
      return frame.count)
    fun error => do
      record (.datasetWriteFailed dataset.name path error)
      record (.auditDatasetWriteFailed "dataset_loader" dataset.name path host.jobId error)
      throw error

end CleanRoom.Analytics
