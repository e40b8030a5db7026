import CleanRoom.Library.TwoRuns

/-!
# Spark, as far as the analytics application uses it

Frames are tables with a schema. What Spark does with names, statements and files
is a parameter: a statement names the relations that it reads, which are temporary
views or files given by format and path, and is evaluated over their contents. A
session keeps the temporary views, the files, what was written and what was
recorded.
-/

namespace CleanRoom.Analytics

open TwoRuns

inductive DataType where
  | string
  | integer
  | long
  | timestamp
  | double
  | boolean
  | date
  | array (element : DataType)
  | other (name : String)
deriving DecidableEq

structure Field where
  name : String
  dataType : DataType
  nullable : Bool
deriving DecidableEq

/-- A row has one value for each field of the schema. -/
structure DataFrame (Value : Type) where
  schema : List Field
  rows : List (List Value)
deriving DecidableEq

def DataFrame.columns {Value : Type} (frame : DataFrame Value) : List String :=
  frame.schema.map Field.name

def DataFrame.count {Value : Type} (frame : DataFrame Value) : Nat := frame.rows.length

inductive DatasetFormat where
  | csv
  | json
  | parquet
deriving DecidableEq

structure DatasetInfo where
  name : String
  viewName : String
  path : String
  format : DatasetFormat
  schema : Option (List (String × List (String × String)))
  allowedFields : List String

/-- The options of a reader. The one for the header belongs to CSV. -/
structure ReadOptions where
  pathGlobFilter : String
  header : Option Bool
  recursiveFileLookup : Bool

/-- The files, as the readers of Spark see them. -/
structure Files (Value : Type) where
  read : DatasetFormat → String → List Field → ReadOptions → Except String (List (List Value))
  direct : String → String → Except String (DataFrame Value)

inductive Relation where
  | view (name : String)
  | file (format path : String)
deriving DecidableEq

def Relation.isView : Relation → Bool
  | .view _ => true
  | .file _ _ => false

structure Write (Value : Type) where
  path : String
  format : String
  header : Bool
  frame : DataFrame Value
deriving DecidableEq

/-- What a statement gives and changes. A view without a frame is dropped. -/
structure Effect (Value : Type) where
  frame : DataFrame Value
  views : List (String × Option (DataFrame Value))
  writes : List (Write Value)
  files : Files Value → Files Value

structure Spark (Value : Type) where
  viewKey : String → Except String String
  /-- The columns that a name in a `select` stands for, each with its value in a row. -/
  select : List Field → String → Except String (List (Field × (List Value → Value)))
  atLeast : List Field → String → Int → Except String (List Value → Bool)
  /-- The check of `unionByName` on the names of a schema. -/
  unionCheck : List Field → Except String Unit
  relations : String → List Relation
  evaluate : String → List (Except String (DataFrame Value)) → Except String (Effect Value)
  save : Write Value → Except String Unit

inductive Record where
  | datasetLoadStarted (datasetName datasetPath startDate endDate : String)
  | datasetLoadCompleted (datasetName rowCount datasetPath : String)
  | datasetLoadFailed (datasetName datasetPath error : String)
  | datasetWriteStarted (datasetName outputPath : String)
  | datasetWriteCompleted (datasetName outputPath rowCount : String)
  | datasetWriteFailed (datasetName outputPath error : String)
  | querySegmentExecutionStarted (stepNumber : String)
  | querySegmentExecutionCompleted (rowCount stepNumber : String)
  | querySegmentExecutionFailed (stepNumber error : String)
  | queryExecutionCompleted (durationSec : String)
  | queryExecutionFailed (error : String)
  | auditDatasetLoadCompleted (source datasetName jobId : String)
  | auditDatasetLoadFailed (source datasetName jobId : String)
  | auditDatasetWriteCompleted (source datasetName destination rowCount jobId : String)
  | auditDatasetWriteFailed (source datasetName destination jobId reason : String)
  | auditQueryCompleted (source jobId : String)
  | auditQueryFailed (source jobId reason : String)
  | queryStatistics (numRowsRead numRowsWritten : Nat) (durationSec : String)
deriving DecidableEq

structure Session (Value : Type) where
  views : List (String × DataFrame Value)
  files : Files Value
  writes : List (Write Value)
  records : List Record

abbrev SparkAction (Value Result : Type) := Action (Session Value) String Result

variable {Value : Type}

/-- The recorders log a failed request and go on, and they make it without suspending,
so tasks that are gathered run one behind the other. -/
def record (entry : Record) : SparkAction Value Unit :=
  Action.modify fun session => { session with records := session.records ++ [entry] }

def throw {Result : Type} (error : String) : SparkAction Value Result :=
  Action.ofExcept (.error error)

def replaceView (views : List (String × DataFrame Value)) (key : String)
    (frame : Option (DataFrame Value)) : List (String × DataFrame Value) :=
  views.filter (fun view => view.1 != key) ++ (frame.map fun frame => (key, frame)).toList

def createOrReplaceTempView (spark : Spark Value) (name : String) (frame : DataFrame Value) :
    SparkAction Value Unit := do
  let key ← Action.ofExcept (spark.viewKey name)
  Action.modify fun session => { session with views := replaceView session.views key (some frame) }

def findView (spark : Spark Value) (views : List (String × DataFrame Value)) (name : String) :
    Except String (DataFrame Value) := do
  match views.lookup (← spark.viewKey name) with
  | some frame => .ok frame
  | none => .error s!"[TABLE_OR_VIEW_NOT_FOUND] The table or view {name} cannot be found."

def resolve (spark : Spark Value) (session : Session Value) :
    Relation → Except String (DataFrame Value)
  | .view name => findView spark session.views name
  | .file format path => session.files.direct format path

def applyEffect (effect : Effect Value) (session : Session Value) : Session Value where
  views := effect.views.foldl (fun views view => replaceView views view.1 view.2) session.views
  files := effect.files session.files
  writes := session.writes ++ effect.writes
  records := session.records

def sql (spark : Spark Value) (statement : String) : SparkAction Value (DataFrame Value) := do
  let effect ← Action.get >>= fun session => Action.ofExcept
    (spark.evaluate statement ((spark.relations statement).map (resolve spark session)))
  Action.modify (applyEffect effect)
  return effect.frame

/-- A name that Spark takes for one column: neither the star nor a path into a column. -/
def isPlainName (name : String) : Bool :=
  name != "*" && name.toList.all fun char => char != '.' && char != '\x60'

/-- `select` of the given names that are among the columns. -/
def selectFields (spark : Spark Value) (names : List String) (frame : DataFrame Value) :
    Except String (DataFrame Value) := do
  let chosen ← (names.filter fun name => name ∈ frame.columns).mapM (spark.select frame.schema)
  let columns := chosen.flatten
  return ⟨columns.map Prod.fst, frame.rows.map fun row => columns.map fun column => column.2 row⟩

/-- `unionByName` of frames with one schema. -/
def unionByName (spark : Spark Value) (left right : DataFrame Value) :
    Except String (DataFrame Value) := do
  spark.unionCheck left.schema
  return ⟨left.schema, left.rows ++ right.rows⟩

def filterAtLeast (spark : Spark Value) (frame : DataFrame Value) (column : String) (bound : Int) :
    Except String (DataFrame Value) := do
  let keep ← spark.atLeast frame.schema column bound
  return { frame with rows := frame.rows.filter keep }

end CleanRoom.Analytics
