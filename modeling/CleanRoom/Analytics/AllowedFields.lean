import CleanRoom.Analytics.RunQuery

/-!
# Only allowed fields reach the output

Two contents of the dataset files that agree on the allowed fields of every row give
the same views, so a query whose statements read views alone writes the same output
and leaves the same records. Nothing looks at the text of a statement: one that names
a file by format and path reads all of its fields.
-/

namespace CleanRoom.Analytics

open Throwing TwoRuns

variable {Value : Type}

def AgreesOn (schema : List Field) (names : List String) (row other : List Value) : Prop :=
  ∀ (index : Nat) (field : Field), schema[index]? = some field → field.name ∈ names →
    row[index]? = other[index]?

def RowsAgree (schema : List Field) (names : List String) (rows others : List (List Value)) :
    Prop :=
  List.Forall₂ (AgreesOn schema names) rows others

structure FramesAgree (dataset : DatasetInfo) (frame other : DataFrame Value) : Prop where
  parsed : parseJsonSchema dataset.schema = .ok frame.schema
  shape : other.schema = frame.schema
  rows : RowsAgree frame.schema dataset.allowedFields frame.rows other.rows

def IsDatasetFolder (host : PythonHost) (dataset : DatasetInfo) (path : String) : Prop :=
  path = dataset.path ∨ ∃ day, path = osPathJoin dataset.path (host.strftime day)

/-- In each folder of the dataset there are the same rows up to fields that are not
allowed, or reading it fails in the same way. -/
def FilesAgree (host : PythonHost) (dataset : DatasetInfo) (files other : Files Value) : Prop :=
  ∀ path schema, IsDatasetFolder host dataset path → parseJsonSchema dataset.schema = .ok schema →
    Matches (RowsAgree schema dataset.allowedFields)
      (files.read dataset.format path schema (readOptions dataset.format))
      (other.read dataset.format path schema (readOptions dataset.format))

/-- A plain name of a column selects what depends on that column alone. -/
def SelectsByName (spark : Spark Value) : Prop :=
  ∀ schema name chosen, isPlainName name → name ∈ schema.map Field.name →
    spark.select schema name = .ok chosen → ∀ column ∈ chosen, ∀ row other,
      AgreesOn schema [name] row other → column.2 row = column.2 other

theorem selected_same (spark : Spark Value) (byName : SelectsByName spark) (schema : List Field)
    (names : List String) (plain : ∀ name ∈ names, isPlainName name)
    (known : ∀ name ∈ names, name ∈ schema.map Field.name)
    (chosen : List (List (Field × (List Value → Value))))
    (selected : names.mapM (spark.select schema) = .ok chosen) (row other : List Value)
    (agree : AgreesOn schema names row other) :
    chosen.flatten.map (fun column => column.2 row) =
      chosen.flatten.map fun column => column.2 other := by
  induction names generalizing chosen with
  | nil =>
      cases selected
      rfl
  | cons name names ih =>
      rw [List.mapM_cons] at selected
      obtain ⟨first, selectedFirst, selected⟩ := of_bind selected
      obtain ⟨rest, selectedRest, selected⟩ := of_bind selected
      cases selected
      have here : AgreesOn schema [name] row other := by
        intro index field found named
        exact agree index field found (List.mem_cons.mpr (.inl (List.mem_singleton.mp named)))
      have behind : AgreesOn schema names row other := by
        intro index field found named
        exact agree index field found (List.mem_cons_of_mem name named)
      have same := byName schema name first (plain name List.mem_cons_self)
        (known name List.mem_cons_self) selectedFirst
      rw [List.flatten_cons, List.map_append, List.map_append,
        ih (fun other member => plain other (List.mem_cons_of_mem name member))
          (fun other member => known other (List.mem_cons_of_mem name member)) rest selectedRest
          behind]
      congr 1
      exact List.map_congr_left fun column member => same column member row other here

variable {spark : Spark Value}

theorem rows_selected_same (byName : SelectsByName spark)
    (schema : List Field) (names : List String) (plain : ∀ name ∈ names, isPlainName name)
    (chosen : List (List (Field × (List Value → Value))))
    (selected : (names.filter fun name => name ∈ schema.map Field.name).mapM
      (spark.select schema) = .ok chosen)
    (rows others : List (List Value)) (agree : RowsAgree schema names rows others) :
    rows.map (fun row => chosen.flatten.map fun column => column.2 row) =
      others.map fun row => chosen.flatten.map fun column => column.2 row := by
  induction agree with
  | nil => rfl
  | cons agree _ ih =>
      rw [List.map_cons, List.map_cons, ih]
      congr 1
      refine selected_same spark byName schema _ ?_ ?_ chosen selected _ _ ?_
      · exact fun name member => plain name (List.mem_filter.mp member).1
      · exact fun name member => of_decide_eq_true (List.mem_filter.mp member).2
      · exact fun index field found named =>
          agree index field found (List.mem_filter.mp named).1

theorem select_fields_agree (byName : SelectsByName spark)
    (dataset : DatasetInfo) (plain : ∀ name ∈ dataset.allowedFields, isPlainName name)
    (frame other : DataFrame Value) (agree : FramesAgree dataset frame other) :
    selectFields spark dataset.allowedFields frame =
      selectFields spark dataset.allowedFields other := by
  unfold selectFields DataFrame.columns
  rw [agree.shape]
  cases selected : (dataset.allowedFields.filter fun name =>
      name ∈ frame.schema.map Field.name).mapM (spark.select frame.schema) with
  | error error => rfl
  | ok chosen =>
      have same := rows_selected_same byName frame.schema dataset.allowedFields plain chosen
        selected frame.rows other.rows agree.rows
      change Except.ok _ = Except.ok _
      rw [same]

section

variable (host : PythonHost) (dataset : DatasetInfo) (files other : Files Value)
  (agree : FilesAgree host dataset files other)

include agree

theorem load_dataset_folder_agrees (path : String) (folder : IsDatasetFolder host dataset path) :
    Matches (FramesAgree dataset) (loadDatasetFolder files dataset path)
      (loadDatasetFolder other dataset path) := by
  unfold loadDatasetFolder
  cases parsed : parseJsonSchema dataset.schema with
  | error error => exact .error error
  | ok schema =>
      change Matches _ (files.read dataset.format path schema _ >>= _)
        (other.read dataset.format path schema _ >>= _)
      refine matches_bind _ _ _ _ _ _ (agree path schema folder parsed) ?_
      intro rows others same
      exact .ok _ _ ⟨parsed, rfl, same⟩

theorem load_day_agrees (current : Nat) (frames others : List (DataFrame Value))
    (same : List.Forall₂ (FramesAgree dataset) frames others) :
    Matches (List.Forall₂ (FramesAgree dataset)) (loadDay host files dataset current frames)
      (loadDay host other dataset current others) := by
  have loaded := load_dataset_folder_agrees host dataset files other agree
    (osPathJoin dataset.path (host.strftime current)) (.inr ⟨current, rfl⟩)
  unfold loadDay
  generalize loadDatasetFolder files dataset _ = left at loaded
  generalize loadDatasetFolder other dataset _ = right at loaded
  cases loaded with
  | ok frame other holds => exact .ok _ _ (List.rel_append same (.cons holds .nil))
  | error error =>
      dsimp only
      split
      · exact .ok _ _ same
      · exact .error error

theorem load_days_agree (last fuel current : Nat) (frames others : List (DataFrame Value))
    (same : List.Forall₂ (FramesAgree dataset) frames others) :
    Matches (List.Forall₂ (FramesAgree dataset))
      (loadDays host files dataset last fuel current frames)
      (loadDays host other dataset last fuel current others) := by
  induction fuel generalizing current frames others with
  | zero => exact .ok _ _ same
  | succ fuel ih =>
      unfold loadDays
      split
      · refine matches_bind _ _ _ _ _ _
          (load_day_agrees host dataset files other agree current frames others same) ?_
        intro frames others same
        split
        · exact .error _
        · exact ih (current + 1) frames others same
      · exact .ok _ _ same

theorem load_range_agrees (startDate endDate : String) :
    Matches (List.Forall₂ (FramesAgree dataset))
      (loadRange host files dataset startDate endDate)
      (loadRange host other dataset startDate endDate) := by
  unfold loadRange
  split
  · refine matches_bind Eq _ _ _ _ _ (matches_self _ (fun _ => rfl) _) ?_
    rintro first _ rfl
    refine matches_bind Eq _ _ _ _ _ (matches_self _ (fun _ => rfl) _) ?_
    rintro last _ rfl
    exact load_days_agree host dataset files other agree last _ first [] [] .nil
  · exact .ok _ _ .nil

end

variable {dataset : DatasetInfo} {spark : Spark Value}

theorem union_agrees (left right other another : DataFrame Value)
    (first : FramesAgree dataset left other) (second : FramesAgree dataset right another) :
    Matches (FramesAgree dataset) (unionByName spark left right)
      (unionByName spark other another) := by
  have schemas : right.schema = left.schema := by
    have parsed := second.parsed
    rw [first.parsed] at parsed
    exact (Except.ok.inj parsed).symm
  unfold unionByName
  rw [first.shape]
  refine matches_bind Eq _ _ _ _ _ (matches_self _ (fun _ => rfl) _) ?_
  rintro _ _ rfl
  exact .ok _ _ ⟨first.parsed, rfl, List.rel_append first.rows (schemas ▸ second.rows)⟩

theorem unions_agree (rest others : List (DataFrame Value))
    (same : List.Forall₂ (FramesAgree dataset) rest others) (first other : DataFrame Value)
    (agree : FramesAgree dataset first other) :
    Matches (FramesAgree dataset) (rest.foldlM (unionByName spark) first)
      (others.foldlM (unionByName spark) other) := by
  induction same generalizing first other with
  | nil => exact .ok _ _ agree
  | cons here _ ih =>
      rw [List.foldlM_cons, List.foldlM_cons]
      refine matches_bind _ _ _ _ _ _ (union_agrees _ _ _ _ agree here) ?_
      exact fun first other agree => ih first other agree

theorem load_frame_same (byName : SelectsByName spark) (host : PythonHost)
    (plain : ∀ name ∈ dataset.allowedFields, isPlainName name)
    (files other : Files Value) (agree : FilesAgree host dataset files other)
    (startDate endDate : String) :
    loadFrame spark host files dataset startDate endDate =
      loadFrame spark host other dataset startDate endDate := by
  have consolidated : Matches (FramesAgree dataset)
      (consolidate spark host files dataset startDate endDate)
      (consolidate spark host other dataset startDate endDate) := by
    refine matches_bind _ _ _ _ _ _
      (load_range_agrees host dataset files other agree startDate endDate) ?_
    intro frames others same
    cases same with
    | nil => exact load_dataset_folder_agrees host dataset files other agree _ (.inl rfl)
    | cons here rest => exact unions_agree _ _ rest _ _ here
  refine matches_eq _ _ (matches_bind _ _ _ _ _ _ consolidated ?_)
  intro frame other agree
  rw [select_fields_agree byName dataset plain frame other agree]
  exact matches_self _ (fun _ => rfl) _

structure SameBut (related : Files Value → Files Value → Prop) (session other : Session Value) :
    Prop where
  views : session.views = other.views
  writes : session.writes = other.writes
  records : session.records = other.records
  files : related session.files other.files

def AnyFiles (_ _ : Files Value) : Prop := True

theorem same_but_any (related : Files Value → Files Value → Prop) (session other : Session Value)
    (same : SameBut related session other) : SameBut AnyFiles session other :=
  ⟨same.views, same.writes, same.records, trivial⟩

section

variable (related : Files Value → Files Value → Prop)

theorem record_alike (entry : Record) :
    Alike (SameBut related) (SameBut related) (record entry) (record entry) := by
  refine alike_modify _ _ _ _ fun session other same => ?_
  exact ⟨same.views, same.writes, by rw [same.records], same.files⟩

theorem throw_alike {Result : Type} (error : String) :
    Alike (SameBut related) (SameBut related) (throw error : SparkAction Value Result)
      (throw error) :=
  alike_of_except _ _

theorem failure_alike {Result : Type} (first second : Record) (error : String) :
    Alike (SameBut related) (SameBut related)
      (do record first; record second; throw error : SparkAction Value Result)
      (do record first; record second; throw error) := by
  refine alike_then _ _ _ (record_alike related first) fun _ => ?_
  exact alike_then _ _ _ (record_alike related second) fun _ => throw_alike related error

theorem create_view_alike (spark : Spark Value) (name : String) (frame : DataFrame Value) :
    Alike (SameBut related) (SameBut related) (createOrReplaceTempView spark name frame)
      (createOrReplaceTempView spark name frame) := by
  refine alike_then _ _ _ (alike_of_except _ _) fun key => ?_
  refine alike_modify _ _ _ _ fun session other same => ?_
  exact ⟨by rw [same.views], same.writes, same.records, same.files⟩

theorem save_alike (spark : Spark Value) (entry : Write Value) :
    Alike (SameBut related) (SameBut related) (save spark entry) (save spark entry) := by
  refine alike_then _ _ _ ?_ fun _ => alike_of_except _ _
  refine alike_modify _ _ _ _ fun session other same => ?_
  exact ⟨same.views, by rw [same.writes], same.records, same.files⟩

theorem write_dataset_alike (spark : Spark Value) (host : PythonHost) (dataset : DatasetInfo)
    (frame : DataFrame Value) :
    Alike (SameBut related) (SameBut related) (writeDatasetAsync spark host dataset frame)
      (writeDatasetAsync spark host dataset frame) := by
  refine alike_then _ _ _ (record_alike related _) fun _ => ?_
  refine alike_attempt _ _ _ _ _ (fun _ _ same => same) ?_
    fun error => failure_alike related _ _ error
  refine alike_then _ _ _ (alike_of_except _ _) fun output => ?_
  refine alike_then _ _ _ (save_alike related spark _) fun _ => ?_
  refine alike_then _ _ _ (record_alike related _) fun _ => ?_
  exact alike_then _ _ _ (record_alike related _) fun _ => alike_pure _ _

end

variable {spark : Spark Value} {statement : String} {host : PythonHost}

theorem load_dataset_alike (byName : SelectsByName spark)
    (related : Files Value → Files Value → Prop) (startDate endDate : String)
    (dataset : DatasetInfo) (plain : ∀ name ∈ dataset.allowedFields, isPlainName name)
    (agree : ∀ files other, related files other → FilesAgree host dataset files other) :
    Alike (SameBut related) (SameBut related)
      (loadDatasetAsync spark host startDate endDate dataset)
      (loadDatasetAsync spark host startDate endDate dataset) := by
  refine alike_then _ _ _ (record_alike related _) fun _ => ?_
  refine alike_attempt _ _ _ _ _ (fun _ _ same => same) ?_
    fun error => failure_alike related _ _ error
  refine alike_then _ _ _ (alike_read _ _ ?_) fun frame => ?_
  · intro session other same
    exact load_frame_same byName host plain _ _ (agree _ _ same.files) _ _
  refine alike_then _ _ _ (create_view_alike related spark _ frame) fun _ => ?_
  refine alike_then _ _ _ (record_alike related _) fun _ => ?_
  exact alike_then _ _ _ (record_alike related _) fun _ => alike_pure _ _

/-- The statement names no file by format and path. -/
def ReadsViews (spark : Spark Value) (statement : String) : Prop :=
  ∀ relation ∈ spark.relations statement, relation.isView

theorem resolve_same (views : ReadsViews spark statement) (session other : Session Value)
    (same : session.views = other.views) :
    (spark.relations statement).map (resolve spark session) =
      (spark.relations statement).map (resolve spark other) := by
  refine List.map_congr_left fun relation member => ?_
  have isView := views relation member
  cases relation with
  | view name =>
      unfold resolve
      rw [same]
  | file format path => cases isView

theorem apply_effect_same (effect : Effect Value) (session other : Session Value)
    (same : SameBut AnyFiles session other) :
    SameBut AnyFiles (applyEffect effect session) (applyEffect effect other) where
  views := by
    unfold applyEffect
    rw [same.views]
  writes := by
    unfold applyEffect
    rw [same.writes]
  records := same.records
  files := trivial

theorem sql_alike (views : ReadsViews spark statement) :
    Alike (SameBut AnyFiles) (SameBut AnyFiles) (sql spark statement) (sql spark statement) := by
  refine alike_then _ _ _ (alike_read _ _ ?_) fun effect => ?_
  · intro session other same
    rw [resolve_same views session other same.views]
  refine alike_then _ _ _ ?_ fun _ => alike_pure _ _
  exact alike_modify _ _ _ _ (apply_effect_same effect)

theorem run_query_segment_alike (segment : QuerySegment) (views : ReadsViews spark segment.data) :
    Alike (SameBut AnyFiles) (SameBut AnyFiles) (runQuerySegment spark host segment)
      (runQuerySegment spark host segment) := by
  refine alike_attempt _ _ _ _ _ (fun _ _ same => same) ?_ fun error => ?_
  · refine alike_then _ _ _ (record_alike AnyFiles _) fun _ => ?_
    refine alike_then _ _ _ (alike_read _ _ ?_) fun _ => ?_
    · intro session other same
      rw [same.views]
    refine alike_then _ _ _ (sql_alike views) fun result => ?_
    refine alike_then _ _ _ (alike_of_except _ _) fun result => ?_
    exact alike_then _ _ _ (record_alike AnyFiles _) fun _ => alike_pure _ _
  · exact alike_then _ _ _ (record_alike AnyFiles _) fun _ => throw_alike AnyFiles error

section

variable (spark : Spark Value) (host : PythonHost) (query : Query)
  (views : ∀ segment ∈ query.segments, ReadsViews spark segment.data)

include views

theorem run_step_alike (step : Int) :
    Alike (SameBut AnyFiles) (SameBut AnyFiles) (runStep spark host query step)
      (runStep spark host query step) := by
  refine alike_then _ _ _ (alike_gather _ _ _ _ ?_) fun results => alike_of_except _ _
  intro segment member
  exact run_query_segment_alike segment (views segment (List.mem_filter.mp member).1)

theorem run_steps_alike (steps : List Int) (output : Option (DataFrame Value)) :
    Alike (SameBut AnyFiles) (SameBut AnyFiles) (runSteps spark host query steps output)
      (runSteps spark host query steps output) := by
  induction steps generalizing output with
  | nil => exact alike_pure _ _
  | cons step steps ih =>
      exact alike_then _ _ _ (run_step_alike spark host query views step) fun results => ih _

end

variable {config : QueryConfiguration} {spark : Spark Value} {host : PythonHost}
  {startDate endDate : String}

theorem write_output_alike (output : Option (DataFrame Value)) :
    Alike (SameBut AnyFiles) (SameBut AnyFiles) (writeOutput spark host config output)
      (writeOutput spark host config output) := by
  cases output with
  | none => exact alike_pure _ _
  | some output => exact write_dataset_alike AnyFiles spark host config.datasink output

def DatasetsAgree (host : PythonHost) (config : QueryConfiguration) (files other : Files Value) :
    Prop :=
  ∀ dataset ∈ config.datasets, FilesAgree host dataset files other

theorem load_datasets_alike (byName : SelectsByName spark)
    (plain : ∀ dataset ∈ config.datasets, ∀ name ∈ dataset.allowedFields, isPlainName name) :
    Alike (SameBut (DatasetsAgree host config)) (SameBut (DatasetsAgree host config))
      (loadDatasets spark host config startDate endDate)
      (loadDatasets spark host config startDate endDate) := by
  refine alike_then _ _ _ (alike_gather _ _ _ _ ?_) fun results => alike_of_except _ _
  intro dataset member
  exact load_dataset_alike byName _ startDate endDate dataset (plain dataset member)
    fun files other agree => agree dataset member

theorem run_query_alike (byName : SelectsByName spark) (query : Query)
    (plain : ∀ dataset ∈ config.datasets, ∀ name ∈ dataset.allowedFields, isPlainName name)
    (views : ∀ segment ∈ query.segments, ReadsViews spark segment.data) :
    Alike (SameBut (DatasetsAgree host config)) (SameBut AnyFiles)
      (runQuery spark host config query startDate endDate)
      (runQuery spark host config query startDate endDate) := by
  refine alike_attempt _ _ _ _ _ (fun _ _ same => same) ?_
    fun error => failure_alike AnyFiles _ _ error
  refine alike_bind _ _ _ _ _ _ _ (same_but_any _)
    (load_datasets_alike byName plain) fun rowCounts => ?_
  refine alike_bind _ _ _ _ _ _ _ (same_but_any _) (alike_of_except _ _) fun _ => ?_
  intro session other same
  refine alike_then _ _ _ (run_steps_alike spark host query views query.steps none)
    (fun output => ?_) session other (same_but_any _ _ _ same)
  refine alike_then _ _ _ (write_output_alike output) fun written => ?_
  refine alike_then _ _ _ (record_alike AnyFiles _) fun _ => ?_
  exact alike_then _ _ _ (record_alike AnyFiles _) fun _ => record_alike AnyFiles _

/-- A query that reads views alone ends in the same way for both contents, with the same
output and the same records. -/
theorem output_from_allowed_fields (spark : Spark Value) (byName : SelectsByName spark)
    (host : PythonHost) (config : QueryConfiguration) (query : Query) (startDate endDate : String)
    (plain : ∀ dataset ∈ config.datasets, ∀ name ∈ dataset.allowedFields, isPlainName name)
    (views : ∀ segment ∈ query.segments, ReadsViews spark segment.data) (session : Session Value)
    (other : Files Value) (agree : DatasetsAgree host config session.files other) :
    let first := runQuery spark host config query startDate endDate session
    let second := runQuery spark host config query startDate endDate { session with files := other }
    first.1 = second.1 ∧ first.2.writes = second.2.writes ∧ first.2.records = second.2.records := by
  obtain ⟨outcome, same⟩ := run_query_alike byName query plain
    views session { session with files := other } ⟨rfl, rfl, rfl, agree⟩
  exact ⟨outcome, same.writes, same.records⟩

def namedColumns (schema : List Field) (name : String) : List (Field × Nat) :=
  schema.zipIdx.filter fun column => column.1.name = name

def selectColumn (schema : List Field) (name : String) :
    Except String (List (Field × (List String → String))) :=
  match namedColumns schema name with
  | [column] => .ok [(column.1, fun row => row.getD column.2 "")]
  | [] => .error "[UNRESOLVED_COLUMN]"
  | _ => .error "[AMBIGUOUS_REFERENCE]"

def peopleView : String := "SELECT * FROM people"

def peopleFile : String := "SELECT * FROM csv.\x60/mnt/people\x60"

def peopleRelations (statement : String) : List Relation :=
  if statement = peopleView then [.view "people"]
  else if statement = peopleFile then [.file "csv" "/mnt/people"]
  else []

def peopleSpark : Spark String where
  viewKey := .ok
  select := selectColumn
  atLeast := fun _ _ _ => .error "[DATATYPE_MISMATCH]"
  unionCheck := fun _ => .ok ()
  relations := peopleRelations
  evaluate := fun _ inputs =>
    match inputs with
    | [input] => input.map fun frame => ⟨frame, [], [], id⟩
    | _ => .error "[PARSE_SYNTAX_ERROR]"
  save := fun _ => .ok ()

theorem select_column_by_name : SelectsByName peopleSpark := by
  intro schema name chosen _ _ selected column member row other agree
  change selectColumn schema name = .ok chosen at selected
  unfold selectColumn at selected
  split at selected
  next found single =>
    cases selected
    cases List.mem_singleton.mp member
    have among : found ∈ namedColumns schema name := by
      rw [single]
      exact List.mem_singleton_self found
    obtain ⟨indexed, named⟩ := List.mem_filter.mp among
    have at_index := List.mk_mem_zipIdx_iff_getElem?.mp indexed
    have same := agree found.2 found.1 at_index (List.mem_singleton.mpr (of_decide_eq_true named))
    change row.getD found.2 "" = other.getD found.2 ""
    rw [List.getD_eq_getElem?_getD, List.getD_eq_getElem?_getD, same]
  all_goals cases selected

def peopleHost : PythonHost where
  strptime := fun _ => .error "time data does not match format '%Y-%m-%d'"
  strftime := fun _ => "2025-01-01"
  setText := fun names => "\x7b" ++ ", ".intercalate names ++ "\x7d"
  currentDate := "2025-01-01"
  durationSec := "1.0"
  jobId := "job"

/-- One person, of whom the name may be read and the salary not. -/
def peopleFiles (salary : String) : Files String where
  read := fun _ path _ _ =>
    if path = "/mnt/people" then .ok [["ada", salary]]
    else .error (pathMissing ++ ": " ++ path)
  direct := fun format path =>
    if format = "csv" ∧ path = "/mnt/people" then
      .ok ⟨[⟨"_c0", .string, true⟩, ⟨"_c1", .string, true⟩], [["ada", salary]]⟩
    else .error "[PATH_NOT_FOUND]"

def people : DatasetInfo where
  name := "people"
  viewName := "people"
  path := "/mnt/people"
  format := .csv
  schema := some [("name", [("type", "string")]), ("salary", [("type", "string")])]
  allowedFields := ["name"]

def peopleOutput (column : String) : QueryConfiguration where
  datasets := [people]
  datasink :=
    { name := "output", viewName := "output", path := "/mnt/output", format := .csv
      schema := some [(column, [("type", "string")])], allowedFields := [column] }

def oneSegment (statement : String) : Query := ⟨[⟨1, statement, none, none⟩]⟩

def peopleSession (salary : String) : Session String := ⟨[], peopleFiles salary, [], []⟩

theorem people_files_agree (column salary other : String) :
    DatasetsAgree peopleHost (peopleOutput column) (peopleFiles salary) (peopleFiles other) := by
  intro dataset member path schema _ parsed
  cases List.mem_singleton.mp member
  have shape : schema = [⟨"name", .string, true⟩, ⟨"salary", .string, true⟩] :=
    (Except.ok.inj parsed).symm
  subst shape
  change Matches _ ((peopleFiles salary).read .csv path _ _)
    ((peopleFiles other).read .csv path _ _)
  unfold peopleFiles
  dsimp only
  split
  · refine .ok _ _ (.cons ?_ .nil)
    intro index field found named
    match index with
    | 0 => rfl
    | 1 =>
        cases found
        exact absurd named (by decide)
    | index + 2 => cases found
  · exact .error _

theorem people_view_output :
    DatasetsAgree peopleHost (peopleOutput "name") (peopleFiles "10") (peopleFiles "20") ∧
    (let run := fun files => runQuery peopleSpark peopleHost (peopleOutput "name")
      (oneSegment peopleView) "" "" { peopleSession "10" with files := files }
    (run (peopleFiles "10")).1 = (run (peopleFiles "20")).1 ∧
    (run (peopleFiles "10")).2.writes = (run (peopleFiles "20")).2.writes ∧
    (run (peopleFiles "10")).2.records = (run (peopleFiles "20")).2.records) := by
  have agree := people_files_agree "name" "10" "20"
  refine ⟨agree, ?_⟩
  refine output_from_allowed_fields peopleSpark select_column_by_name peopleHost
    (peopleOutput "name") (oneSegment peopleView) "" "" ?_ ?_ (peopleSession "10")
    (peopleFiles "20") agree
  · decide
  · intro segment member
    cases List.mem_singleton.mp member
    change ∀ relation ∈ peopleRelations peopleView, relation.isView
    decide

/-- A statement that names the file writes the salaries. -/
theorem people_file_output :
    DatasetsAgree peopleHost (peopleOutput "_c1") (peopleFiles "10") (peopleFiles "20") ∧
    (let run := fun salary => runQuery peopleSpark peopleHost (peopleOutput "_c1")
      (oneSegment peopleFile) "" "" (peopleSession salary)
    ((run "10").2.writes.map fun entry => entry.frame.rows) = [[["10"]]] ∧
    ((run "20").2.writes.map fun entry => entry.frame.rows) = [[["20"]]]) := by
  exact ⟨people_files_agree "_c1" "10" "20", by decide +kernel⟩

end CleanRoom.Analytics
