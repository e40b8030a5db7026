import CleanRoom.Analytics.DatasetLoader
import Mathlib.Data.List.Nodup
import Mathlib.Data.List.Perm.Basic

/-!
# Reading back what was written

`write_dataset_async` writes with a header and in the order of the allowed fields;
`load_dataset_folder` reads without a header and in the order of the schema. Spark keeps the
columns of a CSV file by position, and those of JSON and Parquet by name.
-/

namespace CleanRoom.Analytics

open Throwing TwoRuns

structure SparkText (Value : Type) where
  null : Value
  text : Value → String
  read : DataType → String → Value

variable {Value : Type} (values : SparkText Value)

def readField (record : List (String × Value)) (name : String) : Value :=
  ((record.find? fun entry => entry.1 == name).map Prod.snd).getD values.null

/-- The column of a name, which is null where there is none. -/
def namedColumn (schema : List Field) (name : String) : Field × (List Value → Value) :=
  ((schema.find? fun field => field.name == name).getD ⟨name, .string, true⟩,
    fun row => readField values ((schema.map Field.name).zip row) name)

/-- How Spark resolves names, which it compares by their keys: a name of one column is that
column, one of several is ambiguous, and repeated columns are not written. -/
structure Resolves (key : String → String) (spark : Spark Value) : Prop where
  one : ∀ schema name, isPlainName name → name ∈ schema.map Field.name →
    (schema.map fun field => key field.name).count (key name) = 1 →
      spark.select schema name = .ok [namedColumn values schema name]
  several : ∀ schema name, isPlainName name →
    1 < (schema.map fun field => key field.name).count (key name) →
      ¬Answers (spark.select schema name)
  saved : ∀ entry, spark.save entry = .ok () → (entry.frame.columns.map key).Nodup

/-- The lines of a CSV file. -/
def csvLines (header : Bool) (columns : List String) (rows : List (List Value)) :
    List (List String) :=
  (if header then [columns] else []) ++ rows.map (List.map values.text)

/-- The columns of a CSV file are those of the schema by position. -/
def csvRow (schema : List Field) (cells : List String) : List Value :=
  schema.zipIdx.map fun (field, index) =>
    (cells[index]?.map (values.read field.dataType)).getD values.null

/-- What Spark's readers give, with their options, for what its writer made of an entry: one
file for each part of the rows. -/
structure Stored (key : String → String) (files : Files Value) (entry : Write Value)
    (parts : List (List (List Value))) : Prop where
  someFile : parts ≠ []
  divided : parts.flatten.Perm entry.frame.rows
  csv : ∀ schema options, entry.format = "csv" → options.pathGlobFilter = "*.csv" →
    files.read .csv entry.path schema options = .ok ((parts.flatMap fun rows =>
      (csvLines values entry.header entry.frame.columns rows).drop
        (if options.header = some true then 1 else 0)).map (csvRow values schema))
  named : ∀ format schema options, format ≠ DatasetFormat.csv → entry.format = format.value →
    options.pathGlobFilter = s!"*.{format.value}" →
    (schema.map fun field => key field.name).Nodup →
    entry.frame.columns ⊆ schema.map Field.name →
    files.read format entry.path schema options = .ok (parts.flatten.map fun row =>
      schema.map fun field => readField values (entry.frame.columns.zip row) field.name)

theorem find_field (schema : List Field) (name : String) (present : name ∈ schema.map Field.name) :
    ∃ field, schema.find? (fun field => field.name == name) = some field ∧
      field.name = name := by
  obtain ⟨field, member, named⟩ := List.mem_map.mp present
  have found : (schema.find? fun field => field.name == name).isSome = true :=
    List.find?_isSome.mpr ⟨field, member, by simpa using named⟩
  obtain ⟨first, same⟩ := Option.isSome_iff_exists.mp found
  exact ⟨first, same, by simpa using List.find?_some same⟩

theorem named_column_name (schema : List Field) (name : String)
    (present : name ∈ schema.map Field.name) : (namedColumn values schema name).1.name = name := by
  obtain ⟨field, found, named⟩ := find_field schema name present
  rw [namedColumn, found, Option.getD_some, named]

theorem read_field_map (names : List String) (value : String → Value) (name : String)
    (present : name ∈ names) :
    readField values (names.zip (names.map value)) name = value name := by
  induction names with
  | nil => cases present
  | cons first rest induction =>
      by_cases same : first = name
      · simp [readField, same]
      · have later : name ∈ rest := by
          rcases List.mem_cons.mp present with equal | later
          · exact absurd equal.symm same
          · exact later
        simpa [readField, same] using induction later

theorem read_row (names : List String) (row : List Value) (distinct : names.Nodup)
    (length : row.length = names.length) :
    names.map (readField values (names.zip row)) = row := by
  induction names generalizing row with
  | nil => exact (List.eq_nil_of_length_eq_zero length).symm
  | cons first rest induction =>
      obtain ⟨value, row, rfl⟩ := List.exists_cons_of_length_eq_add_one length
      rw [List.nodup_cons] at distinct
      have others := induction row distinct.2 (by simpa using length)
      rw [List.map_cons, List.zip_cons_cons]
      congr 1
      · simp [readField]
      · refine (List.map_congr_left ?_).trans others
        intro name member
        have differ : first ≠ name := fun same => distinct.1 (same ▸ member)
        simp [readField, differ]

theorem compatible_names (written schema : List Field)
    (compatible : isSchemaCompatible written schema = true) (name : String)
    (present : name ∈ written.map Field.name) : name ∈ schema.map Field.name := by
  obtain ⟨field, member, rfl⟩ := List.mem_map.mp present
  have expected := List.all_eq_true.mp compatible field member
  cases found : schema.reverse.find? (fun other => other.name == field.name) with
  | none => simp [fieldType, found] at expected
  | some other =>
      have named : other.name = field.name := by simpa using List.find?_some found
      have known := List.mem_reverse.mp (List.mem_of_find?_eq_some found)
      exact List.mem_map.mpr ⟨other, known, named⟩

/-- The frame with the columns that the names select. -/
def projected (names : List String) (frame : DataFrame Value) : DataFrame Value :=
  let chosen := names.filter fun name => name ∈ frame.columns
  ⟨chosen.map fun name => (namedColumn values frame.schema name).1,
    frame.rows.map fun row => chosen.map (readField values (frame.columns.zip row))⟩

theorem projected_columns (names : List String) (frame : DataFrame Value) :
    (projected values names frame).columns =
      names.filter fun name => name ∈ frame.columns := by
  rw [DataFrame.columns, projected, List.map_map]
  refine (List.map_congr_left fun name member => ?_).trans (List.map_id _)
  exact named_column_name values frame.schema name
    (of_decide_eq_true (List.mem_filter.mp member).2)

section

variable {key : String → String} {spark : Spark Value} (resolves : Resolves values key spark)
  (names : List String) (plain : ∀ name ∈ names, isPlainName name) (frame : DataFrame Value)

include resolves plain

theorem select_fields_once
    (once : ∀ name ∈ names, name ∈ frame.columns →
      (frame.schema.map fun field => key field.name).count (key name) = 1) :
    selectFields spark names frame = .ok (projected values names frame) := by
  have selected : (names.filter fun name => name ∈ frame.columns).mapM
      (spark.select frame.schema) = .ok ((names.filter fun name => name ∈ frame.columns).map
        fun name => [namedColumn values frame.schema name]) := by
    refine mapM_of_ok _ _ _ fun name member => ?_
    obtain ⟨allowed, present⟩ := List.mem_filter.mp member
    exact resolves.one _ _ (plain name allowed) (of_decide_eq_true present)
      (once name allowed (of_decide_eq_true present))
  rw [selectFields, selected]
  simp only [bind, Except.bind, pure, Except.pure, ← List.flatMap_def, ← List.map_eq_flatMap,
    List.map_map]
  rfl

theorem select_fields_projected (selected : DataFrame Value)
    (succeeds : selectFields spark names frame = .ok selected) :
    selected = projected values names frame := by
  have named := select_fields_once values resolves names plain frame fun name allowed present => by
    obtain ⟨chosen, resolved, _⟩ := of_bind succeeds
    have answered := answers_of_mapM resolved name
      (List.mem_filter.mpr ⟨allowed, decide_eq_true present⟩)
    have several := mt (resolves.several frame.schema name (plain name allowed))
      (not_not.mpr answered)
    have some : 0 < (frame.schema.map fun field => key field.name).count (key name) := by
      obtain ⟨field, member, rfl⟩ := List.mem_map.mp present
      exact List.count_pos_iff.mpr (List.mem_map.mpr ⟨field, member, rfl⟩)
    omega
  rw [named] at succeeds
  exact (Except.ok.inj succeeds).symm

theorem select_fields_distinct
    (distinct : (frame.schema.map fun field => key field.name).Nodup) :
    selectFields spark names frame = .ok (projected values names frame) := by
  refine select_fields_once values resolves names plain frame fun name _ present => ?_
  obtain ⟨field, member, rfl⟩ := List.mem_map.mp present
  exact List.count_eq_one_of_mem distinct (List.mem_map.mpr ⟨field, member, rfl⟩)

end

theorem write_dataset_async_ok (spark : Spark Value) (host : PythonHost) (dataset : DatasetInfo)
    (frame : DataFrame Value) (session : Session Value) (count : Nat)
    (succeeds : (writeDatasetAsync spark host dataset frame session).1 = .ok count) :
    ∃ written, outputFrame spark dataset frame = .ok written ∧
      spark.save ⟨outputPath host dataset, dataset.format.value, true, written⟩ = .ok () ∧
      (writeDatasetAsync spark host dataset frame session).2.writes =
        session.writes ++ [⟨outputPath host dataset, dataset.format.value, true, written⟩] := by
  cases selected : outputFrame spark dataset frame with
  | error error =>
      simp [writeDatasetAsync, record, throw, Action.attempt, Action.modify, Action.ofExcept,
        bind, Action.bind, selected] at succeeds
  | ok written =>
      cases saved : spark.save
          ⟨outputPath host dataset, dataset.format.value, true, written⟩ with
      | error error =>
          simp [writeDatasetAsync, record, throw, save, Action.attempt, Action.modify,
            Action.ofExcept, bind, Action.bind, selected, saved] at succeeds
      | ok result =>
          refine ⟨written, rfl, saved, ?_⟩
          simp [writeDatasetAsync, record, save, Action.attempt, Action.modify, Action.ofExcept,
            bind, Action.bind, pure, selected, saved]

theorem output_frame_ok (spark : Spark Value) (dataset : DatasetInfo)
    (frame written : DataFrame Value) (schema : List Field)
    (parsed : parseJsonSchema dataset.schema = .ok schema)
    (succeeds : outputFrame spark dataset frame = .ok written) :
    selectFields spark dataset.allowedFields frame = .ok written ∧
      isSchemaCompatible written.schema schema := by
  obtain ⟨selected, chosen, succeeds⟩ := of_bind succeeds
  rw [parsed] at succeeds
  change (if _ then _ else _) = _ at succeeds
  split at succeeds
  · cases succeeds
  next compatible =>
    cases succeeds
    exact ⟨chosen, not_not.mp compatible⟩

/-- Rows that are read by name and cut down to names of the schema. -/
theorem projected_named (names : List String) (schema : List Field) (columns : List String)
    (rows : List (List Value)) :
    (projected values names ⟨schema, rows.map fun row =>
        schema.map fun field => readField values (columns.zip row) field.name⟩).rows =
      rows.map fun row => (names.filter fun name => name ∈ schema.map Field.name).map
        (readField values (columns.zip row)) := by
  rw [projected, List.map_map]
  refine List.map_congr_left fun row _ => List.map_congr_left fun name member => ?_
  have mapped := read_field_map values (schema.map Field.name)
    (readField values (columns.zip row)) name (of_decide_eq_true (List.mem_filter.mp member).2)
  rwa [List.map_map] at mapped

theorem csv_lines_length (columns : List String) (parts : List (List (List Value))) :
    (parts.flatMap fun rows => (csvLines values true columns rows).drop 0).length =
      parts.flatten.length + parts.length := by
  induction parts with
  | nil => rfl
  | cons rows parts induction =>
      rw [List.flatMap_cons, List.length_append, induction, List.flatten_cons, List.length_append,
        List.length_cons, List.drop_zero, csvLines, List.length_append, List.length_map]
      simp only [if_true, List.length_singleton]
      omega

/-- The names that a projection of a written frame finds again are all of its columns exactly
when none is missing in the frame, or there are no rows. -/
theorem named_rows_perm_iff (names schemaNames columns : List String)
    (rows written : List (List Value)) (divided : rows.Perm written) (once : columns.Nodup)
    (lengths : ∀ row ∈ written, row.length = columns.length) (present : String → Bool)
    (fewer : columns = (names.filter fun name => name ∈ schemaNames).filter present) :
    (rows.map fun row => (names.filter fun name => name ∈ schemaNames).map
        (readField values (columns.zip row))).Perm written ↔
      written = [] ∨ ∀ name ∈ names, name ∈ schemaNames → present name := by
  constructor
  · intro same
    rcases List.eq_nil_or_concat written with none | ⟨before, row, last⟩
    · exact .inl none
    · have member : row ∈ written := by simp [last]
      obtain ⟨source, _, given⟩ := List.mem_map.mp (same.mem_iff.mpr member)
      have length := lengths row member
      rw [← given, List.length_map, fewer] at length
      refine .inr fun name allowed listed => ?_
      exact List.length_filter_eq_length_iff.mp length.symm name
        (by simp only [List.mem_filter, allowed, listed, decide_true, and_self])
  · rintro (none | all)
    · rw [none] at divided ⊢
      rw [divided.eq_nil]
      exact List.Perm.refl _
    · have same : (names.filter fun name => name ∈ schemaNames) = columns := by
        rw [fewer]
        refine (List.filter_eq_self.mpr fun name member => ?_).symm
        obtain ⟨allowed, listed⟩ := List.mem_filter.mp member
        exact all name allowed (of_decide_eq_true listed)
      have unchanged : (rows.map fun row => columns.map (readField values (columns.zip row))) =
          rows := by
        refine (List.map_congr_left fun row member => ?_).trans (List.map_id _)
        exact read_row values columns row once (lengths row (divided.mem_iff.mp member))
      rw [same, unchanged]
      exact divided

theorem filter_known {allowed names present : List String}
    (known : allowed.filter (fun name => name ∈ present) ⊆ names) :
    allowed.filter (fun name => name ∈ present) =
      (allowed.filter fun name => name ∈ names).filter fun name => name ∈ present := by
  rw [List.filter_filter]
  refine List.filter_congr fun name member => ?_
  by_cases has : name ∈ present
  · have listed : name ∈ names := known (by simp [member, has])
    simp only [has, listed, decide_true, Bool.and_self]
  · simp [has]

/-- What is read has the columns of the schema, so the projection succeeds. -/
theorem load_selected_iff (resolves : Resolves values key spark) (dataset : DatasetInfo)
    (plain : ∀ name ∈ dataset.allowedFields, isPlainName name) (schema : List Field)
    (parsed : parseJsonSchema dataset.schema = .ok schema)
    (distinct : (schema.map fun field => key field.name).Nodup) (files : Files Value)
    (path : String) (rows given : List (List Value))
    (read : files.read dataset.format path schema (readOptions dataset.format) = .ok rows) :
    (∃ loaded selected, loadDatasetFolder files dataset path = .ok loaded ∧
      selectFields spark dataset.allowedFields loaded = .ok selected ∧
      selected.rows.Perm given) ↔
    (projected values dataset.allowedFields ⟨schema, rows⟩).rows.Perm given := by
  have loaded : loadDatasetFolder files dataset path = .ok ⟨schema, rows⟩ := by
    rw [loadDatasetFolder, parsed]
    simp only [bind, Except.bind, read, pure, Except.pure]
  have cutDown := select_fields_distinct values resolves _ plain ⟨schema, rows⟩ distinct
  refine ⟨?_, fun same => ⟨_, _, loaded, cutDown, same⟩⟩
  rintro ⟨other, selected, otherLoaded, otherSelected, same⟩
  cases loaded.symm.trans otherLoaded
  cases cutDown.symm.trans otherSelected
  exact same

/-- What was written is read back exactly when it is not CSV and every allowed field of the
schema was among the columns of the frame, or there were no rows. -/
theorem written_dataset_read_back_iff (key : String → String) (spark : Spark Value)
    (resolves : Resolves values key spark) (host : PythonHost) (dataset : DatasetInfo)
    (plain : ∀ name ∈ dataset.allowedFields, isPlainName name) (schema : List Field)
    (parsed : parseJsonSchema dataset.schema = .ok schema)
    (distinct : (schema.map fun field => key field.name).Nodup)
    (frame : DataFrame Value) (session : Session Value) (count : Nat)
    (succeeds : (writeDatasetAsync spark host dataset frame session).1 = .ok count)
    (entry : Write Value)
    (last : (writeDatasetAsync spark host dataset frame session).2.writes.getLast? = some entry)
    (files : Files Value) (parts : List (List (List Value)))
    (stored : Stored values key files entry parts) :
    (∃ loaded selected, loadDatasetFolder files dataset (outputPath host dataset) = .ok loaded ∧
      selectFields spark dataset.allowedFields loaded = .ok selected ∧
      selected.rows.Perm entry.frame.rows) ↔
    dataset.format ≠ .csv ∧ (entry.frame.rows = [] ∨ ∀ name ∈ dataset.allowedFields,
      name ∈ schema.map Field.name → name ∈ frame.columns) := by
  obtain ⟨written, selected, saved, writes⟩ :=
    write_dataset_async_ok spark host dataset frame session count succeeds
  rw [writes, List.getLast?_append, List.getLast?_singleton, Option.some_or] at last
  cases last
  obtain ⟨chosen, compatible⟩ := output_frame_ok spark dataset frame written schema parsed selected
  have cut := select_fields_projected values resolves _ plain frame written chosen
  have columns : written.columns = _ := cut ▸ projected_columns values dataset.allowedFields frame
  have known : written.columns ⊆ schema.map Field.name := fun name =>
    compatible_names written.schema schema compatible name
  have lengths : ∀ row ∈ written.rows, row.length = written.columns.length := by
    intro row member
    rw [columns]
    rw [cut] at member
    obtain ⟨source, _, rfl⟩ := List.mem_map.mp member
    exact List.length_map _
  have loads := load_selected_iff values resolves dataset plain schema parsed distinct files
    (outputPath host dataset)
  by_cases csv : dataset.format = .csv
  · -- the header of each file is a row too many
    have read := stored.csv schema (readOptions .csv) (congrArg DatasetFormat.value csv) rfl
    rw [loads _ written.rows (by rw [csv]; exact read)]
    refine iff_of_false ?_ fun wrong => wrong.1 csv
    intro same
    have counted := same.length_eq
    have whole : parts.flatten.length = written.rows.length := stored.divided.length_eq
    have someFile := List.length_pos_of_ne_nil stored.someFile
    rw [projected, List.length_map, List.length_map,
      if_neg (show ¬(readOptions .csv).header = some true by decide), csv_lines_length] at counted
    omega
  · have read := stored.named dataset.format schema (readOptions dataset.format) csv rfl
      (by cases dataset.format <;> rfl) distinct known
    rw [loads _ written.rows read, projected_named]
    have fewer : written.columns = (dataset.allowedFields.filter
        fun name => name ∈ schema.map Field.name).filter fun name => name ∈ frame.columns := by
      rw [columns] at known ⊢
      exact filter_known known
    rw [named_rows_perm_iff values dataset.allowedFields (schema.map Field.name) written.columns
      parts.flatten written.rows stored.divided (resolves.saved _ saved).of_map lengths _ fewer]
    simp [csv]

def plainText : SparkText String := ⟨"", id, fun _ text => text⟩

def nameSpark : Spark String where
  viewKey := .ok
  select schema name :=
    if (schema.map Field.name).count name = 1 then .ok [namedColumn plainText schema name]
    else .error "[AMBIGUOUS_REFERENCE]"
  atLeast _ _ _ := .ok fun _ => true
  unionCheck _ := .ok ()
  relations _ := []
  evaluate _ _ := .error ""
  save entry := if entry.frame.columns.Nodup then .ok () else .error "[COLUMN_ALREADY_EXISTS]"

theorem name_spark_resolves : Resolves plainText id nameSpark where
  one _ _ _ _ once := if_pos once
  several schema name _ several := by
    rintro ⟨chosen, selected⟩
    have other : ¬(schema.map Field.name).count name = 1 := fun once => by
      have counted : (schema.map Field.name).count name > 1 := several
      omega
    cases (if_neg other).symm.trans selected
  saved entry saved := by
    rw [List.map_id]
    by_contra repeated
    cases (if_neg repeated).symm.trans saved

/-- The folder of an entry that was written in the given parts. -/
def entryFiles (entry : Write String) (parts : List (List (List String))) : Files String where
  read format path schema options :=
    if path = entry.path ∧ entry.format = format.value ∧
        options.pathGlobFilter = s!"*.{format.value}" then
      if format = .csv then
        .ok ((parts.flatMap fun rows => (csvLines plainText entry.header entry.frame.columns
          rows).drop (if options.header = some true then 1 else 0)).map (csvRow plainText schema))
      else .ok (parts.flatten.map fun row => schema.map fun field =>
        readField plainText (entry.frame.columns.zip row) field.name)
    else .error pathMissing
  direct _ _ := .error pathMissing

theorem entry_files_stored (entry : Write String) (parts : List (List (List String)))
    (someFile : parts ≠ []) (divided : parts.flatten.Perm entry.frame.rows) :
    Stored plainText id (entryFiles entry parts) entry parts where
  someFile := someFile
  divided := divided
  csv _ _ written filter := (if_pos ⟨rfl, written, filter⟩).trans (if_pos rfl)
  named _ _ _ other written filter _ _ :=
    (if_pos ⟨rfl, written, filter⟩).trans (if_neg other)

def nameHost : PythonHost := ⟨fun _ => .ok 1, fun _ => "", fun _ => "", "2024-03-01", "", "job"⟩

def nameSession : Session String := ⟨[], entryFiles ⟨"", "", true, [], []⟩ [], [], []⟩

def nameSink (format : DatasetFormat) (allowedFields : List String) : DatasetInfo :=
  ⟨"out", "out", "/mnt/out", format,
    some [("name", [("type", "string")]), ("city", [("type", "string")])], allowedFields⟩

def nameEntry (format : DatasetFormat) (frame : DataFrame String) : Write String :=
  ⟨"/mnt/out/2024-03-01/job", format.value, true, frame⟩

def cityFrame : DataFrame String :=
  ⟨[⟨"id", .string, true⟩, ⟨"name", .string, true⟩, ⟨"city", .string, true⟩],
    [["1", "ada", "rome"], ["2", "bob", "oslo"]]⟩

def cityOutput : DataFrame String :=
  ⟨[⟨"city", .string, true⟩, ⟨"name", .string, true⟩], [["rome", "ada"], ["oslo", "bob"]]⟩

theorem json_read_back :
    ∃ loaded selected, loadDatasetFolder (entryFiles (nameEntry .json cityOutput)
        [[["oslo", "bob"]], [["rome", "ada"]]]) (nameSink .json ["city", "name"])
        (outputPath nameHost (nameSink .json ["city", "name"])) = .ok loaded ∧
      selectFields nameSpark ["city", "name"] loaded = .ok selected ∧
      selected.rows.Perm cityOutput.rows :=
  (written_dataset_read_back_iff plainText id nameSpark name_spark_resolves nameHost
    (nameSink .json ["city", "name"]) (by decide)
    [⟨"name", .string, true⟩, ⟨"city", .string, true⟩] rfl (by decide) cityFrame nameSession 2 rfl
    (nameEntry .json cityOutput) rfl _ _ (entry_files_stored _ _ (by decide) (by decide))).mpr
      ⟨by decide, .inr (by decide)⟩

def nameFrame : DataFrame String := ⟨[⟨"name", .string, true⟩], [["ada"]]⟩

/-- The header of a CSV file comes back as a row. -/
theorem csv_header_read_back :
    (writeDatasetAsync nameSpark nameHost (nameSink .csv ["name"]) nameFrame nameSession).1 =
        .ok 1 ∧
      (writeDatasetAsync nameSpark nameHost (nameSink .csv ["name"]) nameFrame
        nameSession).2.writes = [nameEntry .csv nameFrame] ∧
      Stored plainText id (entryFiles (nameEntry .csv nameFrame) [[["ada"]]])
        (nameEntry .csv nameFrame) [[["ada"]]] ∧
      (loadDatasetFolder (entryFiles (nameEntry .csv nameFrame) [[["ada"]]])
        (nameSink .csv ["name"]) (outputPath nameHost (nameSink .csv ["name"])) >>=
          selectFields nameSpark ["name"]) =
        .ok ⟨nameFrame.schema, [["name"], ["ada"]]⟩ ∧
      ¬[["name"], ["ada"]].Perm nameFrame.rows := by
  refine ⟨by decide, by decide, entry_files_stored _ _ (by decide) (by decide), ?_, by decide⟩
  decide

end CleanRoom.Analytics
