import CleanRoom.Analytics.DatasetLoader
import Mathlib.Data.List.Perm.Basic
import Mathlib.Data.List.Range

/-!
# Datasets that are partitioned by date

`load_dataset_async` reads the folder of each day of a range and skips those that do not
exist. Without any folder in the range it reads the whole dataset, so that a dataset that is
not partitioned can be used beside one that is.
-/

namespace CleanRoom.Analytics

open TwoRuns

variable {Value : Type}

/-- All files of a dataset lie in the folders of some days. Spark reads a folder as the rows of
its files and refuses one that is missing, the allowed fields are a projection of each row, and
the name of the view can be registered. -/
structure Partitioned (spark : Spark Value) (host : PythonHost) (files : Files Value)
    (dataset : DatasetInfo) (first last : Nat) where
  schema : List Field
  parsed : parseJsonSchema dataset.schema = .ok schema
  days : List Nat
  nonempty : days ≠ []
  distinct : days.Nodup
  rows : Nat → List (List Value)
  present : ∀ day ∈ days,
    files.read dataset.format (osPathJoin dataset.path (host.strftime day)) schema
      (readOptions dataset.format) = .ok (rows day)
  missing : ∀ day, first ≤ day → day ≤ last → day ∉ days → ∃ error,
    files.read dataset.format (osPathJoin dataset.path (host.strftime day)) schema
      (readOptions dataset.format) = .error error ∧ pathMissing.toList <:+: error.toList
  whole : ∃ all, files.read dataset.format dataset.path schema (readOptions dataset.format) =
    .ok all ∧ all.Perm (days.flatMap rows)
  united : spark.unionCheck schema = .ok ()
  fields : List Field
  project : List Value → List Value
  selected : ∀ found, selectFields spark dataset.allowedFields ⟨schema, found⟩ =
    .ok ⟨fields, found.map project⟩
  key : String
  named : spark.viewKey dataset.viewName = .ok key

/-- The dataset is loaded, and its view has the given rows in some order. -/
def ViewRows (spark : Spark Value) (host : PythonHost) (dataset : DatasetInfo)
    (session : Session Value) (startDate endDate : String) (rows : List (List Value)) : Prop :=
  ∃ frame, (loadDatasetAsync spark host startDate endDate dataset session).1 = .ok frame.count ∧
    findView spark (loadDatasetAsync spark host startDate endDate dataset session).2.views
      dataset.viewName = .ok frame ∧ frame.rows.Perm rows

theorem lookup_replace_view (views : List (String × DataFrame Value)) (key : String)
    (frame : DataFrame Value) : (replaceView views key (some frame)).lookup key = some frame := by
  have others : (views.filter fun view => view.1 != key).lookup key = none := by
    refine List.lookup_eq_none_iff.mpr fun view member => ?_
    simpa [bne_comm] using (List.mem_filter.mp member).2
  simp [replaceView, List.lookup_append, others]

theorem view_rows_of_load_frame (spark : Spark Value) (host : PythonHost) (dataset : DatasetInfo)
    (session : Session Value) (startDate endDate key : String) (frame : DataFrame Value)
    (loaded : loadFrame spark host session.files dataset startDate endDate = .ok frame)
    (named : spark.viewKey dataset.viewName = .ok key) :
    ViewRows spark host dataset session startDate endDate frame.rows := by
  refine ⟨frame, ?_, ?_, List.Perm.refl _⟩
  · simp [loadDatasetAsync, createOrReplaceTempView, record, Action.attempt, Action.modify,
      Action.ofExcept, Action.get, bind, Action.bind, pure, loaded, named]
  · simp [loadDatasetAsync, createOrReplaceTempView, record, Action.attempt, Action.modify,
      Action.ofExcept, Action.get, bind, Action.bind, pure, loaded, named, findView, Except.bind,
      lookup_replace_view]

section

variable {spark : Spark Value} {host : PythonHost} {files : Files Value} {dataset : DatasetInfo}
  {first last : Nat} (folders : Partitioned spark host files dataset first last)

def Partitioned.frames (days : List Nat) : List (DataFrame Value) :=
  (days.filter fun day => day ∈ folders.days).map fun day => ⟨folders.schema, folders.rows day⟩

def Partitioned.inRange : List (List Value) :=
  (folders.days.filter fun day => first ≤ day ∧ day ≤ last).flatMap folders.rows

/-- What is loaded for the range. -/
def Partitioned.loaded : List (List Value) :=
  if ∃ day ∈ folders.days, first ≤ day ∧ day ≤ last then folders.inRange
  else folders.days.flatMap folders.rows

theorem load_day_partitioned (day : Nat) (frames : List (DataFrame Value)) (after : first ≤ day)
    (before : day ≤ last) :
    loadDay host files dataset day frames = .ok (frames ++ folders.frames [day]) := by
  by_cases present : day ∈ folders.days
  · simp [loadDay, loadDatasetFolder, folders.parsed, folders.present day present,
      Partitioned.frames, present, bind, Except.bind, pure, Except.pure]
  · obtain ⟨error, failed, named⟩ := folders.missing day after before present
    simp [loadDay, loadDatasetFolder, folders.parsed, failed, named, Partitioned.frames, present,
      bind, Except.bind]

theorem load_days_partitioned (fuel current : Nat) (frames : List (DataFrame Value))
    (started : first ≤ current) (enough : current + fuel = last + 1)
    (bounded : last < maxOrdinal) :
    loadDays host files dataset last fuel current frames =
      .ok (frames ++ folders.frames (List.range' current fuel)) := by
  induction fuel generalizing current frames with
  | zero => simp [loadDays, Partitioned.frames]
  | succ fuel induction =>
      have inside : current ≤ last := by omega
      have below : ¬current = maxOrdinal := by omega
      rw [loadDays, if_pos inside, load_day_partitioned folders current frames started inside]
      change (if current = maxOrdinal then _ else _) = _
      rw [if_neg below, induction (current + 1) _ (by omega) (by omega), List.range'_succ]
      simp [Partitioned.frames, List.filter_cons]
      split <;> simp

theorem union_frames (frames : List (DataFrame Value)) (rows : List (List Value))
    (same : ∀ frame ∈ frames, frame.schema = folders.schema) :
    frames.foldlM (unionByName spark) ⟨folders.schema, rows⟩ =
      .ok ⟨folders.schema, rows ++ frames.flatMap DataFrame.rows⟩ := by
  induction frames generalizing rows with
  | nil => simp [pure, Except.pure]
  | cons frame frames induction =>
      rw [List.forall_mem_cons] at same
      rw [List.foldlM_cons, unionByName, folders.united]
      change List.foldlM (unionByName spark) ⟨folders.schema, rows ++ frame.rows⟩ frames = _
      rw [induction _ same.2]
      simp

theorem frames_rows (days : List Nat) (distinct : days.Nodup) :
    ((folders.frames days).flatMap DataFrame.rows).Perm
      ((folders.days.filter fun day => day ∈ days).flatMap folders.rows) := by
  have same : (days.filter fun day => day ∈ folders.days).Perm
      (folders.days.filter fun day => day ∈ days) := by
    refine (List.perm_ext_iff_of_nodup (distinct.filter _) (folders.distinct.filter _)).mpr ?_
    intro day
    simp [and_comm]
  simpa [Partitioned.frames, List.flatMap_map] using same.flatMap_right folders.rows

theorem consolidate_partitioned (startDate endDate : String)
    (given : startDate ≠ "" ∧ endDate ≠ "") (begins : host.strptime startDate = .ok first)
    (ends : host.strptime endDate = .ok last) (ordered : first ≤ last)
    (bounded : last < maxOrdinal) :
    ∃ rows, consolidate spark host files dataset startDate endDate =
        .ok ⟨folders.schema, rows⟩ ∧ rows.Perm folders.loaded := by
  have loaded : loadRange host files dataset startDate endDate =
      .ok (folders.frames (List.range' first (last + 1 - first))) := by
    simp only [loadRange, given, ne_eq, not_false_eq_true, and_self, if_true, begins, ends]
    exact load_days_partitioned folders _ first [] (le_refl first) (by omega) bounded
  have inRange : ∀ day, day ∈ List.range' first (last + 1 - first) ↔ first ≤ day ∧ day ≤ last := by
    intro day
    rw [List.mem_range'_1]
    omega
  have rows := frames_rows folders _ (@List.nodup_range' first (last + 1 - first) 1 (by omega))
  simp only [inRange] at rows
  simp only [consolidate, loaded]
  cases frames : folders.frames (List.range' first (last + 1 - first)) with
  | nil =>
      have none : ¬∃ day ∈ folders.days, first ≤ day ∧ day ≤ last := by
        rintro ⟨day, member, inside⟩
        have found : day ∈ (List.range' first (last + 1 - first)).filter
            fun day => day ∈ folders.days := by
          simpa [inRange, member] using inside
        simp only [Partitioned.frames, List.map_eq_nil_iff] at frames
        rw [frames] at found
        cases found
      obtain ⟨all, read, same⟩ := folders.whole
      refine ⟨all, ?_, by rw [Partitioned.loaded, if_neg none]; exact same⟩
      simp [loadDatasetFolder, folders.parsed, read, bind, Except.bind, pure, Except.pure]
  | cons frame others =>
      have schemas : ∀ found ∈ frame :: others, found.schema = folders.schema := by
        intro found member
        rw [← frames] at member
        obtain ⟨day, _, rfl⟩ := List.mem_map.mp member
        rfl
      obtain ⟨day, counted, _⟩ := List.mem_map.mp (frames ▸ List.mem_cons_self :
        frame ∈ folders.frames (List.range' first (last + 1 - first)))
      have inside : ∃ day ∈ folders.days, first ≤ day ∧ day ≤ last := by
        simp only [List.mem_filter, inRange, decide_eq_true_eq] at counted
        exact ⟨day, counted.2, counted.1⟩
      rw [frames] at rows
      refine ⟨frame.rows ++ others.flatMap DataFrame.rows, ?_, ?_⟩
      · have united := union_frames folders others frame.rows
          fun found member => schemas found (List.mem_cons_of_mem _ member)
        rw [← schemas frame List.mem_cons_self] at united ⊢
        exact united
      · rw [Partitioned.loaded, if_pos inside]
        exact rows

end

variable {spark : Spark Value} {host : PythonHost} {dataset : DatasetInfo} {first last : Nat}

/-- The ordinals of the days from 28 February to 4 March 2024. -/
def leapCalendar : List (String × Nat) :=
  [("2024-02-28", 738944), ("2024-02-29", 738945), ("2024-03-01", 738946),
    ("2024-03-02", 738947), ("2024-03-03", 738948), ("2024-03-04", 738949)]

def ordinalDate (ordinal : Nat) : String :=
  ((leapCalendar.find? fun entry => entry.2 == ordinal).map Prod.fst).getD ""

def calendarHost : PythonHost where
  strptime date := match leapCalendar.lookup date with
    | some ordinal => .ok ordinal
    | none => .error s!"time data '{date}' does not match format '%Y-%m-%d'"
  strftime := ordinalDate
  setText _ := ""
  currentDate := "2024-03-05"
  durationSec := "1.0"
  jobId := "job"

def nameField : Field := ⟨"name", .string, true⟩

def cityField : Field := ⟨"city", .string, true⟩

def firstColumnSpark : Spark String where
  viewKey := .ok
  select _ _ := .ok [(nameField, fun row => row.headD "")]
  atLeast _ _ _ := .ok fun _ => true
  unionCheck _ := .ok ()
  relations _ := []
  evaluate _ _ := .ok ⟨⟨[], []⟩, [], [], id⟩
  save _ := .ok ()

def leapFiles : Files String where
  read _ path _ _ :=
    if path = "/mnt/2024-02-28" then .ok [["ada", "bonn"]]
    else if path = "/mnt/2024-03-01" then .ok [["bob", "oslo"], ["cid", "rome"]]
    else if path = "/mnt/2024-03-02" then .ok [["eve", "lima"]]
    else if path = "/mnt" then
      .ok [["ada", "bonn"], ["bob", "oslo"], ["cid", "rome"], ["eve", "lima"]]
    else .error (pathMissing ++ ": " ++ path)
  direct _ path := .error (pathMissing ++ ": " ++ path)

def datedDataset : DatasetInfo where
  name := "dated"
  viewName := "dated"
  path := "/mnt"
  format := .csv
  schema := some [("name", [("type", "string")]), ("city", [("type", "string")])]
  allowedFields := ["name"]

def leapSession : Session String := ⟨[], leapFiles, [], []⟩

def leapRows (day : Nat) : List (List String) :=
  if day = 738944 then [["ada", "bonn"]]
  else if day = 738946 then [["bob", "oslo"], ["cid", "rome"]]
  else [["eve", "lima"]]

/-- The days of the range without one of the folders are refused. -/
def LeapMissing (first last : Nat) : Prop :=
  ∀ day, first ≤ day → day ≤ last → day ∉ [738944, 738946, 738947] →
    ∃ error, leapFiles.read .csv (osPathJoin "/mnt" (ordinalDate day)) [nameField, cityField]
      (readOptions .csv) = .error error ∧ pathMissing.toList <:+: error.toList

def leapFolders (first last : Nat) (missing : LeapMissing first last) :
    Partitioned firstColumnSpark calendarHost leapSession.files datedDataset first last where
  schema := [nameField, cityField]
  parsed := by rfl
  days := [738944, 738946, 738947]
  nonempty := by simp
  distinct := by simp
  rows := leapRows
  present := by
    intro day member
    simp only [List.mem_cons, List.not_mem_nil, or_false] at member
    rcases member with rfl | rfl | rfl <;> decide +kernel
  missing := missing
  whole := ⟨_, rfl, List.Perm.refl _⟩
  united := rfl
  fields := [nameField]
  project row := [row.headD ""]
  selected _ := rfl
  key := "dated"
  named := rfl

theorem leap_day_missing : LeapMissing 738944 738946 := by
  intro day after before absent
  simp only [List.mem_cons, List.not_mem_nil, or_false, not_or] at absent
  obtain rfl : day = 738945 := by omega
  exact ⟨pathMissing ++ ": /mnt/2024-02-29", by decide +kernel, by decide +kernel⟩

theorem march_days_missing : LeapMissing 738948 738949 := by
  intro day after before _
  obtain rfl | rfl : day = 738948 ∨ day = 738949 := by omega
  · exact ⟨pathMissing ++ ": /mnt/2024-03-03", by decide +kernel, by decide +kernel⟩
  · exact ⟨pathMissing ++ ": /mnt/2024-03-04", by decide +kernel, by decide +kernel⟩

end CleanRoom.Analytics
