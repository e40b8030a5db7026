import CleanRoom.Analytics.Spark

/-!
# Parsing schemas

`parse_json_schema` of `dataset_loader.py` over dictionaries of any depth. A whole schema
and the schema of an object are read by the same loop, which takes every key of the
dictionary for a field. The loader applies it to the dictionaries of texts that
`DatasetInfo` admits.
-/

namespace CleanRoom.Analytics

def noAttribute (type name : String) : String :=
  s!"'{type}' object has no attribute '{name}'"

inductive SchemaValue where
  | text (value : String)
  | list (items : List SchemaValue)
  | dict (entries : List (String × SchemaValue))

/-- `StructType` has the name, the type and the nullability of each field. -/
inductive SparkType where
  | string
  | integer
  | long
  | timestamp
  | double
  | boolean
  | date
  | array (element : SparkType)
  | struct (fields : List (String × SparkType × Bool))

def textContains (part : List Char) : List Char → Bool
  | [] => part.isEmpty
  | char :: text => part.isPrefixOf (char :: text) || textContains part text

/-- `prop in value`, for the value of `required` -/
def SchemaValue.contains (prop : String) : SchemaValue → Bool
  | .text value => textContains prop.toList value.toList
  | .list items => items.any fun
      | .text item => item == prop
      | _ => false
  | .dict entries => entries.any fun entry => entry.1 == prop

def nullable (schema : List (String × SchemaValue)) (prop : String) : Bool :=
  !((schema.lookup "required").getD (.list [])).contains prop

mutual

def parseNestedField : SchemaValue → Except String SparkType
  | .text _ => .error (noAttribute "str" "get")
  | .list _ => .error (noAttribute "list" "get")
  | .dict entries =>
      match entries.lookup "type" with
      | some (.text "string") => .ok .string
      | some (.text "integer") => .ok .integer
      | some (.text "long") => .ok .long
      | some (.text "timestamp") => .ok .timestamp
      | some (.text "number") => .ok .double
      | some (.text "boolean") => .ok .boolean
      | some (.text "date") => .ok .date
      | some (.text "array") => do return .array (← parseItems entries)
      | some (.text "object") => do return .struct (← parseEntries entries entries)
      | _ => .ok .string

/-- The type under `items`, or that of an empty schema. -/
def parseItems : List (String × SchemaValue) → Except String SparkType
  | [] => .ok .string
  | (key, itemSchema) :: entries =>
      if key = "items" then parseNestedField itemSchema else parseItems entries

def parseEntries (schema : List (String × SchemaValue)) :
    List (String × SchemaValue) → Except String (List (String × SparkType × Bool))
  | [] => .ok []
  | (prop, propSchema) :: entries => do
      let sparkType ← parseNestedField propSchema
      let fields ← parseEntries schema entries
      return (prop, sparkType, nullable schema prop) :: fields

end

def parseNestedSchema : SchemaValue → Except String (List (String × SparkType × Bool))
  | .text _ => .error (noAttribute "str" "items")
  | .list _ => .error (noAttribute "list" "items")
  | .dict entries => parseEntries entries entries

def SparkType.dataType : SparkType → DataType
  | .string => .string
  | .integer => .integer
  | .long => .long
  | .timestamp => .timestamp
  | .double => .double
  | .boolean => .boolean
  | .date => .date
  | .array element => .array element.dataType
  | .struct _ => .other "struct"

def textEntries (entries : List (String × String)) : List (String × SchemaValue) :=
  entries.map fun entry => (entry.1, .text entry.2)

/-- A schema as `DatasetInfo` has it. -/
def textSchema (schema : List (String × List (String × String))) : List (String × SchemaValue) :=
  schema.map fun entry => (entry.1, .dict (textEntries entry.2))

def parseJsonSchema :
    Option (List (String × List (String × String))) → Except String (List Field)
  | none => .error (noAttribute "NoneType" "items")
  | some schema => do
      let fields ← parseNestedSchema (.dict (textSchema schema))
      return fields.map fun (prop, sparkType, nullable) => ⟨prop, sparkType.dataType, nullable⟩

inductive BasicType where
  | string
  | integer
  | long
  | timestamp
  | number
  | boolean
  | date

def BasicType.name : BasicType → String
  | .string => "string"
  | .integer => "integer"
  | .long => "long"
  | .timestamp => "timestamp"
  | .number => "number"
  | .boolean => "boolean"
  | .date => "date"

def BasicType.sparkType : BasicType → SparkType
  | .string => .string
  | .integer => .integer
  | .long => .long
  | .timestamp => .timestamp
  | .number => .double
  | .boolean => .boolean
  | .date => .date

inductive FieldSchema where
  | basic (type : BasicType)
  | array (items : FieldSchema)
  | object (fields : List (String × FieldSchema))

mutual

def FieldSchema.toValue : FieldSchema → SchemaValue
  | .basic type => .dict [("type", .text type.name)]
  | .array items => .dict [("type", .text "array"), ("items", items.toValue)]
  | .object fields => .dict (("type", .text "object") :: fieldEntries fields)

def fieldEntries : List (String × FieldSchema) → List (String × SchemaValue)
  | [] => []
  | (name, field) :: fields => (name, field.toValue) :: fieldEntries fields

end

mutual

def FieldSchema.Mirrored : FieldSchema → SparkType → Prop
  | .basic type, found => found = type.sparkType
  | .array items, .array element => items.Mirrored element
  | .object fields, .struct found => MirroredFields fields found
  | _, _ => False

def MirroredFields : List (String × FieldSchema) → List (String × SparkType × Bool) → Prop
  | [], [] => True
  | (name, field) :: fields, found :: rest =>
      found.1 = name ∧ field.Mirrored found.2.1 ∧ MirroredFields fields rest
  | _, _ => False

end

/-- No object at any depth. -/
def FieldSchema.Flat : FieldSchema → Prop
  | .basic _ => True
  | .array items => items.Flat
  | .object _ => False

theorem parse_basic (type : BasicType) :
    parseNestedField (FieldSchema.basic type).toValue = .ok type.sparkType := by
  cases type <;> rfl

theorem parse_array (items : FieldSchema) :
    parseNestedField (FieldSchema.array items).toValue =
      (parseNestedField items.toValue).map .array := by
  have inner : parseItems [("type", .text "array"), ("items", items.toValue)] =
      parseNestedField items.toValue := by
    simp [parseItems]
  change (parseItems [("type", .text "array"), ("items", items.toValue)] >>= fun element =>
    pure (SparkType.array element)) = _
  rw [inner]
  cases parseNestedField items.toValue <;> rfl

theorem parse_object (fields : List (String × FieldSchema)) :
    parseNestedField (FieldSchema.object fields).toValue =
      .error (noAttribute "str" "get") := by
  rfl

theorem parse_of_flat (field : FieldSchema) (flat : field.Flat) :
    ∃ found, parseNestedField field.toValue = .ok found ∧ field.Mirrored found := by
  induction field using FieldSchema.Flat.induct with
  | case1 type => exact ⟨_, parse_basic type, by simp [FieldSchema.Mirrored]⟩
  | case2 items induction =>
      obtain ⟨found, parsed, mirrored⟩ := induction flat
      refine ⟨.array found, ?_, ?_⟩
      · rw [parse_array, parsed]
        rfl
      · simpa [FieldSchema.Mirrored] using mirrored
  | case3 fields => exact flat.elim

theorem flat_of_parse (field : FieldSchema) (found : SparkType)
    (parsed : parseNestedField field.toValue = .ok found) : field.Flat := by
  induction field using FieldSchema.Flat.induct generalizing found with
  | case1 type => trivial
  | case2 items induction =>
      rw [parse_array] at parsed
      cases inner : parseNestedField items.toValue with
      | error error =>
          rw [inner] at parsed
          cases parsed
      | ok element => exact induction element inner
  | case3 fields =>
      rw [parse_object] at parsed
      cases parsed

theorem parse_entries_iff (schema : List (String × SchemaValue))
    (fields : List (String × FieldSchema)) :
    (∃ found, parseEntries schema (fieldEntries fields) = .ok found ∧
        MirroredFields fields found) ↔ ∀ field ∈ fields, field.2.Flat := by
  induction fields with
  | nil => simp [fieldEntries, parseEntries, MirroredFields]
  | cons field fields induction =>
      obtain ⟨name, field⟩ := field
      rw [List.forall_mem_cons, ← induction]
      constructor
      · rintro ⟨found, parsed, mirrored⟩
        simp only [fieldEntries, parseEntries] at parsed
        cases first : parseNestedField field.toValue with
        | error error =>
            rw [first] at parsed
            cases parsed
        | ok type =>
            rw [first] at parsed
            refine ⟨flat_of_parse field type first, ?_⟩
            cases others : parseEntries schema (fieldEntries fields) with
            | error error =>
                rw [others] at parsed
                cases parsed
            | ok rest =>
                rw [others] at parsed
                cases parsed
                exact ⟨rest, rfl, mirrored.2.2⟩
      · rintro ⟨flat, rest, parsed, mirrored⟩
        obtain ⟨type, first, same⟩ := parse_of_flat field flat
        refine ⟨(name, type, nullable schema name) :: rest, ?_, rfl, same, mirrored⟩
        simp only [fieldEntries, parseEntries, first, parsed]
        rfl

/-- A schema is parsed into the structure that it describes exactly when no object stands
in it, at any depth. -/
theorem schema_parsing_mirrors_iff (fields : List (String × FieldSchema)) :
    (∃ found, parseNestedSchema (.dict (fieldEntries fields)) = .ok found ∧
        MirroredFields fields found) ↔ ∀ field ∈ fields, field.2.Flat :=
  parse_entries_iff (fieldEntries fields) fields

/-- An object is refused, also where it has no fields. -/
theorem object_schema_raises :
    parseNestedSchema (.dict (fieldEntries [("address", .object [])])) =
        .error "'str' object has no attribute 'get'" ∧
      parseJsonSchema (some [("address", [("type", "object")])]) =
        .error "'str' object has no attribute 'get'" := by
  exact ⟨rfl, rfl⟩

end CleanRoom.Analytics
