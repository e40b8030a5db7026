import CleanRoom.Governance.AcceptedUserDocuments
import CleanRoom.Governance.Queries
import CleanRoom.Library.JsNumber

/-!
# Documents by their labels

`listUserDocuments` goes through the drafts and then through the accepted documents, and
an entry of the second replaces the one of the first. A selector of labels is kept as an
object, so of two values for one name the last is asked for. A document whose draft has
the labels is listed even where it was accepted with others.
-/

namespace CleanRoom.Governance

open JavaScript Throwing Joining

def refuseSelector {Value : Type} : Except RequestFailure Value :=
  refuse 400 "InvalidParameter"
    "labelSelector query parameter must be of the form labelName:labelValue."

def labelPair (part : String) : Except RequestFailure (String × String) :=
  match part.splitOn ":" with
  | [name, value] =>
      let labelName := JsNumber.trim name
      let labelValue := JsNumber.trim value
      if labelName = "" ∨ labelValue = "" then refuseSelector else .ok (labelName, labelValue)
  | _ => refuseSelector

def requestedLabels : JsValue → Except RequestFailure (Option (List (String × String)))
  | .string selector => do
      let pairs ← (selector.splitOn ",").mapM labelPair
      return some pairs
  | _ => .ok none

/-- The name that an assignment does not make a property of. -/
def protoName : String := "__proto__"

/-- `requiredLabels[labelName] = labelValue`; a string is no prototype and is dropped. -/
def requireLabel (required : List (String × String)) (pair : String × String) :
    List (String × String) :=
  if pair.1 = protoName then required
  else if (required.lookup pair.1).isSome then
    required.map fun entry => if entry.1 = pair.1 then pair else entry
  else required ++ [pair]

def requiredLabels (pairs : List (String × String)) : List (String × String) :=
  pairs.foldl requireLabel []

abbrev Inherited := Bool → String → Option String

def ownProperty (value : JsValue) (name : String) : Option JsValue :=
  match value with
  | .object fields => fields.lookup name
  | .array items =>
      if name = "length" then some (.number items.length)
      else (items.zipIdx.find? fun entry => toString entry.2 = name).map Prod.fst
  | _ => none

/-- `labelName in labels && labels[labelName] == labelValue` -/
def labelMatches (host : CcfHost) (inherited : Inherited) (labels : JsValue)
    (pair : String × String) : Except RequestFailure Bool :=
  match labels with
  | .object _ | .array _ =>
      match ownProperty labels pair.1 with
      | some found => .ok (looselyEquals host pair.2 found)
      | none => .ok (inherited labels.isArray pair.1 == some pair.2)
  | _ => raise "TypeError: invalid 'in' operand"

def labelsMatch (host : CcfHost) (inherited : Inherited) (required : List (String × String))
    (labels : JsValue) : Except RequestFailure Bool :=
  match labels with
  | .undefined | .null => .ok false
  | _ => required.allM (labelMatches host inherited labels)

def selectsLabels (host : CcfHost) (inherited : Inherited)
    (requested : Option (List (String × String))) (labels : JsValue) :
    Except RequestFailure Bool :=
  match requested with
  | none => .ok true
  | some pairs => labelsMatch host inherited (requiredLabels pairs) labels

structure ListedDocument where
  id : String
  labels : JsValue

/-- `userDocuments[k] = item`; an object would become the prototype. -/
def putListed (listed : List ListedDocument) (item : ListedDocument) : List ListedDocument :=
  if item.id = protoName then listed
  else if item.id ∈ listed.map ListedDocument.id then
    listed.map fun entry => if entry.id = item.id then item else entry
  else listed ++ [item]

def listRows (selects : JsValue → Except RequestFailure Bool) (rows : List ListedDocument)
    (listed : List ListedDocument) : Except RequestFailure (List ListedDocument) :=
  rows.foldlM (fun listed row => do
    if ← selects row.labels then return putListed listed row else return listed) listed

def draftRows (store : UserStore) : List ListedDocument :=
  store.userDocuments.entries.map fun row =>
    { id := row.1, labels := row.2.value.field "labels" }

def acceptedRows (store : UserStore) : List ListedDocument :=
  store.acceptedUserDocuments.entries.map fun row => { id := row.1, labels := row.2.labels }

def listUserDocuments (host : CcfHost) (inherited : Inherited) (caller : Caller) (query : String)
    (store : UserStore) : Except RequestFailure (List ListedDocument) := do
  validateCallerAuthorized host store.ledger caller
  let requested ← requestedLabels (queryValue query "labelSelector")
  let drafts ← listRows (selectsLabels host inherited requested) (draftRows store) []
  listRows (selectsLabels host inherited requested) (acceptedRows store) drafts

/-- The labels of the accepted document if there is one, otherwise of the draft. -/
def effectiveLabels (store : UserStore) (id : String) : Option JsValue :=
  match store.acceptedUserDocuments.lookup id with
  | some row => some row.labels
  | none => (store.userDocuments.lookup id).map fun draft => draft.value.field "labels"

def ContainsLabel (labels : JsValue) (pair : String × String) : Prop :=
  ∃ fields, labels = .object fields ∧ fields.lookup pair.1 = some (.string pair.2)

def Selected (store : UserStore) (pairs : List (String × String)) (id : String) : Prop :=
  ∃ labels, effectiveLabels store id = some labels ∧ ∀ pair ∈ pairs, ContainsLabel labels pair

/-- The answer has exactly the selected documents, each once. -/
def ListsSelected (host : CcfHost) (inherited : Inherited) (caller : Caller) (query : String)
    (store : UserStore) (pairs : List (String × String)) : Prop :=
  ∃ items, listUserDocuments host inherited caller query store = .ok items ∧
    (items.map ListedDocument.id).Nodup ∧
    ∀ id, id ∈ items.map ListedDocument.id ↔ Selected store pairs id

variable {pairs : List (String × String)} {listed : List ListedDocument} {item : ListedDocument}
  {row : ListedDocument} {inherited : Inherited} {store : UserStore} {labels : JsValue}
  {host : CcfHost}

theorem replaced_ids :
    (listed.map fun entry => if entry.id = item.id then item else entry).map ListedDocument.id =
      listed.map ListedDocument.id := by
  rw [List.map_map]
  refine List.map_congr_left fun entry _ => ?_
  by_cases equal : entry.id = item.id <;> simp [equal]

theorem mem_put_listed (id : String) :
    id ∈ (putListed listed item).map ListedDocument.id ↔
      id ∈ listed.map ListedDocument.id ∨ (id ≠ protoName ∧ item.id = id) := by
  unfold putListed
  split_ifs with proto present
  · constructor
    · exact .inl
    · rintro (old | ⟨other, rfl⟩)
      · exact old
      · exact absurd proto other
  · rw [replaced_ids]
    constructor
    · exact .inl
    · rintro (old | ⟨_, rfl⟩)
      · exact old
      · exact present
  · rw [List.map_append, List.mem_append, List.map_singleton, List.mem_singleton]
    constructor
    · rintro (old | rfl)
      · exact .inl old
      · exact .inr ⟨proto, rfl⟩
    · rintro (old | ⟨_, rfl⟩)
      · exact .inl old
      · exact .inr rfl

theorem put_listed_nodup (once : (listed.map ListedDocument.id).Nodup) :
    ((putListed listed item).map ListedDocument.id).Nodup := by
  unfold putListed
  split_ifs with proto present
  · exact once
  · rwa [replaced_ids]
  · rw [List.map_append]
    refine List.nodup_append.mpr ⟨once, by simp, ?_⟩
    rintro id old other last rfl
    rw [List.map_singleton, List.mem_singleton] at last
    subst last
    exact present old

theorem list_rows_iff (selects : JsValue → Except RequestFailure Bool)
    (rows listed : List ListedDocument) (once : (listed.map ListedDocument.id).Nodup) :
    ((∃ items, listRows selects rows listed = .ok items) ↔
      ∀ row ∈ rows, ∃ decision, selects row.labels = .ok decision) ∧
    ∀ items, listRows selects rows listed = .ok items →
      (items.map ListedDocument.id).Nodup ∧
      ∀ id, id ∈ items.map ListedDocument.id ↔ id ∈ listed.map ListedDocument.id ∨
        (id ≠ protoName ∧ ∃ row ∈ rows, row.id = id ∧ selects row.labels = .ok true) := by
  induction rows generalizing listed with
  | nil =>
      refine ⟨⟨fun _ => by simp, fun _ => ⟨listed, rfl⟩⟩, ?_⟩
      intro items done
      cases done
      exact ⟨once, by simp⟩
  | cons row rows ih =>
      cases decided : selects row.labels with
      | error failure =>
          have fails : listRows selects (row :: rows) listed = .error failure := by
            simp [listRows, decided, bind, Except.bind]
          constructor
          · constructor
            · rintro ⟨items, done⟩
              rw [fails] at done
              cases done
            · intro all
              obtain ⟨decision, same⟩ := all row List.mem_cons_self
              rw [decided] at same
              cases same
          · intro items done
            rw [fails] at done
            cases done
      | ok decision =>
          have steps : listRows selects (row :: rows) listed =
              listRows selects rows (if decision then putListed listed row else listed) := by
            cases decision <;> simp [listRows, decided, bind, Except.bind, pure, Except.pure]
          have onceNext :
              ((if decision then putListed listed row else listed).map
                ListedDocument.id).Nodup := by
            cases decision with
            | true => exact put_listed_nodup once
            | false => exact once
          obtain ⟨succeeds, lists⟩ := ih _ onceNext
          rw [steps]
          refine ⟨?_, ?_⟩
          · rw [succeeds, List.forall_mem_cons]
            exact (and_iff_right ⟨decision, decided⟩).symm
          · intro items done
            obtain ⟨itemsOnce, exactly⟩ := lists items done
            refine ⟨itemsOnce, fun id => ?_⟩
            rw [exactly]
            cases decision with
            | true =>
                simp only [if_true, mem_put_listed, List.exists_mem_cons_iff, decided]
                tauto
            | false =>
                simp [decided]

theorem required_requested :
    ∀ entry ∈ requiredLabels pairs, entry ∈ pairs := by
  have steps : ∀ (rest required : List (String × String)),
      ∀ entry ∈ rest.foldl requireLabel required, entry ∈ required ∨ entry ∈ rest := by
    intro rest
    induction rest with
    | nil => exact fun _ _ member => .inl member
    | cons pair rest ih =>
        intro required entry member
        rcases ih _ entry member with earlier | later
        · unfold requireLabel at earlier
          split_ifs at earlier with proto present
          · exact .inl earlier
          · obtain ⟨old, oldMember, rfl⟩ := List.mem_map.mp earlier
            by_cases same : old.1 = pair.1
            · exact .inr (by simp [same])
            · exact .inl (by simpa [same] using oldMember)
          · rcases List.mem_append.mp earlier with old | last
            · exact .inl old
            · exact .inr (List.mem_singleton.mp last ▸ List.mem_cons_self)
        · exact .inr (List.mem_cons_of_mem _ later)
  intro entry member
  rcases steps pairs [] entry member with none | found
  · cases none
  · exact found

/-- Labels that `in` accepts, or that are not there. -/
def ReadableLabels (labels : JsValue) : Prop :=
  labels.typeOf = .undefined ∨ labels.typeOf = .object

def labelDecision (host : CcfHost) (inherited : Inherited) (labels : JsValue)
    (pair : String × String) : Bool :=
  match ownProperty labels pair.1 with
  | some found => looselyEquals host pair.2 found
  | none => inherited labels.isArray pair.1 == some pair.2

theorem labels_match_decided (required : List (String × String)) :
    (∃ decision, labelsMatch host inherited required labels = .ok decision) ↔
      (required ≠ [] → ReadableLabels labels) := by
  have composite : ∀ value, (∀ pair, labelMatches host inherited value pair =
      .ok (labelDecision host inherited value pair)) →
      ∃ decision, required.allM (labelMatches host inherited value) = .ok decision :=
    fun value decides => ⟨_, allM_of_ok _ (labelDecision host inherited value) required
      (fun pair _ => decides pair)⟩
  have primitive : ∀ value, (∀ pair, labelMatches host inherited value pair =
      raise "TypeError: invalid 'in' operand") → ¬ ReadableLabels value →
      ((∃ decision, required.allM (labelMatches host inherited value) = .ok decision) ↔
        (required ≠ [] → ReadableLabels value)) := by
    intro value fails unreadable
    cases required with
    | nil => exact ⟨fun _ empty => absurd rfl empty, fun _ => ⟨true, rfl⟩⟩
    | cons pair rest =>
        constructor
        · rintro ⟨decision, decided⟩
          rw [List.allM, fails] at decided
          cases decided
        · intro readable
          exact absurd (readable (List.cons_ne_nil _ _)) unreadable
  cases labels with
  | undefined => exact ⟨fun _ _ => .inl rfl, fun _ => ⟨false, rfl⟩⟩
  | null => exact ⟨fun _ _ => .inr rfl, fun _ => ⟨false, rfl⟩⟩
  | bool value | number value | string value =>
      exact primitive _ (fun _ => rfl) (by simp [ReadableLabels, JsValue.typeOf])
  | array items | object fields =>
      refine ⟨fun _ _ => .inr rfl, fun _ => composite _ fun pair => ?_⟩
      rw [labelMatches, labelDecision]
      split <;> rfl

theorem labels_match_of_contains (some : pairs ≠ [])
    (contains : ∀ pair ∈ pairs, ContainsLabel labels pair) :
    labelsMatch host inherited (requiredLabels pairs) labels = .ok true := by
  obtain ⟨first, rest, rfl⟩ := List.exists_cons_of_ne_nil some
  obtain ⟨fields, rfl, _⟩ := contains first List.mem_cons_self
  refine (allM_true_iff _ _).mpr fun entry member => ?_
  obtain ⟨same, fieldsSame, found⟩ := contains entry (required_requested entry member)
  cases fieldsSame
  have own : ownProperty (.object fields) entry.1 = .some (.string entry.2) := found
  simp [labelMatches, own, looselyEquals]

theorem requested_nonempty (value : JsValue)
    (requested : requestedLabels value = .ok (some pairs)) : pairs ≠ [] := by
  unfold requestedLabels at requested
  split at requested
  · rename_i selector
    obtain ⟨read, parsed, same⟩ := of_bind requested
    cases same
    have parts : selector.splitOn "," ≠ [] := by
      change selector.splitOn (String.singleton ',') ≠ []
      rw [split_on_singleton]
      simp
    intro empty
    subst empty
    cases pieces : selector.splitOn "," with
    | nil => exact parts pieces
    | cons part rest =>
        rw [pieces, List.mapM_cons] at parsed
        obtain ⟨first, _, later⟩ := of_bind parsed
        obtain ⟨others, _, same⟩ := of_bind later
        cases same
  · cases requested

theorem mem_table_rows {Value : Type} (table : Table Value) (labelsOf : Value → JsValue) :
    row ∈ table.entries.map (fun entry => ListedDocument.mk entry.1 (labelsOf entry.2)) ↔
      ∃ value, table.lookup row.id = some value ∧ labelsOf value = row.labels := by
  constructor
  · intro member
    obtain ⟨entry, recorded, rfl⟩ := List.mem_map.mp member
    exact ⟨entry.2, lookup_of_entry table entry recorded, rfl⟩
  · rintro ⟨value, found, same⟩
    refine List.mem_map.mpr ⟨⟨row.id, value⟩, AList.mem_lookup_iff.mp found, ?_⟩
    rw [same]

theorem mem_draft_rows :
    row ∈ draftRows store ↔ ∃ draft, store.userDocuments.lookup row.id = some draft ∧
      draft.value.field "labels" = row.labels :=
  mem_table_rows store.userDocuments (fun draft => draft.value.field "labels")

theorem mem_accepted_rows :
    row ∈ acceptedRows store ↔ ∃ item, store.acceptedUserDocuments.lookup row.id = some item ∧
      item.labels = row.labels :=
  mem_table_rows store.acceptedUserDocuments AcceptedUserDocument.labels

def versionRows (store : UserStore) : List ListedDocument := draftRows store ++ acceptedRows store

section

variable (host : CcfHost) (inherited : Inherited) (caller : Caller) (query : String)
  (store : UserStore) (requested : Option (List (String × String)))

theorem listed_versions (authorized : validateCallerAuthorized host store.ledger caller = .ok ())
    (asked : requestedLabels (queryValue query "labelSelector") = .ok requested) :
    ((∃ items, listUserDocuments host inherited caller query store = .ok items) ↔
      ∀ row ∈ versionRows store, ∃ decision,
        selectsLabels host inherited requested row.labels = .ok decision) ∧
    ∀ items, listUserDocuments host inherited caller query store = .ok items →
      (items.map ListedDocument.id).Nodup ∧
      ∀ id, id ∈ items.map ListedDocument.id ↔ id ≠ protoName ∧ ∃ row ∈ versionRows store,
        row.id = id ∧ selectsLabels host inherited requested row.labels = .ok true := by
  have body : listUserDocuments host inherited caller query store =
      (listRows (selectsLabels host inherited requested) (draftRows store) []).bind
        (listRows (selectsLabels host inherited requested) (acceptedRows store)) := by
    rw [listUserDocuments, authorized, asked]
    rfl
  obtain ⟨draftsSucceed, draftsList⟩ := list_rows_iff (selectsLabels host inherited requested)
    (draftRows store) [] List.nodup_nil
  rw [body]
  cases drafts : listRows (selectsLabels host inherited requested) (draftRows store) [] with
  | error failure =>
      rw [drafts] at draftsSucceed
      refine ⟨⟨fun done => ?_, fun decided => ?_⟩, fun items done => by cases done⟩
      · obtain ⟨items, done⟩ := done
        cases done
      · obtain ⟨items, done⟩ := draftsSucceed.mpr fun row member =>
          decided row (List.mem_append_left _ member)
        cases done
  | ok listed =>
      obtain ⟨once, exactly⟩ := draftsList listed drafts
      obtain ⟨succeeds, lists⟩ := list_rows_iff (selectsLabels host inherited requested)
        (acceptedRows store) listed once
      have draftsDecided := draftsSucceed.mp ⟨listed, drafts⟩
      refine ⟨?_, ?_⟩
      · rw [Except.bind, succeeds, versionRows, List.forall_mem_append]
        exact (and_iff_right draftsDecided).symm
      · intro items done
        obtain ⟨itemsOnce, itemsExactly⟩ := lists items done
        refine ⟨itemsOnce, fun id => ?_⟩
        rw [itemsExactly, exactly, versionRows]
        simp only [List.map_nil, List.not_mem_nil, false_or, List.mem_append, or_and_right,
          exists_or, ← and_or_left]

/-- When a selector is answered exactly. -/
structure SelectorFits : Prop where
  /-- Where a label is asked for, no version has labels that are a text, a number or a truth
  value. -/
  readable : ∀ pairs, requested = some pairs → requiredLabels pairs ≠ [] →
    ∀ row ∈ versionRows store, ReadableLabels row.labels
  /-- The document that cannot be listed is not selected. -/
  proto : ¬ Selected store (requested.getD []) protoName
  /-- A draft of an accepted document matches only if the accepted document does. -/
  overlap : ∀ id draft row, id ≠ protoName → store.userDocuments.lookup id = some draft →
    store.acceptedUserDocuments.lookup id = some row →
    selectsLabels host inherited requested (draft.value.field "labels") = .ok true →
    selectsLabels host inherited requested row.labels = .ok true
  /-- Effective labels that match, by the last value of each name and `==`, contain every
  pair. -/
  exact : ∀ id labels, id ≠ protoName → effectiveLabels store id = some labels →
    selectsLabels host inherited requested labels = .ok true →
    ∀ pair ∈ requested.getD [], ContainsLabel labels pair

theorem selects_of_contains (asked : requestedLabels (queryValue query "labelSelector") =
    .ok requested) (labels : JsValue)
    (contains : ∀ pair ∈ requested.getD [], ContainsLabel labels pair) :
    selectsLabels host inherited requested labels = .ok true := by
  cases requested with
  | none => rfl
  | some pairs =>
      exact labels_match_of_contains (requested_nonempty _ asked) contains

theorem effective_version (id : String) (labels : JsValue)
    (effective : effectiveLabels store id = some labels) :
    ListedDocument.mk id labels ∈ versionRows store := by
  unfold effectiveLabels at effective
  split at effective
  · rename_i row found
    cases effective
    exact List.mem_append_right _ (mem_accepted_rows.mpr ⟨row, found, rfl⟩)
  · obtain ⟨draft, found, same⟩ := Option.map_eq_some_iff.mp effective
    exact List.mem_append_left _ (mem_draft_rows.mpr ⟨draft, found, same⟩)

/-- The list is exact for a store and a selector exactly when the selector fits. -/
theorem label_selection_exact_iff
    (authorized : validateCallerAuthorized host store.ledger caller = .ok ())
    (asked : requestedLabels (queryValue query "labelSelector") = .ok requested) :
    ListsSelected host inherited caller query store (requested.getD []) ↔
      SelectorFits host inherited store requested := by
  obtain ⟨succeeds, lists⟩ :=
    listed_versions host inherited caller query store requested authorized asked
  constructor
  · rintro ⟨items, done, _, exactly⟩
    obtain ⟨_, versions⟩ := lists items done
    have decided := succeeds.mp ⟨items, done⟩
    have selected : ∀ row ∈ versionRows store, row.id ≠ protoName →
        selectsLabels host inherited requested row.labels = .ok true →
        Selected store (requested.getD []) row.id := fun row member named fitting =>
      (exactly row.id).mp ((versions row.id).mpr ⟨named, row, member, rfl, fitting⟩)
    refine ⟨?_, ?_, ?_, ?_⟩
    · rintro pairs rfl asks row member
      obtain ⟨decision, same⟩ := decided row member
      exact (labels_match_decided _).mp ⟨decision, same⟩ asks
    · intro chosen
      exact ((versions protoName).mp ((exactly protoName).mpr chosen)).1 rfl
    · intro id draft row named foundDraft foundRow fitting
      obtain ⟨labels, effective, contains⟩ := selected ⟨id, draft.value.field "labels"⟩
        (List.mem_append_left _ (mem_draft_rows.mpr ⟨draft, foundDraft, rfl⟩)) named
        fitting
      have same : row.labels = labels := by
        rw [effectiveLabels, foundRow] at effective
        exact Option.some.inj effective
      rw [same]
      exact selects_of_contains host inherited query requested asked labels contains
    · intro id labels named effective fitting
      obtain ⟨found, same, contains⟩ :=
        selected ⟨id, labels⟩ (effective_version store id labels effective) named fitting
      rw [effective] at same
      cases same
      exact contains
  · intro fits
    have decided : ∀ row ∈ versionRows store, ∃ decision,
        selectsLabels host inherited requested row.labels = .ok decision := by
      intro row member
      cases requested with
      | none => exact ⟨true, rfl⟩
      | some pairs =>
          exact (labels_match_decided _).mpr
            fun asks => fits.readable pairs rfl asks row member
    obtain ⟨items, done⟩ := succeeds.mpr decided
    obtain ⟨once, versions⟩ := lists items done
    refine ⟨items, done, once, fun id => ?_⟩
    rw [versions]
    constructor
    · rintro ⟨named, row, member, rfl, fitting⟩
      have effective : ∃ labels, effectiveLabels store row.id = some labels ∧
          selectsLabels host inherited requested labels = .ok true := by
        rcases List.mem_append.mp member with inDrafts | inAccepted
        · obtain ⟨draft, foundDraft, same⟩ := mem_draft_rows.mp inDrafts
          cases accepted : store.acceptedUserDocuments.lookup row.id with
          | none =>
              exact ⟨row.labels, by simp [effectiveLabels, accepted, foundDraft, same], fitting⟩
          | some item =>
              refine ⟨item.labels, by simp [effectiveLabels, accepted], ?_⟩
              exact fits.overlap row.id draft item named foundDraft accepted (by rw [same, fitting])
        · obtain ⟨item, foundItem, same⟩ := mem_accepted_rows.mp inAccepted
          exact ⟨row.labels, by simp [effectiveLabels, foundItem, same], fitting⟩
      obtain ⟨labels, isEffective, effectiveMatches⟩ := effective
      exact ⟨labels, isEffective, fits.exact row.id labels named isEffective effectiveMatches⟩
    · rintro ⟨labels, effective, contains⟩
      refine ⟨?_, ⟨id, labels⟩, effective_version store id labels effective, rfl,
        selects_of_contains host inherited query requested asked labels contains⟩
      rintro rfl
      exact fits.proto ⟨labels, effective, contains⟩

end

def pairQuery (name value : String) : String :=
  joined '=' "labelSelector" (joined ':' name value)

structure PlainLabel (text : String) : Prop where
  query : plainInQuery text = true
  comma : ',' ∉ text.toList
  colon : ':' ∉ text.toList
  trimmed : JsNumber.trim text = text
  nonempty : text ≠ ""

theorem pair_query_asks (name value : String) (nameKept : PlainLabel name)
    (valueKept : PlainLabel value) :
    requestedLabels (queryValue (pairQuery name value) "labelSelector") =
      .ok (some [(name, value)]) := by
  have namePlain := (plain_in_query_iff name).mp nameKept.query
  have valuePlain := (plain_in_query_iff value).mp valueKept.query
  have selectorPlain : plainInQuery (joined ':' name value) = true := by
    rw [plain_in_query_iff, joined_to_list]
    simp [namePlain.1, namePlain.2, valuePlain.1, valuePlain.2]
  have noComma : ',' ∉ (joined ':' name value).toList := by
    rw [joined_to_list]
    simp [nameKept.comma, valueKept.comma]
  have found : queryValue (pairQuery name value) "labelSelector" =
      .string (joined ':' name value) := by
    rw [pairQuery, query_value_single _ _ _ (by decide) selectorPlain, if_pos rfl]
  have parts : (joined ':' name value).splitOn "," = [joined ':' name value] :=
    split_on_plain _ noComma
  have halves : (joined ':' name value).splitOn ":" = [name, value] := by
    change (joined ':' name value).splitOn (String.singleton ':') = _
    rw [split_on_joined, split_on_plain _ nameKept.colon, split_on_plain _ valueKept.colon]
    rfl
  have pair : labelPair (joined ':' name value) = .ok (name, value) := by
    simp [labelPair, halves, nameKept.trimmed, valueKept.trimmed, nameKept.nonempty,
      valueKept.nonempty]
  rw [found, requestedLabels, parts]
  simp [pair, bind, Except.bind, pure, Except.pure]

def teamLabels (team : String) : JsValue := .object [("team", .string team)]

def labelledDocument (data team : String) : JsValue :=
  .object [("contractId", .string "c1"), ("data", .string data), ("labels", teamLabels team)]

def blueDraft : List UserOperation :=
  [.putDocument (.userCert "owner") "d1" (labelledDocument "reviewed" "blue")]

def twoDrafts : List UserOperation :=
  blueDraft ++ [.putDocument (.userCert "owner") "d2" (labelledDocument "planned" "green")]

def blueQuery : String := pairQuery "team" "blue"

theorem blue_query_asks :
    requestedLabels (queryValue blueQuery "labelSelector") = .ok (some [("team", "blue")]) :=
  pair_query_asks "team" "blue" ⟨by decide, by decide, by decide, by decide, by decide⟩
    ⟨by decide, by decide, by decide, by decide, by decide⟩

def plainObjects : Inherited := fun _ _ => none

theorem blue_draft_listed :
    ListsSelected idleHost plainObjects (.userCert "owner") blueQuery
      (userRun idleHost contractStore twoDrafts) [("team", "blue")] := by
  have versions : ∀ row ∈ versionRows (userRun idleHost contractStore twoDrafts),
      row = ⟨"d2", teamLabels "green"⟩ ∨ row = ⟨"d1", teamLabels "blue"⟩ := by
    intro row member
    simpa using show row ∈ [(⟨"d2", teamLabels "green"⟩ : ListedDocument),
      ⟨"d1", teamLabels "blue"⟩] from member
  have teams : ∀ id labels,
      effectiveLabels (userRun idleHost contractStore twoDrafts) id = some labels →
      id = "d2" ∧ labels = teamLabels "green" ∨ id = "d1" ∧ labels = teamLabels "blue" := by
    intro id labels found
    rcases versions _ (effective_version _ id labels found) with same | same <;>
      cases same <;> simp
  refine (label_selection_exact_iff idleHost plainObjects (.userCert "owner") blueQuery
    (userRun idleHost contractStore twoDrafts) (some [("team", "blue")]) rfl
    blue_query_asks).mpr ⟨?_, ?_, ?_, ?_⟩
  · rintro pairs _ _ row member
    rcases versions row member with rfl | rfl <;> exact .inr rfl
  · rintro ⟨labels, found, _⟩
    rcases teams _ _ found with ⟨same, _⟩ | ⟨same, _⟩ <;> exact absurd same (by decide)
  · intro id draft row _ _ accepted
    have none : (userRun idleHost contractStore twoDrafts).acceptedUserDocuments = ∅ := rfl
    rw [none] at accepted
    cases accepted
  · intro id labels _ found fitting pair member
    rcases teams _ _ found with ⟨_, rfl⟩ | ⟨_, rfl⟩
    · cases fitting
    · cases List.mem_singleton.mp member
      exact ⟨_, rfl, rfl⟩

def redAcceptance : List UserOperation :=
  blueDraft ++
    [.createProposal (.userCert "stranger") "p1"
      (documentProposal "d1" (labelledDocument "other" "red") ["stranger"]),
    .submitBallot (.userCert "stranger") "p1" (ballotBody "accepted")]

/-- The document is listed for the blue team, whose label it does not have. -/
theorem draft_labels_listed :
    effectiveLabels (userRun idleHost contractStore redAcceptance) "d1" =
        some (teamLabels "red") ∧
    listUserDocuments idleHost plainObjects (.userCert "owner") blueQuery
        (userRun idleHost contractStore redAcceptance) = .ok [⟨"d1", teamLabels "blue"⟩] ∧
    ¬ ListsSelected idleHost plainObjects (.userCert "owner") blueQuery
        (userRun idleHost contractStore redAcceptance) [("team", "blue")] := by
  have effective : effectiveLabels (userRun idleHost contractStore redAcceptance) "d1" =
      some (teamLabels "red") := rfl
  have listed : listUserDocuments idleHost plainObjects (.userCert "owner") blueQuery
      (userRun idleHost contractStore redAcceptance) = .ok [⟨"d1", teamLabels "blue"⟩] := by
    rw [listUserDocuments, blue_query_asks]
    rfl
  refine ⟨effective, listed, ?_⟩
  rintro ⟨items, done, _, exactly⟩
  rw [listed] at done
  cases done
  obtain ⟨labels, found, contains⟩ := (exactly "d1").mp List.mem_cons_self
  rw [effective] at found
  cases found
  obtain ⟨fields, same, team⟩ := contains ("team", "blue") List.mem_cons_self
  cases same
  exact absurd (JsValue.string.inj (Option.some.inj team)) (by decide)

end CleanRoom.Governance
