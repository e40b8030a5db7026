import CleanRoom.Governance.Events
import CleanRoom.Governance.Queries
import CleanRoom.Governance.SecretOwnership

/-!
# Whose events the events of a scope are

The events of a contract and a scope are kept in a map whose name is put together
from the two with a hyphen. Both are arbitrary text, so two pairs can have one map. This
module says exactly which do, and that an event stored for one pair shows in no listing
for a pair with another map. A listing is compared with that of a ledger on which the
transaction of the event has written nothing.
-/

namespace CleanRoom.Governance

open JavaScript Joining Throwing

/-- A query with a scope, unless it is absent, and the event id `x`. -/
def scopeQuery : Option String → String
  | none => joined '=' "id" "x"
  | some scope => joined '&' (joined '=' "scope" scope) (joined '=' "id" "x")

variable {contractId query : String} {scope : Option String}

theorem scope_query_value (plain : ∀ text ∈ scope, plainInQuery text) (name : String) :
    queryValue (scopeQuery scope) name =
      if "id" = name then .string "x"
      else if "scope" = name then (scope.map JsValue.string).getD .undefined
      else .undefined := by
  have idPart := joined_part "id" "x" (by decide) (by decide)
  rw [query_value_fold]
  change ((scopeQuery scope).splitOn (String.singleton '&')).foldl _ _ = _
  cases scope with
  | none =>
      unfold scopeQuery
      rw [idPart, List.foldl_cons, List.foldl_nil,
        query_part_joined _ _ _ _ (by decide) (by decide)]
      simp
  | some scope =>
      unfold scopeQuery
      have plainScope := plain scope rfl
      rw [split_on_joined, idPart, joined_part "scope" scope (by decide) plainScope,
        List.singleton_append, List.foldl_cons, List.foldl_cons, List.foldl_nil,
        query_part_joined _ _ _ _ (by decide) (by decide),
        query_part_joined _ _ _ _ (by decide) plainScope]
      rfl

def queryScope (query : String) : Option String :=
  match queryValue query "scope" with
  | .string scope => some scope
  | _ => none

/-- The two pairs have one map of events: neither has a scope and the contracts are the
same, or the text of one contract or scope continues over a hyphen what the other has. -/
def SharesEvents (contractId : String) (scope : Option String) (otherId : String)
    (otherScope : Option String) : Prop :=
  match scope.filter (· ≠ ""), otherScope.filter (· ≠ "") with
  | none, none => contractId = otherId
  | some scope, none => otherId = joined '-' contractId scope
  | none, some otherScope => contractId = joined '-' otherId otherScope
  | some scope, some otherScope =>
      (contractId = otherId ∧ scope = otherScope) ∨
        Continues '-' contractId scope otherId otherScope ∨
        Continues '-' otherId otherScope contractId scope

def eventsMap (contractId : String) (scope : Option String) : String :=
  getEventsMapName contractId ((scope.map JsValue.string).getD .undefined)

theorem events_map_eq (contractId : String) :
    eventsMap contractId scope = "public:events-" ++
      match scope.filter (· ≠ "") with
      | none => contractId
      | some scope => joined '-' contractId scope := by
  cases scope with
  | none => rfl
  | some scope =>
      by_cases empty : scope = ""
      · subst empty
        rfl
      · have kept : (some scope).filter (· ≠ "") = some scope := by simp [empty]
        rw [kept]
        unfold eventsMap getEventsMapName joined
        simp only [Option.map_some, Option.getD_some, empty, if_false, String.append_assoc]
        rfl

theorem shares_events_iff (contractId : String) (scope : Option String) (otherId : String)
    (otherScope : Option String) :
    SharesEvents contractId scope otherId otherScope ↔
      eventsMap contractId scope = eventsMap otherId otherScope := by
  rw [events_map_eq, events_map_eq, String.append_right_inj]
  unfold SharesEvents
  generalize scope.filter (· ≠ "") = first
  generalize otherScope.filter (· ≠ "") = second
  cases first with
  | none =>
      cases second with
      | none => exact Iff.rfl
      | some otherScope => exact Iff.rfl
  | some scope =>
      cases second with
      | none => exact eq_comm
      | some otherScope => exact joined_eq_iff.symm

theorem events_map_of_query (contractId query : String) :
    getEventsMapName contractId (queryValue query "scope") =
      eventsMap contractId (queryScope query) := by
  unfold queryScope eventsMap
  cases queryValue query "scope" <;> rfl

theorem listed_map_of_query :
    getEventsMapName contractId (.string (scopeText query)) =
      eventsMap contractId (queryScope query) := by
  unfold queryScope eventsMap scopeText
  cases queryValue query "scope" <;> rfl

theorem put_event_ok (host : CleanRoomHost) (caller : Caller)
    (body : JsValue) (store after : AppStore)
    (accepted : putEvent host caller contractId query body store = .ok after) :
    contractId ≠ "" ∧ ∃ item, after = store.set (eventsMap contractId (queryScope query))
      (getIdFromQuery query contractId) item := by
  unfold putEvent at accepted
  dsimp only at accepted
  obtain ⟨_, accepted⟩ := (guarded_eq_ok _ _ _ _).mp accepted
  obtain ⟨_, _, accepted⟩ := of_bind accepted
  obtain ⟨_, _, accepted⟩ := of_bind accepted
  obtain ⟨_, accepted⟩ := of_guard accepted
  obtain ⟨key, keyed, accepted⟩ := of_bind accepted
  obtain ⟨_, _, accepted⟩ := of_bind accepted
  obtain ⟨_, _, accepted⟩ := of_bind accepted
  obtain ⟨_, _, accepted⟩ := of_bind accepted
  obtain ⟨_, _, accepted⟩ := of_bind accepted
  have named : contractId ≠ "" := by
    rintro rfl
    cases keyed
  cases accepted
  exact ⟨named, _, by rw [events_map_of_query]⟩

theorem put_event_transaction_ok (host : CleanRoomHost) (caller : Caller)
    (contractId query : String) (body : JsValue) (store : KeyValueStore)
    (transaction : Transaction)
    (written : putEventTransaction host caller contractId query body store = .ok transaction) :
    contractId ≠ "" ∧ ∃ item, transaction = [⟨eventsMap contractId (queryScope query),
        getIdFromQuery query contractId, some item⟩] ∧
      putEvent host caller contractId query body store.app =
        .ok (store.app.set (eventsMap contractId (queryScope query))
          (getIdFromQuery query contractId) item) := by
  obtain ⟨after, accepted, written⟩ := of_bind written
  obtain ⟨named, item, stored⟩ := put_event_ok _ _ _ _ _ accepted
  cases written
  refine ⟨named, item, ?_, stored ▸ accepted⟩
  rw [stored, events_map_of_query, AppStore.get_set_same]

namespace KeyValueStore

theorem history_commit (store : KeyValueStore) (map : String) (transactions : List Transaction) :
    (store.commit transactions).history map =
      store.history map ++ transactions.map (Transaction.ofMap map) := by
  simp [history, commit]

theorem rows_commit_write (store : KeyValueStore) (map other key : String) (value : JsValue) :
    (store.commit [[⟨map, key, some value⟩]]).rows other =
      if map = other then (store.rows other).insert key value else store.rows other := by
  unfold rows
  rw [history_commit, List.flatten_append, List.foldl_append]
  by_cases same : map = other
  · simp [Transaction.ofMap, same, applyWrite]
  · simp [Transaction.ofMap, same]

end KeyValueStore

/-- Whatever event is stored for the first pair, a listing for the second gives what it
would give if the transaction had written nothing, now and after any later transactions,
and a listing of the latest event what it gave before. -/
structure EventsIsolated (contractId : String) (scope : Option String) (otherId : String)
    (otherScope : Option String) : Prop where
  listings : ∀ (host : CleanRoomHost) (caller : Caller) (query : String) (body : JsValue)
    (store : KeyValueStore) (transaction : Transaction), queryScope query = scope →
    putEventTransaction host caller contractId query body store = .ok transaction →
    ∀ (history : HistoryHost) (lister : Caller) (listing : String) (later : List Transaction),
      queryScope listing = otherScope →
      listEvents host.ccf history lister otherId listing (store.commit (transaction :: later)) =
        listEvents host.ccf history lister otherId listing (store.commit ([] :: later))
  latest : ∀ (host : CleanRoomHost) (caller : Caller) (query : String) (body : JsValue)
    (store : KeyValueStore) (transaction : Transaction), queryScope query = scope →
    putEventTransaction host caller contractId query body store = .ok transaction →
    ∀ (history : HistoryHost) (lister : Caller) (listing : String),
      queryScope listing = otherScope → (queryValue listing "from_seqno").truthy = false →
      (queryValue listing "to_seqno").truthy = false →
      listEvents host.ccf history lister otherId listing (store.commit [transaction]) =
        listEvents host.ccf history lister otherId listing store

variable {scope : Option String} {contractId : String} {otherScope : Option String}
  {history : HistoryHost} {otherId : String} {store : KeyValueStore} {caller : Caller}
  {host : CcfHost}

theorem list_events_same (contractId query : String) (store other : KeyValueStore)
    (ledgers : store.ledger = other.ledger)
    (histories : store.history (eventsMap contractId (queryScope query)) =
      other.history (eventsMap contractId (queryScope query))) :
    listEvents host history caller contractId query store =
      listEvents host history caller contractId query other := by
  have rows : store.rows (eventsMap contractId (queryScope query)) =
      other.rows (eventsMap contractId (queryScope query)) := by
    unfold KeyValueStore.rows
    rw [histories]
  have version : ∀ id,
      store.versionOfPreviousWrite (eventsMap contractId (queryScope query)) id =
        other.versionOfPreviousWrite (eventsMap contractId (queryScope query)) id := by
    intro id
    unfold KeyValueStore.versionOfPreviousWrite
    rw [rows, histories]
  have events : historicalEvent history (eventsMap contractId (queryScope query))
      (scopeText query) (getIdFromQuery query contractId) store =
      historicalEvent history (eventsMap contractId (queryScope query))
        (scopeText query) (getIdFromQuery query contractId) other := by
    funext seqno
    unfold historicalEvent KeyValueStore.historicalValue
    rw [histories]
  unfold listEvents
  dsimp only
  rw [listed_map_of_query, ledgers]
  unfold latestEvent eventRange rangeEndDefault
  rw [rows, version, events]

theorem latest_event_idle (map scope id : String) :
    latestEvent history map scope id (store.commit [[]]) =
      latestEvent history map scope id store := by
  have histories : (store.commit [[]]).history map = store.history map ++ [[]] :=
    store.history_commit map [[]]
  have rows : (store.commit [[]]).rows map = store.rows map := by
    unfold KeyValueStore.rows
    rw [histories, List.flatten_append, List.flatten_singleton, List.append_nil]
  have version : (store.commit [[]]).versionOfPreviousWrite map id =
      store.versionOfPreviousWrite map id := by
    unfold KeyValueStore.versionOfPreviousWrite
    rw [rows, histories, List.zipIdx_append, List.reverse_append, List.findSome?_append]
    rfl
  unfold latestEvent
  rw [rows, version]

theorem list_events_latest (contractId query : String)
    (noBegin : (queryValue query "from_seqno").truthy = false)
    (noEnd : (queryValue query "to_seqno").truthy = false) :
    listEvents host history caller contractId query store =
      (do
        validateCallerAuthorized host store.ledger caller
        latestEvent history (eventsMap contractId (queryScope query)) (scopeText query)
          (getIdFromQuery query contractId) store) := by
  unfold listEvents
  dsimp only
  rw [listed_map_of_query, noBegin, noEnd]
  rfl

theorem events_isolated (separate : ¬SharesEvents contractId scope otherId otherScope) :
    EventsIsolated contractId scope otherId otherScope := by
  have listings : ∀ (host : CleanRoomHost) (caller : Caller) (query : String) (body : JsValue)
      (store : KeyValueStore) (transaction : Transaction), queryScope query = scope →
      putEventTransaction host caller contractId query body store = .ok transaction →
      ∀ (history : HistoryHost) (lister : Caller) (listing : String) (later : List Transaction),
        queryScope listing = otherScope →
        listEvents host.ccf history lister otherId listing (store.commit (transaction :: later)) =
          listEvents host.ccf history lister otherId listing (store.commit ([] :: later)) := by
    intro host caller query body store transaction inScope written history lister listing later
      listed
    obtain ⟨_, item, rfl, _⟩ := put_event_transaction_ok _ _ _ _ _ _ _ written
    refine list_events_same _ _ _ _ rfl ?_
    have different : eventsMap contractId (queryScope query) ≠
        eventsMap otherId (queryScope listing) := by
      rw [inScope, listed]
      exact fun same => separate ((shares_events_iff _ _ _ _).mpr same)
    rw [KeyValueStore.history_commit, KeyValueStore.history_commit]
    simp [Transaction.ofMap, different]
  refine ⟨listings, ?_⟩
  intro host caller query body store transaction inScope written history lister listing listed
    noBegin noEnd
  rw [listings _ _ _ _ _ _ inScope written history lister listing [] listed,
    list_events_latest _ _ noBegin noEnd, list_events_latest _ _ noBegin noEnd,
    latest_event_idle]
  rfl

def eventHost : CleanRoomHost :=
  { sampleCleanRoomHost with
    ccf := { sampleCleanRoomHost.ccf with
      numberOfText := fun text => if text = "1" then some 1 else none } }

def eventCaller : Caller := .jwt (.object [("x-ms-sevsnpvm-hostdata", .string "01")])

def eventBody : JsValue :=
  .object [
    ("sign", .object [
      ("publicKey", encoded (Encodings.utf8GetBytes attestedKey)),
      ("signature", encoded (Encodings.utf8GetBytes attestedKey ++
        Encodings.utf8GetBytes samplePayload))]),
    ("data", encoded (Encodings.utf8GetBytes samplePayload)),
    ("timestamp", .string "1")]

def eventItem : JsValue :=
  .object [("timestamp", .string "0000000000001"), ("data", .object [("value", .string "s")])]

def noEvents : KeyValueStore := ⟨(identityStore "" "").ledger, []⟩

def oneMillisecond : HistoryHost where
  parseInt := fun _ => none
  toISOString := fun _ => .ok "1970-01-01T00:00:00.001Z"
  lastCommittedSeqno := 0
  getViewForSeqno := fun _ => none
  getStatusForTxId := fun _ _ => "Unknown"
  getStateRange := fun _ _ _ _ => .ok none

theorem query_scope_of_query (scope : Option String) (plain : ∀ text ∈ scope, plainInQuery text) :
    queryScope (scopeQuery scope) = scope := by
  unfold queryScope
  rw [scope_query_value plain]
  cases scope <;> rfl

theorem query_id_of_query (scope : Option String) (plain : ∀ text ∈ scope, plainInQuery text)
    (contractId : String) : getIdFromQuery (scopeQuery scope) contractId = "x" := by
  unfold getIdFromQuery
  rw [scope_query_value plain]
  rfl

theorem sample_event_written (named : contractId ≠ "") (plain : ∀ text ∈ scope, plainInQuery text) :
    putEventTransaction eventHost eventCaller contractId (scopeQuery scope) eventBody noEvents =
      .ok [⟨eventsMap contractId scope, "x", some eventItem⟩] := by
  obtain ⟨key, keyed⟩ : ∃ key, toEventsPolicyKey contractId = .ok key := by
    unfold toEventsPolicyKey toDelegatePolicyKey
    rw [if_neg named]
    exact ⟨_, rfl⟩
  have admitted : verifyPolicyClaims noEvents.app.policySource contractId
      [("x-ms-sevsnpvm-hostdata", .string "01")] (some [key]) = .ok () := by
    have matched : matchPolicyClaims (policyProps hostDataPolicy)
        [("x-ms-sevsnpvm-hostdata", .string "01")] = .ok true := by decide +kernel
    exact verify_policy_claims_of_contract _ _ _ _ rfl matched
  have verified : verifiedPayload eventHost eventBody =
      .ok (Encodings.utf8GetBytes samplePayload) :=
    sample_payload_verified attestedKey samplePayload attested_key_plain
  have accepted : putEvent eventHost eventCaller contractId (scopeQuery scope) eventBody
      noEvents.app = .ok (noEvents.app.set (eventsMap contractId scope) "x" eventItem) := by
    unfold putEvent
    dsimp only
    refine (guarded_eq_ok _ _ _ _).mpr ⟨nofun, bind_eq_ok.mpr ⟨(), rfl,
      bind_eq_ok.mpr ⟨(), rfl, ?_⟩⟩⟩
    have small : isTooLarge (timestampNumber eventHost.ccf (eventBody.field "timestamp")) =
        false := by decide +kernel
    rw [small]
    refine bind_eq_ok.mpr ⟨_, congrArg orThrow keyed, bind_eq_ok.mpr
      ⟨(), congrArg (orRefuse "VerifyJwtAttestationFailed") admitted, bind_eq_ok.mpr ⟨_, verified,
        bind_eq_ok.mpr ⟨.object [("value", .string "s")], rfl, bind_eq_ok.mpr
          ⟨"0000000000001", by decide +kernel, ?_⟩⟩⟩⟩⟩
    rw [events_map_of_query, query_scope_of_query scope plain, query_id_of_query scope plain]
    rfl
  refine bind_eq_ok.mpr ⟨_, accepted, ?_⟩
  dsimp only
  rw [events_map_of_query, query_scope_of_query scope plain, query_id_of_query scope plain,
    AppStore.get_set_same]
  rfl

theorem sample_event_listed (contractId : String) (plain : ∀ text ∈ scope, plainInQuery text) :
    listEvents eventHost.ccf oneMillisecond (.memberCert "m") contractId (scopeQuery scope)
        (noEvents.commit [[⟨eventsMap contractId scope, "x", some eventItem⟩]]) ≠
      listEvents eventHost.ccf oneMillisecond (.memberCert "m") contractId (scopeQuery scope)
        noEvents := by
  have noBegin : (queryValue (scopeQuery scope) "from_seqno").truthy = false := by
    rw [scope_query_value plain]
    rfl
  have noEnd : (queryValue (scopeQuery scope) "to_seqno").truthy = false := by
    rw [scope_query_value plain]
    rfl
  rw [list_events_latest _ _ noBegin noEnd, list_events_latest _ _ noBegin noEnd,
    query_scope_of_query scope plain, query_id_of_query scope plain]
  have member : ∀ (ledger : Ledger) (next : Except RequestFailure EventsResponse),
      (do
        validateCallerAuthorized eventHost.ccf ledger (.memberCert "m")
        next) = next := fun _ _ => rfl
  have stored : ((noEvents.commit [[⟨eventsMap contractId scope, "x", some eventItem⟩]]).rows
      (eventsMap contractId scope)).lookup "x" = some eventItem := by
    rw [KeyValueStore.rows_commit_write, if_pos rfl, AList.lookup_insert]
  rw [member, member]
  unfold latestEvent
  rw [stored]
  intro same
  cases same

theorem separate_of_isolated (named : contractId ≠ "") (plain : ∀ text ∈ scope, plainInQuery text)
    (otherPlain : ∀ text ∈ otherScope, plainInQuery text)
    (isolated : EventsIsolated contractId scope otherId otherScope) :
    ¬SharesEvents contractId scope otherId otherScope := by
  intro shares
  have written := sample_event_written named plain
  rw [(shares_events_iff _ _ _ _).mp shares] at written
  refine sample_event_listed otherId otherPlain ?_
  refine isolated.latest _ _ _ _ _ _ (query_scope_of_query scope plain) written _ _ _
    (query_scope_of_query otherScope otherPlain) ?_ ?_
  · rw [scope_query_value otherPlain]
    rfl
  · rw [scope_query_value otherPlain]
    rfl

theorem isolated_of_unaddressed
    (unaddressed : contractId = "" ∨ (∃ text ∈ scope, ¬plainInQuery text) ∨
      ∃ text ∈ otherScope, ¬plainInQuery text) :
    EventsIsolated contractId scope otherId otherScope := by
  have scope_plain : ∀ query text, text ∈ queryScope query → plainInQuery text := by
    intro query text member
    unfold queryScope at member
    split at member
    next found read =>
      cases member
      exact query_value_plain query "scope" text read
    · cases member
  have refused : ∀ (host : CleanRoomHost) (caller : Caller) (query listing : String)
      (body : JsValue) (store : KeyValueStore) (transaction : Transaction),
      queryScope query = scope → queryScope listing = otherScope →
      putEventTransaction host caller contractId query body store ≠ .ok transaction := by
    rintro host caller query listing body store transaction rfl rfl written
    obtain ⟨named, _⟩ := put_event_transaction_ok _ _ _ _ _ _ _ written
    rcases unaddressed with empty | ⟨text, member, odd⟩ | ⟨text, member, odd⟩
    · exact named empty
    · exact odd (scope_plain query text member)
    · exact odd (scope_plain listing text member)
  constructor
  · intro host caller query body store transaction inScope written history lister listing later
      listed
    exact absurd written (refused _ _ _ _ _ _ _ inScope listed)
  · intro host caller query body store transaction inScope written history lister listing listed
    exact absurd written (refused _ _ _ _ _ _ _ inScope listed)

/-- Events of one pair show in no listing for another exactly when the two pairs do not
share a map. No event is stored for the empty contract, and a scope that a query cannot
hold is the scope of no request. -/
theorem event_namespaces_isolated (contractId : String) (scope : Option String)
    (otherId : String) (otherScope : Option String) :
    EventsIsolated contractId scope otherId otherScope ↔
      contractId = "" ∨ (∃ text ∈ scope, ¬plainInQuery text) ∨
        (∃ text ∈ otherScope, ¬plainInQuery text) ∨
        ¬SharesEvents contractId scope otherId otherScope := by
  constructor
  · intro isolated
    by_contra addressed
    push Not at addressed
    obtain ⟨named, plain, otherPlain, shares⟩ := addressed
    exact separate_of_isolated named plain otherPlain isolated shares
  · rintro (empty | odd | odd | separate)
    · exact isolated_of_unaddressed (.inl empty)
    · exact isolated_of_unaddressed (.inr (.inl odd))
    · exact isolated_of_unaddressed (.inr (.inr odd))
    · exact events_isolated separate

/-- An event of contract `a` with scope `b-c` shows among those of `a-b` with scope `c`. -/
theorem hyphenated_scope_listed :
    putEventTransaction eventHost eventCaller "a" "scope=b-c&id=x" eventBody noEvents =
        .ok [⟨"public:events-a-b-c", "x", some eventItem⟩] ∧
      listEvents eventHost.ccf oneMillisecond (.memberCert "m") "a-b" "scope=c&id=x"
          (noEvents.commit [[⟨"public:events-a-b-c", "x", some eventItem⟩]]) ≠
        listEvents eventHost.ccf oneMillisecond (.memberCert "m") "a-b" "scope=c&id=x"
          noEvents := by
  have query : scopeQuery (some "b-c") = "scope=b-c&id=x" := by decide +kernel
  have listing : scopeQuery (some "c") = "scope=c&id=x" := by decide +kernel
  have map : eventsMap "a" (some "b-c") = "public:events-a-b-c" := by decide +kernel
  have listed : eventsMap "a-b" (some "c") = "public:events-a-b-c" := by decide +kernel
  rw [← query, ← listing]
  refine ⟨?_, ?_⟩
  · rw [← map]
    exact sample_event_written (by decide) (by decide)
  · rw [← listed]
    exact sample_event_listed "a-b" (by decide)

end CleanRoom.Governance
