import CleanRoom.Governance.EventIsolation
import CleanRoom.Library.JsNumber

/-!
# The timestamps of events

`putEvent` takes a timestamp as text, refuses one whose number is too large, and stores the
text padded to thirteen characters, which is to be compared as text. A listing makes a date
of the number of the stored text. This module says which texts survive both: those of one
to thirteen digits always do, and of the texts of a whole number no others.
-/

namespace CleanRoom.Governance

open JavaScript JsNumber Throwing

/-- `new Date(Number(value)).toISOString()` -/
def dateText (host : CcfHost) (value : JsValue) : Except String String :=
  match timeClip (timestampNumber host value) with
  | some time => .ok (isoString time)
  | none => .error "RangeError: Invalid time value"

def padTimestamp (text : String) : String :=
  String.ofList (List.replicate (13 - jsLength text) '0') ++ text

def storedItem (text : String) (data : JsValue) : JsValue :=
  jsonObject [("timestamp", .string (padTimestamp text)), ("data", data)]

theorem padded_timestamp_ok (value : JsValue) (stored : String)
    (padded : paddedTimestamp value = .ok stored) :
    ∃ text, value = .string text ∧ stored = padTimestamp text := by
  unfold paddedTimestamp at padded
  split at padded
  next text =>
    cases padded
    exact ⟨text, rfl, rfl⟩
  · cases padded

theorem put_event_stores (host : CleanRoomHost) (caller : Caller) (contractId query : String)
    (body : JsValue) (store after : AppStore)
    (accepted : putEvent host caller contractId query body store = .ok after) :
    ∃ text data, body.field "timestamp" = .string text ∧ text ≠ "" ∧
      isTooLarge (timestampNumber host.ccf (.string text)) = false ∧
      after = store.set (eventsMap contractId (queryScope query))
        (getIdFromQuery query contractId) (storedItem text data) := by
  unfold putEvent at accepted
  dsimp only at accepted
  obtain ⟨_, accepted⟩ := (guarded_eq_ok _ _ _ _).mp accepted
  obtain ⟨_, _, accepted⟩ := of_bind accepted
  obtain ⟨_, present, accepted⟩ := of_bind accepted
  split at accepted
  · cases accepted
  next small =>
    obtain ⟨_, _, accepted⟩ := of_bind accepted
    obtain ⟨_, _, accepted⟩ := of_bind accepted
    obtain ⟨_, _, accepted⟩ := of_bind accepted
    obtain ⟨data, _, accepted⟩ := of_bind accepted
    obtain ⟨stored, padded, accepted⟩ := of_bind accepted
    obtain ⟨text, given, rfl⟩ := padded_timestamp_ok _ _ padded
    have named : text ≠ "" := by
      rintro rfl
      obtain ⟨value, read, checked⟩ := of_bind present
      rw [body_field_ok _ _ _ read, given] at checked
      cases checked
    rw [given] at small
    cases accepted
    exact ⟨text, data, given, named, Bool.eq_false_iff.mpr small, by rw [events_map_of_query]; rfl⟩

/-- A request to store an event, and the transaction it was accepted with. -/
structure AcceptedEvent (host : CleanRoomHost) where
  caller : Caller
  contractId : String
  query : String
  body : JsValue
  store : KeyValueStore
  transaction : Transaction
  accepted : putEventTransaction host caller contractId query body store = .ok transaction

namespace AcceptedEvent

variable {host : CleanRoomHost}

def map (event : AcceptedEvent host) : String :=
  eventsMap event.contractId (queryScope event.query)

def id (event : AcceptedEvent host) : String := getIdFromQuery event.query event.contractId

def seqno (event : AcceptedEvent host) : Nat := event.store.transactions.length + 1

def submitted (event : AcceptedEvent host) : Option Rat :=
  timestampNumber host.ccf (event.body.field "timestamp")

def stored (event : AcceptedEvent host) : Option String :=
  event.transaction.findSome? fun write =>
    write.value.bind fun item =>
      match item.field "timestamp" with
      | .string text => some text
      | _ => none

/-- The submitted timestamp is a text of one to thirteen digits. -/
def Milliseconds (event : AcceptedEvent host) : Prop :=
  ∃ text, event.body.field "timestamp" = .string text ∧ IsDigits text.toList ∧
    text.toList.length ≤ 13

/-- The store after the event and other transactions, whatever governance did meanwhile. -/
def later (event : AcceptedEvent host) (ledger : Ledger) (transactions : List Transaction) :
    KeyValueStore :=
  KeyValueStore.commit { event.store with ledger } (event.transaction :: transactions)

/-- Every later listing renders the event: one by sequence numbers, and the one of the
latest event as long as nothing else was written to its key. -/
structure Renders (event : AcceptedEvent host) (history : HistoryHost) : Prop where
  byRange : ∀ (ledger : Ledger) (transactions : List Transaction) (scope : String),
    ∃ entry, historicalEvent history event.map scope event.id (event.later ledger transactions)
      event.seqno = .ok [entry]
  latest : ∀ (ledger : Ledger) (transactions : List Transaction) (scope : String),
    (∀ transaction ∈ transactions, ∀ write ∈ transaction,
      ¬(write.map = event.map ∧ write.key = event.id)) →
    ∃ entry, latestEvent history event.map scope event.id (event.later ledger transactions) =
      .ok (.events [entry] none)

end AcceptedEvent

/-- `left < right` on numbers, which is never so for `NaN`. -/
def numberBelow : Option Rat → Option Rat → Prop
  | some left, some right => left < right
  | _, _ => False

/-- `left < right` on stored timestamps. -/
def storedBelow : Option String → Option String → Prop
  | some left, some right => textBelow left right = true
  | _, _ => False

/-- The two events render, and their stored timestamps are ordered as the numbers are. -/
structure TimestampsSound {host : CleanRoomHost} (first second : AcceptedEvent host)
    (history : HistoryHost) : Prop where
  firstRenders : first.Renders history
  secondRenders : second.Renders history
  ordered : storedBelow first.stored second.stored ↔
    numberBelow first.submitted second.submitted

namespace AcceptedEvent

variable {host : CleanRoomHost}

variable {event : AcceptedEvent host}

theorem transaction_eq :
    ∃ text data, event.body.field "timestamp" = .string text ∧ text ≠ "" ∧
      isTooLarge (timestampNumber host.ccf (.string text)) = false ∧
      event.transaction = [⟨event.map, event.id, some (storedItem text data)⟩] := by
  obtain ⟨_, item, written, put⟩ := put_event_transaction_ok _ _ _ _ _ _ _ event.accepted
  obtain ⟨text, data, given, named, small, stored⟩ := put_event_stores _ _ _ _ _ _ _ put
  have same := congrArg (fun store => store.get event.map event.id) stored
  simp only [map, id, AppStore.get_set_same] at same
  refine ⟨text, data, given, named, small, ?_⟩
  rw [written, same]
  rfl

theorem stored_eq (text : String) (given : event.body.field "timestamp" = .string text) :
    event.stored = some (padTimestamp text) := by
  obtain ⟨other, data, same, _, _, written⟩ := event.transaction_eq
  cases given.symm.trans same
  unfold stored
  rw [written]
  rfl

theorem historical_item (event : AcceptedEvent host) (ledger : Ledger)
    (transactions : List Transaction) (item : JsValue)
    (written : event.transaction = [⟨event.map, event.id, some item⟩]) :
    (event.later ledger transactions).historicalValue event.map event.id event.seqno =
      some item := by
  have at_seqno : ((event.later ledger transactions).history event.map).getD
      (event.seqno - 1) [] = event.transaction := by
    unfold later
    rw [KeyValueStore.history_commit, written]
    simp [seqno, KeyValueStore.history, Transaction.ofMap]
  unfold KeyValueStore.historicalValue
  rw [at_seqno, written]
  exact AList.lookup_insert _

theorem lookup_unwritten (rows : Table JsValue) (writes : Transaction) (key : String)
    (unwritten : ∀ write ∈ writes, write.key ≠ key) :
    (writes.foldl applyWrite rows).lookup key = rows.lookup key := by
  induction writes generalizing rows with
  | nil => rfl
  | cons write writes ih =>
      obtain ⟨here, rest⟩ := List.forall_mem_cons.mp unwritten
      rw [List.foldl_cons, ih _ rest]
      unfold applyWrite
      split
      · exact AList.lookup_insert_ne (Ne.symm here)
      · exact AList.lookup_erase_ne (Ne.symm here)

theorem latest_item (event : AcceptedEvent host) (ledger : Ledger)
    (transactions : List Transaction) (item : JsValue)
    (written : event.transaction = [⟨event.map, event.id, some item⟩])
    (unwritten : ∀ transaction ∈ transactions, ∀ write ∈ transaction,
      ¬(write.map = event.map ∧ write.key = event.id)) :
    ((event.later ledger transactions).rows event.map).lookup event.id = some item := by
  unfold later KeyValueStore.rows
  rw [KeyValueStore.history_commit, List.map_cons, List.flatten_append, List.flatten_cons,
    List.foldl_append, List.foldl_append, lookup_unwritten, written]
  · simp [Transaction.ofMap, applyWrite]
  · intro write member same
    obtain ⟨_, mapped, inside⟩ := List.mem_flatten.mp member
    obtain ⟨transaction, among, rfl⟩ := List.mem_map.mp mapped
    obtain ⟨within, mapName⟩ := List.mem_filter.mp inside
    exact unwritten transaction among write within ⟨of_decide_eq_true mapName, same⟩

theorem renders_of_date (history : HistoryHost) (text date : String)
    (given : event.body.field "timestamp" = .string text)
    (rendered : history.toISOString (.string (padTimestamp text)) = .ok date) :
    event.Renders history := by
  obtain ⟨other, data, same, _, _, written⟩ := event.transaction_eq
  cases given.symm.trans same
  have timestamp : (storedItem text data).field "timestamp" = .string (padTimestamp text) := rfl
  constructor
  · intro ledger transactions scope
    unfold historicalEvent
    rw [event.historical_item ledger transactions _ written]
    dsimp only
    rw [timestamp, rendered]
    exact ⟨_, rfl⟩
  · intro ledger transactions scope unwritten
    unfold latestEvent
    rw [event.latest_item ledger transactions _ written unwritten]
    dsimp only
    rw [timestamp, rendered]
    exact ⟨_, rfl⟩

end AcceptedEvent

variable {text : String} {host : CcfHost} {number : Nat}

theorem js_length_digits (digits : ∀ char ∈ text.toList, char.isDigit = true) :
    jsLength text = text.toList.length := by
  unfold jsLength
  rw [units_of_digits text digits, List.length_map]

theorem pad_timestamp_to_list (digits : ∀ char ∈ text.toList, char.isDigit = true) :
    (padTimestamp text).toList =
      List.replicate (13 - text.toList.length) '0' ++ text.toList := by
  unfold padTimestamp
  rw [String.toList_append, String.toList_ofList, js_length_digits digits]

theorem padded_digits (digits : ∀ char ∈ text.toList, char.isDigit = true) :
    ∀ char ∈ (padTimestamp text).toList, char.isDigit = true := by
  intro char member
  rw [pad_timestamp_to_list digits] at member
  rcases List.mem_append.mp member with zero | inText
  · rw [List.eq_of_mem_replicate zero]
    rfl
  · exact digits char inText

theorem padded_length (digits : ∀ char ∈ text.toList, char.isDigit = true)
    (short : text.toList.length ≤ 13) : (padTimestamp text).toList.length = 13 := by
  rw [pad_timestamp_to_list digits, List.length_append, List.length_replicate]
  omega

theorem padded_value (digits : ∀ char ∈ text.toList, char.isDigit = true) :
    valueOf 10 (padTimestamp text).toList = valueOf 10 text.toList := by
  rw [pad_timestamp_to_list digits, value_zeros]

theorem short_value (digits : ∀ char ∈ text.toList, char.isDigit = true)
    (short : text.toList.length ≤ 13) : valueOf 10 text.toList < 10000000000000 := by
  have below := value_lt _ (padded_digits digits)
  rw [padded_value digits, padded_length digits short] at below
  exact below

theorem digits_number (numbers : host.numberOfText = ofText)
    (digits : IsDigits text.toList) (small : valueOf 10 text.toList < 9007199254740992) :
    timestampNumber host (.string text) = some ((valueOf 10 text.toList : Nat) : Rat) := by
  change host.numberOfText text = _
  rw [numbers, of_text_digits text digits small]

theorem digits_date (numbers : host.numberOfText = ofText)
    (digits : IsDigits text.toList) (short : text.toList.length ≤ 13) :
    dateText host (.string (padTimestamp text)) =
      .ok (isoString (valueOf 10 text.toList : Nat)) := by
  have small := short_value digits.2 short
  have value := padded_value digits.2
  have padded : IsDigits (padTimestamp text).toList := by
    refine ⟨?_, padded_digits digits.2⟩
    intro empty
    have length := padded_length digits.2 short
    rw [empty] at length
    cases length
  unfold dateText
  rw [digits_number numbers padded (by omega), value, time_clip_natural _ (by omega)]

theorem padded_below_iff (left right : String)
    (leftDigits : ∀ char ∈ left.toList, char.isDigit = true) (leftShort : left.toList.length ≤ 13)
    (rightDigits : ∀ char ∈ right.toList, char.isDigit = true)
    (rightShort : right.toList.length ≤ 13) :
    textBelow (padTimestamp left) (padTimestamp right) = true ↔
      valueOf 10 left.toList < valueOf 10 right.toList := by
  unfold textBelow
  rw [units_of_digits _ (padded_digits leftDigits),
    units_of_digits _ (padded_digits rightDigits), units_below_iff _ _ ?_
      (padded_digits leftDigits) (padded_digits rightDigits),
    padded_value leftDigits, padded_value rightDigits]
  rw [padded_length leftDigits leftShort, padded_length rightDigits rightShort]

/-- The stored timestamp is ordered as its number is against the timestamp that is stored for
the digits of every whole number of milliseconds. -/
def OrderedAmongDigits {host : CleanRoomHost} (event : AcceptedEvent host) : Prop :=
  ∀ number : Nat, number ≤ 9999999999999 →
    (storedBelow event.stored (some (padTimestamp (toString number))) ↔
      numberBelow event.submitted (some number)) ∧
    (storedBelow (some (padTimestamp (toString number))) event.stored ↔
      numberBelow (some number) event.submitted)

theorem number_short (small : number ≤ 9999999999999) :
    (toString number).toList.length ≤ 13 := by
  have digits : (toString number).toList = Nat.toDigits 10 number := Nat.toList_repr
  rw [digits]
  exact (Nat.length_toDigits_le_iff (by decide) (by decide)).mpr (by omega)

theorem ordered_of_milliseconds {host : CleanRoomHost} (numbers : host.ccf.numberOfText = ofText)
    (first second : AcceptedEvent host) (firstDigits : first.Milliseconds)
    (secondDigits : second.Milliseconds) :
    storedBelow first.stored second.stored ↔ numberBelow first.submitted second.submitted := by
  obtain ⟨left, leftGiven, leftDigits, leftShort⟩ := firstDigits
  obtain ⟨right, rightGiven, rightDigits, rightShort⟩ := secondDigits
  have leftSmall := short_value leftDigits.2 leftShort
  have rightSmall := short_value rightDigits.2 rightShort
  unfold AcceptedEvent.submitted
  rw [first.stored_eq left leftGiven, second.stored_eq right rightGiven, leftGiven, rightGiven,
    digits_number numbers leftDigits (by omega),
    digits_number numbers rightDigits (by omega)]
  unfold storedBelow numberBelow
  dsimp only
  rw [padded_below_iff left right leftDigits.2 leftShort rightDigits.2 rightShort, Nat.cast_lt]

theorem digits_of_padded_eq (small : number ≤ 9999999999999)
    (same : utf16Units (padTimestamp text) = utf16Units (padTimestamp (toString number))) :
    (∀ char ∈ text.toList, char.isDigit = true) ∧ text.toList.length ≤ 13 := by
  have numberDigits := (number_digits number).2
  have units := units_of_digits _ (padded_digits numberDigits)
  have paddedAll : ∀ char ∈ (padTimestamp text).toList, char.isDigit = true := by
    apply digits_of_units
    intro unit member
    rw [same, units] at member
    obtain ⟨char, inside, rfl⟩ := List.mem_map.mp member
    simpa [Char.isDigit, UInt32.le_iff_toNat_le] using padded_digits numberDigits char inside
  have digits : ∀ char ∈ text.toList, char.isDigit = true := by
    intro char member
    apply paddedAll
    unfold padTimestamp
    rw [String.toList_append]
    exact List.mem_append_right _ member
  have lengths := congrArg List.length same
  rw [units, units_of_digits _ paddedAll, List.length_map, List.length_map,
    padded_length numberDigits (number_short small), pad_timestamp_to_list digits,
    List.length_append] at lengths
  exact ⟨digits, by omega⟩

theorem ordered_among_digits_iff {host : CleanRoomHost} (numbers : host.ccf.numberOfText = ofText)
    (event : AcceptedEvent host) (value : Nat) (whole : event.submitted = some (value : Rat)) :
    OrderedAmongDigits event ↔ event.Milliseconds := by
  obtain ⟨text, data, given, named, notLarge, _⟩ := event.transaction_eq
  have number : timestampNumber host.ccf (.string text) = some (value : Rat) := by
    rw [← given]
    exact whole
  have small : value ≤ 9999999999999 := by
    rw [number] at notLarge
    have bound : (value : Rat) ≤ 9999999999999 := not_lt.mp (of_decide_eq_false notLarge)
    exact_mod_cast bound
  constructor
  · intro ordered
    obtain ⟨below, above⟩ := ordered value small
    rw [event.stored_eq text given, whole] at below above
    have same : utf16Units (padTimestamp text) = utf16Units (padTimestamp (toString value)) :=
      units_below_total _ _ (fun less => lt_irrefl _ (below.mp less))
        (fun more => lt_irrefl _ (above.mp more))
    obtain ⟨digits, short⟩ := digits_of_padded_eq small same
    refine ⟨text, given, ⟨?_, digits⟩, short⟩
    intro empty
    exact named (String.toList_inj.mp empty)
  · rintro ⟨other, otherGiven, digits, short⟩ number bound
    cases given.symm.trans otherGiven
    have read := digits_number numbers digits (by have := short_value digits.2 short; omega)
    rw [event.stored_eq text given]
    unfold AcceptedEvent.submitted
    rw [given, read]
    unfold storedBelow numberBelow
    dsimp only
    rw [padded_below_iff text _ digits.2 short (number_digits number).2
        (number_short bound),
      padded_below_iff _ text (number_digits number).2 (number_short bound) digits.2 short,
      value_of_number, Nat.cast_lt, Nat.cast_lt]
    exact ⟨Iff.rfl, Iff.rfl⟩

def numberHost : CleanRoomHost :=
  { sampleCleanRoomHost with
    ccf := { sampleCleanRoomHost.ccf with numberOfText := ofText } }

def dateHistory : HistoryHost := { oneMillisecond with toISOString := dateText numberHost.ccf }

def stampedBody (text : String) : JsValue :=
  .object [
    ("sign", .object [
      ("publicKey", encoded (Encodings.utf8GetBytes attestedKey)),
      ("signature", encoded (Encodings.utf8GetBytes attestedKey ++
        Encodings.utf8GetBytes samplePayload))]),
    ("data", encoded (Encodings.utf8GetBytes samplePayload)),
    ("timestamp", .string text)]

theorem stamped_event_written (named : (JsValue.string text).truthy = true)
    (small : isTooLarge (ofText text) = false) :
    putEventTransaction numberHost eventCaller "c" (scopeQuery none) (stampedBody text) noEvents =
      .ok [⟨eventsMap "c" none, "x",
        some (storedItem text (.object [("value", .string "s")]))⟩] := by
  have inScope := query_scope_of_query none nofun
  have withId := query_id_of_query none nofun "c"
  obtain ⟨key, keyed⟩ : ∃ key, toEventsPolicyKey "c" = .ok key := ⟨_, rfl⟩
  have admitted : verifyPolicyClaims noEvents.app.policySource "c"
      [("x-ms-sevsnpvm-hostdata", .string "01")] (some [key]) = .ok () := by
    have matched : matchPolicyClaims (policyProps hostDataPolicy)
        [("x-ms-sevsnpvm-hostdata", .string "01")] = .ok true := by decide +kernel
    exact verify_policy_claims_of_contract _ _ _ _ rfl matched
  have verified : verifiedPayload numberHost (stampedBody text) =
      .ok (Encodings.utf8GetBytes samplePayload) :=
    sample_payload_verified attestedKey samplePayload attested_key_plain
  have present : requirePart (stampedBody text) "timestamp" "TimestampMissing"
      "Timestamp must be supplied." = .ok () := by
    change (if (JsValue.string text).truthy = true then _ else _) = _
    rw [named]
    rfl
  have notLarge : isTooLarge (timestampNumber numberHost.ccf ((stampedBody text).field
      "timestamp")) = false := small
  have put : putEvent numberHost eventCaller "c" (scopeQuery none) (stampedBody text)
      noEvents.app = .ok (noEvents.app.set (eventsMap "c" none) "x"
        (storedItem text (.object [("value", .string "s")]))) := by
    unfold putEvent
    dsimp only
    refine (guarded_eq_ok _ _ _ _).mpr ⟨nofun, bind_eq_ok.mpr ⟨(), rfl,
      bind_eq_ok.mpr ⟨(), present, ?_⟩⟩⟩
    rw [notLarge]
    refine bind_eq_ok.mpr ⟨key, congrArg orThrow keyed, bind_eq_ok.mpr
      ⟨(), congrArg (orRefuse "VerifyJwtAttestationFailed") admitted, bind_eq_ok.mpr
        ⟨_, verified, bind_eq_ok.mpr ⟨.object [("value", .string "s")], rfl,
          bind_eq_ok.mpr ⟨padTimestamp text, rfl, ?_⟩⟩⟩⟩⟩
    rw [events_map_of_query, inScope, withId]
    rfl
  refine bind_eq_ok.mpr ⟨_, put, ?_⟩
  dsimp only
  rw [events_map_of_query, inScope, withId, AppStore.get_set_same]
  rfl

def stampedEvent (text : String) (named : (JsValue.string text).truthy = true)
    (small : isTooLarge (ofText text) = false) : AcceptedEvent numberHost where
  caller := eventCaller
  contractId := "c"
  query := scopeQuery none
  body := stampedBody text
  store := noEvents
  transaction := [⟨eventsMap "c" none, "x",
    some (storedItem text (.object [("value", .string "s")]))⟩]
  accepted := stamped_event_written named small

/-- Events whose timestamps are texts of one to thirteen digits render in every later listing
and are ordered as they should be. Of the events whose timestamp is a whole number, no others
are ordered among them. -/
theorem event_timestamps_sound (host : CleanRoomHost) (history : HistoryHost)
    (numbers : host.ccf.numberOfText = ofText) (dates : history.toISOString = dateText host.ccf) :
    (∀ first second : AcceptedEvent host, first.Milliseconds → second.Milliseconds →
      TimestampsSound first second history) ∧
    ∀ (event : AcceptedEvent host) (value : Nat), event.submitted = some (value : Rat) →
      (OrderedAmongDigits event ↔ event.Milliseconds) := by
  have renders : ∀ event : AcceptedEvent host, event.Milliseconds → event.Renders history := by
    rintro event ⟨text, given, digits, short⟩
    apply event.renders_of_date history text _ given
    rw [dates]
    exact digits_date numbers digits short
  refine ⟨?_, ordered_among_digits_iff numbers⟩
  intro first second firstDigits secondDigits
  exact ⟨renders first firstDigits, renders second secondDigits,
    ordered_of_milliseconds numbers first second firstDigits secondDigits⟩

theorem two_timestamps_sound :
    TimestampsSound (stampedEvent "5" rfl (by decide +kernel))
      (stampedEvent "1700000000000" rfl (by decide +kernel)) dateHistory ∧
    (OrderedAmongDigits (stampedEvent "5" rfl (by decide +kernel)) ↔
      (stampedEvent "5" rfl (by decide +kernel)).Milliseconds) := by
  obtain ⟨sound, exact⟩ := event_timestamps_sound numberHost dateHistory rfl rfl
  refine ⟨sound _ _ ⟨"5", rfl, ⟨by decide, List.all_eq_true.mp (by decide)⟩, by decide⟩
    ⟨"1700000000000", rfl, ⟨by decide, List.all_eq_true.mp (by decide)⟩, by decide⟩, exact _ 5 ?_⟩
  change ofText "5" = some ((5 : Nat) : Rat)
  decide +kernel

/-- A timestamp that is no number is accepted, and the listing of the event raises. -/
theorem text_timestamp_raises :
    ∃ event : AcceptedEvent numberHost,
      event.body.field "timestamp" = .string "abc" ∧
      historicalEvent dateHistory event.map "" event.id (event.later event.store.ledger [])
        event.seqno = raise "RangeError: Invalid time value" ∧
      ¬event.Renders dateHistory := by
  have raised : historicalEvent dateHistory
      (stampedEvent "abc" rfl (by decide +kernel)).map ""
      (stampedEvent "abc" rfl (by decide +kernel)).id
      ((stampedEvent "abc" rfl (by decide +kernel)).later noEvents.ledger [])
      (stampedEvent "abc" rfl (by decide +kernel)).seqno =
        raise "RangeError: Invalid time value" := by
    unfold historicalEvent
    rw [AcceptedEvent.historical_item (stampedEvent "abc" rfl (by decide +kernel)) noEvents.ledger
      [] (storedItem "abc" (.object [("value", .string "s")])) ?_]
    · have thrown : dateText numberHost.ccf (.string (padTimestamp "abc")) =
          .error "RangeError: Invalid time value" := by decide +kernel
      change (do
        let _ ← orThrow (dateText numberHost.ccf (.string (padTimestamp "abc")))
        _) = _
      rw [thrown]
      rfl
    · unfold AcceptedEvent.map AcceptedEvent.id
      rw [show (stampedEvent "abc" rfl (by decide +kernel)).query = scopeQuery none from rfl,
        query_scope_of_query none nofun, query_id_of_query none nofun]
      rfl
  refine ⟨stampedEvent "abc" rfl (by decide +kernel), rfl, raised, ?_⟩
  intro renders
  obtain ⟨entry, rendered⟩ := renders.byRange noEvents.ledger [] ""
  cases raised.symm.trans rendered

end CleanRoom.Governance
