import CleanRoom.Governance.AttestedKey

/-!
# Reading events

`listEvents` of `events.ts`. The key-value store of CCF keeps, for each transaction,
what it wrote to each map: the latest value of a key is read from all of them, and a
historical state gives what one transaction wrote. Consensus and the cache of
historical states are parameters, and so are `parseInt` and the text of a date.
-/

namespace CleanRoom.Governance

open JavaScript Throwing

structure MapWrite where
  map : String
  key : String
  value : Option JsValue

abbrev Transaction := List MapWrite

/-- The governance tables as they are now, and the transactions of the app from the first
sequence number on. -/
structure KeyValueStore where
  ledger : Ledger
  transactions : List Transaction

def Transaction.ofMap (map : String) (transaction : Transaction) : Transaction :=
  transaction.filter fun write => write.map = map

def applyWrite (rows : Table JsValue) (write : MapWrite) : Table JsValue :=
  match write.value with
  | some value => rows.insert write.key value
  | none => rows.erase write.key

namespace KeyValueStore

def commit (store : KeyValueStore) (transactions : List Transaction) : KeyValueStore :=
  { store with transactions := store.transactions ++ transactions }

def history (store : KeyValueStore) (map : String) : List Transaction :=
  store.transactions.map (Transaction.ofMap map)

def rows (store : KeyValueStore) (map : String) : Table JsValue :=
  (store.history map).flatten.foldl applyWrite ∅

def app (store : KeyValueStore) : AppStore := ⟨store.ledger, store.rows⟩

/-- `getVersionOfPreviousWrite`, which knows a key only while it has a value. -/
def versionOfPreviousWrite (store : KeyValueStore) (map key : String) : Option Nat :=
  if (store.rows map).lookup key |>.isSome then
    (store.history map).zipIdx.reverse.findSome? fun (writes, index) =>
      if writes.any fun write => write.key = key then some (index + 1) else none
  else none

def historicalValue (store : KeyValueStore) (map key : String) (seqno : Nat) : Option JsValue :=
  (((store.history map).getD (seqno - 1) []).foldl applyWrite ∅).lookup key

end KeyValueStore

structure HistoryHost where
  /-- `parseInt` of a text, `none` for `NaN`. -/
  parseInt : String → Option Rat
  /-- `new Date(Number(value)).toISOString()` -/
  toISOString : JsValue → Except String String
  lastCommittedSeqno : Nat
  getViewForSeqno : Rat → Option Nat
  getStatusForTxId : Nat → Rat → String
  /-- The sequence numbers of the states in a range for a handle and a number of seconds,
  once they have been fetched. -/
  getStateRange : Nat → Rat → Rat → Nat → Except String (Option (List Nat))

inductive EventsResponse where
  /-- The states of the range are not there yet: status 202, to be retried after a second. -/
  | retryLater
  | events (value : List JsValue) (nextLink : Option String)

def latestEvent (history : HistoryHost) (map scope id : String) (store : KeyValueStore) :
    Except RequestFailure EventsResponse :=
  match (store.rows map).lookup id with
  | none => .ok (.events [] none)
  | some item => do
      let timestampIso ← orThrow (history.toISOString (item.field "timestamp"))
      let seqno := match store.versionOfPreviousWrite map id with
        | some version => .number version
        | none => .undefined
      return .events
        [jsonObject [("scope", .string scope), ("id", .string id), ("seqno", seqno),
          ("timestamp", item.field "timestamp"), ("timestamp_iso", .string timestampIso),
          ("data", item.field "data")]] none

def seqnoParam (history : HistoryHost) (query name : String) (absent : Rat) :
    Except RequestFailure Rat :=
  match queryValue query name with
  | .string text =>
      match history.parseInt text with
      | some number => .ok number
      | none => raise s!"{name} is not an integer"
  | _ => .ok absent

def rangeEndDefault (history : HistoryHost) (map id : String) (store : KeyValueStore) : Rat :=
  match store.versionOfPreviousWrite map id with
  | some version => version
  | none => history.lastCommittedSeqno

def checkCommitted (history : HistoryHost) (seqno : Rat) : Except RequestFailure Unit :=
  match history.getViewForSeqno seqno with
  | some view =>
      if history.getStatusForTxId view seqno = "Committed" then .ok ()
      else raise "End of range must be committed"
  | none => raise "End of range must be committed"

def makeHandle (host : CcfHost) (rangeBegin rangeEnd : Rat) (id : String) : Nat :=
  let cacheKey := host.numberText rangeBegin ++ "-" ++ host.numberText rangeEnd ++ "-" ++ id
  ((host.sha256Digest cacheKey).take 4).foldl (fun handle byte => handle * 256 + byte.toNat) 0

def expirySeconds : Nat := 1800

def historicalEvent (history : HistoryHost) (map scope id : String) (store : KeyValueStore)
    (seqno : Nat) : Except RequestFailure (List JsValue) :=
  match store.historicalValue map id seqno with
  | none => .ok []
  | some item => do
      let timestampIso ← orThrow (history.toISOString (item.field "timestamp"))
      return [jsonObject [("scope", .string scope), ("id", .string id), ("seqno", .number seqno),
        ("timestamp", item.field "timestamp"), ("timestampIso", .string timestampIso),
        ("data", item.field "data")]]

def jsMin (left right : Rat) : Rat := if left ≤ right then left else right

def nextPage (host : CcfHost) (history : HistoryHost) (contractId scope id : String)
    (rangeEnd toSeqno maxSeqnoPerPage : Rat) : Except RequestFailure (Option String) :=
  if rangeEnd ≠ toSeqno then do
    let nextPageStart := rangeEnd + 1
    let nextPageEnd := jsMin toSeqno (nextPageStart + maxSeqnoPerPage)
    let _ ← orThrow (history.getStateRange (makeHandle host nextPageStart nextPageEnd id)
      nextPageStart nextPageEnd expirySeconds)
    let start := host.numberText nextPageStart
    let stop := host.numberText toSeqno
    return some (s!"/app/contracts/{contractId}/events?from_seqno={start}&to_seqno={stop}" ++
      s!"&id={id}&scope={scope}")
  else return none

def eventRange (host : CcfHost) (history : HistoryHost) (contractId query map scope id : String)
    (store : KeyValueStore) : Except RequestFailure EventsResponse := do
  let fromSeqno ← seqnoParam history query "from_seqno" 1
  let toSeqno ← seqnoParam history query "to_seqno" (rangeEndDefault history map id store)
  if toSeqno < fromSeqno then raise "to_seqno must be >= from_seqno"
  else
    let maxSeqnoPerPage ← seqnoParam history query "max_seqno_per_page" 2000
    checkCommitted history toSeqno
    let rangeEnd := jsMin toSeqno (fromSeqno + maxSeqnoPerPage)
    match ← orThrow (history.getStateRange (makeHandle host fromSeqno rangeEnd id) fromSeqno
      rangeEnd expirySeconds) with
    | none => return .retryLater
    | some states =>
        let entries ← states.mapM (historicalEvent history map scope id store)
        let nextLink ← nextPage host history contractId scope id rangeEnd toSeqno maxSeqnoPerPage
        return .events entries.flatten nextLink

def scopeText (query : String) : String :=
  match queryValue query "scope" with
  | .string scope => scope
  | _ => ""

def listEvents (host : CcfHost) (history : HistoryHost) (caller : Caller)
    (contractId query : String) (store : KeyValueStore) :
    Except RequestFailure EventsResponse := do
  validateCallerAuthorized host store.ledger caller
  let id := getIdFromQuery query contractId
  let scope := scopeText query
  let map := getEventsMapName contractId (.string scope)
  if !(queryValue query "from_seqno").truthy && !(queryValue query "to_seqno").truthy then
    latestEvent history map scope id store
  else eventRange host history contractId query map scope id store

def putEventTransaction (host : CleanRoomHost) (caller : Caller) (contractId query : String)
    (body : JsValue) (store : KeyValueStore) : Except RequestFailure Transaction := do
  let after ← putEvent host caller contractId query body store.app
  let map := getEventsMapName contractId (queryValue query "scope")
  let id := getIdFromQuery query contractId
  return [⟨map, id, after.get map id⟩]

end CleanRoom.Governance
