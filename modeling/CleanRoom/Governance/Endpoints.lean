import CleanRoom.Governance.Host

/-!
# The endpoints that write drafts

`putContract` and `putMemberDocument` of the governance app. A draft carries the
sequence number of its last write, from which the version that a client has to
present is built. A request that is refused leaves no ledger behind, because the
app writes only after its last check.
-/

namespace CleanRoom.Governance

open JavaScript

structure ErrorResponse where
  statusCode : Nat
  code : String
  message : String
deriving DecidableEq

inductive RequestFailure where
  | response (error : ErrorResponse)
  | thrown (error : String)
deriving DecidableEq

def bodyField (body : JsValue) (key : String) : Except RequestFailure JsValue :=
  match body.get key with
  | .ok value => .ok value
  | .error error => .error (.thrown error)

theorem body_field_ok (body value : JsValue) (key : String)
    (read : bodyField body key = .ok value) : value = body.field key := by
  unfold bodyField at read
  split at read
  · rename_i found got
    cases read
    exact JsValue.get_ok body _ key got
  · cases read

def refuse {Value : Type} (statusCode : Nat) (code message : String) :
    Except RequestFailure Value :=
  .error (.response { statusCode, code, message })

/-- `text == value`, with the conversions that `==` makes. -/
def looselyEquals (host : CcfHost) (text : String) : JsValue → Bool
  | .string other => text == other
  | .number other => host.numberOfText text == some other
  | .bool other => host.numberOfText text == some (if other then 1 else 0)
  | .undefined => false
  | .null => false
  | other => text == host.text other

structure DraftKind where
  existsCode : String
  noun : String

def existsMessage (kind : DraftKind) : String :=
  let noun := kind.noun
  s!"The specified {noun} already exists. If the intent was to update the " ++
    s!"existing {noun} then retry the " ++
    "request after reading the latest version of the resource and setting the version on " ++
    "the request."

def preconditionMessage : String :=
  "The operation specified a version that is different from the version " ++
    "available at the server, that is, an optimistic concurrency error. Retry the " ++
    "request after reading the latest version of the resource and updating the version on " ++
    "the request."

def checkVersion (host : CcfHost) (kind : DraftKind) (drafts : Table Versioned) (id : String)
    (incomingVersion : JsValue) : Except RequestFailure Unit :=
  match drafts.lookup id with
  | none => .ok ()
  | some draft =>
      match host.getViewForSeqno draft.seqno with
      | none => refuse 503 "ViewNotKnown"
          "View for given sequence number not known to the node at this time."
      | some view =>
          if !incomingVersion.truthy then refuse 409 kind.existsCode (existsMessage kind)
          else
            let seqno := draft.seqno
            if looselyEquals host s!"{view}.{seqno}" incomingVersion then .ok ()
            else refuse 412 "PreconditionFailed" preconditionMessage

def Ledger.nextSeqno (ledger : Ledger) : Nat := ledger.seqno + 1

def putContract (host : CcfHost) (id : String) (body : JsValue) (ledger : Ledger) :
    Except RequestFailure Ledger := do
  if ledger.kvHas (.fixed .acceptedContracts) id then
    refuse 405 "ContractAlreadyAccepted" "An accepted contract cannot be changed."
  else
    let data ← bodyField body "data"
    if !data.truthy then
      refuse 400 "DataMissing" "data key must be present in contract payload."
    else
      let incomingVersion ← bodyField body "version"
      checkVersion host ⟨"ContractAlreadyExists", "contract"⟩ ledger.contracts id incomingVersion
      let draft : Versioned := ⟨jsonObject [("data", data)], ledger.nextSeqno⟩
      return { ledger with contracts := ledger.contracts.insert id draft }

/-- `contractsStore.has(contractId)`: the key converter accepts only a string. -/
def contractDraftExists (ledger : Ledger) : JsValue → Except RequestFailure Bool
  | .string contractId => .ok (ledger.contracts.lookup contractId).isSome
  | _ => .error (.thrown "TypeError: Argument must be a string")

def putMemberDocument (host : CcfHost) (id : String) (body : JsValue) (ledger : Ledger) :
    Except RequestFailure Ledger := do
  if ledger.kvHas (.fixed .acceptedMemberDocuments) id then
    refuse 405 "DocumentAlreadyAccepted" "An accepted document cannot be changed."
  else
    let contractId ← bodyField body "contractId"
    if !contractId.truthy then
      refuse 400 "ContractIdMissing" "ContractId must be specified in document payload."
    else
      let data ← bodyField body "data"
      if !data.truthy then
        refuse 400 "DataMissing" "data key must be present in document payload."
      else if !(← contractDraftExists ledger contractId) then
        refuse 404 "ContractNotFound" "A contract with the specified id was not found."
      else
        let incomingVersion ← bodyField body "version"
        checkVersion host ⟨"DocumentAlreadyExists", "document"⟩ ledger.documents id
          incomingVersion
        let draft : Versioned :=
          ⟨jsonObject [("contractId", contractId), ("data", data)], ledger.nextSeqno⟩
        return { ledger with documents := ledger.documents.insert id draft }

variable {host : CcfHost} {body : JsValue} {id : String}

theorem put_contract_ok (ledger after : Ledger)
    (put : putContract host id body ledger = .ok after) :
    ∃ value, checkVersion host ⟨"ContractAlreadyExists", "contract"⟩ ledger.contracts id
        (body.field "version") = .ok () ∧
      after = { ledger with
        contracts := ledger.contracts.insert id ⟨value, ledger.nextSeqno⟩ } := by
  unfold putContract at put
  obtain ⟨_, put⟩ := Throwing.of_guard put
  obtain ⟨data, _, checked⟩ := Throwing.of_bind put
  obtain ⟨_, checked⟩ := Throwing.of_guard checked
  obtain ⟨version, read, versioned⟩ := Throwing.of_bind checked
  obtain ⟨_, current, written⟩ := Throwing.of_bind versioned
  cases written
  exact ⟨_, body_field_ok _ _ _ read ▸ current, rfl⟩

theorem put_member_document_ok
    (ledger after : Ledger) (put : putMemberDocument host id body ledger = .ok after) :
    ∃ value, checkVersion host ⟨"DocumentAlreadyExists", "document"⟩ ledger.documents id
        (body.field "version") = .ok () ∧
      after = { ledger with
        documents := ledger.documents.insert id ⟨value, ledger.nextSeqno⟩ } := by
  unfold putMemberDocument at put
  obtain ⟨_, put⟩ := Throwing.of_guard put
  obtain ⟨contractId, _, named⟩ := Throwing.of_bind put
  obtain ⟨_, named⟩ := Throwing.of_guard named
  obtain ⟨data, _, checked⟩ := Throwing.of_bind named
  obtain ⟨_, checked⟩ := Throwing.of_guard checked
  obtain ⟨drafted, _, known⟩ := Throwing.of_bind checked
  obtain ⟨_, known⟩ := Throwing.of_guard known
  obtain ⟨version, read, versioned⟩ := Throwing.of_bind known
  obtain ⟨_, current, written⟩ := Throwing.of_bind versioned
  cases written
  exact ⟨_, body_field_ok _ _ _ read ▸ current, rfl⟩

theorem put_contract_keeps_governance
    (ledger after : Ledger) (put : putContract host id body ledger = .ok after) :
    after.members = ledger.members ∧ after.proposals = ledger.proposals ∧
      after.gov = ledger.gov := by
  obtain ⟨value, _, rfl⟩ := put_contract_ok ledger after put
  exact ⟨rfl, rfl, rfl⟩

theorem put_member_document_keeps_governance
    (ledger after : Ledger) (put : putMemberDocument host id body ledger = .ok after) :
    after.members = ledger.members ∧ after.proposals = ledger.proposals ∧
      after.gov = ledger.gov := by
  obtain ⟨value, _, rfl⟩ := put_member_document_ok ledger after put
  exact ⟨rfl, rfl, rfl⟩

end CleanRoom.Governance
