import CleanRoom.Governance.UserDocuments

/-!
# Reading contracts

`getContract` of the governance app. A contract is reported as accepted, or else as proposed,
or else as a draft. Where several proposals are open for it the app means to report the first
one and reports the last. The governance tables do not keep the sequence numbers of their rows
here, so that of an accepted contract is given.
-/

namespace CleanRoom.Governance

open JavaScript

def versionText (view seqno : Nat) : String := s!"{view}.{seqno}"

def versionOf (host : CcfHost) (seqno : Nat) : Except RequestFailure JsValue :=
  match host.getViewForSeqno seqno with
  | none => refuse 503 "ViewNotKnown"
      "View for given sequence number not known to the node at this time."
  | some view => .ok (.string (versionText view seqno))

def isTrue : JsValue → Bool
  | .bool value => value
  | _ => false

def listedVotes (item : JsValue) : JsValue :=
  match item.field "finalVotes" with
  | .object votes => .array (votes.map fun vote =>
      .object [("memberId", .string vote.1), ("vote", .bool (isTrue vote.2))])
  | _ => .array []

def proposedBody (ledger : Ledger) (name : ActionName) (idKey id : String)
    (body : String → JsValue → Except RequestFailure JsValue) :
    Except RequestFailure (Option JsValue) :=
  ledger.proposals.entries.foldlM (fun found row =>
    row.2.actions.foldlM (fun found action => do
      if action.name = name then
        if (← bodyField action.args idKey).isString id && row.2.state = .opened then
          return some (← body row.1 action.args)
        else return found
      else return found) found) none

def proposedContractBody (id proposalId : String) (args : JsValue) :
    Except RequestFailure JsValue := do
  let contract ← bodyField args "contract"
  let data ← bodyField contract "data"
  return jsonObject [("id", .string id), ("state", .string "Proposed"), ("data", data),
    ("version", contract.field "version"), ("proposalId", .string proposalId)]

def contractDraft (id : String) (version item : JsValue) : JsValue :=
  jsonObject [("id", .string id), ("state", .string "Draft"), ("version", version),
    ("data", item.field "data"), ("proposalId", .string "")]

def getContract (host : CcfHost) (caller : Caller) (acceptedAt : String → Nat) (id : String)
    (ledger : Ledger) : Except RequestFailure JsValue := do
  validateCallerAuthorized host ledger caller
  match ledger.kvGet (.fixed .acceptedContracts) id with
  | some item =>
      let version ← versionOf host (acceptedAt id)
      return jsonObject [("id", .string id), ("version", version), ("state", .string "Accepted"),
        ("data", item.field "data"), ("proposalId", item.field "proposalId"),
        ("finalVotes", listedVotes item)]
  | none =>
      match ← proposedBody ledger .setContract "contractId" id (proposedContractBody id) with
      | some body => return body
      | none =>
          match ledger.contracts.lookup id with
          | some draft => return contractDraft id (← versionOf host draft.seqno) draft.value
          | none =>
              refuse 404 "ContractNotFound" "A contract with the specified id was not found."

end CleanRoom.Governance
