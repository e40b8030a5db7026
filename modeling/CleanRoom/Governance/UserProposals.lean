import CleanRoom.Governance.Callers

/-!
# User proposals

`putUserProposal`, `withdrawUserProposal` and `submitUserProposalBallot` of the
governance app, with the one action a user can propose. The body of a proposal
is kept as the JSON that was sent, because the app checks little of it: what the
ballots are counted against is whatever the body holds under `approvers`. An
endpoint that throws leaves the store as it was.
-/

namespace CleanRoom.Governance

open JavaScript Throwing

inductive UserProposalState where
  | opened
  | accepted
  | rejected
  | withdrawn
deriving DecidableEq

def UserProposalState.name : UserProposalState → String
  | .opened => "Open"
  | .accepted => "Accepted"
  | .rejected => "Rejected"
  | .withdrawn => "Withdrawn"

inductive BallotValue where
  | accepted
  | rejected
deriving DecidableEq

structure UserBallot where
  approverId : String
  ballot : BallotValue
deriving DecidableEq

structure UserProposalInfoItem where
  proposerId : String
  state : UserProposalState
  ballots : List UserBallot
deriving DecidableEq

/-- A row of `public:accepted_user_documents`, with the transaction that wrote it. -/
structure AcceptedUserDocument where
  contractId : JsValue
  data : JsValue
  labels : JsValue
  proposalId : String
  proposerId : String
  approvers : JsValue
  finalVotes : List UserBallot
  seqno : Nat

inductive RuntimeOptionStatus where
  | enabled
  | disabled
deriving DecidableEq

/-- The tables of the user documents beside those of the governance. A proposal
has exactly one action, which is the body it was created with. -/
structure UserStore where
  ledger : Ledger
  userDocuments : Table Versioned
  acceptedUserDocuments : Table AcceptedUserDocument
  userProposals : Table JsValue
  userProposalsInfo : Table UserProposalInfoItem
  /-- The map that each row of `public:user_documents_runtime_option_status`
  serializes, in insertion order. -/
  runtimeOptionStatus : Table (List (String × RuntimeOptionStatus))

def hasLengthZero (value : JsValue) : Except RequestFailure Bool :=
  match value with
  | .undefined => raise "TypeError: cannot read property 'length' of undefined"
  | .null => raise "TypeError: cannot read property 'length' of null"
  | present => .ok ((lengthProperty present).sameValueZero (.number 0))

/-- The array on which `find` and `every` are called. -/
def arrayItems : JsValue → Except RequestFailure (List JsValue)
  | .array items => .ok items
  | .undefined => raise "TypeError: cannot read property 'find' of undefined"
  | .null => raise "TypeError: cannot read property 'find' of null"
  | _ => raise "TypeError: not a function"

def proposesDocument (store : UserStore) (name documentId : String)
    (row : Sigma fun _ : String => JsValue) : Except RequestFailure Bool := do
  if (← bodyField row.2 "name").isString name then
    let args ← bodyField row.2 "args"
    if (← bodyField args "documentId").isString documentId then
      match store.userProposalsInfo.lookup row.1 with
      | none => raise "TypeError: cannot read property 'state' of undefined"
      | some proposalInfo => return decide (proposalInfo.state = .opened)
    else return false
  else return false

def collectProposals (store : UserStore) (name documentId : String) :
    List (Sigma fun _ : String => JsValue) → Except RequestFailure (List String)
  | [] => .ok []
  | row :: rest => do
      let hit ← proposesDocument store name documentId row
      let later ← collectProposals store name documentId rest
      return if hit then row.1 :: later else later

def findOpenUserProposals (store : UserStore) (name documentId : String) :
    Except RequestFailure (List String) :=
  collectProposals store name documentId store.userProposals.entries

/-- `has` of a table with string keys. -/
def keyText : JsValue → Except RequestFailure String
  | .string key => .ok key
  | _ => raise "TypeError: Argument must be a string"

def validateSetUserDocument (store : UserStore) (name : String) (args : JsValue) :
    Except RequestFailure Unit := do
  match ← bodyField args "documentId" with
  | .undefined =>
      refuse 400 "InvalidUserDocumentId"
        "The UserDocumentId is required for set_user_document action."
  | documentId =>
      let documentId ← keyText documentId
      if (store.acceptedUserDocuments.lookup documentId).isSome then
        refuse 405 "UserDocumentAlreadyAccepted"
          "The specified document has already been accepted."
      else
        let openProposals ← findOpenUserProposals store name documentId
        if openProposals.isEmpty then return ()
        else
          let listed := String.intercalate "," (openProposals.map jsonQuoted)
          refuse 409 "UserDocumentAlreadyProposed"
            s!"Proposal [{listed}] for the specified documentId already exists."

def applySetUserDocument (args : JsValue) (proposalId proposerId : String)
    (approvers : JsValue) (ballots : List UserBallot) (store : UserStore) :
    Except RequestFailure UserStore := do
  let documentId ← bodyField args "documentId"
  let document ← bodyField args "document"
  let contractId ← bodyField document "contractId"
  let item : AcceptedUserDocument :=
    { contractId := contractId
      data := document.field "data"
      labels := document.field "labels"
      proposalId := proposalId
      proposerId := proposerId
      approvers := approvers
      finalVotes := ballots
      seqno := store.ledger.nextSeqno }
  let key ← keyText documentId
  return { store with acceptedUserDocuments := store.acceptedUserDocuments.insert key item }

/-- The key of `userProposalActions`, which has one entry. -/
def setUserDocumentName : String := "set_user_document"

def putUserProposal (host : CcfHost) (caller : Caller) (proposalId : String) (body : JsValue)
    (store : UserStore) : Except RequestFailure UserStore := do
  validateCallerAuthorized host store.ledger caller
  if (store.userProposals.lookup proposalId).isSome then
    refuse 409 "ProposalAlreadyExists" "The specified proposal already exists."
  else
    match ← bodyField body "approvers" with
    | .undefined =>
        refuse 400 "ApproversMissing" "The approvers field is required in the proposal."
    | approvers =>
        if ← hasLengthZero approvers then
          refuse 400 "EmptyApprovers" "The approvers field cannot be empty."
        else
          let name ← bodyField body "name"
          if !name.isString setUserDocumentName then
            let text := host.text name
            refuse 400 "InvalidProposalType" s!"A proposal of type '{text}' is not supported."
          else
            let args ← bodyField body "args"
            validateSetUserDocument store setUserDocumentName args
            let callerId ← getCallerId caller
            let proposalInfo : UserProposalInfoItem :=
              { proposerId := callerId, state := .opened, ballots := [] }
            return { store with
              userProposals := store.userProposals.insert proposalId body
              userProposalsInfo := store.userProposalsInfo.insert proposalId proposalInfo }

def notOpenMessage (state : UserProposalState) : String :=
  let text := state.name
  s!"The proposal is not in an open state. State is: '{text}'."

def UserStore.putInfo (store : UserStore) (proposalId : String) (info : UserProposalInfoItem) :
    UserStore :=
  { store with userProposalsInfo := store.userProposalsInfo.insert proposalId info }

def withdrawUserProposal (host : CcfHost) (caller : Caller) (proposalId : String)
    (store : UserStore) : Except RequestFailure UserStore := do
  validateCallerAuthorized host store.ledger caller
  if (store.userProposals.lookup proposalId).isSome then
    let callerId ← getCallerId caller
    match store.userProposalsInfo.lookup proposalId with
    | none => raise "TypeError: cannot read property 'proposerId' of undefined"
    | some info =>
        if info.proposerId ≠ callerId then
          refuse 403 "NotProposalOwner" "Only the proposal owner can withdraw the proposal."
        else if info.state ≠ .opened then
          refuse 409 "ProposalNotOpen" (notOpenMessage info.state)
        else return store.putInfo proposalId { info with state := .withdrawn }
  else
    refuse 404 "ProposalNotFound" "A proposal with the specified id was not found."

/-- `approvers.find((a) => a.approverId === callerId)` found one. The caller is
not checked where a proposal has no approvers at all. -/
def isApprover (approvers : JsValue) (callerId : String) : Except RequestFailure Bool :=
  match approvers with
  | .undefined => .ok true
  | listed => do
      let items ← arrayItems listed
      items.anyM fun approver => do
        return (← bodyField approver "approverId").isString callerId

def hasAccepted (host : CcfHost) (ballots : List UserBallot) (approver : JsValue) :
    Except RequestFailure Bool :=
  ballots.anyM fun ballot => do
    let approverId ← bodyField approver "approverId"
    return looselyEquals host ballot.approverId approverId && decide (ballot.ballot = .accepted)

def allBallotsSubmitted (host : CcfHost) (ballots : List UserBallot) (approvers : List JsValue) :
    Except RequestFailure Bool :=
  approvers.allM (hasAccepted host ballots)

def ballotValue (value : JsValue) : Except RequestFailure BallotValue :=
  if value.isString "accepted" then .ok .accepted
  else if value.isString "rejected" then .ok .rejected
  else refuse 400 "InvalidBallotValue" "The ballot value must be either 'accepted' or 'rejected'."

def acceptProposal (host : CcfHost) (proposalId : String) (action approvers : JsValue)
    (info : UserProposalInfoItem) (store : UserStore) : Except RequestFailure UserStore := do
  let name ← bodyField action "name"
  if !name.isString setUserDocumentName then
    let text := host.text name
    raise s!"Cannot location action defintion for {text}. This is unexpected."
  else
    let args ← bodyField action "args"
    let applied ← applySetUserDocument args proposalId info.proposerId approvers info.ballots store
    return applied.putInfo proposalId { info with state := .accepted }

def countBallot (host : CcfHost) (proposalId : String) (action approvers : JsValue)
    (info : UserProposalInfoItem) (ballot : BallotValue) (store : UserStore) :
    Except RequestFailure UserStore :=
  match approvers with
  | .undefined => return store.putInfo proposalId info
  | listed =>
      if ballot = .rejected then
        return store.putInfo proposalId { info with state := .rejected }
      else do
        let items ← arrayItems listed
        if ← allBallotsSubmitted host info.ballots items then
          acceptProposal host proposalId action listed info store
        else return store.putInfo proposalId info

def submitUserProposalBallot (host : CcfHost) (caller : Caller) (proposalId : String)
    (body : JsValue) (store : UserStore) : Except RequestFailure UserStore := do
  validateCallerAuthorized host store.ledger caller
  let callerId ← getCallerId caller
  match store.userProposalsInfo.lookup proposalId with
  | none => refuse 404 "ProposalNotFound" "A proposal with the specified id was not found."
  | some info =>
      match store.userProposals.lookup proposalId with
      | none => raise "TypeError: cannot read property 'actions' of undefined"
      | some action =>
          let approvers ← bodyField action "approvers"
          if !(← isApprover approvers callerId) then
            refuse 403 "NotProposalApprover" "The caller is not an approver for this proposal."
          else if info.state ≠ .opened then
            refuse 409 "ProposalNotOpen" (notOpenMessage info.state)
          else if info.ballots.any fun ballot => ballot.approverId == callerId then
            refuse 409 "BallotAlreadySubmitted" "The ballot has already been submitted."
          else
            let ballot ← ballotValue (← bodyField body "ballot")
            let recorded := { info with ballots := info.ballots ++ [⟨callerId, ballot⟩] }
            countBallot host proposalId action approvers recorded ballot store

end CleanRoom.Governance
