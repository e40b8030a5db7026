import CleanRoom.Governance.Constitution

/-!
# Resolving a proposal

`resolve` of the governance constitution and the `operatorResolve` that it calls
first. The role tests look the member up and throw when there is no such
member. The loops that `some`, `every` and `filter` perform keep their order and
stop where those stop, so an exception arises exactly where it does in the
source. The messages that are only logged are left out.
-/

namespace CleanRoom.Governance

open JavaScript Throwing

inductive Resolution where
  | opened
  | accepted
  | rejected
deriving DecidableEq

def MemberInfo.isOperator (info : MemberInfo) : Bool :=
  info.memberData.truthy && (info.memberData.field "isOperator").truthy

def MemberInfo.isRecoveryOperator (info : MemberInfo) : Bool :=
  info.memberData.truthy && (info.memberData.field "isRecoveryOperator").truthy

/-- The roles under `cgsRoles` are the string `"true"`, not the boolean. -/
def MemberInfo.hasCgsRole (role : String) (info : MemberInfo) : Bool :=
  info.memberData.truthy && (info.memberData.field "cgsRoles").truthy &&
    ((info.memberData.field "cgsRoles").field role).isString "true"

def MemberInfo.isCgsOperator : MemberInfo → Bool := MemberInfo.hasCgsRole "cgsOperator"

def MemberInfo.isContractOperator : MemberInfo → Bool := MemberInfo.hasCgsRole "contractOperator"

/-- None of the four operator roles. -/
def MemberInfo.outsideRoles (info : MemberInfo) : Bool :=
  !info.isOperator && !info.isRecoveryOperator && !info.isCgsOperator && !info.isContractOperator

/-- A missing row is `undefined`, which cannot be parsed. -/
def getMemberInfo (ledger : Ledger) (memberId : String) : Except String MemberInfo :=
  match ledger.members.lookup memberId with
  | some info => .ok info
  | none => .error "TypeError: Argument must be an ArrayBuffer"

def isOperator (ledger : Ledger) (memberId : String) : Except String Bool :=
  MemberInfo.isOperator <$> getMemberInfo ledger memberId

def isCgsOperator (ledger : Ledger) (memberId : String) : Except String Bool :=
  MemberInfo.isCgsOperator <$> getMemberInfo ledger memberId

def isContractOperator (ledger : Ledger) (memberId : String) : Except String Bool :=
  MemberInfo.isContractOperator <$> getMemberInfo ledger memberId

def isOutsideRoles (ledger : Ledger) (memberId : String) : Except String Bool :=
  MemberInfo.outsideRoles <$> getMemberInfo ledger memberId

def allowedOperatorActions : List ActionName :=
  [.addSnpUvmEndorsement, .removeCaCertBundle, .removeJwtIssuer, .removeNode,
    .removeSnpMinimumTcbVersion, .removeSnpUvmEndorsement, .setCaCertBundle, .setJwtIssuer,
    .setNodeCertificateValidity, .setNodeData, .setServiceCertificateValidity,
    .setRecoveryThreshold, .setSnpMinimumTcbVersionHex, .transitionNodeToTrusted,
    .transitionServiceToOpen, .triggerLedgerChunk, .triggerSnapshot]

/-- Operators can add other operators, and retire them. The member that is
retired is looked up by `args.cert`, although the action removes
`args.member_id`. -/
def canOperatorPass (host : CcfHost) (ledger : Ledger) (action : ProposedAction) :
    Except String Bool :=
  if allowedOperatorActions.contains action.name then .ok true
  else
    match action.name with
    | .setMember => do
        let memberData ← action.args.get "member_data"
        return memberData.truthy && (memberData.field "isOperator").truthy
    | .removeMember => do
        let memberId ← host.idOfPem (← action.args.get "cert")
        isOperator ledger memberId
    | _ => .ok false

/-- `change && role(proposerId)`: the role is looked up only for such a change. -/
def passesAs (role : Ledger → String → Except String Bool) (ledger : Ledger)
    (proposerId : String) (change : Bool) : Except String Bool :=
  if change then role ledger proposerId else .ok false

def operatorResolve (host : CcfHost) (ledger : Ledger) (actions : List ProposedAction)
    (proposerId : String) : Except String Resolution := do
  let isOperatorChange ← actions.allM (canOperatorPass host ledger)
  if ← passesAs isOperator ledger proposerId isOperatorChange then return .accepted
  else return .opened

/-- An option without a row is off. -/
def isRuntimeOptionEnabled (ledger : Ledger) (option : String) : Except String Bool :=
  match ledger.kvGet (.fixed .cgsRuntimeOptions) option with
  | none => .ok false
  | some item =>
      if item.truthy then do return (← item.get "status").isString "enabled" else .ok false

def canCgsOperatorPass (ledger : Ledger) (action : ProposedAction) : Except String Bool :=
  match action.name with
  | .setConstitution => isRuntimeOptionEnabled ledger "autoapprove-constitution-proposal"
  | .setJsApp => isRuntimeOptionEnabled ledger "autoapprove-jsapp-proposal"
  | _ => .ok false

def canContractOperatorPass (ledger : Ledger) (action : ProposedAction) : Except String Bool :=
  match action.name with
  | .setDeploymentSpec => isRuntimeOptionEnabled ledger "autoapprove-deploymentspec-proposal"
  | .setDeploymentInfo => isRuntimeOptionEnabled ledger "autoapprove-deploymentinfo-proposal"
  | .setCleanRoomPolicy => isRuntimeOptionEnabled ledger "autoapprove-cleanroompolicy-proposal"
  | _ => .ok false

def canAutoAccept (action : ProposedAction) : Bool :=
  [ActionName.setContractRuntimeOptionsDisableTelemetry,
    .setContractRuntimeOptionsDisableLogging].contains action.name

def canVetoAction (action : ProposedAction) : Bool :=
  [ActionName.setContract, .setCleanRoomPolicy, .setDeploymentSpec, .setDeploymentInfo,
    .setContractRuntimeOptionsEnableLogging, .setContractRuntimeOptionsEnableTelemetry,
    .setMemberDocument].contains action.name

def needsAcceptedMembersToVote (action : ProposedAction) : Bool :=
  action.name == .setContract

def isSetContract (action : ProposedAction) : Bool := action.name == .setContract

def isSetMemberDocument (action : ProposedAction) : Bool := action.name == .setMemberDocument

structure ItemKind where
  action : ActionName
  idKey : String
  acceptedTable : GovTable

def contractKind : ItemKind := ⟨.setContract, "contractId", .acceptedContracts⟩

def documentKind : ItemKind := ⟨.setMemberDocument, "documentId", .acceptedMemberDocuments⟩

def namesItem (kind : ItemKind) (itemId : JsValue) (action : ProposedAction) :
    Except String Bool :=
  if action.name = kind.action then do
    return (← action.args.get kind.idKey).sameValueZero itemId
  else .ok false

def openItemCount (kind : ItemKind) (itemId : JsValue) (proposal : Proposal) :
    Except String Nat := do
  let count ← countM (namesItem kind itemId) proposal.actions
  return if proposal.state = .opened then count else 0

def proposalCount (kind : ItemKind) (itemId : JsValue) :
    List (Sigma fun _ : String => Proposal) → Except String Nat
  | [] => .ok 0
  | row :: rest => do
      let here ← openItemCount kind itemId row.2
      let later ← proposalCount kind itemId rest
      return here + later

/-- The proposal that is being resolved is counted too, so one open action for
the id is expected and a second one is a conflict. -/
def itemProposalAlreadyExists (kind : ItemKind) (ledger : Ledger) (itemId : JsValue) :
    Except String Bool := do
  let key ← strToBuf itemId
  if ledger.kvHas (.fixed kind.acceptedTable) key then return true
  let count ← proposalCount kind itemId ledger.proposals.entries
  return decide (count > 1)

def contractIdProposalAlreadyExists := itemProposalAlreadyExists contractKind

def documentIdProposalAlreadyExists := itemProposalAlreadyExists documentKind

def vetoed (actions : List ProposedAction) (votes : List Vote) : Bool :=
  actions.any canVetoAction && votes.any fun vote => !vote.vote

def setContractConflict (ledger : Ledger) (actions : List ProposedAction) :
    Except String Bool := do
  if !actions.any isSetContract then return false
  if !actions.all isSetContract then return true
  let contractIds ← actions.mapM fun action => action.args.get "contractId"
  if setSize contractIds < actions.length then return true
  actions.anyM fun action => do
    contractIdProposalAlreadyExists ledger (← action.args.get "contractId")

def setMemberDocumentConflict (ledger : Ledger) (actions : List ProposedAction) :
    Except String Bool :=
  if actions.any isSetMemberDocument then
    actions.anyM fun action => do
      documentIdProposalAlreadyExists ledger (← action.args.get "documentId")
  else .ok false

def isRejected (ledger : Ledger) (actions : List ProposedAction) (votes : List Vote) :
    Except String Bool := do
  if vetoed actions votes then return true
  if ← setContractConflict ledger actions then return true
  setMemberDocumentConflict ledger actions

/-- `getActiveCgsMemberCount` and `getAcceptedCgsMemberCount`. -/
def cgsMemberCount (status : MemberStatus) (ledger : Ledger) : Except String Nat :=
  countM (fun row =>
    if row.2.status = status then isOutsideRoles ledger row.1 else .ok false)
    ledger.members.entries

def getActiveCgsMemberCount := cgsMemberCount .active

def getAcceptedCgsMemberCount := cgsMemberCount .accepted

def memberVoteCount (ledger : Ledger) (votes : List Vote) : Except String Nat :=
  countM (fun vote =>
    if vote.vote then isOutsideRoles ledger vote.memberId else .ok false) votes

def votesSuffice (actions : List ProposedAction) (voteCount activeCount acceptedCount : Nat) :
    Bool :=
  if actions.any needsAcceptedMembersToVote then
    voteCount == activeCount && acceptedCount == 0
  else voteCount == activeCount

def resolveByVotes (ledger : Ledger) (actions : List ProposedAction) (proposerId : String)
    (votes : List Vote) : Except String Resolution := do
  let voteCount ← memberVoteCount ledger votes
  if actions.all canAutoAccept then return .accepted
  let activeCount ← getActiveCgsMemberCount ledger
  let acceptedCount ← getAcceptedCgsMemberCount ledger
  if votesSuffice actions voteCount activeCount acceptedCount then return .accepted
  let isCgsOperatorChange ← actions.allM (canCgsOperatorPass ledger)
  if ← passesAs isCgsOperator ledger proposerId isCgsOperatorChange then return .accepted
  let isContractOperatorChange ← actions.allM (canContractOperatorPass ledger)
  if ← passesAs isContractOperator ledger proposerId isContractOperatorChange then
    return .accepted
  return .opened

def resolve (host : CcfHost) (ledger : Ledger) (actions : List ProposedAction)
    (proposerId : String) (votes : List Vote) : Except String Resolution := do
  if (← operatorResolve host ledger actions proposerId) = .accepted then return .accepted
  if ← isRejected ledger actions votes then return .rejected
  resolveByVotes ledger actions proposerId votes

section Inversion

variable {host : CcfHost} {ledger : Ledger} {actions : List ProposedAction}
  {proposerId : String} {votes : List Vote}

theorem passes_as_true {role : Ledger → String → Except String Bool} {change : Bool}
    (passed : passesAs role ledger proposerId change = .ok true) :
    change = true ∧ role ledger proposerId = .ok true := by
  cases change with
  | false => cases passed
  | true => exact ⟨rfl, passed⟩

theorem operator_resolve_accepted
    (resolved : operatorResolve host ledger actions proposerId = .ok .accepted) :
    (∀ action ∈ actions, canOperatorPass host ledger action = .ok true) ∧
      isOperator ledger proposerId = .ok true := by
  obtain ⟨change, changed, rest⟩ := of_bind resolved
  obtain ⟨passes, passed, answered⟩ := of_bind rest
  cases passes with
  | false => cases answered
  | true =>
      obtain ⟨rfl, operator⟩ := passes_as_true passed
      exact ⟨allM_true _ _ changed, operator⟩

/-- The three ways in which `resolve` answers. -/
inductive Resolved (host : CcfHost) (ledger : Ledger) (actions : List ProposedAction)
    (proposerId : String) (votes : List Vote) : Resolution → Prop where
  | byOperator (operator : operatorResolve host ledger actions proposerId = .ok .accepted) :
      Resolved host ledger actions proposerId votes .accepted
  | rejected (conflict : isRejected ledger actions votes = .ok true) :
      Resolved host ledger actions proposerId votes .rejected
  | byVotes (resolution : Resolution) (clear : isRejected ledger actions votes = .ok false)
      (decided : resolveByVotes ledger actions proposerId votes = .ok resolution) :
      Resolved host ledger actions proposerId votes resolution

theorem resolve_cases {resolution : Resolution}
    (resolved : resolve host ledger actions proposerId votes = .ok resolution) :
    Resolved host ledger actions proposerId votes resolution := by
  obtain ⟨first, operator, rest⟩ := of_bind resolved
  split at rest
  · rename_i accepted
    cases rest
    exact .byOperator (accepted ▸ operator)
  · obtain ⟨conflict, checked, answered⟩ := of_bind rest
    cases conflict with
    | true =>
        cases answered
        exact .rejected checked
    | false => exact .byVotes resolution checked answered

theorem not_rejected_cases (clear : isRejected ledger actions votes = .ok false) :
    vetoed actions votes = false ∧ setContractConflict ledger actions = .ok false ∧
      setMemberDocumentConflict ledger actions = .ok false := by
  unfold isRejected at clear
  split at clear
  · cases clear
  · rename_i noVeto
    obtain ⟨conflict, checked, rest⟩ := of_bind clear
    cases conflict with
    | true => cases rest
    | false => exact ⟨by simpa using noVeto, checked, rest⟩

variable {action : ProposedAction} {kind : ItemKind}

theorem any_scan_false (clear : (actions.anyM fun action => do
      itemProposalAlreadyExists kind ledger (← action.args.get kind.idKey)) = .ok false)
    (member : action ∈ actions) :
    ∃ itemId, action.args.get kind.idKey = .ok (.string itemId) ∧
      itemProposalAlreadyExists kind ledger (.string itemId) = .ok false := by
  have scanned := anyM_false _ _ clear action member
  obtain ⟨value, read, scan⟩ := of_bind scanned
  obtain ⟨key, converted, _⟩ := of_bind scan
  cases value with
  | string itemId => exact ⟨itemId, read, scan⟩
  | undefined => cases converted
  | null => cases converted
  | bool flag => cases converted
  | number number => cases converted
  | array items => cases converted
  | object fields => cases converted

theorem contract_scan_false (clear : setContractConflict ledger actions = .ok false)
    (member : action ∈ actions) (named : action.name = .setContract) :
    ∃ itemId, action.args.get contractKind.idKey = .ok (.string itemId) ∧
      itemProposalAlreadyExists contractKind ledger (.string itemId) = .ok false := by
  have someContract : actions.any isSetContract = true :=
    List.any_eq_true.mpr ⟨action, member, by simp [isSetContract, named]⟩
  unfold setContractConflict at clear
  rw [someContract] at clear
  simp only [Bool.not_true, Bool.false_eq_true, if_false] at clear
  split at clear
  · cases clear
  · obtain ⟨contractIds, _, rest⟩ := of_bind clear
    split at rest
    · cases rest
    · exact any_scan_false rest member

theorem document_scan_false (clear : setMemberDocumentConflict ledger actions = .ok false)
    (member : action ∈ actions)
    (named : action.name = .setMemberDocument) :
    ∃ itemId, action.args.get documentKind.idKey = .ok (.string itemId) ∧
      itemProposalAlreadyExists documentKind ledger (.string itemId) = .ok false := by
  have someDocument : actions.any isSetMemberDocument = true :=
    List.any_eq_true.mpr ⟨action, member, by simp [isSetMemberDocument, named]⟩
  unfold setMemberDocumentConflict at clear
  rw [if_pos someDocument] at clear
  exact any_scan_false clear member

theorem item_not_operator_passable (known : kind = contractKind ∨ kind = documentKind)
    (named : action.name = kind.action) : canOperatorPass host ledger action = .ok false := by
  rcases known with rfl | rfl <;>
    simp [canOperatorPass, named, contractKind, documentKind, allowedOperatorActions]

theorem resolve_scanned {resolution : Resolution} (kind : ItemKind)
    (known : kind = contractKind ∨ kind = documentKind)
    (resolved : resolve host ledger actions proposerId votes = .ok resolution)
    (notRejected : resolution ≠ .rejected) (action : ProposedAction) (member : action ∈ actions)
    (named : action.name = kind.action) :
    ∃ itemId, action.args.get kind.idKey = .ok (.string itemId) ∧
      itemProposalAlreadyExists kind ledger (.string itemId) = .ok false := by
  cases resolve_cases resolved with
  | byOperator operator =>
      have passes := (operator_resolve_accepted operator).1 action member
      rw [item_not_operator_passable known named] at passes
      cases passes
  | rejected _ => exact absurd rfl notRejected
  | byVotes _ clear _ =>
      obtain ⟨_, contracts, documents⟩ := not_rejected_cases clear
      rcases known with rfl | rfl
      · exact contract_scan_false contracts member named
      · exact document_scan_false documents member named

end Inversion

end CleanRoom.Governance
