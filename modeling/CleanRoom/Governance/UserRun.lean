import CleanRoom.Governance.UserDocuments
import CleanRoom.Governance.Run

/-!
# Runs of the user operations

Users put drafts, create and withdraw proposals, submit ballots and change the
runtime options, in any order, while the members go on with the governance. Each
request is one transaction; one that is refused or throws leaves the store as it
was. The invariant says of each proposal what its state says about its ballots.
-/

namespace CleanRoom.Governance

open JavaScript Throwing

inductive UserOperation where
  | putDocument (caller : Caller) (documentId : String) (body : JsValue)
  | createProposal (caller : Caller) (proposalId : String) (body : JsValue)
  | withdrawProposal (caller : Caller) (proposalId : String)
  | submitBallot (caller : Caller) (proposalId : String) (body : JsValue)
  | setRuntimeOption (caller : Caller) (documentId option : String)
      (status : RuntimeOptionStatus)
  | governance (event : Event)

def UserStore.commit (store : UserStore) : UserStore :=
  { store with ledger := { store.ledger with seqno := store.ledger.nextSeqno } }

def performOperation (host : CcfHost) (store : UserStore) :
    UserOperation → Except RequestFailure UserStore
  | .putDocument caller documentId body =>
      (putUserDocument host caller documentId body store).map UserStore.commit
  | .createProposal caller proposalId body =>
      (putUserProposal host caller proposalId body store).map UserStore.commit
  | .withdrawProposal caller proposalId =>
      (withdrawUserProposal host caller proposalId store).map UserStore.commit
  | .submitBallot caller proposalId body =>
      (submitUserProposalBallot host caller proposalId body store).map UserStore.commit
  | .setRuntimeOption caller documentId option status =>
      (setUserDocumentRuntimeOptionStatus host caller documentId option status store).map
        UserStore.commit
  | .governance event => .ok { store with ledger := advance host store.ledger event }

def userStep (host : CcfHost) (store : UserStore) (operation : UserOperation) : UserStore :=
  match performOperation host store operation with
  | .ok after => after
  | .error _ => store

def userRun (host : CcfHost) (store : UserStore) (operations : List UserOperation) : UserStore :=
  operations.foldl (userStep host) store

def ListedApprover (action : JsValue) (callerId : String) : Prop :=
  ∃ approvers, action.field "approvers" = .array approvers ∧
    ∃ approver ∈ approvers, approver.field "approverId" = .string callerId

/-- One of the ballots is an acceptance by the approver. Ids are compared by
`==`, which is equality for an approver whose id is a string. -/
def AcceptedBy (host : CcfHost) (ballots : List UserBallot) (approver : JsValue) : Prop :=
  ∃ ballot ∈ ballots, ballot.ballot = .accepted ∧
    looselyEquals host ballot.approverId (approver.field "approverId") = true

def EveryApproverAccepted (host : CcfHost) (action : JsValue) (ballots : List UserBallot) : Prop :=
  ∃ approvers, action.field "approvers" = .array approvers ∧
    ∀ approver ∈ approvers, AcceptedBy host ballots approver

theorem array_items_ok (value : JsValue) (items : List JsValue)
    (listed : arrayItems value = .ok items) : value = .array items := by
  unfold arrayItems at listed
  split at listed <;> cases listed
  rfl

theorem is_approver_true (approvers : JsValue) (callerId : String)
    (present : approvers ≠ .undefined) (found : isApprover approvers callerId = .ok true) :
    ∃ items, approvers = .array items ∧
      ∃ approver ∈ items, approver.field "approverId" = .string callerId := by
  unfold isApprover at found
  split at found
  · exact absurd rfl present
  · obtain ⟨items, listed, searched⟩ := of_bind found
    have shape := array_items_ok approvers items listed
    obtain ⟨approver, member, hit⟩ := anyM_true _ items searched
    obtain ⟨approverId, read, same⟩ := of_bind hit
    refine ⟨items, shape, approver, member, ?_⟩
    rw [← body_field_ok _ _ _ read]
    exact (JsValue.is_string_iff _ _).mp (Except.ok.inj same)

variable {host : CcfHost} {info : UserProposalInfoItem} {ballots : List UserBallot}
  {approver : JsValue} {action : JsValue}

theorem has_accepted_true (found : hasAccepted host ballots approver = .ok true) :
    AcceptedBy host ballots approver := by
  obtain ⟨ballot, member, hit⟩ := anyM_true _ ballots found
  obtain ⟨approverId, read, same⟩ := of_bind hit
  obtain ⟨equal, accepted⟩ := (Bool.and_eq_true _ _).mp (Except.ok.inj same)
  refine ⟨ballot, member, of_decide_eq_true accepted, ?_⟩
  rw [← body_field_ok _ _ _ read]
  exact equal

theorem has_accepted_false (missing : hasAccepted host ballots approver = .ok false) :
    ¬ AcceptedBy host ballots approver := by
  rintro ⟨ballot, member, accepted, equal⟩
  obtain ⟨approverId, read, same⟩ := of_bind (anyM_false _ ballots missing ballot member)
  rw [body_field_ok _ _ _ read, equal, accepted] at same
  cases same

variable {store after : UserStore} {host : CcfHost} {proposalId : String} {caller : Caller}
  {body : JsValue}

theorem put_user_proposal_spec
    (put : putUserProposal host caller proposalId body store = .ok after) :
    store.userProposals.lookup proposalId = none ∧
      body.field "approvers" ≠ .undefined ∧ body.field "approvers" ≠ .array [] ∧
      validateSetUserDocument store setUserDocumentName (body.field "args") = .ok () ∧
      body.field "name" = .string setUserDocumentName ∧
      ∃ callerId, getCallerId caller = .ok callerId ∧
        after = { store with
          userProposals := store.userProposals.insert proposalId body
          userProposalsInfo := store.userProposalsInfo.insert proposalId
            { proposerId := callerId, state := .opened, ballots := [] } } := by
  unfold putUserProposal at put
  obtain ⟨_, _, authorized⟩ := of_bind put
  obtain ⟨fresh, authorized⟩ := of_guard authorized
  obtain ⟨approvers, readApprovers, named⟩ := of_bind authorized
  have approversAre := body_field_ok _ _ _ readApprovers
  split at named
  · cases named
  · rename_i present
    obtain ⟨empty, measured, sized⟩ := of_bind named
    obtain ⟨notEmpty, sized⟩ := of_guard sized
    obtain ⟨name, readName, typed⟩ := of_bind sized
    obtain ⟨supported, typed⟩ := of_guard typed
    obtain ⟨args, readArgs, checked⟩ := of_bind typed
    obtain ⟨_, validated, called⟩ := of_bind checked
    obtain ⟨callerId, identified, written⟩ := of_bind called
    refine ⟨by simpa using fresh, ?_, ?_, ?_, ?_, callerId, identified, ?_⟩
    · rw [← approversAre]
      exact present
    · intro none
      rw [approversAre, none] at measured
      cases measured
      exact notEmpty (by decide)
    · rw [← body_field_ok _ _ _ readArgs]
      exact validated
    · rw [← body_field_ok _ _ _ readName]
      simpa using supported
    · cases written
      rfl

theorem withdraw_user_proposal_spec
    (withdrawn : withdrawUserProposal host caller proposalId store = .ok after) :
    ∃ info, store.userProposalsInfo.lookup proposalId = some info ∧
      getCallerId caller = .ok info.proposerId ∧ info.state = .opened ∧
      after = store.putInfo proposalId { info with state := .withdrawn } := by
  unfold withdrawUserProposal at withdrawn
  obtain ⟨_, _, authorized⟩ := of_bind withdrawn
  split at authorized
  · obtain ⟨callerId, identified, found⟩ := of_bind authorized
    split at found
    · cases found
    · rename_i info looked
      obtain ⟨owner, found⟩ := of_guard found
      obtain ⟨opened, found⟩ := of_guard found
      cases found
      exact ⟨info, looked, by rw [identified, not_not.mp owner], not_not.mp opened, rfl⟩
  · cases authorized

def UserProposalInfoItem.record (info : UserProposalInfoItem) (callerId : String)
    (ballot : BallotValue) : UserProposalInfoItem :=
  { info with ballots := info.ballots ++ [⟨callerId, ballot⟩] }

theorem submit_user_proposal_ballot_spec
    (submitted : submitUserProposalBallot host caller proposalId body store = .ok after) :
    ∃ callerId info action ballot, getCallerId caller = .ok callerId ∧
      store.userProposalsInfo.lookup proposalId = some info ∧
      store.userProposals.lookup proposalId = some action ∧
      isApprover (action.field "approvers") callerId = .ok true ∧ info.state = .opened ∧
      callerId ∉ info.ballots.map UserBallot.approverId ∧
      countBallot host proposalId action (action.field "approvers") (info.record callerId ballot)
        ballot store = .ok after := by
  unfold submitUserProposalBallot at submitted
  obtain ⟨_, _, authorized⟩ := of_bind submitted
  obtain ⟨callerId, identified, called⟩ := of_bind authorized
  split at called
  · cases called
  · rename_i info infoFound
    split at called
    · cases called
    · rename_i action actionFound
      obtain ⟨approvers, readApprovers, listed⟩ := of_bind called
      cases body_field_ok _ _ _ readApprovers
      obtain ⟨hit, searched, counted⟩ := of_bind listed
      cases hit with
      | false => cases counted
      | true =>
          simp only [Bool.not_true, Bool.false_eq_true, if_false] at counted
          obtain ⟨opened, counted⟩ := of_guard counted
          obtain ⟨fresh, counted⟩ := of_guard counted
          obtain ⟨value, _, valued⟩ := of_bind counted
          obtain ⟨ballot, _, recorded⟩ := of_bind valued
          refine ⟨callerId, info, action, ballot, identified, infoFound, actionFound,
            searched, not_not.mp opened, ?_, recorded⟩
          simpa using fresh

inductive Counted (host : CcfHost) (proposalId : String) (action : JsValue)
    (info : UserProposalInfoItem) (ballot : BallotValue) (store after : UserStore) : Prop where
  | rejected (value : ballot = .rejected)
      (written : after = store.putInfo proposalId { info with state := .rejected })
  | stillOpen (value : ballot = .accepted) (items : List JsValue)
      (shape : action.field "approvers" = .array items)
      (missing : ∃ approver ∈ items, ¬ AcceptedBy host info.ballots approver)
      (written : after = store.putInfo proposalId info)
  | accepted (value : ballot = .accepted) (items : List JsValue)
      (shape : action.field "approvers" = .array items)
      (all : ∀ approver ∈ items, AcceptedBy host info.ballots approver)
      (applied : UserStore)
      (action_applied : applySetUserDocument (action.field "args") proposalId info.proposerId
        (.array items) info.ballots store = .ok applied)
      (written : after = applied.putInfo proposalId { info with state := .accepted })

theorem accept_proposal_spec (action approvers : JsValue)
    (accepted : acceptProposal host proposalId action approvers info store = .ok after) :
    ∃ applied, applySetUserDocument (action.field "args") proposalId info.proposerId approvers
        info.ballots store = .ok applied ∧
      after = applied.putInfo proposalId { info with state := .accepted } := by
  unfold acceptProposal at accepted
  obtain ⟨name, _, named⟩ := of_bind accepted
  obtain ⟨_, named⟩ := of_guard named
  obtain ⟨args, readArgs, called⟩ := of_bind named
  obtain ⟨applied, ran, written⟩ := of_bind called
  rw [body_field_ok _ _ _ readArgs] at ran
  cases written
  exact ⟨applied, ran, rfl⟩

theorem count_ballot_cases (action : JsValue) (info : UserProposalInfoItem) (ballot : BallotValue)
    (present : action.field "approvers" ≠ .undefined)
    (counted : countBallot host proposalId action (action.field "approvers") info ballot store =
      .ok after) : Counted host proposalId action info ballot store after := by
  unfold countBallot at counted
  split at counted
  · rename_i missing
    exact absurd missing present
  · cases ballot with
    | rejected =>
        cases counted
        exact .rejected rfl rfl
    | accepted =>
        obtain ⟨items, listed, decided⟩ := of_bind counted
        have shape := array_items_ok _ items listed
        obtain ⟨all, tested, written⟩ := of_bind decided
        cases all with
        | true =>
            obtain ⟨applied, ran, result⟩ := accept_proposal_spec _ _ written
            rw [shape] at ran
            exact .accepted rfl items shape
              (fun approver member =>
                has_accepted_true (allM_true _ items tested approver member))
              applied ran result
        | false =>
            obtain ⟨approver, member, missed⟩ := allM_false _ items tested
            cases written
            exact .stillOpen rfl items shape ⟨approver, member, has_accepted_false missed⟩ rfl

theorem put_user_document_spec (id : String)
    (put : putUserDocument host caller id body store = .ok after) :
    ∃ value, checkVersion host ⟨"UserDocumentAlreadyExists", "document"⟩ store.userDocuments id
        (body.field "version") = .ok () ∧
      after = { store with
        userDocuments := store.userDocuments.insert id ⟨value, store.ledger.nextSeqno⟩ } := by
  unfold putUserDocument at put
  obtain ⟨_, _, authorized⟩ := of_bind put
  obtain ⟨_, authorized⟩ := of_guard authorized
  obtain ⟨contractId, _, contracted⟩ := of_bind authorized
  obtain ⟨_, contracted⟩ := of_guard contracted
  obtain ⟨data, _, filled⟩ := of_bind contracted
  obtain ⟨_, filled⟩ := of_guard filled
  obtain ⟨known, _, checked⟩ := of_bind filled
  obtain ⟨_, checked⟩ := of_guard checked
  obtain ⟨version, read, versioned⟩ := of_bind checked
  obtain ⟨_, current, written⟩ := of_bind versioned
  cases written
  exact ⟨_, body_field_ok _ _ _ read ▸ current, rfl⟩

/-- The id of a caller who may set the option: an authorized caller among the approvers of
the accepted document. -/
def optionApprover (host : CcfHost) (caller : Caller) (documentId option : String)
    (store : UserStore) : Option String :=
  match validateCallerAuthorized host store.ledger caller,
    store.acceptedUserDocuments.lookup documentId, getCallerId caller with
  | .ok (), some item, .ok callerId =>
      match item.approvers.typeOf == .undefined, isApprover item.approvers callerId,
        isRuntimeOption option with
      | false, .ok true, true => some callerId
      | _, _, _ => none
  | _, _, _ => none

theorem set_runtime_option_ok (documentId option : String) (status : RuntimeOptionStatus) :
    setUserDocumentRuntimeOptionStatus host caller documentId option status store = .ok after ↔
      ∃ callerId, optionApprover host caller documentId option store = some callerId ∧
        after = { store with
          runtimeOptionStatus := store.runtimeOptionStatus.insert
            (runtimeOptionKey documentId option)
            (mapSet ((store.runtimeOptionStatus.lookup
              (runtimeOptionKey documentId option)).getD []) callerId status) } := by
  unfold setUserDocumentRuntimeOptionStatus optionApprover
  cases validateCallerAuthorized host store.ledger caller with
  | error failure => simp [bind, Except.bind]
  | ok authorized =>
      cases store.acceptedUserDocuments.lookup documentId with
      | none => simp [bind, Except.bind, refuse]
      | some item =>
          by_cases unset : item.approvers.typeOf = .undefined
          · cases getCallerId caller <;> simp [bind, Except.bind, refuse, unset]
          · have present := beq_eq_false_iff_ne.mpr unset
            cases getCallerId caller with
            | error failure => simp [bind, Except.bind, unset]
            | ok callerId =>
                rcases found : isApprover item.approvers callerId with failure | _ | _ <;>
                  cases isRuntimeOption option <;>
                  simp [bind, Except.bind, pure, Except.pure, refuse, refuseRuntimeOption,
                    present, found, eq_comm (a := after)]

structure SameProposals (store after : UserStore) : Prop where
  proposals : after.userProposals = store.userProposals
  infos : after.userProposalsInfo = store.userProposalsInfo
  accepted : after.acceptedUserDocuments = store.acceptedUserDocuments

inductive ProposalStep (host : CcfHost) (store after : UserStore) (operation : UserOperation) :
    Prop where
  | untouched (same : SameProposals store after)
  | created (caller : Caller) (proposalId : String) (body : JsValue) (middle : UserStore)
      (named : operation = .createProposal caller proposalId body)
      (put : putUserProposal host caller proposalId body store = .ok middle)
      (same : SameProposals middle after)
  | withdrawn (caller : Caller) (proposalId : String) (middle : UserStore)
      (named : operation = .withdrawProposal caller proposalId)
      (done : withdrawUserProposal host caller proposalId store = .ok middle)
      (same : SameProposals middle after)
  | voted (caller : Caller) (proposalId : String) (body : JsValue) (middle : UserStore)
      (named : operation = .submitBallot caller proposalId body)
      (submitted : submitUserProposalBallot host caller proposalId body store = .ok middle)
      (same : SameProposals middle after)

theorem user_step_cases (store : UserStore) (operation : UserOperation) :
    ProposalStep host store (userStep host store operation) operation := by
  unfold userStep
  split
  · rename_i after performed
    cases operation with
    | putDocument caller documentId body =>
        obtain ⟨middle, put, rfl⟩ := of_map performed
        obtain ⟨value, _, rfl⟩ := put_user_document_spec _ put
        exact .untouched ⟨rfl, rfl, rfl⟩
    | createProposal caller proposalId body =>
        obtain ⟨middle, put, rfl⟩ := of_map performed
        exact .created caller proposalId body middle rfl put ⟨rfl, rfl, rfl⟩
    | withdrawProposal caller proposalId =>
        obtain ⟨middle, done, rfl⟩ := of_map performed
        exact .withdrawn caller proposalId middle rfl done ⟨rfl, rfl, rfl⟩
    | submitBallot caller proposalId body =>
        obtain ⟨middle, submitted, rfl⟩ := of_map performed
        exact .voted caller proposalId body middle rfl submitted ⟨rfl, rfl, rfl⟩
    | setRuntimeOption caller documentId option status =>
        obtain ⟨middle, changed, rfl⟩ := of_map performed
        obtain ⟨callerId, _, rfl⟩ := (set_runtime_option_ok _ _ _).mp changed
        exact .untouched ⟨rfl, rfl, rfl⟩
    | governance event =>
        cases performed
        exact .untouched ⟨rfl, rfl, rfl⟩
  · exact .untouched ⟨rfl, rfl, rfl⟩

structure Tallied (host : CcfHost) (action : JsValue) (info : UserProposalInfoItem) : Prop where
  present : action.field "approvers" ≠ .undefined
  notEmpty : action.field "approvers" ≠ .array []
  listed : ∀ ballot ∈ info.ballots, ListedApprover action ballot.approverId
  once : (info.ballots.map UserBallot.approverId).Nodup
  accepted : info.state = .accepted ↔ EveryApproverAccepted host action info.ballots
  rejected : info.state = .rejected ↔ ∃ ballot ∈ info.ballots, ballot.ballot = .rejected

theorem tallied_of_created (proposerId : String) (present : action.field "approvers" ≠ .undefined)
    (notEmpty : action.field "approvers" ≠ .array []) :
    Tallied host action { proposerId := proposerId, state := .opened, ballots := [] } where
  present := present
  notEmpty := notEmpty
  listed := by simp
  once := by simp
  accepted := by
    constructor
    · intro closed
      cases closed
    · rintro ⟨approvers, shape, all⟩
      cases approvers with
      | nil => exact absurd shape notEmpty
      | cons approver rest =>
          obtain ⟨ballot, member, _⟩ := all approver (by simp)
          cases member
  rejected := by simp

theorem tallied_of_withdrawn (tallied : Tallied host action info) (opened : info.state = .opened) :
    Tallied host action { info with state := .withdrawn } where
  present := tallied.present
  notEmpty := tallied.notEmpty
  listed := tallied.listed
  once := tallied.once
  accepted := by
    rw [← tallied.accepted, opened]
    simp
  rejected := by
    rw [← tallied.rejected, opened]
    simp

section Ballot

variable {host : CcfHost} {action : JsValue} {info : UserProposalInfoItem} {callerId : String}
  {ballot : BallotValue}

theorem record_listed (tallied : Tallied host action info)
    (approver : ListedApprover action callerId) :
    ∀ cast ∈ (info.record callerId ballot).ballots, ListedApprover action cast.approverId := by
  intro cast member
  rcases List.mem_append.mp member with old | new
  · exact tallied.listed cast old
  · rw [List.mem_singleton.mp new]
    exact approver

theorem record_once (tallied : Tallied host action info)
    (fresh : callerId ∉ info.ballots.map UserBallot.approverId) :
    ((info.record callerId ballot).ballots.map UserBallot.approverId).Nodup := by
  simp only [UserProposalInfoItem.record, List.map_append, List.map_cons, List.map_nil]
  exact List.Nodup.append tallied.once (List.nodup_singleton _) (by simpa using fresh)

theorem no_rejection_while_open (tallied : Tallied host action info)
    (opened : info.state = .opened) : ∀ cast ∈ info.ballots, cast.ballot = .accepted := by
  intro cast member
  cases value : cast.ballot with
  | accepted => rfl
  | rejected =>
      have closed := tallied.rejected.mpr ⟨cast, member, value⟩
      rw [opened] at closed
      cases closed

theorem not_all_accepted_after_rejection (approver : ListedApprover action callerId)
    (fresh : callerId ∉ info.ballots.map UserBallot.approverId) :
    ¬ EveryApproverAccepted host action (info.record callerId .rejected).ballots := by
  rintro ⟨items, shape, all⟩
  obtain ⟨approvers, sameShape, member, inList, id⟩ := approver
  cases shape.symm.trans sameShape
  obtain ⟨cast, castMember, accepted, equal⟩ := all member inList
  rw [id, loosely_equals_string, beq_iff_eq] at equal
  rcases List.mem_append.mp castMember with old | new
  · exact fresh (List.mem_map.mpr ⟨cast, old, equal⟩)
  · rw [List.mem_singleton.mp new] at accepted
    cases accepted

theorem tallied_of_rejection (tallied : Tallied host action info)
    (approver : ListedApprover action callerId)
    (fresh : callerId ∉ info.ballots.map UserBallot.approverId) :
    Tallied host action { info.record callerId .rejected with state := .rejected } where
  present := tallied.present
  notEmpty := tallied.notEmpty
  listed := record_listed tallied approver
  once := record_once tallied fresh
  accepted := by
    constructor
    · intro closed
      cases closed
    · intro all
      exact absurd all (not_all_accepted_after_rejection approver fresh)
  rejected := by
    constructor
    · intro _
      exact ⟨⟨callerId, .rejected⟩, by simp [UserProposalInfoItem.record], rfl⟩
    · intro _
      rfl

theorem tallied_of_acceptance (state : UserProposalState) (tallied : Tallied host action info)
    (opened : info.state = .opened) (approver : ListedApprover action callerId)
    (fresh : callerId ∉ info.ballots.map UserBallot.approverId) (decided : state = .accepted ↔
      EveryApproverAccepted host action (info.record callerId .accepted).ballots)
    (notRejected : state ≠ .rejected) :
    Tallied host action { info.record callerId .accepted with state := state } where
  present := tallied.present
  notEmpty := tallied.notEmpty
  listed := record_listed tallied approver
  once := record_once tallied fresh
  accepted := decided
  rejected := by
    constructor
    · intro closed
      exact absurd closed notRejected
    · rintro ⟨cast, member, rejection⟩
      rcases List.mem_append.mp member with old | new
      · rw [no_rejection_while_open tallied opened cast old] at rejection
        cases rejection
      · rw [List.mem_singleton.mp new] at rejection
        cases rejection

end Ballot

def acceptedRow (args : JsValue) (proposalId proposerId : String) (approvers : JsValue)
    (ballots : List UserBallot) (seqno : Nat) : AcceptedUserDocument where
  contractId := (args.field "document").field "contractId"
  data := (args.field "document").field "data"
  labels := (args.field "document").field "labels"
  proposalId := proposalId
  proposerId := proposerId
  approvers := approvers
  finalVotes := ballots
  seqno := seqno

variable {proposalId : String} {store after : UserStore} {host : CcfHost}
  {info : UserProposalInfoItem}

theorem apply_set_user_document_spec (args : JsValue) (proposalId proposerId : String)
    (approvers : JsValue) (ballots : List UserBallot)
    (applied : applySetUserDocument args proposalId proposerId approvers ballots store =
      .ok after) :
    ∃ documentId, args.field "documentId" = .string documentId ∧
      after = { store with
        acceptedUserDocuments := store.acceptedUserDocuments.insert documentId
          (acceptedRow args proposalId proposerId approvers ballots store.ledger.nextSeqno) } := by
  unfold applySetUserDocument at applied
  obtain ⟨documentId, readId, named⟩ := of_bind applied
  obtain ⟨document, readDocument, found⟩ := of_bind named
  obtain ⟨contractId, readContract, contracted⟩ := of_bind found
  obtain ⟨key, keyed, written⟩ := of_bind contracted
  have documentIs := body_field_ok _ _ _ readDocument
  have contractIs := body_field_ok _ _ _ readContract
  subst documentIs contractIs
  cases written
  refine ⟨key, ?_, rfl⟩
  rw [← body_field_ok _ _ _ readId]
  unfold keyText at keyed
  split at keyed <;> cases keyed
  rfl

theorem count_ballot_frame (action approvers : JsValue) (ballot : BallotValue)
    (counted : countBallot host proposalId action approvers info ballot store = .ok after) :
    after = { store with
      acceptedUserDocuments := after.acceptedUserDocuments
      userProposalsInfo := after.userProposalsInfo } := by
  unfold countBallot at counted
  split at counted
  · cases counted
    rfl
  · split at counted
    · cases counted
      rfl
    · obtain ⟨items, _, listed⟩ := of_bind counted
      obtain ⟨all, _, decided⟩ := of_bind listed
      split at decided
      · obtain ⟨applied, ran, rfl⟩ := accept_proposal_spec _ _ decided
        obtain ⟨documentId, _, rfl⟩ := apply_set_user_document_spec _ _ _ _ _ ran
        rfl
      · cases decided
        rfl

def ProposalsTallied (host : CcfHost) (store : UserStore) : Prop :=
  ∀ proposalId info, store.userProposalsInfo.lookup proposalId = some info →
    ∃ action, store.userProposals.lookup proposalId = some action ∧ Tallied host action info

theorem ProposalsTallied.of_same {host : CcfHost} {store after : UserStore}
    (invariant : ProposalsTallied host store) (same : SameProposals store after) :
    ProposalsTallied host after := by
  intro proposalId info found
  rw [same.infos] at found
  rw [same.proposals]
  exact invariant proposalId info found

theorem ProposalsTallied.put_info {host : CcfHost} {store : UserStore} {proposalId : String}
    {action : JsValue} {info : UserProposalInfoItem} (invariant : ProposalsTallied host store)
    (actionFound : store.userProposals.lookup proposalId = some action)
    (tallied : Tallied host action info) :
    ProposalsTallied host (store.putInfo proposalId info) := by
  intro other otherInfo found
  by_cases same : other = proposalId
  · subst same
    rw [UserStore.putInfo, AList.lookup_insert] at found
    cases found
    exact ⟨action, actionFound, tallied⟩
  · rw [UserStore.putInfo, AList.lookup_insert_ne same] at found
    exact invariant other otherInfo found

theorem tallied_after_ballot (caller : Caller)
    (body : JsValue) (invariant : ProposalsTallied host store)
    (submitted : submitUserProposalBallot host caller proposalId body store = .ok after) :
    ProposalsTallied host after := by
  obtain ⟨callerId, info, action, ballot, _, infoFound, actionFound, approved, opened, fresh,
    counted⟩ := submit_user_proposal_ballot_spec submitted
  obtain ⟨sameAction, sameFound, tallied⟩ := invariant proposalId info infoFound
  cases actionFound.symm.trans sameFound
  have approver : ListedApprover action callerId :=
    is_approver_true _ callerId tallied.present approved
  cases count_ballot_cases _ _ _ tallied.present counted with
  | rejected value written =>
      cases value
      rw [written]
      exact invariant.put_info actionFound (tallied_of_rejection tallied approver fresh)
  | stillOpen value items shape missing written =>
      cases value
      rw [written]
      refine invariant.put_info actionFound
        (tallied_of_acceptance info.state tallied opened approver fresh ?_ (by simp [opened]))
      constructor
      · intro closed
        rw [opened] at closed
        cases closed
      · rintro ⟨approvers, sameShape, all⟩
        cases shape.symm.trans sameShape
        obtain ⟨member, inList, refused⟩ := missing
        exact absurd (all member inList) refused
  | accepted value items shape all applied ran written =>
      cases value
      obtain ⟨documentId, _, result⟩ := apply_set_user_document_spec _ _ _ _ _ ran
      have kept : ProposalsTallied host applied := by
        rw [result]
        exact invariant
      have stillFound : applied.userProposals.lookup proposalId = some action := by
        rw [result]
        exact actionFound
      rw [written]
      refine kept.put_info stillFound
        (tallied_of_acceptance .accepted tallied opened approver fresh ?_ (by simp))
      exact ⟨fun _ => ⟨items, shape, all⟩, fun _ => rfl⟩

theorem proposals_tallied_step (host : CcfHost) (store : UserStore) (operation : UserOperation)
    (invariant : ProposalsTallied host store) :
    ProposalsTallied host (userStep host store operation) := by
  cases user_step_cases store operation with
  | untouched same => exact invariant.of_same same
  | created caller proposalId body middle _ put same =>
      obtain ⟨fresh, present, notEmpty, _, _, callerId, _, written⟩ :=
        put_user_proposal_spec put
      refine ProposalsTallied.of_same ?_ same
      rw [written]
      intro other info found
      by_cases sameId : other = proposalId
      · subst sameId
        rw [AList.lookup_insert] at found ⊢
        cases found
        exact ⟨body, rfl, tallied_of_created callerId present notEmpty⟩
      · rw [AList.lookup_insert_ne sameId] at found ⊢
        exact invariant other info found
  | withdrawn caller proposalId middle _ done same =>
      obtain ⟨info, found, _, opened, written⟩ := withdraw_user_proposal_spec done
      obtain ⟨action, actionFound, tallied⟩ := invariant proposalId info found
      refine ProposalsTallied.of_same ?_ same
      rw [written]
      exact invariant.put_info actionFound (tallied_of_withdrawn tallied opened)
  | voted caller proposalId body middle _ submitted same =>
      exact (tallied_after_ballot _ _ invariant submitted).of_same same

theorem user_run_invariant (host : CcfHost) (invariant : UserStore → Prop)
    (step : ∀ store operation, invariant store → invariant (userStep host store operation))
    (store : UserStore) (operations : List UserOperation) (initial : invariant store) :
    invariant (userRun host store operations) := by
  induction operations generalizing store with
  | nil => exact initial
  | cons operation rest ih => exact ih (userStep host store operation) (step _ _ initial)

theorem counted_infos {host : CcfHost} {proposalId : String} {action : JsValue}
    {info : UserProposalInfoItem} {ballot : BallotValue} {store after : UserStore}
    (opened : info.state = .opened)
    (counted : Counted host proposalId action info ballot store after) :
    ∃ state, state ≠ .withdrawn ∧ after.userProposalsInfo =
      store.userProposalsInfo.insert proposalId { info with state := state } := by
  cases counted with
  | rejected _ written =>
      refine ⟨.rejected, by simp, ?_⟩
      rw [written]
      rfl
  | stillOpen _ _ _ _ written =>
      refine ⟨info.state, by simp [opened], ?_⟩
      rw [written]
      rfl
  | accepted _ _ _ _ applied ran written =>
      obtain ⟨documentId, _, result⟩ := apply_set_user_document_spec _ _ _ _ _ ran
      refine ⟨.accepted, by simp, ?_⟩
      rw [written, result]
      rfl

inductive InfoStep (store after : UserStore) (operation : UserOperation) (proposalId : String) :
    Prop where
  | unchanged (same : after.userProposalsInfo.lookup proposalId =
      store.userProposalsInfo.lookup proposalId)
  | created (info : UserProposalInfoItem)
      (absent : store.userProposalsInfo.lookup proposalId = none)
      (found : after.userProposalsInfo.lookup proposalId = some info)
      (opened : info.state = .opened)
  | changed (before info : UserProposalInfoItem)
      (known : store.userProposalsInfo.lookup proposalId = some before)
      (opened : before.state = .opened)
      (found : after.userProposalsInfo.lookup proposalId = some info)
      (withdrawn : info.state = .withdrawn → ∃ caller,
        operation = .withdrawProposal caller proposalId ∧
          getCallerId caller = .ok before.proposerId)

theorem info_step (store : UserStore) (operation : UserOperation)
    (invariant : ProposalsTallied host store) :
    InfoStep store (userStep host store operation) operation proposalId := by
  cases user_step_cases store operation with
  | untouched same =>
      exact .unchanged (by rw [same.infos])
  | created caller created body middle named put same =>
      obtain ⟨fresh, _, _, _, _, callerId, _, written⟩ := put_user_proposal_spec put
      have infos : (userStep host store operation).userProposalsInfo =
          store.userProposalsInfo.insert created ⟨callerId, .opened, []⟩ := by
        rw [same.infos, written]
      by_cases sameId : proposalId = created
      · subst sameId
        have absent : store.userProposalsInfo.lookup proposalId = none := by
          rw [Option.eq_none_iff_forall_not_mem]
          intro info found
          obtain ⟨action, actionFound, _⟩ := invariant proposalId info found
          rw [fresh] at actionFound
          cases actionFound
        exact .created _ absent (by rw [infos, AList.lookup_insert]) rfl
      · exact .unchanged (by rw [infos, AList.lookup_insert_ne sameId])
  | withdrawn caller withdrawn middle named done same =>
      obtain ⟨info, found, owner, opened, written⟩ := withdraw_user_proposal_spec done
      have infos : (userStep host store operation).userProposalsInfo =
          store.userProposalsInfo.insert withdrawn { info with state := .withdrawn } := by
        rw [same.infos, written]
        rfl
      by_cases sameId : proposalId = withdrawn
      · subst sameId
        exact .changed info _ found opened (by rw [infos, AList.lookup_insert])
          fun _ => ⟨caller, named, owner⟩
      · exact .unchanged (by rw [infos, AList.lookup_insert_ne sameId])
  | voted caller voted body middle named submitted same =>
      obtain ⟨callerId, info, action, ballot, _, found, actionFound, _, opened, _, counted⟩ :=
        submit_user_proposal_ballot_spec submitted
      obtain ⟨sameAction, sameFound, tallied⟩ := invariant voted info found
      cases actionFound.symm.trans sameFound
      obtain ⟨state, notWithdrawn, replaced⟩ := counted_infos (by exact opened)
        (count_ballot_cases _ _ _ tallied.present counted)
      have infos := same.infos.trans replaced
      by_cases sameId : proposalId = voted
      · subst sameId
        exact .changed info _ found opened (by rw [infos, AList.lookup_insert])
          fun closed => absurd closed notWithdrawn
      · exact .unchanged (by rw [infos, AList.lookup_insert_ne sameId])

theorem closed_stays (store : UserStore) (operations : List UserOperation)
    (invariant : ProposalsTallied host store)
    (found : store.userProposalsInfo.lookup proposalId = some info)
    (closed : info.state ≠ .opened) :
    (userRun host store operations).userProposalsInfo.lookup proposalId = some info := by
  induction operations generalizing store with
  | nil => exact found
  | cons operation rest ih =>
      have still : (userStep host store operation).userProposalsInfo.lookup proposalId =
          some info := by
        cases info_step store operation invariant with
        | unchanged same => rw [same, found]
        | created _ absent _ _ =>
            rw [absent] at found
            cases found
        | changed before _ known opened _ _ =>
            cases found.symm.trans known
            exact absurd opened closed
      exact ih (userStep host store operation)
        (proposals_tallied_step host store operation invariant) still

/-- The ballots of a user proposal come from listed approvers, one from each at
most. It is accepted exactly when each listed approver has accepted,
and rejected exactly when somebody has rejected. Once it is closed it never
changes, and it becomes withdrawn only through its proposer, while it is open. -/
theorem user_proposal_life (host : CcfHost) (start : UserStore)
    (noProposals : start.userProposalsInfo = ∅) (operations : List UserOperation)
    (proposalId : String) :
    (∀ info, (userRun host start operations).userProposalsInfo.lookup proposalId = some info →
      (∃ action, (userRun host start operations).userProposals.lookup proposalId = some action ∧
        (∀ ballot ∈ info.ballots, ListedApprover action ballot.approverId) ∧
        (info.ballots.map UserBallot.approverId).Nodup ∧
        (info.state = .accepted ↔ EveryApproverAccepted host action info.ballots) ∧
        (info.state = .rejected ↔ ∃ ballot ∈ info.ballots, ballot.ballot = .rejected)) ∧
      (info.state ≠ .opened → ∀ more,
        (userRun host (userRun host start operations) more).userProposalsInfo.lookup proposalId =
          some info)) ∧
    ∀ operation later,
      (userStep host (userRun host start operations) operation).userProposalsInfo.lookup
        proposalId = some later → later.state = .withdrawn →
      ∃ info, (userRun host start operations).userProposalsInfo.lookup proposalId = some info ∧
        (info.state = .withdrawn ∨ info.state = .opened ∧ ∃ caller,
          operation = .withdrawProposal caller proposalId ∧
            getCallerId caller = .ok info.proposerId) := by
  have tallied : ProposalsTallied host (userRun host start operations) := by
    apply user_run_invariant host (ProposalsTallied host) (proposals_tallied_step host)
    intro other otherInfo otherFound
    rw [noProposals] at otherFound
    cases otherFound
  constructor
  · intro info found
    obtain ⟨action, actionFound, tally⟩ := tallied proposalId info found
    exact ⟨⟨action, actionFound, tally.listed, tally.once, tally.accepted, tally.rejected⟩,
      fun closed more => closed_stays _ more tallied found closed⟩
  · intro operation later laterFound withdrawn
    cases info_step _ operation tallied with
    | unchanged same =>
        exact ⟨later, same.symm.trans laterFound, .inl withdrawn⟩
    | created info _ found opened =>
        cases found.symm.trans laterFound
        rw [opened] at withdrawn
        cases withdrawn
    | changed before after known opened found proposer =>
        cases found.symm.trans laterFound
        exact ⟨before, known, .inr ⟨opened, proposer withdrawn⟩⟩

def UserStore.fresh : UserStore where
  ledger :=
    { members := ∅
      proposals := ∅
      gov := fun _ => ∅
      contracts := ∅
      documents := ∅
      seqno := 0 }
  userDocuments := ∅
  acceptedUserDocuments := ∅
  userProposals := ∅
  userProposalsInfo := ∅
  runtimeOptionStatus := ∅

def documentProposal (documentId : String) (document : JsValue) (approvers : List String) :
    JsValue :=
  .object [("name", .string setUserDocumentName),
    ("approvers", .array (approvers.map fun id => .object [("approverId", .string id)])),
    ("args", .object [("documentId", .string documentId), ("document", document)])]

def ballotBody (ballot : String) : JsValue := .object [("ballot", .string ballot)]

def twoApprovals : List UserOperation :=
  [.createProposal (.userCert "owner") "p1"
      (documentProposal "d1" (.object [("contractId", .string "c1")]) ["owner", "peer"]),
    .submitBallot (.userCert "peer") "p1" (ballotBody "accepted"),
    .submitBallot (.userCert "owner") "p1" (ballotBody "accepted")]

theorem user_proposal_life_two_approvals :
    (userRun idleHost .fresh twoApprovals).userProposalsInfo.lookup "p1" =
        some ⟨"owner", .accepted, [⟨"peer", .accepted⟩, ⟨"owner", .accepted⟩]⟩ ∧
      ∀ more,
        (userRun idleHost (userRun idleHost .fresh twoApprovals) more).userProposalsInfo.lookup
          "p1" = some ⟨"owner", .accepted, [⟨"peer", .accepted⟩, ⟨"owner", .accepted⟩]⟩ := by
  have found : (userRun idleHost .fresh twoApprovals).userProposalsInfo.lookup "p1" =
      some ⟨"owner", .accepted, [⟨"peer", .accepted⟩, ⟨"owner", .accepted⟩]⟩ := by
    decide +kernel
  exact ⟨found, ((user_proposal_life idleHost .fresh rfl twoApprovals "p1").1 _ found).2
    (by decide)⟩

end CleanRoom.Governance
