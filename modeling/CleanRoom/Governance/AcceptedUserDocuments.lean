import CleanRoom.Governance.UserRun

/-!
# User documents are accepted once

A document is accepted through a proposal that names it. The invariant ties the
tables together: of the proposals for one document at most one is open, none is open
once the document is accepted, and the row of an accepted document comes from the one
proposal for it that was accepted. The draft of the document is not read.
-/

namespace CleanRoom.Governance

open JavaScript Throwing

/-- The action sets this document. -/
structure SetsDocument (action : JsValue) (documentId : String) : Prop where
  name : action.field "name" = .string setUserDocumentName
  document : (action.field "args").field "documentId" = .string documentId

def Proposes (store : UserStore) (proposalId documentId : String) (state : UserProposalState) :
    Prop :=
  ∃ action info, store.userProposals.lookup proposalId = some action ∧
    SetsDocument action documentId ∧
    store.userProposalsInfo.lookup proposalId = some info ∧ info.state = state

theorem collect_proposals_nil (store : UserStore) (name documentId : String)
    (rows : List (Sigma fun _ : String => JsValue))
    (none : collectProposals store name documentId rows = .ok []) :
    ∀ row ∈ rows, proposesDocument store name documentId row = .ok false := by
  induction rows with
  | nil => simp
  | cons row rest ih =>
      obtain ⟨hit, tested, collected⟩ := of_bind none
      obtain ⟨later, scanned, returned⟩ := of_bind collected
      cases hit with
      | true => cases returned
      | false =>
          cases returned
          exact List.forall_mem_cons.mpr ⟨tested, ih scanned⟩

theorem not_proposes_of_scan (store : UserStore) (documentId proposalId : String)
    (none : findOpenUserProposals store setUserDocumentName documentId = .ok []) :
    ¬Proposes store proposalId documentId .opened := by
  rintro ⟨action, info, found, sets, infoFound, opened⟩
  have tested := collect_proposals_nil _ _ _ _ none _ (entry_of_lookup _ _ _ found)
  obtain ⟨name, readName, tested⟩ := of_bind tested
  have named : name.isString setUserDocumentName = true := by
    rw [body_field_ok _ _ _ readName, sets.name]
    exact beq_self_eq_true _
  rw [named, if_pos rfl] at tested
  obtain ⟨args, readArgs, tested⟩ := of_bind tested
  obtain ⟨document, readDocument, tested⟩ := of_bind tested
  have same : document.isString documentId = true := by
    rw [body_field_ok _ _ _ readDocument, body_field_ok _ _ _ readArgs, sets.document]
    exact beq_self_eq_true _
  rw [same, if_pos rfl, infoFound] at tested
  dsimp only at tested
  rw [opened] at tested
  cases tested

theorem validate_set_user_document_ok (store : UserStore) (args : JsValue)
    (valid : validateSetUserDocument store setUserDocumentName args = .ok ()) :
    ∃ documentId, args.field "documentId" = .string documentId ∧
      store.acceptedUserDocuments.lookup documentId = none ∧
      ∀ proposalId, ¬Proposes store proposalId documentId .opened := by
  obtain ⟨value, read, valid⟩ := of_bind valid
  have valueIs := body_field_ok _ _ _ read
  split at valid
  · cases valid
  · obtain ⟨documentId, keyed, valid⟩ := of_bind valid
    have named : value = .string documentId := by
      unfold keyText at keyed
      split at keyed <;> cases keyed
      rfl
    split at valid
    · cases valid
    next absent =>
      obtain ⟨proposals, scanned, valid⟩ := of_bind valid
      split at valid
      next empty =>
        rw [List.isEmpty_iff.mp empty] at scanned
        refine ⟨documentId, valueIs ▸ named, ?_, ?_⟩
        · simpa using absent
        · exact fun proposalId => not_proposes_of_scan store documentId proposalId scanned
      · cases valid

inductive DocumentStep (host : CcfHost) (store after : UserStore) : Prop where
  | untouched (same : SameProposals store after)
  | created (proposalId callerId documentId : String) (body : JsValue)
      (fresh : store.userProposals.lookup proposalId = none)
      (sets : SetsDocument body documentId)
      (absent : store.acceptedUserDocuments.lookup documentId = none)
      (unproposed : ∀ other, ¬Proposes store other documentId .opened)
      (proposals : after.userProposals = store.userProposals.insert proposalId body)
      (infos : after.userProposalsInfo =
        store.userProposalsInfo.insert proposalId ⟨callerId, .opened, []⟩)
      (accepted : after.acceptedUserDocuments = store.acceptedUserDocuments)
  | changed (proposalId : String) (before info : UserProposalInfoItem)
      (known : store.userProposalsInfo.lookup proposalId = some before)
      (opened : before.state = .opened) (undecided : info.state ≠ .accepted)
      (proposals : after.userProposals = store.userProposals)
      (infos : after.userProposalsInfo = store.userProposalsInfo.insert proposalId info)
      (accepted : after.acceptedUserDocuments = store.acceptedUserDocuments)
  | accepted (proposalId documentId : String) (action : JsValue)
      (before info : UserProposalInfoItem) (items : List JsValue)
      (known : store.userProposalsInfo.lookup proposalId = some before)
      (opened : before.state = .opened) (decided : info.state = .accepted)
      (found : store.userProposals.lookup proposalId = some action)
      (document : (action.field "args").field "documentId" = .string documentId)
      (shape : action.field "approvers" = .array items)
      (all : ∀ approver ∈ items, AcceptedBy host info.ballots approver)
      (proposals : after.userProposals = store.userProposals)
      (infos : after.userProposalsInfo = store.userProposalsInfo.insert proposalId info)
      (accepted : after.acceptedUserDocuments = store.acceptedUserDocuments.insert documentId
        (acceptedRow (action.field "args") proposalId info.proposerId (.array items) info.ballots
          store.ledger.nextSeqno))

variable {store after : UserStore} {before info : UserProposalInfoItem} {host : CcfHost}
  {proposalId : String}

theorem document_step (store : UserStore) (operation : UserOperation)
    (tallied : ProposalsTallied host store) :
    DocumentStep host store (userStep host store operation) := by
  cases user_step_cases store operation with
  | untouched same => exact .untouched same
  | created caller proposalId body middle _ put same =>
      obtain ⟨fresh, _, _, valid, name, callerId, _, written⟩ :=
        put_user_proposal_spec put
      obtain ⟨documentId, document, absent, unproposed⟩ :=
        validate_set_user_document_ok store _ valid
      subst written
      exact .created proposalId callerId documentId body fresh ⟨name, document⟩ absent unproposed
        same.proposals same.infos same.accepted
  | withdrawn caller proposalId middle _ done same =>
      obtain ⟨info, found, _, opened, written⟩ := withdraw_user_proposal_spec done
      subst written
      exact .changed proposalId info { info with state := .withdrawn } found opened (by simp)
        same.proposals same.infos same.accepted
  | voted caller proposalId body middle _ submitted same =>
      obtain ⟨callerId, info, action, ballot, _, known, found, _, opened, _, counted⟩ :=
        submit_user_proposal_ballot_spec submitted
      obtain ⟨sameAction, sameFound, tally⟩ := tallied proposalId info known
      cases found.symm.trans sameFound
      cases count_ballot_cases _ _ _ tally.present counted with
      | rejected _ written =>
          subst written
          exact .changed proposalId info { info.record callerId ballot with state := .rejected }
            known opened (by simp) same.proposals same.infos same.accepted
      | stillOpen _ _ _ _ written =>
          subst written
          exact .changed proposalId info (info.record callerId ballot) known opened
            (by simp [UserProposalInfoItem.record, opened]) same.proposals same.infos same.accepted
      | accepted _ items shape all applied ran written =>
          obtain ⟨documentId, document, result⟩ := apply_set_user_document_spec _ _ _ _ _ ran
          subst written result
          exact .accepted proposalId documentId action info
            { info.record callerId ballot with state := .accepted } items known opened rfl found
            document shape all same.proposals same.infos same.accepted

/-- The row holds what the proposal proposed and its approvers accepted. -/
structure AcceptedFrom (host : CcfHost) (action : JsValue) (info : UserProposalInfoItem)
    (row : AcceptedUserDocument) : Prop where
  content : row.contractId = ((action.field "args").field "document").field "contractId" ∧
    row.data = ((action.field "args").field "document").field "data" ∧
    row.labels = ((action.field "args").field "document").field "labels"
  proposer : row.proposerId = info.proposerId
  approvers : row.approvers = action.field "approvers"
  votes : row.finalVotes = info.ballots
  decided : EveryApproverAccepted host action row.finalVotes

def ProducedBy (host : CcfHost) (store : UserStore) (documentId : String)
    (row : AcceptedUserDocument) : Prop :=
  ∃ action info, store.userProposals.lookup row.proposalId = some action ∧
    SetsDocument action documentId ∧
    store.userProposalsInfo.lookup row.proposalId = some info ∧ info.state = .accepted ∧
    AcceptedFrom host action info row

structure DocumentsOnce (host : CcfHost) (store : UserStore) : Prop where
  sets : ∀ proposalId action, store.userProposals.lookup proposalId = some action →
    ∃ documentId, SetsDocument action documentId
  open_once : ∀ documentId first second, Proposes store first documentId .opened →
    Proposes store second documentId .opened → first = second
  closed : ∀ documentId row, store.acceptedUserDocuments.lookup documentId = some row →
    ∀ proposalId, ¬Proposes store proposalId documentId .opened
  produced : ∀ documentId row, store.acceptedUserDocuments.lookup documentId = some row →
    ProducedBy host store documentId row
  recorded : ∀ documentId proposalId, Proposes store proposalId documentId .accepted →
    ∃ row, store.acceptedUserDocuments.lookup documentId = some row ∧ row.proposalId = proposalId

theorem sets_document_unique (action : JsValue) (first second : String)
    (one : SetsDocument action first) (two : SetsDocument action second) : first = second := by
  have same := one.document.symm.trans two.document
  exact JsValue.string.inj same

theorem documents_once_of_same
    (same : SameProposals store after) (once : DocumentsOnce host store) :
    DocumentsOnce host after := by
  have proposes : ∀ proposalId documentId state,
      Proposes after proposalId documentId state → Proposes store proposalId documentId state := by
    unfold Proposes
    rw [same.proposals, same.infos]
    exact fun _ _ _ => id
  refine ⟨?_, ?_, ?_, ?_, ?_⟩
  · rw [same.proposals]
    exact once.sets
  · exact fun documentId first second one two =>
      once.open_once documentId first second (proposes _ _ _ one) (proposes _ _ _ two)
  · rw [same.accepted]
    exact fun documentId row found proposalId proposed =>
      once.closed documentId row found proposalId (proposes _ _ _ proposed)
  · unfold ProducedBy
    rw [same.accepted, same.proposals, same.infos]
    exact once.produced
  · rw [same.accepted]
    exact fun documentId proposalId proposed =>
      once.recorded documentId proposalId (proposes _ _ _ proposed)

theorem proposes_of_replaced (known : store.userProposalsInfo.lookup proposalId = some before)
    (proposals : after.userProposals = store.userProposals)
    (infos : after.userProposalsInfo = store.userProposalsInfo.insert proposalId info)
    (other documentId : String) (state : UserProposalState)
    (proposed : Proposes after other documentId state) :
    (other = proposalId ∧ state = info.state ∧ Proposes store other documentId before.state) ∨
      (other ≠ proposalId ∧ Proposes store other documentId state) := by
  obtain ⟨action, otherInfo, found, sets, infoFound, inState⟩ := proposed
  rw [proposals] at found
  rw [infos] at infoFound
  by_cases same : other = proposalId
  · subst same
    rw [AList.lookup_insert] at infoFound
    cases infoFound
    exact .inl ⟨rfl, inState.symm, action, before, found, sets, known, rfl⟩
  · rw [AList.lookup_insert_ne same] at infoFound
    exact .inr ⟨same, action, otherInfo, found, sets, infoFound, inState⟩

theorem produced_of_replaced (known : store.userProposalsInfo.lookup proposalId = some before)
    (opened : before.state = .opened) (proposals : after.userProposals = store.userProposals)
    (infos : after.userProposalsInfo = store.userProposalsInfo.insert proposalId info)
    (documentId : String) (row : AcceptedUserDocument)
    (produced : ProducedBy host store documentId row) : ProducedBy host after documentId row := by
  obtain ⟨action, rowInfo, found, sets, infoFound, accepted, from_proposal⟩ := produced
  have other : row.proposalId ≠ proposalId := by
    intro same
    rw [same, known] at infoFound
    cases infoFound
    rw [opened] at accepted
    cases accepted
  refine ⟨action, rowInfo, ?_, sets, ?_, accepted, from_proposal⟩
  · rw [proposals]
    exact found
  · rw [infos, AList.lookup_insert_ne other]
    exact infoFound

theorem documents_once_of_created
    (once : DocumentsOnce host store) (proposalId callerId documentId : String) (body : JsValue)
    (fresh : store.userProposals.lookup proposalId = none) (sets : SetsDocument body documentId)
    (absent : store.acceptedUserDocuments.lookup documentId = none)
    (unproposed : ∀ other, ¬Proposes store other documentId .opened)
    (proposals : after.userProposals = store.userProposals.insert proposalId body)
    (infos : after.userProposalsInfo =
      store.userProposalsInfo.insert proposalId ⟨callerId, .opened, []⟩)
    (accepted : after.acceptedUserDocuments = store.acceptedUserDocuments) :
    DocumentsOnce host after := by
  have proposes : ∀ other otherDocument state, Proposes after other otherDocument state →
      (other = proposalId ∧ state = .opened ∧ otherDocument = documentId) ∨
        (other ≠ proposalId ∧ Proposes store other otherDocument state) := by
    rintro other otherDocument state ⟨action, info, found, otherSets, infoFound, inState⟩
    rw [proposals] at found
    rw [infos] at infoFound
    by_cases same : other = proposalId
    · subst same
      rw [AList.lookup_insert] at found infoFound
      cases found
      cases infoFound
      exact .inl ⟨rfl, inState.symm, sets_document_unique body _ _ otherSets sets⟩
    · rw [AList.lookup_insert_ne same] at found infoFound
      exact .inr ⟨same, action, info, found, otherSets, infoFound, inState⟩
  refine ⟨?_, ?_, ?_, ?_, ?_⟩
  · intro other action found
    rw [proposals] at found
    by_cases same : other = proposalId
    · subst same
      rw [AList.lookup_insert] at found
      cases found
      exact ⟨documentId, sets⟩
    · rw [AList.lookup_insert_ne same] at found
      exact once.sets other action found
  · intro otherDocument first second one two
    rcases proposes _ _ _ one with ⟨rfl, _, rfl⟩ | ⟨_, one⟩
    · rcases proposes _ _ _ two with ⟨rfl, _, _⟩ | ⟨_, two⟩
      · rfl
      · exact absurd two (unproposed second)
    · rcases proposes _ _ _ two with ⟨rfl, _, rfl⟩ | ⟨_, two⟩
      · exact absurd one (unproposed first)
      · exact once.open_once otherDocument first second one two
  · intro otherDocument row found other proposed
    rw [accepted] at found
    rcases proposes _ _ _ proposed with ⟨_, _, rfl⟩ | ⟨_, proposed⟩
    · rw [absent] at found
      cases found
    · exact once.closed otherDocument row found other proposed
  · intro otherDocument row found
    rw [accepted] at found
    obtain ⟨action, info, rowFound, rowSets, infoFound, decided, from_proposal⟩ :=
      once.produced otherDocument row found
    have other : row.proposalId ≠ proposalId := by
      intro same
      rw [same, fresh] at rowFound
      cases rowFound
    refine ⟨action, info, ?_, rowSets, ?_, decided, from_proposal⟩
    · rw [proposals, AList.lookup_insert_ne other]
      exact rowFound
    · rw [infos, AList.lookup_insert_ne other]
      exact infoFound
  · intro otherDocument other proposed
    rw [accepted]
    rcases proposes _ _ _ proposed with ⟨_, opened, _⟩ | ⟨_, proposed⟩
    · cases opened
    · exact once.recorded otherDocument other proposed

section Replaced

variable {host : CcfHost} {store after : UserStore} {proposalId : String}
  {before info : UserProposalInfoItem} (once : DocumentsOnce host store)
  (known : store.userProposalsInfo.lookup proposalId = some before)
  (opened : before.state = .opened)
  (proposals : after.userProposals = store.userProposals)
  (infos : after.userProposalsInfo = store.userProposalsInfo.insert proposalId info)

include known opened proposals infos

theorem open_before (other documentId : String)
    (proposed : Proposes after other documentId .opened) :
    Proposes store other documentId .opened := by
  rcases proposes_of_replaced known proposals infos _ _ _ proposed with
    ⟨_, _, proposed⟩ | ⟨_, proposed⟩
  · exact opened ▸ proposed
  · exact proposed

include once

theorem documents_once_of_changed (undecided : info.state ≠ .accepted)
    (accepted : after.acceptedUserDocuments = store.acceptedUserDocuments) :
    DocumentsOnce host after := by
  have openBefore := open_before known opened proposals infos
  refine ⟨?_, ?_, ?_, ?_, ?_⟩
  · rw [proposals]
    exact once.sets
  · intro documentId first second one two
    exact once.open_once documentId first second (openBefore _ _ one) (openBefore _ _ two)
  · intro documentId row found other proposed
    rw [accepted] at found
    exact once.closed documentId row found other (openBefore _ _ proposed)
  · intro documentId row found
    rw [accepted] at found
    exact produced_of_replaced known opened proposals infos
      documentId row (once.produced documentId row found)
  · intro documentId other proposed
    rw [accepted]
    rcases proposes_of_replaced known proposals infos _ _ _ proposed with
      ⟨_, decided, _⟩ | ⟨_, proposed⟩
    · exact absurd decided.symm undecided
    · exact once.recorded documentId other proposed

theorem documents_once_of_accepted (decided : info.state = .accepted) (documentId : String)
    (action : JsValue) (found : store.userProposals.lookup proposalId = some action)
    (sets : SetsDocument action documentId) (row : AcceptedUserDocument)
    (named : row.proposalId = proposalId) (from_proposal : AcceptedFrom host action info row)
    (accepted : after.acceptedUserDocuments = store.acceptedUserDocuments.insert documentId row) :
    DocumentsOnce host after := by
  have openBefore := open_before known opened proposals infos
  have proposed : Proposes store proposalId documentId .opened :=
    ⟨action, before, found, sets, known, opened⟩
  have nowDecided : (store.userProposalsInfo.insert proposalId info).lookup proposalId =
      some info := AList.lookup_insert _
  -- The accepted proposal was the open one for its document, so none is left.
  have none_open : ∀ other, ¬Proposes after other documentId .opened := by
    intro other stillOpen
    have same := once.open_once documentId other proposalId (openBefore _ _ stillOpen) proposed
    obtain ⟨_, otherInfo, _, _, infoFound, inState⟩ := stillOpen
    rw [same, infos, nowDecided] at infoFound
    cases infoFound
    rw [decided] at inState
    cases inState
  refine ⟨?_, ?_, ?_, ?_, ?_⟩
  · rw [proposals]
    exact once.sets
  · intro otherDocument first second one two
    exact once.open_once otherDocument first second (openBefore _ _ one) (openBefore _ _ two)
  · intro otherDocument otherRow rowFound other stillOpen
    rw [accepted] at rowFound
    by_cases same : otherDocument = documentId
    · exact none_open other (same ▸ stillOpen)
    · rw [AList.lookup_insert_ne same] at rowFound
      exact once.closed otherDocument otherRow rowFound other (openBefore _ _ stillOpen)
  · intro otherDocument otherRow rowFound
    rw [accepted] at rowFound
    by_cases same : otherDocument = documentId
    · subst same
      rw [AList.lookup_insert] at rowFound
      cases rowFound
      refine ⟨action, info, ?_, sets, ?_, decided, from_proposal⟩
      · rw [named, proposals]
        exact found
      · rw [named, infos]
        exact nowDecided
    · rw [AList.lookup_insert_ne same] at rowFound
      exact produced_of_replaced known opened proposals
        infos otherDocument otherRow (once.produced otherDocument otherRow rowFound)
  · intro otherDocument other otherAccepted
    rw [accepted]
    rcases proposes_of_replaced known proposals infos _ _ _ otherAccepted with
      ⟨rfl, _, otherProposed⟩ | ⟨different, otherAccepted⟩
    · obtain ⟨otherAction, _, otherFound, otherSets, _, _⟩ := otherProposed
      cases found.symm.trans otherFound
      cases sets_document_unique action _ _ otherSets sets
      exact ⟨row, AList.lookup_insert _, named⟩
    · obtain ⟨otherRow, rowFound, rowNamed⟩ := once.recorded otherDocument other otherAccepted
      have differentDocument : otherDocument ≠ documentId := by
        rintro rfl
        exact once.closed otherDocument otherRow rowFound proposalId proposed
      exact ⟨otherRow, by rw [AList.lookup_insert_ne differentDocument]; exact rowFound, rowNamed⟩

end Replaced

theorem documents_once_step (host : CcfHost) (store : UserStore) (operation : UserOperation)
    (tallied : ProposalsTallied host store) (once : DocumentsOnce host store) :
    DocumentsOnce host (userStep host store operation) ∧
      ∀ documentId row, store.acceptedUserDocuments.lookup documentId = some row →
        (userStep host store operation).acceptedUserDocuments.lookup documentId = some row := by
  cases document_step store operation tallied with
  | untouched same =>
      refine ⟨documents_once_of_same same once, ?_⟩
      rw [same.accepted]
      exact fun _ _ => id
  | created proposalId callerId documentId body fresh sets absent unproposed proposals infos
      accepted =>
      refine ⟨documents_once_of_created once proposalId callerId documentId body fresh
        sets absent unproposed proposals infos accepted, ?_⟩
      rw [accepted]
      exact fun _ _ => id
  | changed proposalId before info known opened undecided proposals infos accepted =>
      refine ⟨documents_once_of_changed once known opened proposals infos undecided accepted, ?_⟩
      rw [accepted]
      exact fun _ _ => id
  | accepted proposalId documentId action before info items known opened decided found document
      shape all proposals infos accepted =>
      obtain ⟨otherDocument, sets⟩ := once.sets proposalId action found
      cases JsValue.string.inj (document.symm.trans sets.document)
      refine ⟨documents_once_of_accepted once known opened proposals infos decided documentId action
        found sets _ rfl ⟨⟨rfl, rfl, rfl⟩, rfl, shape.symm, rfl, items, shape, all⟩ accepted, ?_⟩
      intro otherDocument row rowFound
      have different : otherDocument ≠ documentId := by
        rintro rfl
        exact once.closed otherDocument row rowFound proposalId
          ⟨action, before, found, sets, known, opened⟩
      rw [accepted, AList.lookup_insert_ne different]
      exact rowFound

def Consistent (host : CcfHost) (store : UserStore) : Prop :=
  ProposalsTallied host store ∧ DocumentsOnce host store

theorem consistent_step (host : CcfHost) (store : UserStore) (operation : UserOperation)
    (consistent : Consistent host store) : Consistent host (userStep host store operation) :=
  ⟨proposals_tallied_step host store operation consistent.1,
    (documents_once_step host store operation consistent.1 consistent.2).1⟩

theorem consistent_start (host : CcfHost) (start : UserStore)
    (noProposals : start.userProposals = ∅) (noInfos : start.userProposalsInfo = ∅)
    (noneAccepted : start.acceptedUserDocuments = ∅) : Consistent host start := by
  have noneProposed : ∀ proposalId documentId state,
      ¬Proposes start proposalId documentId state := by
    rintro proposalId documentId state ⟨action, info, found, _⟩
    rw [noProposals] at found
    cases found
  refine ⟨?_, ?_, ?_, ?_, ?_, ?_⟩
  · intro proposalId info found
    rw [noInfos] at found
    cases found
  · intro proposalId action found
    rw [noProposals] at found
    cases found
  · exact fun documentId first second one => absurd one (noneProposed _ _ _)
  · exact fun documentId row found proposalId => noneProposed _ _ _
  · intro documentId row found
    rw [noneAccepted] at found
    cases found
  · exact fun documentId proposalId proposed => absurd proposed (noneProposed _ _ _)

theorem consistent_run (host : CcfHost) (start : UserStore)
    (noProposals : start.userProposals = ∅) (noInfos : start.userProposalsInfo = ∅)
    (noneAccepted : start.acceptedUserDocuments = ∅) (operations : List UserOperation) :
    Consistent host (userRun host start operations) :=
  user_run_invariant host (Consistent host) (consistent_step host) start operations
    (consistent_start host start noProposals noInfos noneAccepted)

theorem accepted_row_stays (host : CcfHost) (store : UserStore) (operations : List UserOperation)
    (consistent : Consistent host store) (documentId : String) (row : AcceptedUserDocument)
    (found : store.acceptedUserDocuments.lookup documentId = some row) :
    (userRun host store operations).acceptedUserDocuments.lookup documentId = some row := by
  induction operations generalizing store with
  | nil => exact found
  | cons operation rest ih =>
      exact ih (userStep host store operation) (consistent_step host store operation consistent)
        ((documents_once_step host store operation consistent.1 consistent.2).2 _ _ found)

theorem put_user_document_refused (host : CcfHost) (caller : Caller) (documentId : String)
    (body : JsValue) (store : UserStore) (row : AcceptedUserDocument)
    (found : store.acceptedUserDocuments.lookup documentId = some row) :
    ∃ failure, putUserDocument host caller documentId body store = .error failure := by
  unfold putUserDocument
  cases validateCallerAuthorized host store.ledger caller with
  | error failure => exact ⟨failure, rfl⟩
  | ok authorized =>
      rw [found]
      exact ⟨_, rfl⟩

/-- A document has at most one open proposal. Once it is accepted it has none, its row
names the one accepted proposal, and neither the row nor the draft changes any more. -/
theorem user_document_accepted_once (host : CcfHost) (start : UserStore)
    (noProposals : start.userProposals = ∅) (noInfos : start.userProposalsInfo = ∅)
    (noneAccepted : start.acceptedUserDocuments = ∅) (operations : List UserOperation)
    (documentId : String) :
    (∀ first second, Proposes (userRun host start operations) first documentId .opened →
      Proposes (userRun host start operations) second documentId .opened → first = second) ∧
    ∀ row, (userRun host start operations).acceptedUserDocuments.lookup documentId = some row →
      (∀ proposalId, ¬Proposes (userRun host start operations) proposalId documentId .opened) ∧
      (∀ proposalId, Proposes (userRun host start operations) proposalId documentId .accepted ↔
        proposalId = row.proposalId) ∧
      ProducedBy host (userRun host start operations) documentId row ∧
      ∀ more, (userRun host (userRun host start operations) more).acceptedUserDocuments.lookup
          documentId = some row ∧
        ∀ caller body, ∃ failure, putUserDocument host caller documentId body
          (userRun host (userRun host start operations) more) = .error failure := by
  have consistent := consistent_run host start noProposals noInfos noneAccepted operations
  generalize userRun host start operations = store at consistent
  refine ⟨consistent.2.open_once documentId, ?_⟩
  intro row found
  have produced := consistent.2.produced documentId row found
  refine ⟨consistent.2.closed documentId row found, ?_, produced, ?_⟩
  · intro proposalId
    constructor
    · intro accepted
      obtain ⟨otherRow, otherFound, named⟩ := consistent.2.recorded documentId proposalId accepted
      cases found.symm.trans otherFound
      exact named.symm
    · rintro rfl
      obtain ⟨action, info, actionFound, sets, infoFound, accepted, _⟩ := produced
      exact ⟨action, info, actionFound, sets, infoFound, accepted⟩
  · intro more
    have stays := accepted_row_stays host store more consistent documentId row found
    exact ⟨stays, fun caller body => put_user_document_refused host caller documentId body _ row
      stays⟩

theorem two_approvals_accept_once :
    ∃ row, (userRun idleHost .fresh twoApprovals).acceptedUserDocuments.lookup "d1" = some row ∧
      row.proposalId = "p1" ∧
      (∀ proposalId, ¬Proposes (userRun idleHost .fresh twoApprovals) proposalId "d1" .opened) ∧
      ∀ more, (userRun idleHost (userRun idleHost .fresh twoApprovals)
        more).acceptedUserDocuments.lookup "d1" = some row := by
  have named : ((userRun idleHost .fresh twoApprovals).acceptedUserDocuments.lookup "d1").map
      AcceptedUserDocument.proposalId = some "p1" := by decide +kernel
  obtain ⟨row, found, rowNamed⟩ := Option.map_eq_some_iff.mp named
  obtain ⟨closed, _, _, stays⟩ :=
    (user_document_accepted_once idleHost .fresh rfl rfl rfl twoApprovals "d1").2 row found
  exact ⟨row, found, rowNamed, closed, fun more => (stays more).1⟩

/-- The proposal carries the content and the approvers of a draft. -/
structure CarriesDraft (action draft : JsValue) : Prop where
  contractId : ((action.field "args").field "document").field "contractId" =
    draft.field "contractId"
  data : ((action.field "args").field "document").field "data" = draft.field "data"
  labels : ((action.field "args").field "document").field "labels" = draft.field "labels"
  approvers : action.field "approvers" = draft.field "approvers"

/-- What is in force is what the draft holds, and its approvers have accepted it. -/
structure DecidedByDraft (host : CcfHost) (row : AcceptedUserDocument) (draft : JsValue) :
    Prop where
  contractId : row.contractId = draft.field "contractId"
  data : row.data = draft.field "data"
  labels : row.labels = draft.field "labels"
  approvers : row.approvers = draft.field "approvers"
  accepted : EveryApproverAccepted host draft row.finalVotes

/-- An accepted document has the content and the approvers of its proposal, each of whom
has accepted it. They are those of a draft exactly when the proposal carries it. -/
theorem proposal_decides_document (host : CcfHost) (start : UserStore)
    (noProposals : start.userProposals = ∅) (noInfos : start.userProposalsInfo = ∅)
    (noneAccepted : start.acceptedUserDocuments = ∅) (operations : List UserOperation)
    (documentId : String) (row : AcceptedUserDocument)
    (found : (userRun host start operations).acceptedUserDocuments.lookup documentId = some row) :
    ∃ action info,
      (userRun host start operations).userProposals.lookup row.proposalId = some action ∧
      SetsDocument action documentId ∧
      (userRun host start operations).userProposalsInfo.lookup row.proposalId = some info ∧
      info.state = .accepted ∧ AcceptedFrom host action info row ∧
      (∀ ballot ∈ row.finalVotes, ListedApprover action ballot.approverId) ∧
      (row.finalVotes.map UserBallot.approverId).Nodup ∧
      ∀ draft, DecidedByDraft host row draft ↔ CarriesDraft action draft := by
  obtain ⟨tallied, once⟩ := consistent_run host start noProposals noInfos noneAccepted operations
  obtain ⟨action, info, actionFound, sets, infoFound, accepted, from_proposal⟩ :=
    once.produced documentId row found
  obtain ⟨sameAction, sameFound, tally⟩ := tallied row.proposalId info infoFound
  cases actionFound.symm.trans sameFound
  obtain ⟨contractId, data, labels⟩ := from_proposal.content
  refine ⟨action, info, actionFound, sets, infoFound, accepted, from_proposal, ?_, ?_, ?_⟩
  · rw [from_proposal.votes]
    exact tally.listed
  · rw [from_proposal.votes]
    exact tally.once
  · intro draft
    constructor
    · intro decided
      exact ⟨contractId ▸ decided.contractId, data ▸ decided.data, labels ▸ decided.labels,
        from_proposal.approvers ▸ decided.approvers⟩
    · intro carries
      refine ⟨contractId.trans carries.contractId, data.trans carries.data,
        labels.trans carries.labels, from_proposal.approvers.trans carries.approvers, ?_⟩
      obtain ⟨approvers, shape, all⟩ := from_proposal.decided
      exact ⟨approvers, carries.approvers ▸ shape, all⟩

def contractStore : UserStore :=
  { UserStore.fresh with
    ledger := { UserStore.fresh.ledger with
      contracts := AList.insert "c1" ⟨.object [("data", .string "contract")], 0⟩ ∅ } }

def documentDraft (data : String) (approvers : List String) : JsValue :=
  .object [("contractId", .string "c1"), ("data", .string data),
    ("approvers", .array (approvers.map fun id => .object [("approverId", .string id)]))]

/-- A draft that designates two approvers. Another user proposes other data, with
themselves as the only approver, and accepts it. -/
def strangeProposal : List UserOperation :=
  [.putDocument (.userCert "owner") "d1" (documentDraft "reviewed" ["owner", "peer"]),
    .createProposal (.userCert "stranger") "p1"
      (documentProposal "d1" (.object [("contractId", .string "c1"), ("data", .string "other")])
        ["stranger"]),
    .submitBallot (.userCert "stranger") "p1" (ballotBody "accepted")]

theorem stranger_decides_document :
    ∃ draft row,
      (userRun idleHost contractStore strangeProposal).userDocuments.lookup "d1" = some draft ∧
      draft.value.field "data" = .string "reviewed" ∧
      draft.value.field "approvers" =
        .array [.object [("approverId", .string "owner")],
          .object [("approverId", .string "peer")]] ∧
      (userRun idleHost contractStore strangeProposal).acceptedUserDocuments.lookup "d1" =
        some row ∧
      row.data = .string "other" ∧ row.finalVotes = [⟨"stranger", .accepted⟩] :=
  ⟨_, _, rfl, rfl, rfl, rfl, rfl, rfl⟩

def carriedProposal : List UserOperation :=
  [.putDocument (.userCert "owner") "d1" (documentDraft "reviewed" ["owner", "peer"]),
    .createProposal (.userCert "owner") "p1"
      (documentProposal "d1" (documentDraft "reviewed" ["owner", "peer"]) ["owner", "peer"]),
    .submitBallot (.userCert "peer") "p1" (ballotBody "accepted"),
    .submitBallot (.userCert "owner") "p1" (ballotBody "accepted")]

theorem carried_draft_decides :
    ∃ row, (userRun idleHost contractStore carriedProposal).acceptedUserDocuments.lookup "d1" =
        some row ∧
      DecidedByDraft idleHost row (documentDraft "reviewed" ["owner", "peer"]) := by
  have named : ((userRun idleHost contractStore carriedProposal).acceptedUserDocuments.lookup
      "d1").map AcceptedUserDocument.proposalId = some "p1" := by decide +kernel
  obtain ⟨row, found, rowNamed⟩ := Option.map_eq_some_iff.mp named
  obtain ⟨action, _, actionFound, _, _, _, _, _, _, decided⟩ :=
    proposal_decides_document idleHost contractStore rfl rfl rfl carriedProposal "d1" row found
  have carried : (userRun idleHost contractStore carriedProposal).userProposals.lookup "p1" =
      some (documentProposal "d1" (documentDraft "reviewed" ["owner", "peer"])
        ["owner", "peer"]) := rfl
  rw [rowNamed, carried] at actionFound
  cases actionFound
  exact ⟨row, found, (decided _).mpr ⟨rfl, rfl, rfl, rfl⟩⟩

end CleanRoom.Governance
