import CleanRoom.Governance.Footprint
import CleanRoom.Governance.OpenItems
import CleanRoom.Governance.Run

/-!
# Items are accepted once

Contracts and member documents over whole runs: at most one action of an open
proposal names an id, an accepted entry stays as it is, and its draft can no
longer be written. The action that writes the accepted table checks nothing, so
all of this rests on the scan that `resolve` makes each time.
-/

namespace CleanRoom.Governance

open JavaScript Throwing

section Totals

variable (kind : ItemKind) (itemId : String)

private theorem total_kerase (rows : List (Sigma fun _ : String => Proposal))
    (proposalId : String) (old : Proposal) (found : rows.dlookup proposalId = some old) :
    openItemTotal kind itemId rows =
      openItems kind itemId old + openItemTotal kind itemId (rows.kerase proposalId) := by
  induction rows with
  | nil => cases found
  | cons row rest ih =>
      obtain ⟨name, proposal⟩ := row
      by_cases same : proposalId = name
      · subst same
        rw [List.dlookup_cons_eq] at found
        cases found
        simp [openItemTotal, List.kerase_cons_eq]
      · rw [List.dlookup_cons_ne _ _ same] at found
        have later := ih found
        rw [List.kerase_cons_ne same]
        simp only [openItemTotal, List.map_cons, List.sum_cons] at later ⊢
        omega

theorem total_split (proposals : Table Proposal) (proposalId : String) (old : Proposal)
    (found : proposals.lookup proposalId = some old) :
    openItemTotal kind itemId proposals.entries =
      openItems kind itemId old +
        openItemTotal kind itemId (proposals.erase proposalId).entries :=
  total_kerase kind itemId proposals.entries proposalId old found

theorem total_insert (proposals : Table Proposal) (proposalId : String) (proposal : Proposal) :
    openItemTotal kind itemId (proposals.insert proposalId proposal).entries =
      openItems kind itemId proposal +
        openItemTotal kind itemId (proposals.erase proposalId).entries := by
  rw [AList.entries_insert]
  simp only [openItemTotal, List.map_cons, List.sum_cons]
  rfl

theorem total_erase_le (proposals : Table Proposal) (proposalId : String) :
    openItemTotal kind itemId (proposals.erase proposalId).entries ≤
      openItemTotal kind itemId proposals.entries := by
  cases found : proposals.lookup proposalId with
  | none =>
      have absent : proposalId ∉ proposals.keys := AList.lookup_eq_none.mp found
      have unchanged : (proposals.erase proposalId).entries = proposals.entries :=
        List.kerase_of_notMem_keys absent
      rw [unchanged]
  | some old =>
      rw [total_split kind itemId proposals proposalId old found]
      omega

theorem total_insert_closed (proposals : Table Proposal) (proposalId : String)
    (proposal : Proposal) (closed : proposal.state ≠ .opened) :
    openItemTotal kind itemId (proposals.insert proposalId proposal).entries ≤
      openItemTotal kind itemId proposals.entries := by
  have silent : openItems kind itemId proposal = 0 := by simp [openItems, closed]
  have smaller := total_erase_le kind itemId proposals proposalId
  rw [total_insert, silent]
  omega

private theorem total_map_le (rows : List (Sigma fun _ : String => Proposal))
    (change : (Sigma fun _ : String => Proposal) → Sigma fun _ : String => Proposal)
    (smaller : ∀ row, openItems kind itemId (change row).2 ≤ openItems kind itemId row.2) :
    openItemTotal kind itemId (rows.map change) ≤ openItemTotal kind itemId rows := by
  induction rows with
  | nil => simp [openItemTotal]
  | cons row rest ih =>
      have here := smaller row
      simp only [openItemTotal, List.map_cons, List.sum_cons] at ih ⊢
      omega

theorem total_invalidate_le (proposals : Table Proposal) (proposalId : String) :
    openItemTotal kind itemId (invalidateOtherOpenProposals proposalId proposals).entries ≤
      openItemTotal kind itemId proposals.entries := by
  apply total_map_le
  intro row
  split_ifs
  · simp [openItems]
  · exact Nat.le_refl _

end Totals

theorem apply_action_proposals (host : CcfHost) (args : JsValue) (proposalId : String)
    (ledger : Ledger) (name : ActionName) :
    Ensures (fun after => after.proposals = ledger.proposals ∨
      after.proposals = invalidateOtherOpenProposals proposalId ledger.proposals)
      (applyAction host args proposalId ledger name) := by
  intro after applied
  by_cases listed : Area.proposals ∈ name.footprint
  · right
    cases name <;> simp [ActionName.footprint] at listed
    all_goals
      simp only [applyAction, applySetConstitution, applyAddNodeCode, applyAddSnpMeasurement,
        applyAllowToJoin, applyAddSnpUvmEndorsement, applyAddSnpHostData,
        applySetSnpMinimumTcbVersionHex, bind_eq_ok] at applied
    case setConstitution =>
      obtain ⟨_, _, written⟩ := applied
      cases written
      rfl
    case addNodeCode =>
      obtain ⟨_, _, _, _, written⟩ := applied
      cases written
      rfl
    case addSnpMeasurement =>
      obtain ⟨_, _, _, _, written⟩ := applied
      cases written
      rfl
    case addSnpUvmEndorsement =>
      obtain ⟨_, _, _, _, _, _, _, _, _, _, written⟩ := applied
      cases written
      rfl
    case addSnpHostData =>
      obtain ⟨_, _, _, _, _, _, written⟩ := applied
      cases written
      rfl
    case setSnpMinimumTcbVersionHex =>
      obtain ⟨_, _, _, _, _, _, _, _, _, _, written⟩ := applied
      cases written
      rfl
  · left
    exact (apply_action_confined host args proposalId ledger name after applied).proposals listed

theorem apply_proposals (kept : Table Proposal → Prop) {host : CcfHost}
    {actions : List ProposedAction} {proposalId : String} {ledger after : Ledger}
    (dropping : ∀ proposals, kept proposals →
      kept (invalidateOtherOpenProposals proposalId proposals)) (initial : kept ledger.proposals)
    (applied : Governance.apply host actions proposalId ledger = .ok after) :
    kept after.proposals := by
  refine ensures_foldlM (fun current => kept current.proposals) _ actions ledger initial ?_
    after applied
  intro current action _ holds next stepped
  rcases apply_action_proposals host action.args proposalId current action.name next stepped with
    same | dropped
  · rw [same]
    exact holds
  · rw [dropped]
    exact dropping _ holds

section Recorded

def AllActions (condition : List ProposedAction → Prop) (proposals : Table Proposal) : Prop :=
  ∀ row ∈ proposals.entries, condition row.2.actions

variable {condition : List ProposedAction → Prop} {proposals : Table Proposal}

theorem AllActions.insert (all : AllActions condition proposals) (proposalId : String)
    (proposal : Proposal) (new : condition proposal.actions) :
    AllActions condition (proposals.insert proposalId proposal) := by
  intro row member
  rw [AList.entries_insert] at member
  rcases List.mem_cons.mp member with rfl | old
  · exact new
  · exact all row ((List.kerase_sublist proposalId proposals.entries).subset old)

theorem AllActions.invalidate (all : AllActions condition proposals) (proposalId : String) :
    AllActions condition (invalidateOtherOpenProposals proposalId proposals) := by
  intro row member
  obtain ⟨old, oldMember, rfl⟩ := List.mem_map.mp member
  have oldCondition := all old oldMember
  split_ifs <;> exact oldCondition

theorem valid_action (host : CcfHost) (ledger : Ledger) (actions : List ProposedAction)
    (valid : (validate host ledger actions).valid = true) (action : ProposedAction)
    (member : action ∈ actions) :
    validateAction host ledger action.args action.name = .ok () := by
  have noErrors : validationErrors host ledger actions = [] := by
    simpa [validate] using valid
  obtain ⟨index, bound, atIndex⟩ := List.getElem_of_mem member
  have listed : (action, index) ∈ actions.zipIdx := by
    rw [List.mem_zipIdx_iff_getElem?, ← atIndex]
    exact List.getElem?_eq_getElem bound
  have noError : actionError host ledger (action, index) = none := by
    by_contra present
    obtain ⟨error, found⟩ := Option.ne_none_iff_exists'.mp present
    have reported : error ∈ validationErrors host ledger actions :=
      List.mem_filterMap.mpr ⟨(action, index), listed, found⟩
    rw [noErrors] at reported
    cases reported
  simp only [actionError] at noError
  split at noError
  · cases noError
  · split at noError
    · assumption
    · cases noError

theorem AllActions.settled {host : CcfHost} {proposalId : String} {proposal : Proposal}
    {votes : List Vote} {before after : Ledger} (all : AllActions condition before.proposals)
    (new : condition proposal.actions)
    (settled : Settled host proposalId proposal votes (before.putProposal proposalId proposal)
      after) :
    AllActions condition after.proposals := by
  have recorded := all.insert proposalId proposal new
  cases settled with
  | opened _ same =>
      subst same
      exact recorded
  | rejected _ closed =>
      subst closed
      exact recorded.insert proposalId _ new
  | accepted _ applied =>
      exact apply_proposals (AllActions condition) (fun _ kept => kept.invalidate proposalId)
        (recorded.insert proposalId (proposal.close .accepted votes) new) applied

theorem AllActions.step {host : CcfHost} {ledger after : Ledger} {event : Event}
    (all : AllActions condition ledger.proposals)
    (validated : ∀ actions, (validate host ledger actions).valid = true → condition actions)
    (stepped : Stepped host ledger event after) : AllActions condition after.proposals := by
  cases stepped with
  | propose memberId proposalId actions _ registered fresh valid settled =>
      exact all.settled (validated actions valid) settled
  | ballot memberId proposalId votes proposal _ registered found isOpen fromBallots settled =>
      have recorded : condition (proposal.addBallot memberId).actions :=
        all _ (entry_of_lookup _ _ _ found)
      exact all.settled recorded settled
  | withdraw memberId proposalId proposal found isOpen =>
      exact all.insert proposalId _ (all _ (entry_of_lookup _ _ _ found))
  | ack memberId info found => exact all
  | putContract contractId body _ put =>
      rw [(put_contract_keeps_governance ledger after put).2.1]
      exact all
  | putMemberDocument documentId body _ put =>
      rw [(put_member_document_keeps_governance ledger after put).2.1]
      exact all

end Recorded

section Reading

variable (kind : ItemKind)

def AllReadable (proposals : Table Proposal) : Prop :=
  ∀ row ∈ proposals.entries, Readable kind row.2.actions

variable {kind}

theorem AllReadable.insert {proposals : Table Proposal} (readable : AllReadable kind proposals)
    (proposalId : String) (proposal : Proposal) (new : Readable kind proposal.actions) :
    AllReadable kind (proposals.insert proposalId proposal) :=
  AllActions.insert readable proposalId proposal new

theorem AllReadable.invalidate {proposals : Table Proposal} (readable : AllReadable kind proposals)
    (proposalId : String) :
    AllReadable kind (invalidateOtherOpenProposals proposalId proposals) :=
  AllActions.invalidate readable proposalId

theorem valid_readable (known : kind = contractKind ∨ kind = documentKind) (host : CcfHost)
    (ledger : Ledger) (actions : List ProposedAction)
    (valid : (validate host ledger actions).valid = true) : Readable kind actions := by
  intro action member named
  have checked := valid_action host ledger actions valid action member
  rw [named] at checked
  rcases known with rfl | rfl
  · obtain ⟨value, read, _⟩ := of_bind checked
    exact ⟨value, read⟩
  · obtain ⟨value, read, _⟩ := of_bind checked
    exact ⟨value, read⟩

end Reading

section OpenOnce

structure OpenOnce (kind : ItemKind) (proposals : Table Proposal) : Prop where
  readable : AllReadable kind proposals
  once : ∀ itemId, openItemTotal kind itemId proposals.entries ≤ 1

variable {kind : ItemKind}

theorem OpenOnce.close {proposals : Table Proposal} (once : OpenOnce kind proposals)
    (proposalId : String) (proposal : Proposal) (closed : proposal.state ≠ .opened)
    (readable : Readable kind proposal.actions) :
    OpenOnce kind (proposals.insert proposalId proposal) where
  readable := once.readable.insert proposalId proposal readable
  once itemId :=
    (total_insert_closed kind itemId proposals proposalId proposal closed).trans (once.once itemId)

theorem OpenOnce.invalidate {proposals : Table Proposal} (once : OpenOnce kind proposals)
    (proposalId : String) :
    OpenOnce kind (invalidateOtherOpenProposals proposalId proposals) where
  readable := once.readable.invalidate proposalId
  once itemId := (total_invalidate_le kind itemId proposals proposalId).trans (once.once itemId)

theorem OpenOnce.apply {host : CcfHost} {actions : List ProposedAction} {proposalId : String}
    {ledger after : Ledger} (once : OpenOnce kind ledger.proposals)
    (applied : Governance.apply host actions proposalId ledger = .ok after) :
    OpenOnce kind after.proposals :=
  apply_proposals (OpenOnce kind) (fun _ kept => kept.invalidate proposalId) once applied

/-- The proposal is recorded in the ledger under resolution. If it stays open,
the scan has vouched for each of its ids; if it is closed, it no longer counts.
-/
theorem OpenOnce.settled (known : kind = contractKind ∨ kind = documentKind) {host : CcfHost}
    {proposalId : String} {proposal : Proposal} {votes : List Vote} {before after : Ledger}
    (once : OpenOnce kind before.proposals) (readable : Readable kind proposal.actions)
    (settled : Settled host proposalId proposal votes (before.putProposal proposalId proposal)
      after) :
    OpenOnce kind after.proposals := by
  have closing : ∀ state : ProposalState, state ≠ .opened →
      OpenOnce kind ((before.putProposal proposalId proposal).putProposal proposalId
        (proposal.close state votes)).proposals := by
    intro state closed
    simp only [Ledger.putProposal, AList.insert_insert]
    exact once.close proposalId _ closed readable
  cases settled with
  | opened resolution same =>
      subst same
      have allReadable := once.readable.insert proposalId proposal readable
      refine ⟨allReadable, ?_⟩
      intro itemId
      by_cases named : ∃ action ∈ proposal.actions, namesId kind itemId action = true
      · obtain ⟨action, member, names⟩ := named
        simp only [namesId, Bool.and_eq_true, beq_iff_eq, JsValue.is_string_iff] at names
        obtain ⟨scannedId, read, scan⟩ := resolve_scanned kind known resolution (by decide) action
          member names.1
        have sameId : scannedId = itemId := by
          have plain := (JsValue.get_ok _ _ _ read).trans names.2
          exact JsValue.string.inj plain
        subst sameId
        rw [item_exists_eq kind scannedId (before.putProposal proposalId proposal)
          allReadable] at scan
        have clear := (Bool.or_eq_false_iff.mp (Except.ok.inj scan)).2
        exact Nat.not_lt.mp (of_decide_eq_false clear)
      · have silent : openItems kind itemId proposal = 0 := by
          simp only [openItems]
          split_ifs
          · rw [List.countP_eq_zero]
            intro action member names
            exact named ⟨action, member, names⟩
          · rfl
        have smaller := total_erase_le kind itemId before.proposals proposalId
        have bound := once.once itemId
        simp only [Ledger.putProposal]
        rw [total_insert, silent]
        omega
  | rejected _ closed =>
      subst closed
      exact closing .rejected (by decide)
  | accepted _ applied => exact OpenOnce.apply (closing .accepted (by decide)) applied

theorem OpenOnce.step (known : kind = contractKind ∨ kind = documentKind) {host : CcfHost}
    {ledger after : Ledger} {event : Event} (once : OpenOnce kind ledger.proposals)
    (stepped : Stepped host ledger event after) : OpenOnce kind after.proposals := by
  cases stepped with
  | propose memberId proposalId actions _ registered fresh valid settled =>
      exact once.settled known (valid_readable known host ledger actions valid) settled
  | ballot memberId proposalId votes proposal _ registered found isOpen fromBallots settled =>
      have readable : Readable kind (proposal.addBallot memberId).actions :=
        once.readable _ (entry_of_lookup _ _ _ found)
      exact once.settled known readable settled
  | withdraw memberId proposalId proposal found isOpen =>
      have readable := once.readable _ (entry_of_lookup _ _ _ found)
      exact once.close proposalId { proposal with state := .withdrawn } (by simp) readable
  | ack memberId info found => exact once
  | putContract contractId body _ put =>
      rw [(put_contract_keeps_governance ledger after put).2.1]
      exact once
  | putMemberDocument documentId body _ put =>
      rw [(put_member_document_keeps_governance ledger after put).2.1]
      exact once

end OpenOnce

section Kept

variable {kind : ItemKind}

def EntriesKept (kind : ItemKind) (before after : Ledger) : Prop :=
  ∀ itemId value, before.kvGet (.fixed kind.acceptedTable) itemId = some value →
    after.kvGet (.fixed kind.acceptedTable) itemId = some value

theorem EntriesKept.of_same {before after : Ledger}
    (same : after.gov (.fixed kind.acceptedTable) = before.gov (.fixed kind.acceptedTable)) :
    EntriesKept kind before after := by
  intro itemId value present
  simpa [Ledger.kvGet, same] using present

theorem apply_item_action (known : kind = contractKind ∨ kind = documentKind) {host : CcfHost}
    {args : JsValue} {proposalId : String} {ledger after : Ledger}
    (applied : applyAction host args proposalId ledger kind.action = .ok after) :
    ∃ itemId value, args.get kind.idKey = .ok (.string itemId) ∧
      after = ledger.kvSet (.fixed kind.acceptedTable) itemId value := by
  have converted : ∀ (value : JsValue) (text : String), strToBuf value = .ok text →
      value = .string text := by
    intro value text same
    cases value <;> cases same
    rfl
  rcases known with rfl | rfl
  · simp only [contractKind, applyAction, applySetContract, bind_eq_ok] at applied
    obtain ⟨_, _, _, _, _, _, given, read, itemId, conversion, written⟩ := applied
    cases written
    exact ⟨itemId, _, by rw [contractKind, read, converted given itemId conversion], rfl⟩
  · simp only [documentKind, applyAction, applySetMemberDocument, bind_eq_ok] at applied
    obtain ⟨_, _, _, _, _, _, _, _, given, read, itemId, conversion, written⟩ := applied
    cases written
    exact ⟨itemId, _, by rw [documentKind, read, converted given itemId conversion], rfl⟩

theorem accepted_table_footprint (known : kind = contractKind ∨ kind = documentKind)
    (name : ActionName) (different : name ≠ kind.action) :
    (TableName.fixed kind.acceptedTable).area ∉ name.footprint := by
  rcases known with rfl | rfl <;> cases name <;>
    simp_all [contractKind, documentKind, ActionName.footprint, TableName.area]

theorem apply_keeps_entries (known : kind = contractKind ∨ kind = documentKind) {host : CcfHost}
    {actions : List ProposedAction} {proposalId : String} {before ledger after : Ledger}
    (kept : EntriesKept kind before ledger)
    (fresh : ∀ action ∈ actions, action.name = kind.action → ∀ itemId,
      action.args.get kind.idKey = .ok (.string itemId) →
        before.kvHas (.fixed kind.acceptedTable) itemId = false)
    (applied : apply host actions proposalId ledger = .ok after) :
    EntriesKept kind before after := by
  refine ensures_foldlM (EntriesKept kind before) _ actions ledger kept ?_ after applied
  intro current action member currentKept next stepped
  by_cases same : action.name = kind.action
  · rw [same] at stepped
    obtain ⟨itemId, value, read, rfl⟩ := apply_item_action known stepped
    have absent := fresh action member same itemId read
    intro otherId old present
    have different : otherId ≠ itemId := by
      rintro rfl
      simp [Ledger.kvHas, present] at absent
    rw [Ledger.kv_get_set, if_neg different]
    exact currentKept otherId old present
  · have confined := apply_action_confined host action.args proposalId current action.name next
      stepped
    have unchanged := confined.gov _ (accepted_table_footprint known action.name same)
    intro otherId old present
    exact EntriesKept.of_same unchanged otherId old (currentKept otherId old present)

theorem settled_keeps_entries (known : kind = contractKind ∨ kind = documentKind)
    {host : CcfHost} {proposalId : String} {proposal : Proposal} {votes : List Vote}
    {ledger after : Ledger} (settled : Settled host proposalId proposal votes ledger after) :
    EntriesKept kind ledger after := by
  cases settled with
  | opened _ same =>
      subst same
      exact EntriesKept.of_same rfl
  | rejected _ closed =>
      subst closed
      exact EntriesKept.of_same rfl
  | accepted resolution applied =>
      have recorded : EntriesKept kind ledger
          (ledger.putProposal proposalId (proposal.close .accepted votes)) :=
        EntriesKept.of_same rfl
      refine apply_keeps_entries known recorded ?_ applied
      intro action member named itemId read
      obtain ⟨scannedId, scannedRead, scan⟩ := resolve_scanned kind known resolution (by decide)
        action member named
      rw [read] at scannedRead
      cases scannedRead
      cases present : ledger.kvHas (.fixed kind.acceptedTable) itemId with
      | false => rfl
      | true =>
          simp [itemProposalAlreadyExists, strToBuf, present, Bind.bind, Except.bind, pure,
            Except.pure] at scan

theorem step_keeps_entries (known : kind = contractKind ∨ kind = documentKind) {host : CcfHost}
    {ledger after : Ledger} {event : Event} (stepped : Stepped host ledger event after) :
    EntriesKept kind ledger after := by
  cases stepped with
  | propose memberId proposalId actions _ registered fresh valid settled
  | ballot memberId proposalId votes proposal _ registered found isOpen fromBallots settled =>
      have kept := settled_keeps_entries known settled
      exact fun itemId value present => kept itemId value present
  | withdraw memberId proposalId proposal found isOpen => exact EntriesKept.of_same rfl
  | ack memberId info found => exact EntriesKept.of_same rfl
  | putContract contractId body _ put =>
      apply EntriesKept.of_same
      rw [(put_contract_keeps_governance ledger after put).2.2]
  | putMemberDocument documentId body _ put =>
      apply EntriesKept.of_same
      rw [(put_member_document_keeps_governance ledger after put).2.2]

theorem run_keeps_entries (known : kind = contractKind ∨ kind = documentKind) (host : CcfHost)
    (ledger : Ledger) (events : List Event) :
    EntriesKept kind ledger (run host ledger events) := by
  apply run_invariant host (EntriesKept kind ledger)
  · intro current seqno kept
    exact kept
  · intro current event after kept stepped itemId value present
    exact step_keeps_entries known stepped itemId value (kept itemId value present)
  · exact EntriesKept.of_same rfl

end Kept

def contractAccepted : RequestFailure :=
  .response ⟨405, "ContractAlreadyAccepted", "An accepted contract cannot be changed."⟩

def documentAccepted : RequestFailure :=
  .response ⟨405, "DocumentAlreadyAccepted", "An accepted document cannot be changed."⟩

variable {host : CcfHost} {ledger : Ledger} {kind : ItemKind} {body : JsValue}

theorem put_contract_refused (contractId : String)
    (accepted : ledger.kvHas (.fixed .acceptedContracts) contractId = true) :
    putContract host contractId body ledger = .error contractAccepted ∧
      advance host ledger (.putContract contractId body) = ledger := by
  have refused : putContract host contractId body ledger = .error contractAccepted := by
    rw [putContract, if_pos accepted]
    rfl
  refine ⟨refused, ?_⟩
  simp [advance, step, refused, Except.mapError]

theorem put_member_document_refused (documentId : String)
    (accepted : ledger.kvHas (.fixed .acceptedMemberDocuments) documentId = true) :
    putMemberDocument host documentId body ledger = .error documentAccepted ∧
      advance host ledger (.putMemberDocument documentId body) = ledger := by
  have refused : putMemberDocument host documentId body ledger = .error documentAccepted := by
    rw [putMemberDocument, if_pos accepted]
    rfl
  refine ⟨refused, ?_⟩
  simp [advance, step, refused, Except.mapError]

theorem kept_entry_present (before after : Ledger) (itemId : String)
    (value : JsValue) (kept : EntriesKept kind before after)
    (present : before.kvGet (.fixed kind.acceptedTable) itemId = some value) :
    after.kvHas (.fixed kind.acceptedTable) itemId = true := by
  simp [Ledger.kvHas, kept itemId value present]

theorem run_open_once (known : kind = contractKind ∨ kind = documentKind) (start : Ledger)
    (events : List Event)
    (noProposals : start.proposals = ∅) :
    OpenOnce kind (run host start events).proposals := by
  apply run_invariant host (fun ledger => OpenOnce kind ledger.proposals)
  · intro ledger seqno once
    exact once
  · intro ledger event after once stepped
    exact once.step known stepped
  · rw [noProposals]
    constructor
    · intro row member
      cases member
    · intro itemId
      exact Nat.zero_le 1

/-- In every state that a run reaches, an id is named by at most one action of
an open proposal; an accepted entry is the same after any further events; and
the draft of an accepted item can then no longer be written. -/
theorem items_accepted_once (host : CcfHost) (start : Ledger) (earlier later : List Event)
    (noProposals : start.proposals = ∅) :
    (∀ itemId,
      openItemTotal contractKind itemId (run host start earlier).proposals.entries ≤ 1 ∧
      openItemTotal documentKind itemId (run host start earlier).proposals.entries ≤ 1) ∧
    (∀ contractId value,
      (run host start earlier).kvGet (.fixed .acceptedContracts) contractId = some value →
      (run host (run host start earlier) later).kvGet (.fixed .acceptedContracts) contractId =
          some value ∧
        ∀ body,
          putContract host contractId body (run host (run host start earlier) later) =
            .error contractAccepted ∧
          advance host (run host (run host start earlier) later)
            (.putContract contractId body) = run host (run host start earlier) later) ∧
    (∀ documentId value,
      (run host start earlier).kvGet (.fixed .acceptedMemberDocuments) documentId = some value →
      (run host (run host start earlier) later).kvGet (.fixed .acceptedMemberDocuments)
          documentId = some value ∧
        ∀ body,
          putMemberDocument host documentId body (run host (run host start earlier) later) =
            .error documentAccepted ∧
          advance host (run host (run host start earlier) later)
            (.putMemberDocument documentId body) = run host (run host start earlier) later) := by
  have contracts := run_keeps_entries (Or.inl rfl : contractKind = contractKind ∨ _) host
    (run host start earlier) later
  have documents := run_keeps_entries (Or.inr rfl : documentKind = contractKind ∨ _) host
    (run host start earlier) later
  refine ⟨?_, ?_, ?_⟩
  · intro itemId
    exact ⟨(run_open_once (Or.inl rfl) start earlier noProposals).once itemId,
      (run_open_once (Or.inr rfl) start earlier noProposals).once itemId⟩
  · intro contractId value present
    refine ⟨contracts contractId value present, ?_⟩
    intro body
    exact put_contract_refused contractId
      (kept_entry_present _ _ contractId value contracts present)
  · intro documentId value present
    refine ⟨documents documentId value present, ?_⟩
    intro body
    exact put_member_document_refused documentId
      (kept_entry_present _ _ documentId value documents present)

def freshLedger : Ledger where
  members := (∅ : Table MemberInfo).insert "m1" ⟨.active, .undefined, .undefined⟩
  proposals := ∅
  gov _ := ∅
  contracts := ∅
  documents := ∅
  seqno := 0

def contractProposed (proposalId : String) : Event :=
  .propose "m1" proposalId
    [⟨.setContract, .object [("contractId", .string "c1"), ("contract", .object [])]⟩]

def contractVotedIn : List Event :=
  [contractProposed "p1", .ballot "m1" "p1" [⟨"m1", true⟩]]

def acceptedEntry : JsValue :=
  .object [("proposalId", .string "p1"), ("finalVotes", .object [("m1", .bool true)])]

theorem contract_voted_in :
    (run idleHost freshLedger contractVotedIn).kvGet (.fixed .acceptedContracts) "c1" =
      some acceptedEntry := rfl

/-- Proposing the accepted contract again changes nothing, and neither does a
new draft. -/
theorem accepted_contract_stays :
    (run idleHost (run idleHost freshLedger contractVotedIn) [contractProposed "p2"]).kvGet
        (.fixed .acceptedContracts) "c1" = some acceptedEntry ∧
      putContract idleHost "c1" (.object [("data", .string "other")])
        (run idleHost (run idleHost freshLedger contractVotedIn) [contractProposed "p2"]) =
          .error contractAccepted := by
  have once := items_accepted_once idleHost freshLedger contractVotedIn [contractProposed "p2"] rfl
  have entry := once.2.1 "c1" acceptedEntry contract_voted_in
  exact ⟨entry.1, (entry.2 _).1⟩

end CleanRoom.Governance
