import CleanRoom.Governance.Consent
import CleanRoom.Governance.RuntimeState

/-!
# Proposals on the options of a contract

Logging and telemetry of a contract are turned on and off by proposals of the members.
The status of such an option comes with the open proposals for it. `findOpenProposals`
names a proposal once for each of its actions that match, and of the two lists that are
looked up, for turning the option on and for turning it off, the answer has the first.
-/

namespace CleanRoom.Governance

open JavaScript Throwing

/-- A request of a user moves the sequence number of the ledger at most, and everything
else that is done to the ledger is an event of the governance. -/
theorem user_step_ledger (host : CcfHost) (store : UserStore) (operation : UserOperation) :
    (∃ seqno, (userStep host store operation).ledger = { store.ledger with seqno := seqno }) ∨
      ∃ event, (userStep host store operation).ledger = advance host store.ledger event := by
  unfold userStep
  cases performed : performOperation host store operation with
  | error failure => exact .inl ⟨store.ledger.seqno, rfl⟩
  | ok after =>
      cases operation with
      | putDocument caller id body =>
          left
          obtain ⟨written, put, rfl⟩ := of_map performed
          obtain ⟨value, _, rfl⟩ := put_user_document_spec id put
          exact ⟨store.ledger.nextSeqno, rfl⟩
      | createProposal caller proposalId body =>
          left
          obtain ⟨created, put, rfl⟩ := of_map performed
          obtain ⟨_, _, _, _, _, callerId, _, rfl⟩ := put_user_proposal_spec put
          exact ⟨store.ledger.nextSeqno, rfl⟩
      | withdrawProposal caller proposalId =>
          left
          obtain ⟨withdrawn, ran, rfl⟩ := of_map performed
          obtain ⟨info, _, _, _, rfl⟩ := withdraw_user_proposal_spec ran
          exact ⟨store.ledger.nextSeqno, rfl⟩
      | submitBallot caller proposalId body =>
          left
          obtain ⟨submitted, ran, rfl⟩ := of_map performed
          obtain ⟨callerId, info, action, ballot, _, _, _, _, _, _, counted⟩ :=
            submit_user_proposal_ballot_spec ran
          have frame := count_ballot_frame _ _ _ counted
          exact ⟨store.ledger.nextSeqno, by rw [frame]; rfl⟩
      | setRuntimeOption caller documentId option status =>
          left
          obtain ⟨changed, ran, rfl⟩ := of_map performed
          obtain ⟨callerId, _, rfl⟩ := (set_runtime_option_ok _ _ _).mp ran
          exact ⟨store.ledger.nextSeqno, rfl⟩
      | governance event =>
          right
          cases performed
          exact ⟨event, rfl⟩

section Ledgers

variable (host : CcfHost) (invariant : Ledger → Prop)
  (seqnoFree : ∀ ledger seqno, invariant ledger → invariant { ledger with seqno := seqno })
  (kept : ∀ ledger event after, invariant ledger → Stepped host ledger event after →
    invariant after)

include seqnoFree kept

theorem user_step_keeps_ledger (store : UserStore) (operation : UserOperation)
    (holds : invariant store.ledger) : invariant (userStep host store operation).ledger := by
  rcases user_step_ledger host store operation with ⟨seqno, same⟩ | ⟨event, advanced⟩
  · rw [same]
    exact seqnoFree _ _ holds
  · rw [advanced]
    exact run_invariant host invariant seqnoFree kept store.ledger [event] holds

theorem consent_step_keeps_ledger (store : ConsentStore) (operation : ConsentOperation)
    (holds : invariant store.users.ledger) :
    invariant (consentStep host store operation).users.ledger := by
  unfold consentStep
  cases operation with
  | setContractOption memberId contractId option status =>
      split
      next after performed =>
        obtain ⟨changed, set, rfl⟩ := of_map performed
        obtain ⟨_, rfl⟩ := (set_contract_runtime_option_ok _ _ _ _ _ _).mp set
        exact seqnoFree _ _ holds
      · exact holds
  | user operation =>
      have stepped := user_step_keeps_ledger host invariant seqnoFree kept store.users operation
        holds
      unfold userStep at stepped
      unfold performConsent
      dsimp only
      cases performed : performOperation host store.users operation with
      | error failure => exact holds
      | ok after =>
          rw [performed] at stepped
          exact stepped

theorem consent_run_keeps_ledger (store : ConsentStore) (operations : List ConsentOperation)
    (holds : invariant store.users.ledger) :
    invariant (consentRun host store operations).users.ledger := by
  induction operations generalizing store with
  | nil => exact holds
  | cons operation operations ih =>
      apply ih
      exact consent_step_keeps_ledger host invariant seqnoFree kept store operation holds

end Ledgers

def proposesFor (name : ActionName) (contractId : String) (action : ProposedAction) : Bool :=
  decide (action.name = name) && (action.args.field "contractId").isString contractId

def openMatch (name : ActionName) (contractId : String)
    (row : Sigma fun _ : String => Proposal) (action : ProposedAction) : List String :=
  if proposesFor name contractId action && decide (row.2.state = .opened) then [row.1] else []

def openMatches (name : ActionName) (contractId : String)
    (row : Sigma fun _ : String => Proposal) : List String :=
  row.2.actions.flatMap (openMatch name contractId row)

def NamesContract (name : ActionName) (actions : List ProposedAction) : Prop :=
  ∀ action ∈ actions, action.name = name → ∃ value, action.args.get "contractId" = .ok value

theorem body_field_of_get {body value : JsValue} {key : String} (read : body.get key = .ok value) :
    bodyField body key = .ok (body.field key) := by
  rw [← JsValue.get_ok body value key read]
  simp [bodyField, read]

theorem find_open_proposals_eq (ledger : Ledger) (name : ActionName) (contractId : String)
    (named : AllActions (NamesContract name) ledger.proposals) :
    findOpenProposals ledger name contractId =
      .ok (ledger.proposals.entries.flatMap (openMatches name contractId)) := by
  unfold findOpenProposals
  rw [foldlM_of_ok _ (fun found row => found ++ openMatches name contractId row),
    List.flatMap_eq_foldl]
  intro row recorded found
  rw [foldlM_of_ok _ (fun found action => found ++ openMatch name contractId row action)]
  · simp [openMatches, List.flatMap_def]
  · intro action member found
    by_cases same : action.name = name
    · obtain ⟨value, read⟩ := named row recorded action member same
      rw [if_pos same, body_field_of_get read]
      simp only [openMatch, proposesFor, same, Bind.bind, Except.bind, decide_true, Bool.true_and]
      split <;> simp [pure, Except.pure]
    · rw [if_neg same]
      simp [openMatch, proposesFor, same, pure, Except.pure]

variable {row : Sigma fun _ : String => Proposal} {contractId : String}

theorem open_matches_eq (name : ActionName) :
    openMatches name contractId row =
      List.replicate (if row.2.state = .opened then
        row.2.actions.countP (proposesFor name contractId) else 0) row.1 := by
  unfold openMatches openMatch
  induction row.2.actions with
  | nil => simp
  | cons action actions ih =>
      rw [List.flatMap_cons, ih, List.countP_cons]
      cases proposesFor name contractId action <;>
        by_cases opened : row.2.state = .opened <;> simp [opened, List.replicate_succ]

theorem mem_open_matches (name : ActionName) (contractId proposalId : String) :
    proposalId ∈ openMatches name contractId row ↔
      proposalId = row.1 ∧ row.2.state = .opened ∧
        ∃ action ∈ row.2.actions, proposesFor name contractId action = true := by
  rw [open_matches_eq, List.mem_replicate]
  by_cases opened : row.2.state = .opened
  · simp only [opened, if_true, true_and]
    rw [and_comm, ← Nat.pos_iff_ne_zero, List.countP_pos_iff]
  · simp [opened]

theorem open_matches_nodup_iff (name : ActionName) (proposals : Table Proposal) :
    (proposals.entries.flatMap (openMatches name contractId)).Nodup ↔
      ∀ row ∈ proposals.entries, row.2.state = .opened →
        row.2.actions.countP (proposesFor name contractId) ≤ 1 := by
  rw [List.nodup_flatMap]
  constructor
  · intro nodup row member opened
    have single := nodup.1 row member
    rw [open_matches_eq, if_pos opened, List.nodup_replicate] at single
    exact single
  · intro once
    constructor
    · intro row member
      rw [open_matches_eq, List.nodup_replicate]
      split
      next opened => exact once row member opened
      · exact Nat.zero_le 1
    · have distinct : proposals.entries.Pairwise fun row other => row.1 ≠ other.1 :=
        List.pairwise_map.mp proposals.nodupKeys
      apply distinct.imp
      intro row other different proposalId here there
      exact different (((mem_open_matches _ _ _).mp here).1.symm.trans
        ((mem_open_matches _ _ _).mp there).1)

/-- The options that proposals turn on and off. -/
inductive ProposedOption where
  | logging
  | telemetry

namespace ProposedOption

def name : ProposedOption → String
  | logging => "logging"
  | telemetry => "telemetry"

def table : ProposedOption → GovTable
  | logging => .contractsLoggingStatus
  | telemetry => .contractsTelemetryStatus

def enable : ProposedOption → ActionName
  | logging => .setContractRuntimeOptionsEnableLogging
  | telemetry => .setContractRuntimeOptionsEnableTelemetry

def disable : ProposedOption → ActionName
  | logging => .setContractRuntimeOptionsDisableLogging
  | telemetry => .setContractRuntimeOptionsDisableTelemetry

end ProposedOption

variable {contractId : String} {ledger : Ledger} {option : ProposedOption}

theorem check_proposed_option (host : CleanRoomHost) (caller : Caller) (body : JsValue)
    (store : ConsentStore)
    (admitted : admitConsentCheck host caller contractId body store.users = .ok ()) :
    checkContractRuntimeOption host caller contractId option.name body store =
      proposedOptionStatusOf option.table option.enable option.disable contractId
        store.users.ledger := by
  unfold admitConsentCheck at admitted
  unfold checkContractRuntimeOption
  cases option <;> cases caller <;> simp only at admitted <;> rw [admitted] <;> rfl

def OpenlyProposed (ledger : Ledger) (option : ProposedOption) (contractId proposalId : String) :
    Prop :=
  ∃ proposal, ledger.proposals.lookup proposalId = some proposal ∧ proposal.state = .opened ∧
    ∃ action ∈ proposal.actions, proposesFor option.enable contractId action = true ∨
      proposesFor option.disable contractId action = true

/-- The answer names these proposals and no others, each of them once. -/
def ReportsProposals (ledger : Ledger) (option : ProposedOption) (contractId : String)
    (answer : ContractOptionStatus) : Prop :=
  (answer.proposalIds.getD []).Nodup ∧
    ∀ proposalId, proposalId ∈ answer.proposalIds.getD [] ↔
      OpenlyProposed ledger option contractId proposalId

/-- Every open proposal has at most one action that turns the option on, and one if it has
one that turns it off. -/
def EnableStandsForBoth (ledger : Ledger) (option : ProposedOption) (contractId : String) : Prop :=
  ∀ proposalId proposal, ledger.proposals.lookup proposalId = some proposal →
    proposal.state = .opened →
    proposal.actions.countP (proposesFor option.enable contractId) ≤ 1 ∧
      ((∃ action ∈ proposal.actions, proposesFor option.disable contractId action = true) →
        ∃ action ∈ proposal.actions, proposesFor option.enable contractId action = true)

theorem proposes_for_names (name : ActionName) (contractId : String) (action : ProposedAction)
    (proposes : proposesFor name contractId action = true) :
    action.name = name ∧ action.args.field "contractId" = .string contractId := by
  obtain ⟨named, args⟩ := (Bool.and_eq_true _ _).mp proposes
  exact ⟨of_decide_eq_true named, (JsValue.is_string_iff _ _).mp args⟩

theorem configures_names_contract (name : ActionName)
    (configures : name.configuresContract = true)
    (recorded : AllActions (ConfiguresAccepted ledger) ledger.proposals) :
    AllActions (NamesContract name) ledger.proposals := by
  intro row member action listed named
  obtain ⟨contractId, read, _⟩ := recorded row member action listed (named ▸ configures)
  exact ⟨_, read⟩

theorem ProposedOption.configures (option : ProposedOption) :
    option.enable.configuresContract = true ∧ option.disable.configuresContract = true := by
  cases option <;> exact ⟨rfl, rfl⟩

theorem unaccepted_not_proposed (option : ProposedOption)
    (recorded : AllActions (ConfiguresAccepted ledger) ledger.proposals)
    (missing : isAccepted ledger contractId = false) (proposalId : String) (proposal : Proposal)
    (found : ledger.proposals.lookup proposalId = some proposal) (action : ProposedAction)
    (member : action ∈ proposal.actions) :
    proposesFor option.enable contractId action = false ∧
      proposesFor option.disable contractId action = false := by
  have configured := recorded _ (entry_of_lookup _ _ _ found) action member
  have absurdity : ∀ name, name.configuresContract = true →
      proposesFor name contractId action = false := by
    intro name configures
    by_contra proposes
    obtain ⟨named, field⟩ := proposes_for_names name contractId action (by simpa using proposes)
    obtain ⟨accepted, read, present⟩ := configured (named ▸ configures)
    have same := JsValue.get_ok _ _ _ read
    rw [field] at same
    cases same
    rw [missing] at present
    cases present
  exact ⟨absurdity _ option.configures.1, absurdity _ option.configures.2⟩

theorem proposed_option_status_accepted
    (recorded : AllActions (ConfiguresAccepted ledger) ledger.proposals)
    (accepted : isAccepted ledger contractId = true) :
    ∃ answer, proposedOptionStatusOf option.table option.enable option.disable contractId ledger =
        .ok answer ∧
      answer.proposalIds =
        some (ledger.proposals.entries.flatMap (openMatches option.enable contractId)) := by
  have enabled := find_open_proposals_eq ledger option.enable contractId
    (configures_names_contract _ option.configures.1 recorded)
  have disabled := find_open_proposals_eq ledger option.disable contractId
    (configures_names_contract _ option.configures.2 recorded)
  unfold isAccepted at accepted
  unfold proposedOptionStatusOf
  rw [accepted, enabled, disabled]
  simp only [Bool.not_true, Bool.false_eq_true, if_false, Bind.bind, Except.bind]
  cases ledger.kvGet (.fixed option.table) contractId with
  | none => exact ⟨_, rfl, rfl⟩
  | some item =>
      dsimp only
      split
      · exact ⟨_, rfl, rfl⟩
      · exact ⟨_, rfl, rfl⟩

theorem proposed_option_status_unaccepted (option : ProposedOption)
    (missing : isAccepted ledger contractId = false) :
    proposedOptionStatusOf option.table option.enable option.disable contractId ledger =
      .ok ⟨contractNotAccepted, none⟩ := by
  unfold isAccepted at missing
  unfold proposedOptionStatusOf
  rw [missing]
  rfl

theorem mem_reported (name : ActionName) (contractId proposalId : String) :
    proposalId ∈ ledger.proposals.entries.flatMap (openMatches name contractId) ↔
      ∃ proposal, ledger.proposals.lookup proposalId = some proposal ∧ proposal.state = .opened ∧
        ∃ action ∈ proposal.actions, proposesFor name contractId action = true := by
  rw [List.mem_flatMap]
  constructor
  · rintro ⟨row, member, found⟩
    obtain ⟨rfl, opened, proposes⟩ := (mem_open_matches _ _ _).mp found
    exact ⟨row.2, lookup_of_entry _ row member, opened, proposes⟩
  · rintro ⟨proposal, found, opened, proposes⟩
    exact ⟨⟨proposalId, proposal⟩, entry_of_lookup _ _ _ found,
      (mem_open_matches _ _ _).mpr ⟨rfl, opened, proposes⟩⟩

theorem reported_exactly_iff :
    ((ledger.proposals.entries.flatMap (openMatches option.enable contractId)).Nodup ∧
      ∀ proposalId,
        proposalId ∈ ledger.proposals.entries.flatMap (openMatches option.enable contractId) ↔
          OpenlyProposed ledger option contractId proposalId) ↔
      EnableStandsForBoth ledger option contractId := by
  rw [open_matches_nodup_iff]
  constructor
  · rintro ⟨once, exactly⟩ proposalId proposal found opened
    refine ⟨once _ (entry_of_lookup _ _ _ found) opened, ?_⟩
    rintro ⟨action, member, proposes⟩
    obtain ⟨other, again, _, enabling⟩ := (mem_reported _ _ _).mp
      ((exactly proposalId).mpr ⟨proposal, found, opened, action, member, .inr proposes⟩)
    cases found.symm.trans again
    exact enabling
  · intro stands
    constructor
    · intro row member opened
      exact (stands row.1 row.2 (lookup_of_entry _ row member) opened).1
    · intro proposalId
      rw [mem_reported]
      apply exists_congr
      intro proposal
      apply and_congr_right
      intro found
      apply and_congr_right
      intro opened
      constructor
      · rintro ⟨action, member, proposes⟩
        exact ⟨action, member, .inl proposes⟩
      · rintro ⟨action, member, enables | disables⟩
        · exact ⟨action, member, enables⟩
        · exact (stands proposalId proposal found opened).2 ⟨action, member, disables⟩

theorem consent_run_configures_accepted (host : CcfHost) (start : ConsentStore)
    (noProposals : start.users.ledger.proposals = ∅) (operations : List ConsentOperation) :
    AllActions (ConfiguresAccepted (consentRun host start operations).users.ledger)
      (consentRun host start operations).users.ledger.proposals := by
  apply consent_run_keeps_ledger host
    (fun ledger => AllActions (ConfiguresAccepted ledger) ledger.proposals)
  · intro ledger seqno recorded
    exact recorded
  · intro ledger event after recorded stepped
    exact configures_accepted_step recorded stepped
  · rw [noProposals]
    intro row member
    cases member

/-- In every state that a run reaches, the status of an option comes with the open
proposals for it, each of them once, exactly if the enabling actions stand for both. -/
theorem open_proposals_reported_iff (host : CleanRoomHost) (start : ConsentStore)
    (noProposals : start.users.ledger.proposals = ∅) (operations : List ConsentOperation)
    (option : ProposedOption) (contractId : String) (caller : Caller) (body : JsValue)
    (admitted : admitConsentCheck host caller contractId body
      (consentRun host.ccf start operations).users = .ok ()) :
    let store := consentRun host.ccf start operations
    (∃ answer, checkContractRuntimeOption host caller contractId option.name body store =
        .ok answer ∧ ReportsProposals store.users.ledger option contractId answer) ↔
      EnableStandsForBoth store.users.ledger option contractId := by
  intro store
  have recorded := consent_run_configures_accepted host.ccf start noProposals operations
  rw [check_proposed_option host caller body store admitted]
  cases accepted : isAccepted store.users.ledger contractId with
  | true =>
      obtain ⟨answer, checked, listed⟩ :=
        proposed_option_status_accepted recorded accepted
      rw [checked, ← reported_exactly_iff]
      constructor
      · rintro ⟨given, same, reports⟩
        cases same
        unfold ReportsProposals at reports
        rw [listed] at reports
        exact reports
      · intro exactly
        refine ⟨answer, rfl, ?_⟩
        unfold ReportsProposals
        rw [listed]
        exact exactly
  | false =>
      rw [proposed_option_status_unaccepted option accepted]
      have unproposed := unaccepted_not_proposed option recorded accepted
      constructor
      · intro _ proposalId proposal found opened
        have none : proposal.actions.countP (proposesFor option.enable contractId) = 0 := by
          rw [List.countP_eq_zero]
          intro action member proposes
          rw [(unproposed proposalId proposal found action member).1] at proposes
          cases proposes
        refine ⟨by omega, ?_⟩
        rintro ⟨action, member, proposes⟩
        rw [(unproposed proposalId proposal found action member).2] at proposes
        cases proposes
      · intro _
        refine ⟨_, rfl, List.nodup_nil, ?_⟩
        intro proposalId
        constructor
        · intro member
          cases member
        · rintro ⟨proposal, found, _, action, member, proposes⟩
          obtain ⟨enable, disable⟩ := unproposed proposalId proposal found action member
          rw [enable, disable] at proposes
          simp at proposes

def proposedOptions (actions : List ActionName) : List ConsentOperation :=
  [.user (.governance (contractProposed "p1")),
    .user (.governance (.ballot "m1" "p1" [⟨"m1", true⟩])),
    .user (.governance (.propose "m1" "p2" (actions.map fun name =>
      ⟨name, .object [("contractId", .string "c1")]⟩)))]

def optionsStart : ConsentStore := ⟨{ UserStore.fresh with ledger := freshLedger }, ∅⟩

def optionsStore (actions : List ActionName) : ConsentStore :=
  consentRun sampleCleanRoomHost.ccf optionsStart (proposedOptions actions)

/-- A proposal to turn logging on and telemetry off is open, and the status of telemetry
names no proposal. -/
theorem open_disable_not_reported :
    let store := optionsStore [.setContractRuntimeOptionsEnableLogging,
      .setContractRuntimeOptionsDisableTelemetry]
    OpenlyProposed store.users.ledger .telemetry "c1" "p2" ∧
      checkContractRuntimeOption sampleCleanRoomHost (.memberCert "m1") "c1" "telemetry" .null
        store = .ok ⟨⟨.disabled, none⟩, some []⟩ :=
  ⟨⟨_, rfl, rfl, _, List.mem_cons_of_mem _ List.mem_cons_self, .inr rfl⟩, rfl⟩

theorem open_enable_reported :
    ∃ answer, checkContractRuntimeOption sampleCleanRoomHost (.memberCert "m1") "c1" "telemetry"
        .null (optionsStore [.setContractRuntimeOptionsEnableTelemetry]) = .ok answer ∧
      ReportsProposals (optionsStore [.setContractRuntimeOptionsEnableTelemetry]).users.ledger
        .telemetry "c1" answer := by
  apply (open_proposals_reported_iff sampleCleanRoomHost optionsStart rfl
    (proposedOptions [.setContractRuntimeOptionsEnableTelemetry]) .telemetry "c1"
    (.memberCert "m1") .null rfl).mpr
  intro proposalId proposal found opened
  have recorded := entry_of_lookup _ _ _ found
  rcases List.mem_cons.mp recorded with same | earlier
  · cases same
    exact ⟨by decide, fun _ => ⟨_, List.mem_cons_self, rfl⟩⟩
  · cases List.mem_singleton.mp earlier
    cases opened

end CleanRoom.Governance
