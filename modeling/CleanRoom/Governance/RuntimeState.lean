import CleanRoom.Governance.AcceptedOnce

/-!
# Runtime state of contracts

The actions that give a contract a deployment, a clean room policy, a CA or a
runtime option check that the contract has been accepted when they are
proposed, not when they are applied. What they write is nevertheless only ever
written for accepted contracts: a recorded proposal keeps its actions, and an
accepted contract stays accepted.
-/

namespace CleanRoom.Governance

open JavaScript Throwing

def contractTables : List GovTable :=
  [.deploymentSpecs, .deploymentInfo, .ca, .contractsTelemetryStatus, .contractsLoggingStatus]

/-- A contract has a row in one of these tables or an entry in its own policy
table. -/
def hasRuntimeState (ledger : Ledger) (contractId : String) : Bool :=
  contractTables.any (fun table => ledger.kvHas (.fixed table) contractId) ||
    !(ledger.gov (.cleanRoomPolicy contractId)).entries.isEmpty

def isAccepted (ledger : Ledger) (contractId : String) : Bool :=
  ledger.kvHas (.fixed .acceptedContracts) contractId

/-- The actions whose `contractId` names the contract they write for. -/
def ActionName.configuresContract : ActionName → Bool
  | .setDeploymentSpec => true
  | .setDeploymentInfo => true
  | .setCleanRoomPolicy => true
  | .enableCa => true
  | .caEnableRotateSigningKey => true
  | .setContractRuntimeOptionsEnableTelemetry => true
  | .setContractRuntimeOptionsDisableTelemetry => true
  | .setContractRuntimeOptionsEnableLogging => true
  | .setContractRuntimeOptionsDisableLogging => true
  | _ => false

def NamesAccepted (ledger : Ledger) (args : JsValue) : Prop :=
  ∃ contractId, args.get "contractId" = .ok (.string contractId) ∧
    isAccepted ledger contractId = true

variable {ledger : Ledger} {args : JsValue} {host : CcfHost}

theorem check_contract_accepted_ok (subject : String)
    (checked : checkContractAccepted subject ledger args = .ok ()) :
    NamesAccepted ledger args := by
  obtain ⟨given, read, converted⟩ := of_bind checked
  obtain ⟨contractId, conversion, guarded⟩ := of_bind converted
  cases given <;> cases conversion
  refine ⟨contractId, read, ?_⟩
  cases accepted : isAccepted ledger contractId with
  | true => rfl
  | false =>
      have missing : ledger.kvHas (.fixed .acceptedContracts) contractId = false := accepted
      simp [missing] at guarded

theorem validate_deployment_accepted (key subject : String)
    (checked : validateDeployment key subject ledger args = .ok ()) :
    NamesAccepted ledger args := by
  obtain ⟨_, _, _, _, _, _, _, _, accepted⟩ := by
    simpa only [validateDeployment, bind_eq_ok] using checked
  exact check_contract_accepted_ok _ accepted

theorem validate_contract_option_accepted (checked : validateContractOption ledger args = .ok ()) :
    NamesAccepted ledger args := by
  obtain ⟨_, _, _, _, accepted⟩ := by
    simpa only [validateContractOption, bind_eq_ok] using checked
  exact check_contract_accepted_ok _ accepted

theorem validate_enable_ca_accepted (checked : validateEnableCa ledger args = .ok ()) :
    NamesAccepted ledger args := by
  obtain ⟨_, _, _, _, accepted⟩ := by
    simpa only [validateEnableCa, bind_eq_ok] using checked
  exact check_contract_accepted_ok _ accepted

theorem validate_clean_room_policy_accepted
    (checked : validateSetCleanRoomPolicy host ledger args = .ok ()) :
    NamesAccepted ledger args := by
  obtain ⟨_, _, _, _, type, _, _, _, policyType, _, _, _, claims, _, _, _, guarded⟩ := by
    simpa only [validateSetCleanRoomPolicy, bind_eq_ok] using checked
  split at guarded
  · cases guarded
  · split_ifs at guarded
    all_goals
      obtain ⟨_, _, accepted⟩ := of_bind guarded
      exact check_contract_accepted_ok _ accepted

theorem validate_action_accepted (name : ActionName) (configures : name.configuresContract = true)
    (checked : validateAction host ledger args name = .ok ()) : NamesAccepted ledger args := by
  cases name <;> try cases configures
  case setDeploymentSpec => exact validate_deployment_accepted _ _ checked
  case setDeploymentInfo => exact validate_deployment_accepted _ _ checked
  case setCleanRoomPolicy => exact validate_clean_room_policy_accepted checked
  case enableCa => exact validate_enable_ca_accepted checked
  case caEnableRotateSigningKey =>
      obtain ⟨_, accepted, _⟩ := of_bind checked
      exact validate_enable_ca_accepted accepted
  all_goals exact validate_contract_option_accepted checked

def OthersSame (contractId : String) (before after : Ledger) : Prop :=
  ∀ other, other ≠ contractId → hasRuntimeState after other = hasRuntimeState before other

theorem OthersSame.set_row {contractId : String} {before after : Ledger}
    (same : OthersSame contractId before after) (table : GovTable) (value : JsValue) :
    OthersSame contractId before (after.kvSet (.fixed table) contractId value) := by
  intro other different
  rw [← same other different]
  have rows : ∀ name, (after.kvSet (.fixed table) contractId value).kvHas (.fixed name) other =
      after.kvHas (.fixed name) other := by
    intro name
    by_cases sameTable : name = table
    · subst sameTable
      simp [Ledger.kvHas, Ledger.kv_get_set, different]
    · simp [Ledger.kvHas, Ledger.kvGet, Ledger.kvSet, Ledger.set_table_other, sameTable]
  have policy : (after.kvSet (.fixed table) contractId value).gov (.cleanRoomPolicy other) =
      after.gov (.cleanRoomPolicy other) :=
    Ledger.set_table_other _ _ _ _ (by simp)
  simp only [hasRuntimeState, rows, policy]

theorem OthersSame.set_policy {contractId : String} {before after : Ledger}
    (same : OthersSame contractId before after) (rows : Table JsValue) :
    OthersSame contractId before (after.setTable (.cleanRoomPolicy contractId) rows) := by
  intro other different
  rw [← same other different]
  have policy : (after.setTable (.cleanRoomPolicy contractId) rows).gov (.cleanRoomPolicy other) =
      after.gov (.cleanRoomPolicy other) :=
    Ledger.set_table_other _ _ _ _ (by simpa using different)
  have fixedRows : ∀ name,
      (after.setTable (.cleanRoomPolicy contractId) rows).kvHas (.fixed name) other =
        after.kvHas (.fixed name) other := by
    intro name
    simp [Ledger.kvHas, Ledger.kvGet, Ledger.set_table_other]
  simp only [hasRuntimeState, fixedRows, policy]

section Apply

variable {args : JsValue} {contractId : String}
  (named : args.get "contractId" = .ok (.string contractId)) (host : CcfHost) (ledger : Ledger)

include named

theorem apply_deployment_others_same (key : String) (table : GovTable) :
    Ensures (OthersSame contractId ledger) (applyDeployment key table args ledger) := by
  simp only [applyDeployment, named, ensures_bind, ensures_pure]
  rintro _ _ data _ _ ⟨⟩ _ ⟨⟩
  exact OthersSame.set_row (fun _ _ => rfl) table _

theorem apply_contract_option_others_same (table : GovTable) (status : String) :
    Ensures (OthersSame contractId ledger) (applyContractOption table status args ledger) := by
  simp only [applyContractOption, named, ensures_bind, ensures_pure]
  rintro _ ⟨⟩ _ ⟨⟩
  exact OthersSame.set_row (fun _ _ => rfl) table _

theorem apply_enable_ca_others_same :
    Ensures (OthersSame contractId ledger) (applyEnableCa args ledger) := by
  simp only [applyEnableCa, named, ensures_bind]
  rintro _ ⟨⟩ _ ⟨⟩ enabled _
  split <;> simp only [ensures_pure]
  · exact fun _ _ => rfl
  · exact OthersSame.set_row (fun _ _ => rfl) _ _

theorem apply_rotate_ca_others_same :
    Ensures (OthersSame contractId ledger) (applyCaEnableRotateSigningKey args ledger) := by
  simp only [applyCaEnableRotateSigningKey, named, ensures_bind]
  rintro _ ⟨⟩ _ ⟨⟩
  split
  · simp only [ensures_bind, ensures_pure]
    intro requestId _
    exact OthersSame.set_row (fun _ _ => rfl) _ _
  · simp only [ensures_throw]

omit named in
theorem add_claims_others_same (claims : JsValue) (keys : List String) :
    Ensures (OthersSame contractId ledger)
      (keys.foldlM (addClaim (.cleanRoomPolicy contractId) claims) ledger) := by
  apply ensures_foldlM
  · exact fun _ _ => rfl
  · intro current key _ same
    simp only [addClaim]
    split <;> simp only [ensures_bind, ensures_pure]
    · exact same.set_policy _
    · intro items _
      exact same.set_policy _

omit named in
theorem remove_claims_others_same (owner : String) (claims : JsValue) (keys : List String) :
    Ensures (OthersSame contractId ledger)
      (keys.foldlM (removeClaim host owner (.cleanRoomPolicy contractId) claims) ledger) := by
  apply ensures_foldlM
  · exact fun _ _ => rfl
  · intro current key _ same
    simp only [removeClaim]
    split
    · split
      · simp only [ensures_pure]
        exact same.set_policy _
      · simp only [ensures_bind]
        intro stored _ items _
        split <;> simp only [ensures_pure]
        · exact same.set_policy _
        · exact same.set_policy _
    · simp only [ensures_throw]

theorem apply_clean_room_policy_others_same :
    Ensures (OthersSame contractId ledger) (applySetCleanRoomPolicy host args ledger) := by
  simp only [applySetCleanRoomPolicy, named, ensures_bind]
  rintro _ ⟨⟩ type _ claims _
  split
  · simp only [ensures_bind]
    intro keys _
    exact add_claims_others_same ledger claims keys
  · split
    · simp only [ensures_bind]
      intro keys _
      exact remove_claims_others_same host ledger _ claims keys
    · simp only [ensures_throw]

theorem apply_action_others_same (proposalId : String) (name : ActionName)
    (configures : name.configuresContract = true) :
    Ensures (OthersSame contractId ledger) (applyAction host args proposalId ledger name) := by
  cases name <;> try cases configures
  case setDeploymentSpec => exact apply_deployment_others_same named ledger _ _
  case setDeploymentInfo => exact apply_deployment_others_same named ledger _ _
  case setCleanRoomPolicy => exact apply_clean_room_policy_others_same named host ledger
  case enableCa => exact apply_enable_ca_others_same named ledger
  case caEnableRotateSigningKey => exact apply_rotate_ca_others_same named ledger
  all_goals exact apply_contract_option_others_same named ledger _ _

end Apply

def runtimeAreas : List Area :=
  .cleanRoomPolicies :: contractTables.map .fixed

variable {name : ActionName} {ledger : Ledger} {host : CcfHost}

theorem runtime_area_unlisted (other : name.configuresContract = false) :
    ∀ area ∈ runtimeAreas, area ∉ name.footprint := by
  cases name <;>
    first
      | exact absurd other (by decide)
      | simp [runtimeAreas, contractTables, ActionName.footprint]

theorem apply_action_runtime_state (args : JsValue) (proposalId : String)
    (other : name.configuresContract = false)
    (contractId : String) :
    Ensures (fun after => hasRuntimeState after contractId = hasRuntimeState ledger contractId)
      (applyAction host args proposalId ledger name) := by
  intro after applied
  have confined := apply_action_confined host args proposalId ledger name after applied
  have tables : ∀ table ∈ contractTables,
      after.gov (.fixed table) = ledger.gov (.fixed table) := by
    intro table member
    exact confined.gov _ (runtime_area_unlisted other _
      (List.mem_cons_of_mem _ (List.mem_map_of_mem member)))
  have policy : after.gov (.cleanRoomPolicy contractId) =
      ledger.gov (.cleanRoomPolicy contractId) :=
    confined.gov _ (runtime_area_unlisted other _ List.mem_cons_self)
  simp only [hasRuntimeState, policy]
  congr 1
  rw [Bool.eq_iff_iff, List.any_eq_true, List.any_eq_true]
  refine exists_congr fun table => and_congr_right fun member => ?_
  simp [Ledger.kvHas, Ledger.kvGet, tables table member]

def ConfiguresAccepted (ledger : Ledger) (actions : List ProposedAction) : Prop :=
  ∀ action ∈ actions, action.name.configuresContract = true → NamesAccepted ledger action.args

theorem valid_configures_accepted
    (actions : List ProposedAction) (valid : (validate host ledger actions).valid = true) :
    ConfiguresAccepted ledger actions := by
  intro action member configuring
  exact validate_action_accepted action.name configuring
    (valid_action host ledger actions valid action member)

theorem ConfiguresAccepted.mono {before after : Ledger} {actions : List ProposedAction}
    (configures : ConfiguresAccepted before actions)
    (kept : EntriesKept contractKind before after) :
    ConfiguresAccepted after actions := by
  intro action member configuring
  obtain ⟨contractId, named, accepted⟩ := configures action member configuring
  obtain ⟨value, present⟩ := Option.isSome_iff_exists.mp accepted
  exact ⟨contractId, named, kept_entry_present _ _ contractId value kept present⟩

def RuntimeAccepted (accepted state : Ledger) : Prop :=
  ∀ contractId, hasRuntimeState state contractId = true → isAccepted accepted contractId = true

theorem RuntimeAccepted.put_proposal {accepted state : Ledger}
    (runtime : RuntimeAccepted accepted state) (proposalId : String) (proposal : Proposal) :
    RuntimeAccepted accepted (state.putProposal proposalId proposal) :=
  fun contractId present => runtime contractId present

theorem apply_runtime_accepted {host : CcfHost} {actions : List ProposedAction}
    {proposalId : String} {before ledger after : Ledger} (initial : RuntimeAccepted before ledger)
    (configures : ConfiguresAccepted before actions)
    (applied : apply host actions proposalId ledger = .ok after) :
    RuntimeAccepted before after := by
  refine ensures_foldlM (RuntimeAccepted before) _ actions ledger initial ?_ after applied
  intro current action member runtime next stepped contractId present
  cases configuring : action.name.configuresContract with
  | false =>
      have same := apply_action_runtime_state action.args proposalId
        configuring contractId next stepped
      exact runtime contractId (same ▸ present)
  | true =>
      obtain ⟨target, named, accepted⟩ := configures action member configuring
      by_cases own : contractId = target
      · rw [own]
        exact accepted
      · have same := apply_action_others_same named host current proposalId action.name configuring
          next stepped contractId own
        exact runtime contractId (same ▸ present)

theorem settled_runtime_accepted {host : CcfHost} {proposalId : String} {proposal : Proposal}
    {votes : List Vote} {before ledger after : Ledger} (initial : RuntimeAccepted before ledger)
    (configures : ConfiguresAccepted before proposal.actions)
    (settled : Settled host proposalId proposal votes ledger after) :
    RuntimeAccepted before after := by
  cases settled with
  | opened _ same =>
      subst same
      exact initial
  | rejected _ closed =>
      subst closed
      exact initial.put_proposal _ _
  | accepted _ applied =>
      exact apply_runtime_accepted (initial.put_proposal _ _) configures applied

theorem step_runtime_accepted {host : CcfHost} {ledger after : Ledger} {event : Event}
    (runtime : RuntimeAccepted ledger ledger)
    (recorded : AllActions (ConfiguresAccepted ledger) ledger.proposals)
    (stepped : Stepped host ledger event after) : RuntimeAccepted ledger after := by
  cases stepped with
  | propose memberId proposalId actions _ registered fresh valid settled =>
      exact settled_runtime_accepted (runtime.put_proposal _ _)
        (valid_configures_accepted actions valid) settled
  | ballot memberId proposalId votes proposal _ registered found isOpen fromBallots settled =>
      have configures : ConfiguresAccepted ledger (proposal.addBallot memberId).actions :=
        recorded _ (entry_of_lookup _ _ _ found)
      exact settled_runtime_accepted (runtime.put_proposal _ _) configures settled
  | withdraw memberId proposalId proposal found isOpen => exact runtime
  | ack memberId info found => exact runtime
  | putContract contractId body _ put =>
      have same := (put_contract_keeps_governance ledger after put).2.2
      simpa only [RuntimeAccepted, hasRuntimeState, Ledger.kvHas, Ledger.kvGet, same] using runtime
  | putMemberDocument documentId body _ put =>
      have same := (put_member_document_keeps_governance ledger after put).2.2
      simpa only [RuntimeAccepted, hasRuntimeState, Ledger.kvHas, Ledger.kvGet, same] using runtime

structure AcceptedOnly (ledger : Ledger) : Prop where
  recorded : AllActions (ConfiguresAccepted ledger) ledger.proposals
  runtime : RuntimeAccepted ledger ledger

theorem configures_accepted_step {host : CcfHost} {ledger after : Ledger} {event : Event}
    (recorded : AllActions (ConfiguresAccepted ledger) ledger.proposals)
    (stepped : Stepped host ledger event after) :
    AllActions (ConfiguresAccepted after) after.proposals := by
  intro row member
  have configures := recorded.step valid_configures_accepted stepped row member
  exact configures.mono (step_keeps_entries (Or.inl rfl) stepped)

theorem AcceptedOnly.step {host : CcfHost} {ledger after : Ledger} {event : Event}
    (only : AcceptedOnly ledger) (stepped : Stepped host ledger event after) :
    AcceptedOnly after := by
  have kept : EntriesKept contractKind ledger after := step_keeps_entries (Or.inl rfl) stepped
  constructor
  · exact configures_accepted_step only.recorded stepped
  · intro contractId present
    have accepted := step_runtime_accepted only.runtime only.recorded stepped contractId present
    obtain ⟨value, found⟩ := Option.isSome_iff_exists.mp accepted
    exact kept_entry_present _ _ contractId value kept found

/-- A service starts without proposals and without a contract that is
configured. In every state that a run reaches from there, a contract with
runtime state is an accepted one. -/
theorem runtime_state_accepted (host : CcfHost) (start : Ledger) (events : List Event)
    (noProposals : start.proposals = ∅)
    (noState : ∀ contractId, hasRuntimeState start contractId = false) (contractId : String)
    (present : hasRuntimeState (run host start events) contractId = true) :
    (run host start events).kvHas (.fixed .acceptedContracts) contractId = true := by
  have initial : AcceptedOnly start := by
    constructor
    · intro row member
      rw [noProposals] at member
      cases member
    · intro otherId configured
      rw [noState otherId] at configured
      cases configured
  have only : AcceptedOnly (run host start events) := by
    apply run_invariant host AcceptedOnly _ _ start events initial
    · intro ledger seqno only
      exact ⟨only.recorded, only.runtime⟩
    · intro ledger event after only stepped
      exact only.step stepped
  exact only.runtime contractId present

/-- The contract of the earlier example is accepted and then given a
deployment spec. -/
def contractDeployed : List Event :=
  contractVotedIn ++
    [.propose "m1" "p2" [⟨.setDeploymentSpec, .object [("contractId", .string "c1"),
      ("spec", .object [("data", .object [("image", .string "app")])])]⟩],
    .ballot "m1" "p2" [⟨"m1", true⟩]]

theorem deployed_contract_accepted :
    hasRuntimeState (run idleHost freshLedger contractDeployed) "c1" = true ∧
      (run idleHost freshLedger contractDeployed).kvHas (.fixed .acceptedContracts) "c1" =
        true := by
  have deployed : hasRuntimeState (run idleHost freshLedger contractDeployed) "c1" = true := rfl
  exact ⟨deployed, runtime_state_accepted idleHost freshLedger contractDeployed rfl
    (fun _ => rfl) "c1" deployed⟩

end CleanRoom.Governance
