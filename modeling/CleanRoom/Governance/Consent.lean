import CleanRoom.Governance.AttestedKey
import CleanRoom.Governance.UserRun
import CleanRoom.Library.Joining

/-!
# Consent to execution

Every member can enable and disable the execution of an accepted contract, and every
approver the options of an accepted user document. The last word of each caller is kept in
a map, under the contract or under the document and the option.
-/

namespace CleanRoom.Governance

open JavaScript Throwing

/-- The store with `public:contracts_execution_status`. -/
structure ConsentStore where
  users : UserStore
  executionStatus : Table (List (String × RuntimeOptionStatus))

def setContractExecutionStatus (caller : Caller) (contractId : String)
    (newStatus : RuntimeOptionStatus) (store : ConsentStore) :
    Except RequestFailure ConsentStore := do
  if !store.users.ledger.kvHas (.fixed .acceptedContracts) contractId then
    refuse 400 "ContractNotAccepted" "Contract does not exist or has not been accepted."
  else
    let callerId ← getCallerId caller
    let entries := (store.executionStatus.lookup contractId).getD []
    return { store with
      executionStatus :=
        store.executionStatus.insert contractId (mapSet entries callerId newStatus) }

def setContractRuntimeOption (caller : Caller) (contractId option : String)
    (newStatus : RuntimeOptionStatus) (store : ConsentStore) :
    Except RequestFailure ConsentStore :=
  if option ≠ "execution" then
    refuse 400 "InvalidOption" <|
      s!"The option value {option} is invalid. Use proposals for options other than 'execution'."
  else setContractExecutionStatus caller contractId newStatus store

def contractNotAccepted : OptionStatus :=
  ⟨.disabled, some ("ContractNotAccepted", "Contract does not exist or has not been accepted.")⟩

def executionStatusOf (contractId : String) (store : ConsentStore) : OptionStatus :=
  if !store.users.ledger.kvHas (.fixed .acceptedContracts) contractId then contractNotAccepted
  else
    match store.executionStatus.lookup contractId with
    | none => ⟨.enabled, none⟩
    | some entries =>
        if (disabledBy entries).isEmpty then ⟨.enabled, none⟩
        else
          let names := String.intercalate "," (disabledBy entries)
          ⟨.disabled, some ("ContractDisabled",
            s!"Contract has been disabled by the following member(s): m[{names}].")⟩

def findOpenProposals (ledger : Ledger) (name : ActionName) (contractId : String) :
    Except RequestFailure (List String) :=
  ledger.proposals.entries.foldlM (fun found row =>
    row.2.actions.foldlM (fun found action => do
      if action.name = name then
        if (← bodyField action.args "contractId").isString contractId &&
            row.2.state = .opened then
          return found ++ [row.1]
        else return found
      else return found) found) []

structure ContractOptionStatus extends OptionStatus where
  proposalIds : Option (List String)

/-- `checkContractLoggingStatusInternal` and `checkContractTelemetryStatusInternal`. The
proposals to disable the option are looked up too, but `concat` leaves the list as it is. -/
def proposedOptionStatusOf (table : GovTable) (enable disable : ActionName) (contractId : String)
    (ledger : Ledger) : Except RequestFailure ContractOptionStatus := do
  if !ledger.kvHas (.fixed .acceptedContracts) contractId then
    return ⟨contractNotAccepted, none⟩
  else
    let proposalIds ← findOpenProposals ledger enable contractId
    let _ ← findOpenProposals ledger disable contractId
    match ledger.kvGet (.fixed table) contractId with
    | none => return ⟨⟨.disabled, none⟩, some proposalIds⟩
    | some item =>
        if (item.field "status").isString "enabled" then
          return ⟨⟨.enabled, none⟩, some proposalIds⟩
        else return ⟨⟨.disabled, none⟩, some proposalIds⟩

def checkContractRuntimeOption (host : CleanRoomHost) (caller : Caller)
    (contractId option : String) (body : JsValue) (store : ConsentStore) :
    Except RequestFailure ContractOptionStatus := do
  match caller with
  | .noAuth => checkConsentAttestation host contractId body store.users
  | _ => validateCallerAuthorized host.ccf store.users.ledger caller
  if option = "execution" then return ⟨executionStatusOf contractId store, none⟩
  else if option = "logging" then
    proposedOptionStatusOf .contractsLoggingStatus .setContractRuntimeOptionsEnableLogging
      .setContractRuntimeOptionsDisableLogging contractId store.users.ledger
  else if option = "telemetry" then
    proposedOptionStatusOf .contractsTelemetryStatus .setContractRuntimeOptionsEnableTelemetry
      .setContractRuntimeOptionsDisableTelemetry contractId store.users.ledger
  else
    refuse 400 "InvalidOption" <|
      s!"The option value {option} is invalid. " ++
        "Valid values are 'execution', 'logging' and 'telemetry'."

inductive ConsentOperation where
  | setContractOption (memberId contractId option : String) (status : RuntimeOptionStatus)
  | user (operation : UserOperation)

def performConsent (host : CcfHost) (store : ConsentStore) :
    ConsentOperation → Except RequestFailure ConsentStore
  | .setContractOption memberId contractId option status =>
      (setContractRuntimeOption (.memberCert memberId) contractId option status store).map
        fun after => { after with users := after.users.commit }
  | .user operation =>
      (performOperation host store.users operation).map fun users => { store with users := users }

def consentStep (host : CcfHost) (store : ConsentStore) (operation : ConsentOperation) :
    ConsentStore :=
  match performConsent host store operation with
  | .ok after => after
  | .error _ => store

def consentRun (host : CcfHost) (store : ConsentStore) (operations : List ConsentOperation) :
    ConsentStore :=
  operations.foldl (consentStep host) store

inductive Subject where
  | contract (contractId : String)
  | document (documentId option : String)
deriving DecidableEq

structure ConsentCall where
  subject : Subject
  callerId : String
  status : RuntimeOptionStatus

def isAcceptedContract (store : ConsentStore) (contractId : String) : Bool :=
  store.users.ledger.kvHas (.fixed .acceptedContracts) contractId

/-- A call of a member on an accepted contract, or of an approver on a valid option of an
accepted document. -/
def ConsentOperation.call (host : CcfHost) (store : ConsentStore) :
    ConsentOperation → Option ConsentCall
  | .setContractOption memberId contractId option status =>
      if option = "execution" ∧ isAcceptedContract store contractId = true then
        some ⟨.contract contractId, memberId, status⟩
      else none
  | .user (.setRuntimeOption caller documentId option status) =>
      (optionApprover host caller documentId option store.users).map fun callerId =>
        ⟨.document documentId option, callerId, status⟩
  | .user _ => none

def consentCalls (host : CcfHost) : ConsentStore → List ConsentOperation → List ConsentCall
  | _, [] => []
  | store, operation :: operations =>
      (operation.call host store).toList ++
        consentCalls host (consentStep host store operation) operations

def lastCall (calls : List ConsentCall) (subject : Subject) (callerId : String) :
    Option RuntimeOptionStatus :=
  (calls.filter fun call => call.subject = subject && call.callerId = callerId).getLast?.map
    ConsentCall.status

variable {entries : List (String × RuntimeOptionStatus)} {calls : List ConsentCall}
  {store : ConsentStore} {value : RuntimeOptionStatus} {subject : Subject} {call : ConsentCall}
  {host : CleanRoomHost} {contractId : String} {key other : String} {caller : Caller}
  {body : JsValue}

theorem last_call_append (callerId : String) :
    lastCall (calls ++ [call]) subject callerId =
      if call.subject = subject ∧ call.callerId = callerId then some call.status
      else lastCall calls subject callerId := by
  unfold lastCall
  rw [List.filter_append]
  split
  next here => simp [here]
  next elsewhere =>
    have dropped : ([call].filter fun call =>
        call.subject = subject && call.callerId = callerId) = [] := by
      simpa using elsewhere
    rw [dropped, List.append_nil]

theorem lookup_replaced :
    (entries.map fun entry => if entry.1 = key then (key, value) else entry).lookup other =
      if other = key then (entries.lookup key).map fun _ => value else entries.lookup other := by
  induction entries with
  | nil => split <;> rfl
  | cons entry entries ih =>
      obtain ⟨name, status⟩ := entry
      rw [List.map_cons]
      by_cases here : name = key
      · subst here
        rw [if_pos rfl, List.lookup_cons, List.lookup_cons, List.lookup_cons, ih]
        by_cases same : other = name
        · simp [same]
        · simp [same, beq_eq_false_iff_ne.mpr same]
      · rw [if_neg here, List.lookup_cons, List.lookup_cons, List.lookup_cons, ih]
        by_cases same : other = name
        · subst same
          simp [here]
        · simp [beq_eq_false_iff_ne.mpr same, beq_eq_false_iff_ne.mpr (Ne.symm here)]

theorem map_set_lookup :
    (mapSet entries key value).lookup other =
      if other = key then some value else entries.lookup other := by
  unfold mapSet
  split
  next present =>
    obtain ⟨old, found⟩ := Option.isSome_iff_exists.mp present
    rw [lookup_replaced, found]
    rfl
  next absent =>
    have missing : entries.lookup key = none := Option.not_isSome_iff_eq_none.mp absent
    rw [List.lookup_append, List.lookup_cons, List.lookup_nil]
    by_cases same : other = key
    · simp [same, missing]
    · simp [same, beq_eq_false_iff_ne.mpr same]

structure Recorded (calls : List ConsentCall) (subject : Subject)
    (entries : List (String × RuntimeOptionStatus)) : Prop where
  found : ∀ entry ∈ entries, entries.lookup entry.1 = some entry.2
  last : ∀ callerId, entries.lookup callerId = lastCall calls subject callerId

theorem map_set_found (key : String)
    (found : ∀ entry ∈ entries, entries.lookup entry.1 = some entry.2) :
    ∀ entry ∈ mapSet entries key value, (mapSet entries key value).lookup entry.1 =
      some entry.2 := by
  intro entry member
  rw [map_set_lookup]
  unfold mapSet at member
  split at member
  · obtain ⟨old, stored, rfl⟩ := List.mem_map.mp member
    split
    · exact if_pos rfl
    · exact found old stored
  next absent =>
    have missing : entries.lookup key = none := Option.not_isSome_iff_eq_none.mp absent
    rcases List.mem_append.mp member with old | new
    · have stored := found entry old
      split
      next here =>
        rw [here, missing] at stored
        cases stored
      · exact stored
    · rw [List.mem_singleton.mp new, if_pos rfl]

theorem recorded_nil : Recorded [] subject [] where
  found := by
    intro entry member
    cases member
  last := fun _ => rfl

theorem recorded_same (recorded : Recorded calls call.subject entries) :
    Recorded (calls ++ [call]) call.subject (mapSet entries call.callerId call.status) where
  found := map_set_found _ recorded.found
  last := by
    intro callerId
    rw [map_set_lookup, last_call_append, recorded.last]
    by_cases same : callerId = call.callerId
    · simp [same]
    · rw [if_neg same, if_neg fun both => same both.2.symm]

theorem recorded_other (other : call.subject ≠ subject)
    (recorded : Recorded calls subject entries) :
    Recorded (calls ++ [call]) subject entries where
  found := recorded.found
  last := by
    intro callerId
    rw [last_call_append, if_neg fun both => other both.1]
    exact recorded.last callerId

theorem disabled_by_empty_iff (recorded : Recorded calls subject entries) :
    (disabledBy entries).isEmpty = true ↔
      ∀ callerId, lastCall calls subject callerId ≠ some .disabled := by
  unfold disabledBy
  rw [List.isEmpty_iff, List.map_eq_nil_iff, List.filter_eq_nil_iff]
  constructor
  · intro none callerId disabled
    rw [← recorded.last] at disabled
    obtain ⟨before, after, split, _⟩ := List.lookup_eq_some_iff.mp disabled
    have member : (callerId, RuntimeOptionStatus.disabled) ∈ entries := by
      rw [split]
      simp
    exact none _ member (by simp)
  · intro none entry member disabled
    apply none entry.1
    rw [← recorded.last, recorded.found entry member]
    simpa using disabled

def ConsentStore.entriesOf (store : ConsentStore) : Subject → List (String × RuntimeOptionStatus)
  | .contract contractId => (store.executionStatus.lookup contractId).getD []
  | .document documentId option =>
      (store.users.runtimeOptionStatus.lookup (runtimeOptionKey documentId option)).getD []

def Subject.Valid : Subject → Prop
  | .contract _ => True
  | .document _ option => isRuntimeOption option = true

/-- The store holds the last word of every caller on every subject. -/
def Faithful (calls : List ConsentCall) (store : ConsentStore) : Prop :=
  ∀ subject : Subject, subject.Valid → Recorded calls subject (store.entriesOf subject)

theorem runtime_option_plain (option : String) (valid : isRuntimeOption option = true) :
    '_' ∉ option.toList := by
  have either : option = "execution" ∨ option = "telemetry" := by
    simpa [isRuntimeOption] using valid
  rcases either with rfl | rfl <;> decide

theorem runtime_option_key_inj (documentId option other otherOption : String)
    (valid : isRuntimeOption option = true) (otherValid : isRuntimeOption otherOption = true)
    (same : runtimeOptionKey documentId option = runtimeOptionKey other otherOption) :
    documentId = other ∧ option = otherOption := by
  have holds : ∀ between rest : String,
      '_' ∈ (Joining.joined '_' between rest).toList := by
    intro between rest
    rw [Joining.joined_to_list]
    exact List.mem_append_right _ List.mem_cons_self
  have joined : Joining.joined '_' documentId option = Joining.joined '_' other otherOption := same
  rcases Joining.joined_eq_iff.mp joined with equal | ⟨between, _, rest⟩ |
    ⟨between, _, rest⟩
  · exact equal
  · exact absurd (rest ▸ holds between otherOption) (runtime_option_plain option valid)
  · exact absurd (rest ▸ holds between option) (runtime_option_plain otherOption otherValid)

theorem faithful_of_same (store after : ConsentStore) (faithful : Faithful calls store)
    (execution : after.executionStatus = store.executionStatus)
    (options : after.users.runtimeOptionStatus = store.users.runtimeOptionStatus) :
    Faithful calls after := by
  intro subject valid
  have same : after.entriesOf subject = store.entriesOf subject := by
    cases subject with
    | contract contractId => simp only [ConsentStore.entriesOf, execution]
    | document documentId option => simp only [ConsentStore.entriesOf, options]
  rw [same]
  exact faithful subject valid

theorem faithful_of_call (calls : List ConsentCall) (store after : ConsentStore)
    (call : ConsentCall) (faithful : Faithful calls store) (valid : call.subject.Valid)
    (here : after.entriesOf call.subject =
      mapSet (store.entriesOf call.subject) call.callerId call.status)
    (elsewhere : ∀ subject : Subject, subject.Valid → subject ≠ call.subject →
      after.entriesOf subject = store.entriesOf subject) :
    Faithful (calls ++ [call]) after := by
  intro subject subjectValid
  by_cases same : subject = call.subject
  · rw [same, here]
    apply recorded_same
    exact faithful call.subject valid
  · rw [elsewhere subject subjectValid same]
    apply recorded_other
    · exact Ne.symm same
    · exact faithful subject subjectValid

theorem set_contract_runtime_option_ok (memberId contractId option : String)
    (status : RuntimeOptionStatus) (store after : ConsentStore) :
    setContractRuntimeOption (.memberCert memberId) contractId option status store = .ok after ↔
      (option = "execution" ∧ isAcceptedContract store contractId = true) ∧
      after = { store with
        executionStatus := store.executionStatus.insert contractId
          (mapSet (store.entriesOf (.contract contractId)) memberId status) } := by
  unfold setContractRuntimeOption setContractExecutionStatus isAcceptedContract
  by_cases execution : option = "execution"
  · cases store.users.ledger.kvHas (.fixed .acceptedContracts) contractId with
    | false => simp [execution, refuse]
    | true =>
        simp only [execution, ne_eq, not_true, if_false, Bool.not_true, Bool.false_eq_true,
          true_and]
        exact ⟨fun set => (Except.ok.inj set).symm, fun same => congrArg _ same.symm⟩
  · simp [execution, refuse]

/-- Every call is answered: where an operation fails it makes none. -/
theorem call_answered (host : CcfHost) (operation : ConsentOperation) (call : ConsentCall)
    (made : operation.call host store = some call) :
    ∃ after, performConsent host store operation = .ok after := by
  cases operation with
  | setContractOption memberId contractId option status =>
      obtain ⟨allowed, _⟩ := Option.ite_none_right_eq_some.mp made
      have set := (set_contract_runtime_option_ok memberId contractId option status store _).mpr
        ⟨allowed, rfl⟩
      rw [performConsent, set]
      exact ⟨_, rfl⟩
  | user operation =>
      cases operation with
      | setRuntimeOption caller documentId option status =>
          obtain ⟨callerId, approver, _⟩ := Option.map_eq_some_iff.mp made
          have set := (set_runtime_option_ok documentId option status).mpr
            ⟨callerId, approver, rfl⟩
          rw [performConsent, performOperation, set]
          exact ⟨_, rfl⟩
      | _ => cases made

theorem option_approver_valid (documentId option callerId : String) (users : UserStore)
    (ccf : CcfHost) (approver : optionApprover ccf caller documentId option users = some callerId) :
    isRuntimeOption option = true := by
  unfold optionApprover at approver
  split at approver
  · split at approver
    next valid => exact valid
    · cases approver
  · cases approver

theorem options_kept (host : CcfHost) (users after : UserStore) (operation : UserOperation)
    (other : ∀ caller documentId option status,
      operation ≠ .setRuntimeOption caller documentId option status)
    (ran : performOperation host users operation = .ok after) :
    after.runtimeOptionStatus = users.runtimeOptionStatus := by
  cases operation with
  | putDocument caller id body =>
      obtain ⟨written, put, rfl⟩ := of_map ran
      obtain ⟨value, _, rfl⟩ := put_user_document_spec _ put
      rfl
  | createProposal caller proposalId body =>
      obtain ⟨created, put, rfl⟩ := of_map ran
      obtain ⟨_, _, _, _, _, callerId, _, rfl⟩ := put_user_proposal_spec put
      rfl
  | withdrawProposal caller proposalId =>
      obtain ⟨withdrawn, done, rfl⟩ := of_map ran
      obtain ⟨info, _, _, _, rfl⟩ := withdraw_user_proposal_spec done
      rfl
  | submitBallot caller proposalId body =>
      obtain ⟨submitted, cast, rfl⟩ := of_map ran
      obtain ⟨callerId, info, action, ballot, _, _, _, _, _, _, counted⟩ :=
        submit_user_proposal_ballot_spec cast
      rw [count_ballot_frame _ _ _ counted]
      rfl
  | governance event =>
      cases ran
      rfl
  | setRuntimeOption caller documentId option status => exact absurd rfl (other _ _ _ _)

theorem user_operation_faithful (host : CcfHost) (operation : UserOperation) (users : UserStore)
    (faithful : Faithful calls store)
    (ran : performOperation host store.users operation = .ok users) :
    Faithful (calls ++ ((ConsentOperation.user operation).call host store).toList)
      { store with users := users } := by
  cases operation with
  | setRuntimeOption caller documentId option status =>
      obtain ⟨changed, set, rfl⟩ := of_map ran
      obtain ⟨callerId, approver, rfl⟩ := (set_runtime_option_ok _ _ _).mp set
      have optional := option_approver_valid _ _ _ _ _ approver
      simp only [ConsentOperation.call, approver, Option.map_some, Option.toList_some]
      apply faithful_of_call calls store _ ⟨.document documentId option, callerId, status⟩
        faithful optional
      · simp [ConsentStore.entriesOf, UserStore.commit]
      · intro subject valid other
        cases subject with
        | contract contractId => rfl
        | document otherId otherOption =>
            have different : runtimeOptionKey otherId otherOption ≠
                runtimeOptionKey documentId option := by
              intro same
              obtain ⟨rfl, rfl⟩ := runtime_option_key_inj _ _ _ _ valid optional same
              exact other rfl
            simp [ConsentStore.entriesOf, UserStore.commit, AList.lookup_insert_ne different]
  | _ =>
      have kept := options_kept host _ _ _ (by simp) ran
      rw [ConsentOperation.call, Option.toList_none, List.append_nil]
      · exact faithful_of_same store _ faithful rfl kept
      · simp

theorem consent_step_faithful (host : CcfHost)
    (operation : ConsentOperation) (faithful : Faithful calls store) :
    Faithful (calls ++ (operation.call host store).toList) (consentStep host store operation) := by
  unfold consentStep
  cases performed : performConsent host store operation with
  | error failure =>
      have none : operation.call host store = none := by
        refine Option.eq_none_iff_forall_ne_some.mpr fun call made => ?_
        obtain ⟨after, answered⟩ := call_answered host operation call made
        rw [performed] at answered
        cases answered
      rw [none, Option.toList_none, List.append_nil]
      exact faithful
  | ok after =>
      cases operation with
      | setContractOption memberId contractId option status =>
          obtain ⟨written, set, rfl⟩ := of_map performed
          obtain ⟨allowed, rfl⟩ :=
            (set_contract_runtime_option_ok memberId contractId option status store written).mp set
          rw [ConsentOperation.call, if_pos allowed, Option.toList_some]
          apply faithful_of_call calls store _ ⟨.contract contractId, memberId, status⟩ faithful
            trivial
          · simp [ConsentStore.entriesOf]
          · intro subject _ other
            cases subject with
            | contract otherId =>
                have different : otherId ≠ contractId := fun same => other (by rw [same])
                simp [ConsentStore.entriesOf, AList.lookup_insert_ne different]
            | document documentId option => rfl
      | user operation =>
          obtain ⟨users, ran, rfl⟩ := of_map performed
          exact user_operation_faithful host operation users faithful ran

theorem consent_run_faithful (host : CcfHost)
    (operations : List ConsentOperation) (faithful : Faithful calls store) :
    Faithful (calls ++ consentCalls host store operations) (consentRun host store operations) := by
  induction operations generalizing calls store with
  | nil => simpa [consentCalls, consentRun] using faithful
  | cons operation operations ih =>
      rw [consentCalls, ← List.append_assoc]
      apply ih
      exact consent_step_faithful host operation faithful

/-- A check is answered for a clean room with an attestation and for an authorized caller. -/
def admitConsentCheck (host : CleanRoomHost) (caller : Caller) (contractId : String)
    (body : JsValue) (store : UserStore) : Except RequestFailure Unit :=
  match caller with
  | .noAuth => checkConsentAttestation host contractId body store
  | _ => validateCallerAuthorized host.ccf store.ledger caller

theorem check_execution :
    checkContractRuntimeOption host caller contractId "execution" body store =
      (admitConsentCheck host caller contractId body store.users).map fun _ =>
        ⟨executionStatusOf contractId store, none⟩ := by
  unfold checkContractRuntimeOption admitConsentCheck
  cases caller <;> rfl

def documentStatusOf (documentId option : String) (store : UserStore) : OptionStatus :=
  match store.acceptedUserDocuments.lookup documentId with
  | none => ⟨.disabled, some ("UserDocumentNotAccepted",
      s!"UserDocument {documentId} does not exist or has not been accepted.")⟩
  | some _ => runtimeOptionStatusOf documentId option store

theorem check_document
    (contractId documentId option : String) (valid : isRuntimeOption option = true)
    (store : UserStore)
    (contracted : ∀ item, store.acceptedUserDocuments.lookup documentId = some item →
      looselyEquals host.ccf contractId item.contractId = true) :
    checkUserDocumentRuntimeOption host caller contractId documentId option body store =
      (admitConsentCheck host caller contractId body store).map fun _ =>
        documentStatusOf documentId option store := by
  unfold checkUserDocumentRuntimeOption admitConsentCheck documentStatusOf
  cases found : store.acceptedUserDocuments.lookup documentId with
  | none => cases caller <;> rfl
  | some item =>
      dsimp only
      simp only [contracted item found, valid]
      cases caller <;> rfl

theorem execution_enabled_iff (faithful : Faithful calls store) :
    (executionStatusOf contractId store).status = .enabled ↔
      isAcceptedContract store contractId = true ∧
        ∀ memberId, lastCall calls (.contract contractId) memberId ≠ some .disabled := by
  have recorded := faithful (.contract contractId) trivial
  rw [← disabled_by_empty_iff recorded]
  unfold executionStatusOf isAcceptedContract ConsentStore.entriesOf
  dsimp only
  cases store.users.ledger.kvHas (.fixed .acceptedContracts) contractId with
  | false => simp [contractNotAccepted]
  | true =>
      cases store.executionStatus.lookup contractId with
      | none => simp [disabledBy]
      | some entries => cases none : (disabledBy entries).isEmpty <;> simp [none]

theorem document_enabled_iff (faithful : Faithful calls store) (documentId option : String)
    (valid : isRuntimeOption option = true) :
    (documentStatusOf documentId option store.users).status = .enabled ↔
      (store.users.acceptedUserDocuments.lookup documentId).isSome = true ∧
        ∀ approverId, lastCall calls (.document documentId option) approverId ≠
          some .disabled := by
  have recorded := faithful (.document documentId option) valid
  rw [← disabled_by_empty_iff recorded]
  unfold documentStatusOf ConsentStore.entriesOf runtimeOptionStatusOf
  dsimp only
  cases store.users.acceptedUserDocuments.lookup documentId with
  | none => simp
  | some item =>
      cases store.users.runtimeOptionStatus.lookup (runtimeOptionKey documentId option) with
      | none => simp [disabledBy]
      | some entries => cases none : (disabledBy entries).isEmpty <;> simp [none]

/-- Every check reports what the most recent calls on its subject say, whatever else has
happened. -/
theorem consent_follows_last_calls (host : CleanRoomHost) (start : ConsentStore)
    (noExecution : start.executionStatus = ∅) (noOption : start.users.runtimeOptionStatus = ∅)
    (operations : List ConsentOperation) :
    let store := consentRun host.ccf start operations
    let calls := consentCalls host.ccf start operations
    (∀ contractId, ∃ answer : OptionStatus,
      (∀ caller body, checkContractRuntimeOption host caller contractId "execution" body store =
        (admitConsentCheck host caller contractId body store.users).map fun _ =>
          ⟨answer, none⟩) ∧
      (answer.status = .enabled ↔
        isAcceptedContract store contractId = true ∧
          ∀ memberId, lastCall calls (.contract contractId) memberId ≠ some .disabled)) ∧
    (∀ documentId option, isRuntimeOption option = true → ∃ answer : OptionStatus,
      (∀ caller contractId body,
        (∀ item, store.users.acceptedUserDocuments.lookup documentId = some item →
          looselyEquals host.ccf contractId item.contractId = true) →
        checkUserDocumentRuntimeOption host caller contractId documentId option body
            store.users =
          (admitConsentCheck host caller contractId body store.users).map fun _ => answer) ∧
      (answer.status = .enabled ↔
        (store.users.acceptedUserDocuments.lookup documentId).isSome = true ∧
          ∀ approverId, lastCall calls (.document documentId option) approverId ≠
            some .disabled)) := by
  intro store calls
  have fresh : Faithful [] start := by
    intro subject _
    have empty : start.entriesOf subject = [] := by
      cases subject with
      | contract contractId =>
          rw [ConsentStore.entriesOf, noExecution]
          rfl
      | document documentId option =>
          rw [ConsentStore.entriesOf, noOption]
          rfl
    rw [empty]
    exact recorded_nil
  have faithful : Faithful calls store := consent_run_faithful host.ccf operations fresh
  constructor
  · intro contractId
    exact ⟨executionStatusOf contractId store,
      fun caller body => check_execution,
      execution_enabled_iff faithful⟩
  · intro documentId option valid
    exact ⟨documentStatusOf documentId option store.users,
      fun caller contractId body contracted =>
        check_document contractId documentId option valid store.users contracted,
      document_enabled_iff faithful documentId option valid⟩

/-- A contract and a document of it with two approvers are accepted. -/
def consentStart : ConsentStore where
  users := { UserStore.fresh with
    ledger := UserStore.fresh.ledger.kvSet (.fixed .acceptedContracts) "c1" (.object [])
    acceptedUserDocuments := UserStore.fresh.acceptedUserDocuments.insert "d1"
      { contractId := .string "c1"
        data := .string "text"
        labels := .undefined
        proposalId := "p1"
        proposerId := "u0"
        approvers := .array [.object [("approverId", .string "u0")],
          .object [("approverId", .string "u1")]]
        finalVotes := [⟨"u0", .accepted⟩, ⟨"u1", .accepted⟩]
        seqno := 1 } }
  executionStatus := ∅

def withdrawnConsent : List ConsentOperation :=
  [.setContractOption "m0" "c1" "execution" .disabled,
    .user (.setRuntimeOption (.userCert "u1") "d1" "telemetry" .disabled),
    .setContractOption "m1" "c1" "execution" .disabled,
    .user (.setRuntimeOption (.userCert "u0") "d1" "telemetry" .enabled),
    .setContractOption "m0" "c1" "execution" .enabled]

theorem withdrawn_consent_reported :
    let store := consentRun sampleCleanRoomHost.ccf consentStart withdrawnConsent
    let calls := consentCalls sampleCleanRoomHost.ccf consentStart withdrawnConsent
    calls.map ConsentCall.callerId = ["m0", "u1", "m1", "u0", "m0"] ∧
    lastCall calls (.contract "c1") "m0" = some .enabled ∧
    lastCall calls (.document "d1" "telemetry") "u0" = some .enabled ∧
    (∃ answer : OptionStatus,
      (∀ caller body,
        checkContractRuntimeOption sampleCleanRoomHost caller "c1" "execution" body store =
          (admitConsentCheck sampleCleanRoomHost caller "c1" body store.users).map fun _ =>
            ⟨answer, none⟩) ∧ answer.status ≠ .enabled) ∧
    ∃ answer : OptionStatus,
      (∀ caller body,
        checkUserDocumentRuntimeOption sampleCleanRoomHost caller "c1" "d1" "telemetry" body
            store.users =
          (admitConsentCheck sampleCleanRoomHost caller "c1" body store.users).map fun _ =>
            answer) ∧ answer.status ≠ .enabled := by
  intro store calls
  obtain ⟨contracts, documents⟩ :=
    consent_follows_last_calls sampleCleanRoomHost consentStart rfl rfl withdrawnConsent
  have member : lastCall calls (.contract "c1") "m1" = some .disabled := by decide +kernel
  have approver : lastCall calls (.document "d1" "telemetry") "u1" = some .disabled := by
    decide +kernel
  have contracted : ∀ item, store.users.acceptedUserDocuments.lookup "d1" = some item →
      looselyEquals sampleCleanRoomHost.ccf "c1" item.contractId = true := by
    intro item found
    cases found
    rfl
  obtain ⟨answer, checked, enabled⟩ := contracts "c1"
  obtain ⟨status, reported, allowed⟩ := documents "d1" "telemetry" rfl
  exact ⟨by decide +kernel, by decide +kernel, by decide +kernel,
    ⟨answer, checked, fun on => (enabled.mp on).2 "m1" member⟩,
    ⟨status, fun caller body => reported caller "c1" body contracted,
      fun on => (allowed.mp on).2 "u1" approver⟩⟩

end CleanRoom.Governance
