import CleanRoom.Governance.DraftReads
import CleanRoom.Governance.OpenProposals
import CleanRoom.Governance.Queries

/-!
# Listing contracts

`listContracts` selects contracts by their state and `getContract` reports the state of
one. Both go through the accepted contracts, the open proposals and the drafts. The list
looks for proposed contracts among the drafts only, and reading a proposed contract looks
into what is proposed.
-/

namespace CleanRoom.Governance

open JavaScript Throwing

inductive ContractState where
  | draft
  | proposed
  | accepted
deriving DecidableEq

def ContractState.name : ContractState → String
  | .draft => "Draft"
  | .proposed => "Proposed"
  | .accepted => "Accepted"

theorem ContractState.name_inj (state other : ContractState) (same : state.name = other.name) :
    state = other := by
  revert same
  cases state <;> cases other <;> decide

def setAdd (set : List String) (id : String) : List String :=
  if set.contains id then set else set ++ [id]

def candidateContracts (ledger : Ledger) : List String :=
  ledger.contracts.keys.filter fun id => !ledger.kvHas (.fixed .acceptedContracts) id

/-- The candidate that the action would set. A contract id that is not a string is in no
set of strings. -/
def candidateOf (candidates : List String) (contractId : JsValue) : Option String :=
  candidates.find? fun id => contractId.isString id

def proposedContracts (ledger : Ledger) (candidates : List String) :
    Except RequestFailure (List String) :=
  ledger.proposals.entries.foldlM (fun found row =>
    row.2.actions.foldlM (fun found action => do
      if action.name = .setContract then
        match candidateOf candidates (← bodyField action.args "contractId") with
        | none => return found
        | some id => if row.2.state = .opened then return setAdd found id else return found
      else return found) found) []

def selectedContracts (stateParam : JsValue) (ledger : Ledger) :
    Except RequestFailure (List String) := do
  let accepted := (ledger.gov (.fixed .acceptedContracts)).keys
  if !stateParam.truthy then return accepted.foldl setAdd ledger.contracts.keys
  else if stateParam.isString "Accepted" then return accepted
  else if stateParam.isString "Proposed" || stateParam.isString "Draft" then
    let candidates := candidateContracts ledger
    if candidates.isEmpty then return []
    else
      let proposed ← proposedContracts ledger candidates
      if stateParam.isString "Proposed" then return proposed
      else return candidates.filter fun id => !proposed.contains id
  else
    refuse 400 "InvalidParameter"
      "The state query parameter must be either 'Draft', 'Accepted' or 'Proposed'."

def listContracts (host : CcfHost) (caller : Caller) (query : String) (ledger : Ledger) :
    Except RequestFailure (List JsValue) := do
  validateCallerAuthorized host ledger caller
  let contractSet ← selectedContracts (queryValue query "state") ledger
  return contractSet.map fun id => jsonObject [("id", .string id)]

def OpenContract (ledger : Ledger) (id : String) : Prop :=
  ∃ row ∈ ledger.proposals.entries, row.2.state = .opened ∧
    ∃ action ∈ row.2.actions, proposesFor .setContract id action = true

variable {id : String} {ledger : Ledger} {row : Sigma fun _ : String => Proposal}
  {candidates : List String} {set : List String} {action : ProposedAction} {args contract : JsValue}
  {host : CcfHost} {body : JsValue}

theorem mem_set_add (id other : String) :
    other ∈ setAdd set id ↔ other ∈ set ∨ other = id := by
  unfold setAdd
  split
  next present =>
    have member : id ∈ set := by simpa using present
    constructor
    · exact .inl
    · rintro (old | rfl)
      · exact old
      · exact member
  · rw [List.mem_append, List.mem_singleton]

theorem candidate_of_string (member : id ∈ candidates) :
    candidateOf candidates (.string id) = some id := by
  unfold candidateOf
  induction candidates with
  | nil => cases member
  | cons candidate candidates ih =>
      rw [List.find?_cons]
      by_cases same : id = candidate
      · subst same
        simp [JsValue.isString]
      · have later : id ∈ candidates := (List.mem_cons.mp member).resolve_left same
        have different : JsValue.isString (.string id) candidate = false := by
          simpa [JsValue.isString] using same
        rw [different]
        exact ih later

theorem candidate_of_some (contractId : JsValue)
    (found : candidateOf candidates contractId = some id) :
    contractId = .string id ∧ id ∈ candidates := by
  have hit := List.find?_some found
  exact ⟨(JsValue.is_string_iff _ _).mp hit, List.mem_of_find?_eq_some found⟩

def proposedMatch (candidates : List String) (row : Sigma fun _ : String => Proposal)
    (action : ProposedAction) : Option String :=
  if action.name = .setContract ∧ row.2.state = .opened then
    candidateOf candidates (action.args.field "contractId")
  else none

theorem mem_fold_set_add {Item : Type} (choice : Item → Option String) (items : List Item) :
    id ∈ items.foldl (fun found item => (choice item).elim found (setAdd found)) set ↔
      id ∈ set ∨ ∃ item ∈ items, choice item = some id := by
  induction items generalizing set with
  | nil => simp
  | cons item items ih =>
      rw [List.foldl_cons, ih, List.exists_mem_cons_iff, ← or_assoc]
      apply or_congr_left
      cases chosen : choice item with
      | none => simp
      | some other =>
          rw [Option.elim_some, mem_set_add, Option.some_inj, eq_comm (a := other)]

theorem mem_fold_rows (choice : (Sigma fun _ : String => Proposal) → ProposedAction → Option String)
    (rows : List (Sigma fun _ : String => Proposal)) :
    id ∈ rows.foldl (fun found row => row.2.actions.foldl (fun found action =>
        (choice row action).elim found (setAdd found)) found) set ↔
      id ∈ set ∨ ∃ row ∈ rows, ∃ action ∈ row.2.actions, choice row action = some id := by
  induction rows generalizing set with
  | nil => simp
  | cons row rows ih =>
      rw [List.foldl_cons, ih, mem_fold_set_add, List.exists_mem_cons_iff, or_assoc]

theorem proposed_match_iff :
    proposedMatch candidates row action = some id ↔
      id ∈ candidates ∧ row.2.state = .opened ∧ proposesFor .setContract id action = true := by
  unfold proposedMatch
  constructor
  · intro found
    split at found
    next setting =>
      obtain ⟨contractId, member⟩ := candidate_of_some _ found
      refine ⟨member, setting.2, ?_⟩
      simp [proposesFor, setting.1, contractId]
    · cases found
  · rintro ⟨member, opened, proposes⟩
    obtain ⟨named, contractId⟩ := proposes_for_names _ _ _ proposes
    rw [if_pos ⟨named, opened⟩, contractId]
    exact candidate_of_string member

theorem proposed_contracts_ok (candidates : List String)
    (named : AllActions (NamesContract .setContract) ledger.proposals) :
    ∃ found, proposedContracts ledger candidates = .ok found ∧
      ∀ id, id ∈ found ↔ id ∈ candidates ∧ OpenContract ledger id := by
  refine ⟨ledger.proposals.entries.foldl (fun found row => row.2.actions.foldl
    (fun found action => (proposedMatch candidates row action).elim found (setAdd found)) found)
    [], ?_, ?_⟩
  · unfold proposedContracts
    apply foldlM_of_ok
    intro row recorded found
    apply foldlM_of_ok
    intro action member found
    unfold proposedMatch
    by_cases setting : action.name = .setContract
    · obtain ⟨value, read⟩ := named row recorded action member setting
      rw [if_pos setting, body_field_of_get read]
      simp only [Bind.bind, Except.bind, setting, true_and]
      cases candidateOf candidates (action.args.field "contractId") with
      | none => simp [pure, Except.pure]
      | some id => by_cases opened : row.2.state = .opened <;> simp [opened, pure, Except.pure]
    · rw [if_neg setting, if_neg fun both => setting both.1]
      rfl
  · intro id
    rw [mem_fold_rows]
    simp only [List.not_mem_nil, false_or, proposed_match_iff]
    constructor
    · rintro ⟨row, recorded, action, member, candidate, opened, proposes⟩
      exact ⟨candidate, row, recorded, opened, action, member, proposes⟩
    · rintro ⟨candidate, row, recorded, opened, action, member, proposes⟩
      exact ⟨row, recorded, action, member, candidate, opened, proposes⟩

theorem mem_candidates (ledger : Ledger) (id : String) :
    id ∈ candidateContracts ledger ↔
      (ledger.contracts.lookup id).isSome = true ∧ isAccepted ledger id = false := by
  unfold candidateContracts isAccepted
  rw [List.mem_filter, ← AList.mem_keys, ← AList.lookup_isSome]
  simp

theorem mem_accepted (ledger : Ledger) (id : String) :
    id ∈ (ledger.gov (.fixed .acceptedContracts)).keys ↔ isAccepted ledger id = true := by
  rw [← AList.mem_keys, ← AList.lookup_isSome]
  rfl

def Listed (host : CcfHost) (caller : Caller) (query : String) (ledger : Ledger) (id : String) :
    Prop :=
  ∃ items, listContracts host caller query ledger = .ok items ∧
    jsonObject [("id", .string id)] ∈ items

def InState (ledger : Ledger) (id : String) : ContractState → Prop
  | .accepted => isAccepted ledger id = true
  | .proposed => isAccepted ledger id = false ∧ (ledger.contracts.lookup id).isSome = true ∧
      OpenContract ledger id
  | .draft => isAccepted ledger id = false ∧ (ledger.contracts.lookup id).isSome = true ∧
      ¬OpenContract ledger id

theorem selected_contracts_ok (state : ContractState)
    (named : AllActions (NamesContract .setContract) ledger.proposals) :
    ∃ ids, selectedContracts (.string state.name) ledger = .ok ids ∧
      ∀ id, id ∈ ids ↔ InState ledger id state := by
  obtain ⟨proposed, scanned, exactly⟩ :=
    proposed_contracts_ok (candidateContracts ledger) named
  have noCandidates : (candidateContracts ledger).isEmpty = true → ∀ id,
      ¬((ledger.contracts.lookup id).isSome = true ∧ isAccepted ledger id = false) := by
    intro empty id candidate
    rw [← mem_candidates, List.isEmpty_iff.mp empty] at candidate
    cases candidate
  cases empty : (candidateContracts ledger).isEmpty with
  | true =>
      cases state with
      | accepted => exact ⟨_, rfl, mem_accepted ledger⟩
      | proposed | draft =>
          refine ⟨[], ?_, ?_⟩
          · simp [selectedContracts, ContractState.name, JsValue.truthy, JsValue.isString, empty]
            rfl
          · intro id
            have none := noCandidates empty id
            simp only [InState, List.not_mem_nil, false_iff]
            tauto
  | false =>
      cases state with
      | accepted => exact ⟨_, rfl, mem_accepted ledger⟩
      | proposed =>
          refine ⟨proposed, ?_, ?_⟩
          · simp [selectedContracts, ContractState.name, JsValue.truthy, JsValue.isString, empty,
              scanned, Bind.bind, Except.bind]
            rfl
          · intro id
            rw [exactly, mem_candidates, InState]
            tauto
      | draft =>
          refine ⟨(candidateContracts ledger).filter fun id => !proposed.contains id, ?_, ?_⟩
          · simp [selectedContracts, ContractState.name, JsValue.truthy, JsValue.isString, empty,
              scanned, Bind.bind, Except.bind]
            rfl
          · intro id
            have fresh : (!proposed.contains id) = true ↔ id ∉ proposed := by simp
            rw [List.mem_filter, fresh, exactly, mem_candidates, InState]
            tauto

theorem mem_id_items (ids : List String) :
    jsonObject [("id", .string id)] ∈ ids.map (fun id => jsonObject [("id", .string id)]) ↔
      id ∈ ids := by
  rw [List.mem_map]
  constructor
  · rintro ⟨other, member, same⟩
    cases same
    exact member
  · intro member
    exact ⟨id, member, rfl⟩

theorem listed_iff (host : CcfHost) (caller : Caller) (query : String) (ledger : Ledger)
    (id : String) (state : ContractState) (selected : queryValue query "state" = .string state.name)
    (authorized : validateCallerAuthorized host ledger caller = .ok ())
    (named : AllActions (NamesContract .setContract) ledger.proposals) :
    Listed host caller query ledger id ↔ InState ledger id state := by
  obtain ⟨ids, answered, exactly⟩ := selected_contracts_ok state named
  rw [← exactly, ← mem_id_items]
  unfold Listed listContracts
  rw [authorized, selected, answered]
  constructor
  · rintro ⟨items, same, member⟩
    cases same
    exact member
  · intro member
    exact ⟨_, rfl, member⟩

/-- What is recorded for a proposed contract has been checked to be an object, which `null`
passes for. -/
def SetsContracts (actions : List ProposedAction) : Prop :=
  ∀ action ∈ actions, action.name = .setContract →
    ∃ contractId contract, action.args.get "contractId" = .ok (.string contractId) ∧
      action.args.get "contract" = .ok contract ∧ contract.typeOf = .object

theorem valid_sets_contracts (actions : List ProposedAction)
    (valid : (validate host ledger actions).valid = true) : SetsContracts actions := by
  intro action member named
  have checked := valid_action host ledger actions valid action member
  rw [named] at checked
  obtain ⟨given, readId, typed⟩ := of_bind checked
  obtain ⟨_, isText, rest⟩ := of_bind typed
  obtain ⟨contract, readContract, isObject⟩ := of_bind rest
  obtain ⟨contractId, rfl⟩ := check_type_string given _ isText
  refine ⟨contractId, contract, readId, readContract, ?_⟩
  cases contract <;> first
    | rfl
    | cases isObject

theorem sets_names_contract {actions : List ProposedAction} (sets : SetsContracts actions) :
    NamesContract .setContract actions := by
  intro action member named
  obtain ⟨contractId, _, read, _⟩ := sets action member named
  exact ⟨_, read⟩

/-- The body that `proposedContractBody` makes where there is something to look into. -/
def proposedBodyOf (id proposalId : String) (args : JsValue) : JsValue :=
  jsonObject [("id", .string id), ("state", .string "Proposed"),
    ("data", (args.field "contract").field "data"),
    ("version", (args.field "contract").field "version"), ("proposalId", .string proposalId)]

theorem proposed_contract_body_null (id proposalId : String)
    (read : args.get "contract" = .ok contract) (missing : args.field "contract" = .null) :
    ∃ failure, proposedContractBody id proposalId args = .error failure := by
  unfold proposedContractBody
  rw [body_field_of_get read, missing]
  exact ⟨_, rfl⟩

theorem proposed_contract_body_eq (id proposalId : String)
    (read : args.get "contract" = .ok contract) (typed : contract.typeOf = .object)
    (present : args.field "contract" ≠ .null) :
    proposedContractBody id proposalId args = .ok (proposedBodyOf id proposalId args) := by
  unfold proposedContractBody proposedBodyOf
  rw [body_field_of_get read]
  rw [← JsValue.get_ok _ _ _ read] at present ⊢
  cases contract with
  | null => exact absurd rfl present
  | array items => rfl
  | object fields => rfl
  | undefined => cases typed
  | bool value => cases typed
  | number value => cases typed
  | string text => cases typed

def proposedChoice (id : String) (row : Sigma fun _ : String => Proposal)
    (action : ProposedAction) : Option JsValue :=
  if proposesFor .setContract id action && decide (row.2.state = .opened) then
    some (proposedBodyOf id row.1 action.args)
  else none

theorem foldl_or {Item Value : Type} (choice : Item → Option Value) (items : List Item)
    (start : Option Value) :
    items.foldl (fun found item => (choice item).or found) start =
      (items.reverse.findSome? choice).or start := by
  induction items generalizing start with
  | nil => rfl
  | cons item items ih =>
      rw [List.foldl_cons, ih, List.reverse_cons, List.findSome?_append, List.findSome?_singleton,
        Option.or_assoc]

def lastProposed (ledger : Ledger) (id : String) : Option JsValue :=
  ledger.proposals.entries.reverse.findSome? fun row =>
    row.2.actions.reverse.findSome? (proposedChoice id row)

/-- No open proposal would set the contract to `null`. -/
def ContractsPresent (ledger : Ledger) (id : String) : Prop :=
  ∀ row ∈ ledger.proposals.entries, row.2.state = .opened → ∀ action ∈ row.2.actions,
    proposesFor .setContract id action = true → action.args.field "contract" ≠ .null

theorem proposed_body_eq
    (sets : AllActions SetsContracts ledger.proposals) (present : ContractsPresent ledger id) :
    proposedBody ledger .setContract "contractId" id (proposedContractBody id) =
      .ok (lastProposed ledger id) := by
  unfold proposedBody
  rw [foldlM_of_ok _ (fun found row =>
    (row.2.actions.reverse.findSome? (proposedChoice id row)).or found), foldl_or, Option.or_none]
  · rfl
  intro row recorded found
  rw [foldlM_of_ok _ (fun found action => (proposedChoice id row action).or found), foldl_or]
  intro action member found
  by_cases setting : action.name = .setContract
  · obtain ⟨contractId, contract, readId, readContract, typed⟩ :=
      sets row recorded action member setting
    rw [if_pos setting, body_field_of_get readId]
    simp only [Bind.bind, Except.bind, proposedChoice]
    by_cases proposes : proposesFor .setContract id action = true
    · have same : (action.args.field "contractId").isString id = true :=
        (JsValue.is_string_iff _ _).mpr (proposes_for_names _ _ _ proposes).2
      by_cases opened : row.2.state = .opened
      · rw [proposed_contract_body_eq id row.1 readContract typed
          (present row recorded opened action member proposes)]
        simp [same, opened, proposes, pure, Except.pure]
      · simp [same, opened, proposes, pure, Except.pure]
    · have different : (action.args.field "contractId").isString id = false := by
        rw [Bool.eq_false_iff]
        simpa [proposesFor, setting] using proposes
      simp [different, proposes, pure, Except.pure]
  · rw [if_neg setting]
    simp [proposedChoice, proposesFor, setting, pure, Except.pure]

/-- Reading a contract that is proposed as `null` throws. -/
theorem proposed_body_present
    (sets : AllActions SetsContracts ledger.proposals) (found : Option JsValue)
    (searched : proposedBody ledger .setContract "contractId" id (proposedContractBody id) =
      .ok found) : ContractsPresent ledger id := by
  intro row recorded opened action member proposes
  obtain ⟨before, after, scanned⟩ := foldlM_ok_steps _ _ _ _ searched row recorded
  obtain ⟨current, next, stepped⟩ := foldlM_ok_steps _ _ _ _ scanned action member
  obtain ⟨setting, contractId⟩ := proposes_for_names _ _ _ proposes
  obtain ⟨_, contract, readId, readContract, typed⟩ := sets row recorded action member setting
  rw [if_pos setting, body_field_of_get readId, contractId] at stepped
  simp only [Bind.bind, Except.bind, JsValue.isString, opened, beq_self_eq_true, decide_true,
    Bool.and_self, if_true] at stepped
  intro missing
  obtain ⟨failure, thrown⟩ := proposed_contract_body_null id row.1 readContract missing
  rw [thrown] at stepped
  cases stepped

theorem proposed_choice_some (chosen : proposedChoice id row action = some body) :
    row.2.state = .opened ∧ proposesFor .setContract id action = true ∧
      body.field "state" = .string "Proposed" := by
  unfold proposedChoice at chosen
  split at chosen
  next hit =>
    obtain ⟨proposes, opened⟩ := (Bool.and_eq_true _ _).mp hit
    cases chosen
    exact ⟨of_decide_eq_true opened, proposes, rfl⟩
  · cases chosen

theorem last_proposed_some (found : lastProposed ledger id = some body) :
    OpenContract ledger id ∧ body.field "state" = .string "Proposed" := by
  obtain ⟨row, recorded, inRow⟩ := List.exists_of_findSome?_eq_some found
  obtain ⟨action, member, chosen⟩ := List.exists_of_findSome?_eq_some inRow
  obtain ⟨opened, proposes, state⟩ := proposed_choice_some chosen
  exact ⟨⟨row, List.mem_reverse.mp recorded, opened, action, List.mem_reverse.mp member, proposes⟩,
    state⟩

theorem last_proposed_none (missing : lastProposed ledger id = none) : ¬OpenContract ledger id := by
  rintro ⟨row, recorded, opened, action, member, proposes⟩
  have inRow := List.findSome?_eq_none_iff.mp missing row (List.mem_reverse.mpr recorded)
  have chosen := List.findSome?_eq_none_iff.mp inRow action (List.mem_reverse.mpr member)
  simp [proposedChoice, proposes, opened] at chosen

def ReadAs (host : CcfHost) (caller : Caller) (acceptedAt : String → Nat) (ledger : Ledger)
    (id : String) (state : ContractState) : Prop :=
  ∃ body, getContract host caller acceptedAt id ledger = .ok body ∧
    body.field "state" = .string state.name

/-- The node knows the views of the transactions that wrote the contract. -/
structure ViewsKnown (host : CcfHost) (acceptedAt : String → Nat) (ledger : Ledger) (id : String) :
    Prop where
  accepted : (host.getViewForSeqno (acceptedAt id)).isSome = true
  draft : ∀ draft, ledger.contracts.lookup id = some draft →
    (host.getViewForSeqno draft.seqno).isSome = true

theorem version_of_known (seqno : Nat) (known : (host.getViewForSeqno seqno).isSome = true) :
    ∃ version, versionOf host seqno = .ok (.string version) := by
  obtain ⟨view, viewed⟩ := Option.isSome_iff_exists.mp known
  exact ⟨versionText view seqno, by rw [versionOf, viewed]⟩

section Reading

variable {host : CcfHost} {caller : Caller} {acceptedAt : String → Nat} {ledger : Ledger}
  {id : String}

theorem read_accepted (authorized : validateCallerAuthorized host ledger caller = .ok ())
    (known : ViewsKnown host acceptedAt ledger id) (accepted : isAccepted ledger id = true)
    (state : ContractState) :
    ReadAs host caller acceptedAt ledger id state ↔ state = .accepted := by
  obtain ⟨item, found⟩ := Option.isSome_iff_exists.mp accepted
  obtain ⟨version, versioned⟩ := version_of_known _ known.accepted
  unfold ReadAs getContract
  rw [authorized, found, versioned]
  constructor
  · rintro ⟨body, same, named⟩
    cases same
    exact ContractState.name_inj _ .accepted (JsValue.string.inj named).symm
  · rintro rfl
    exact ⟨_, rfl, rfl⟩

theorem read_not_accepted (authorized : validateCallerAuthorized host ledger caller = .ok ())
    (known : ViewsKnown host acceptedAt ledger id)
    (sets : AllActions SetsContracts ledger.proposals) (accepted : isAccepted ledger id = false)
    (present : ContractsPresent ledger id) (state : ContractState) :
    ReadAs host caller acceptedAt ledger id state ↔
      (state = .proposed ∧ OpenContract ledger id) ∨
        (state = .draft ∧ ¬OpenContract ledger id ∧
          (ledger.contracts.lookup id).isSome = true) := by
  have missing : ledger.kvGet (.fixed .acceptedContracts) id = none :=
    Option.isSome_eq_false_iff.mp accepted |> Option.isNone_iff_eq_none.mp
  unfold ReadAs getContract
  rw [authorized, missing]
  simp only [Bind.bind, Except.bind, proposed_body_eq sets present]
  cases last : lastProposed ledger id with
  | some body =>
      obtain ⟨opened, named⟩ := last_proposed_some last
      constructor
      · rintro ⟨answer, same, stated⟩
        cases same
        rw [named] at stated
        exact .inl ⟨ContractState.name_inj _ .proposed (JsValue.string.inj stated).symm, opened⟩
      · rintro (⟨rfl, _⟩ | ⟨_, closed, _⟩)
        · exact ⟨body, rfl, named⟩
        · exact absurd opened closed
  | none =>
      have closed := last_proposed_none last
      cases drafted : ledger.contracts.lookup id with
      | none =>
          constructor
          · rintro ⟨answer, same, _⟩
            cases same
          · rintro (⟨_, opened⟩ | ⟨_, _, some⟩)
            · exact absurd opened closed
            · cases some
      | some draft =>
          obtain ⟨version, versioned⟩ := version_of_known _ (known.draft draft drafted)
          simp only [versioned]
          constructor
          · rintro ⟨answer, same, stated⟩
            cases same
            exact .inr ⟨ContractState.name_inj _ .draft (JsValue.string.inj stated).symm, closed,
              rfl⟩
          · rintro (⟨_, opened⟩ | ⟨rfl, _, _⟩)
            · exact absurd opened closed
            · exact ⟨_, rfl, rfl⟩

theorem read_present (authorized : validateCallerAuthorized host ledger caller = .ok ())
    (sets : AllActions SetsContracts ledger.proposals) (accepted : isAccepted ledger id = false)
    (body : JsValue) (got : getContract host caller acceptedAt id ledger = .ok body) :
    ContractsPresent ledger id := by
  have missing : ledger.kvGet (.fixed .acceptedContracts) id = none :=
    Option.isSome_eq_false_iff.mp accepted |> Option.isNone_iff_eq_none.mp
  unfold getContract at got
  rw [authorized, missing] at got
  obtain ⟨_, _, reading⟩ := of_bind got
  obtain ⟨found, searched, _⟩ := of_bind reading
  exact proposed_body_present sets found searched

theorem read_has_state (authorized : validateCallerAuthorized host ledger caller = .ok ())
    (known : ViewsKnown host acceptedAt ledger id)
    (sets : AllActions SetsContracts ledger.proposals) (body : JsValue)
    (got : getContract host caller acceptedAt id ledger = .ok body) :
    ∃ state, ReadAs host caller acceptedAt ledger id state := by
  cases accepted : isAccepted ledger id with
  | true => exact ⟨.accepted, (read_accepted authorized known accepted _).mpr rfl⟩
  | false =>
      have present := read_present authorized sets accepted body got
      have read := read_not_accepted authorized known sets accepted present
      by_cases opened : OpenContract ledger id
      · exact ⟨.proposed, (read _).mpr (.inl ⟨rfl, opened⟩)⟩
      · refine ⟨.draft, (read _).mpr (.inr ⟨rfl, opened, ?_⟩)⟩
        have missing : ledger.kvGet (.fixed .acceptedContracts) id = none :=
          Option.isSome_eq_false_iff.mp accepted |> Option.isNone_iff_eq_none.mp
        have closed : lastProposed ledger id = none := by
          by_contra last
          obtain ⟨found, last⟩ := Option.ne_none_iff_exists'.mp last
          exact opened (last_proposed_some last).1
        unfold getContract at got
        rw [authorized, missing] at got
        simp only [Bind.bind, Except.bind, proposed_body_eq sets present, closed] at got
        cases drafted : ledger.contracts.lookup id with
        | some draft => rfl
        | none =>
            rw [drafted] at got
            cases got

end Reading

/-- The lists and the endpoint for one contract agree on the id. -/
structure ListingAgrees (host : CcfHost) (caller : Caller) (acceptedAt : String → Nat)
    (ledger : Ledger) (id : String) : Prop where
  agrees : ∀ (state : ContractState) (query : String),
    queryValue query "state" = .string state.name →
    (Listed host caller query ledger id ↔ ReadAs host caller acceptedAt ledger id state)
  disjoint : ∀ (state other : ContractState) (query another : String),
    queryValue query "state" = .string state.name →
    queryValue another "state" = .string other.name → Listed host caller query ledger id →
    Listed host caller another ledger id → state = other
  complete : (∃ body, getContract host caller acceptedAt id ledger = .ok body) ↔
    ∃ (state : ContractState) (query : String), queryValue query "state" = .string state.name ∧
      Listed host caller query ledger id

/-- The contract has been accepted, or an open proposal would set it only if it has a draft
exactly where it can be read. -/
def ProposedWithDraft (ledger : Ledger) (id : String) : Prop :=
  isAccepted ledger id = true ∨
    (OpenContract ledger id →
      ((ledger.contracts.lookup id).isSome = true ↔ ContractsPresent ledger id))

theorem in_state_unique (ledger : Ledger) (id : String) (state other : ContractState)
    (first : InState ledger id state) (second : InState ledger id other) : state = other := by
  cases state <;> cases other <;> simp_all [InState]

def ContractState.query (state : ContractState) : String := Joining.joined '=' "state" state.name

theorem ContractState.query_value (state : ContractState) :
    queryValue state.query "state" = .string state.name := by
  have plain : plainInQuery state.name := by cases state <;> decide
  rw [ContractState.query, query_value_single _ _ _ (by decide) plain, if_pos rfl]

theorem open_of_not_present {ledger : Ledger} {id : String}
    (missing : ¬ContractsPresent ledger id) : OpenContract ledger id := by
  unfold ContractsPresent at missing
  push Not at missing
  obtain ⟨row, recorded, opened, action, member, proposes, _⟩ := missing
  exact ⟨row, recorded, opened, action, member, proposes⟩

theorem in_state_read_iff {host : CcfHost} {caller : Caller} {acceptedAt : String → Nat}
    {ledger : Ledger} {id : String}
    (authorized : validateCallerAuthorized host ledger caller = .ok ())
    (known : ViewsKnown host acceptedAt ledger id)
    (sets : AllActions SetsContracts ledger.proposals) (holds : ProposedWithDraft ledger id)
    (state : ContractState) :
    InState ledger id state ↔ ReadAs host caller acceptedAt ledger id state := by
  cases accepted : isAccepted ledger id with
  | true =>
      rw [read_accepted authorized known accepted]
      cases state <;> simp [InState, accepted]
  | false =>
      have drafted := holds.resolve_left (by simp [accepted])
      by_cases present : ContractsPresent ledger id
      · rw [read_not_accepted authorized known sets accepted present]
        cases state with
        | accepted => simp [InState, accepted]
        | proposed =>
            simp only [InState, accepted, true_and, reduceCtorEq, false_and, or_false]
            exact ⟨And.right, fun opened => ⟨(drafted opened).mpr present, opened⟩⟩
        | draft =>
            simp only [InState, accepted, true_and, reduceCtorEq, false_and, false_or]
            exact and_comm
      · have opened := open_of_not_present present
        have undrafted : ¬(ledger.contracts.lookup id).isSome = true :=
          fun found => present ((drafted opened).mp found)
        constructor
        · intro inState
          cases state with
          | accepted =>
              rw [InState, accepted] at inState
              cases inState
          | proposed => exact absurd inState.2.1 undrafted
          | draft => exact absurd inState.2.1 undrafted
        · rintro ⟨body, got, _⟩
          exact absurd (read_present authorized sets accepted body got) present

theorem consent_run_sets_contracts (host : CcfHost) (start : ConsentStore)
    (noProposals : start.users.ledger.proposals = ∅) (operations : List ConsentOperation) :
    AllActions SetsContracts (consentRun host start operations).users.ledger.proposals := by
  apply consent_run_keeps_ledger host (fun ledger => AllActions SetsContracts ledger.proposals)
  · intro ledger seqno sets
    exact sets
  · intro ledger event after sets stepped
    exact sets.step valid_sets_contracts stepped
  · rw [noProposals]
    intro row member
    cases member

/-- In every state that a run reaches, the lists hold a contract under the state with which
it is read exactly if it is accepted or is not proposed without a draft or as `null`. -/
theorem listing_agrees_iff (host : CcfHost) (start : ConsentStore)
    (noProposals : start.users.ledger.proposals = ∅) (operations : List ConsentOperation)
    (caller : Caller) (acceptedAt : String → Nat) (id : String)
    (authorized : validateCallerAuthorized host
      (consentRun host start operations).users.ledger caller = .ok ())
    (known : ViewsKnown host acceptedAt (consentRun host start operations).users.ledger id) :
    ListingAgrees host caller acceptedAt (consentRun host start operations).users.ledger id ↔
      ProposedWithDraft (consentRun host start operations).users.ledger id := by
  have sets := consent_run_sets_contracts host start noProposals operations
  generalize (consentRun host start operations).users.ledger = ledger at authorized known sets
  have named : AllActions (NamesContract .setContract) ledger.proposals :=
    fun row member => sets_names_contract (sets row member)
  have listed := fun state query selected =>
    listed_iff host caller query ledger id state selected authorized named
  constructor
  · intro agreement
    cases accepted : isAccepted ledger id with
    | true => exact .inl accepted
    | false =>
        right
        intro opened
        have proposed := agreement.agrees .proposed _ ContractState.proposed.query_value
        rw [listed _ _ ContractState.proposed.query_value] at proposed
        constructor
        · intro drafted
          obtain ⟨body, got, _⟩ := proposed.mp ⟨accepted, drafted, opened⟩
          exact read_present authorized sets accepted body got
        · intro present
          have read := (read_not_accepted authorized known sets accepted present .proposed).mpr
            (.inl ⟨rfl, opened⟩)
          exact (proposed.mpr read).2.1
  · intro holds
    have agrees : ∀ (state : ContractState) (query : String),
        queryValue query "state" = .string state.name →
        (Listed host caller query ledger id ↔ ReadAs host caller acceptedAt ledger id state) := by
      intro state query selected
      rw [listed state query selected]
      exact in_state_read_iff authorized known sets holds state
    refine ⟨agrees, ?_, ?_⟩
    · intro state other query another first second here there
      exact in_state_unique ledger id state other ((listed _ _ first).mp here)
        ((listed _ _ second).mp there)
    · constructor
      · rintro ⟨body, got⟩
        obtain ⟨state, read⟩ := read_has_state authorized known sets body got
        exact ⟨state, state.query, state.query_value, (agrees _ _ state.query_value).mpr read⟩
      · rintro ⟨state, query, selected, member⟩
        obtain ⟨body, got, _⟩ := (agrees state query selected).mp member
        exact ⟨body, got⟩

def listingStart : ConsentStore := ⟨{ UserStore.fresh with ledger := freshLedger }, ∅⟩

def viewedHost : CcfHost := { idleHost with getViewForSeqno := fun _ => some 2 }

def proposedLedger (drafts : List String) : Ledger :=
  (consentRun viewedHost listingStart ((drafts.map fun id =>
    .user (.governance (.putContract id (.object [("data", .string "terms")])))) ++
      [.user (.governance (contractProposed "p1"))])).users.ledger

theorem undrafted_contract_not_listed :
    (getContract viewedHost (.memberCert "m1") (fun _ => 0) "c1" (proposedLedger [])).map
        (fun body => body.field "state") = .ok (.string "Proposed") ∧
      listContracts viewedHost (.memberCert "m1") ContractState.proposed.query
        (proposedLedger []) = .ok [] := by
  refine ⟨rfl, ?_⟩
  unfold listContracts
  rw [ContractState.proposed.query_value]
  rfl

theorem drafted_contract_listed :
    ListingAgrees viewedHost (.memberCert "m1") (fun _ => 0) (proposedLedger ["c1"]) "c1" := by
  apply (listing_agrees_iff viewedHost listingStart rfl _ (.memberCert "m1") (fun _ => 0) "c1" rfl
    ⟨rfl, fun _ _ => rfl⟩).mpr
  right
  intro _
  constructor
  · intro _ row recorded _ action member _
    cases List.mem_singleton.mp recorded
    cases List.mem_singleton.mp member
    exact nofun
  · intro _
    rfl

end CleanRoom.Governance
