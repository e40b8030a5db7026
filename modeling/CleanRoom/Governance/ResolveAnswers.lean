import CleanRoom.Governance.AcceptedOnce
import CleanRoom.Governance.Unanimity

/-!
# When `resolve` answers

`resolve` looks members up by id and converts arguments to buffers, and both
throw on what is missing. It reads the certificate of a `remove_member` action,
which validation does not ask for; the document id of every action next to a
`set_member_document`; and the record of everybody with a favourable ballot.
Each stage is described by what it has to find.
-/

namespace CleanRoom.Governance

open JavaScript Throwing

variable (host : CcfHost) (ledger : Ledger)

def IsRegistered (memberId : String) : Prop :=
  ∃ info, ledger.members.lookup memberId = some info

theorem answers_role (role : MemberInfo → Bool) (memberId : String) :
    Answers (role <$> getMemberInfo ledger memberId) ↔ IsRegistered ledger memberId := by
  rw [answers_map, getMemberInfo, IsRegistered]
  cases ledger.members.lookup memberId with
  | none => simp
  | some info => simp

/-- What the operator test of one action reads: the arguments of `set_member`,
and for `remove_member` the certificate of a registered member. -/
def OperatorReadable (action : ProposedAction) : Prop :=
  match action.name with
  | .setMember => ∃ memberData, action.args.get "member_data" = .ok memberData
  | .removeMember => ∃ memberId, host.idOfPem (action.args.field "cert") = .ok memberId ∧
      IsRegistered ledger memberId
  | _ => True

theorem answers_can_operator_pass (action : ProposedAction) :
    Answers (canOperatorPass host ledger action) ↔ OperatorReadable host ledger action := by
  obtain ⟨name, args⟩ := action
  by_cases member : name = .setMember
  · subst member
    change Answers (args.get "member_data" >>= fun memberData =>
      pure (memberData.truthy && (memberData.field "isOperator").truthy)) ↔ _
    simp only [answers_bind, answers_pure, and_true, OperatorReadable]
  · by_cases removal : name = .removeMember
    · subst removal
      have lookup : ∀ memberId, Answers (isOperator ledger memberId) ↔
          IsRegistered ledger memberId := answers_role ledger MemberInfo.isOperator
      change Answers (args.get "cert" >>= fun value => host.idOfPem value >>= isOperator ledger) ↔ _
      simp only [answers_bind, lookup, OperatorReadable]
      cases args <;> simp [JsValue.get, JsValue.field, CcfHost.idOfPem]
    · have answered : Answers (canOperatorPass host ledger ⟨name, args⟩) := by
        rw [canOperatorPass]
        split
        · exact answers_ok _
        · split
          next same => exact absurd same member
          next same => exact absurd same removal
          next => exact answers_ok _
      have readable : OperatorReadable host ledger ⟨name, args⟩ := by
        rw [OperatorReadable]
        split
        next same => exact absurd same member
        next same => exact absurd same removal
        next => trivial
      exact iff_of_true answered readable

/-- The test stops at the first action that is not for operators. -/
def OperatorScan (actions : List ProposedAction) : Prop :=
  ∀ before action after, actions = before ++ action :: after →
    (∀ earlier ∈ before, canOperatorPass host ledger earlier = .ok true) →
      OperatorReadable host ledger action

def OperatorPasses (actions : List ProposedAction) (proposerId : String) : Prop :=
  (∀ action ∈ actions, canOperatorPass host ledger action = .ok true) ∧
    isOperator ledger proposerId = .ok true

theorem answers_operator_change (actions : List ProposedAction) :
    Answers (actions.allM (canOperatorPass host ledger)) ↔ OperatorScan host ledger actions := by
  rw [answers_allM]
  simp only [ReachedAnswer, OperatorScan, Bool.not_false, answers_can_operator_pass]

theorem answers_passes_as (role : MemberInfo → Bool) (proposerId : String) (change : Bool) :
    Answers (passesAs (fun state memberId => role <$> getMemberInfo state memberId) ledger
      proposerId change) ↔ (change = true → IsRegistered ledger proposerId) := by
  cases change with
  | false => simp [passesAs]
  | true => simpa [passesAs] using answers_role ledger role proposerId

theorem answers_operator_resolve (actions : List ProposedAction) (proposerId : String) :
    Answers (operatorResolve host ledger actions proposerId) ↔
      OperatorScan host ledger actions ∧
        ((∀ action ∈ actions, canOperatorPass host ledger action = .ok true) →
          IsRegistered ledger proposerId) := by
  rw [← answers_operator_change, ← allM_true_iff, operatorResolve, answers_bind]
  constructor
  · rintro ⟨change, changed, rest⟩
    obtain ⟨passes, passed, _⟩ := (answers_bind _ _).mp rest
    refine ⟨⟨change, changed⟩, ?_⟩
    intro all
    rw [changed] at all
    cases all
    exact (answers_passes_as ledger MemberInfo.isOperator proposerId true).mp ⟨passes, passed⟩ rfl
  · rintro ⟨⟨change, changed⟩, registered⟩
    have passes : Answers (passesAs isOperator ledger proposerId change) := by
      apply (answers_passes_as ledger MemberInfo.isOperator proposerId change).mpr
      intro all
      exact registered (all ▸ changed)
    obtain ⟨passed, answered⟩ := passes
    refine ⟨change, changed, (answers_bind _ _).mpr ⟨passed, answered, ?_⟩⟩
    cases passed <;> simp

theorem operator_resolve_accepted_iff (actions : List ProposedAction) (proposerId : String) :
    operatorResolve host ledger actions proposerId = .ok .accepted ↔
      OperatorPasses host ledger actions proposerId := by
  constructor
  · exact operator_resolve_accepted
  · rintro ⟨all, operator⟩
    rw [operatorResolve, (allM_true_iff _ _).mpr all]
    change (isOperator ledger proposerId >>= _) = _
    rw [operator]
    rfl

def documentTaken (documentId : String) : Bool :=
  ledger.kvHas (.fixed .acceptedMemberDocuments) documentId ||
    decide (1 < openItemTotal documentKind documentId ledger.proposals.entries)

def NamesDocument (action : ProposedAction) (documentId : String) : Prop :=
  action.args.field "documentId" = .string documentId

/-- The scan for documents stops at the first one that is taken. Until then
every action must have a document id, whatever its kind. -/
def DocumentScan (actions : List ProposedAction) : Prop :=
  actions.any isSetMemberDocument = true →
    ∀ before action after, actions = before ++ action :: after →
      (∀ earlier ∈ before, ∃ documentId, NamesDocument earlier documentId ∧
        documentTaken ledger documentId = false) →
      ∃ documentId, NamesDocument action documentId

def ScanFindsTaken (actions : List ProposedAction) : Prop :=
  actions.any isSetMemberDocument = true ∧
    ∃ action ∈ actions, ∃ documentId, NamesDocument action documentId ∧
      documentTaken ledger documentId = true

def documentTest (action : ProposedAction) : Except String Bool := do
  documentIdProposalAlreadyExists ledger (← action.args.get "documentId")

section Documents

variable {ledger} (readable : AllReadable documentKind ledger.proposals)

include readable

theorem document_test_ok_iff (action : ProposedAction) (taken : Bool) :
    documentTest ledger action = .ok taken ↔
      ∃ documentId, NamesDocument action documentId ∧
        documentTaken ledger documentId = taken := by
  obtain ⟨name, args⟩ := action
  have scanned : ∀ documentId, documentIdProposalAlreadyExists ledger (.string documentId) =
      .ok (documentTaken ledger documentId) := fun documentId =>
    item_exists_eq documentKind documentId ledger readable
  rw [documentTest, bind_eq_ok]
  constructor
  · rintro ⟨value, read, scan⟩
    obtain ⟨documentId, converted, _⟩ := of_bind scan
    cases value <;> cases converted
    rw [scanned] at scan
    exact ⟨documentId, (JsValue.get_ok _ _ _ read).symm, Except.ok.inj scan⟩
  · rintro ⟨documentId, named, rfl⟩
    refine ⟨.string documentId, ?_, scanned documentId⟩
    simp only [NamesDocument] at named
    cases args <;> simp_all [JsValue.get, JsValue.field]

theorem answers_document_test (action : ProposedAction) :
    Answers (documentTest ledger action) ↔ ∃ documentId, NamesDocument action documentId := by
  simp only [Answers, document_test_ok_iff readable]
  constructor
  · rintro ⟨_, documentId, named, _⟩
    exact ⟨documentId, named⟩
  · rintro ⟨documentId, named⟩
    exact ⟨_, documentId, named, rfl⟩

theorem answers_document_conflict (actions : List ProposedAction) :
    Answers (setMemberDocumentConflict ledger actions) ↔ DocumentScan ledger actions := by
  rw [setMemberDocumentConflict, DocumentScan]
  split
  next some =>
    change Answers (actions.anyM (documentTest ledger)) ↔ _
    rw [answers_anyM]
    simp only [ReachedAnswer, Bool.not_true, document_test_ok_iff readable,
      answers_document_test readable, some, forall_const]
  next none => simp [none]

theorem document_conflict_true (actions : List ProposedAction)
    (conflict : setMemberDocumentConflict ledger actions = .ok true) :
    ScanFindsTaken ledger actions := by
  rw [setMemberDocumentConflict] at conflict
  split at conflict
  next some =>
    obtain ⟨action, member, hit⟩ := anyM_true (documentTest ledger) actions conflict
    exact ⟨some, action, member, (document_test_ok_iff readable action true).mp hit⟩
  next none => cases conflict

theorem document_conflict_false_iff (actions : List ProposedAction) :
    setMemberDocumentConflict ledger actions = .ok false ↔
      (actions.any isSetMemberDocument = true → ∀ action ∈ actions, ∃ documentId,
        NamesDocument action documentId ∧ documentTaken ledger documentId = false) := by
  rw [setMemberDocumentConflict]
  split
  next some =>
    change actions.anyM (documentTest ledger) = .ok false ↔ _
    simp only [some, forall_const]
    constructor
    · intro clear action member
      exact (document_test_ok_iff readable action false).mp (anyM_false _ _ clear action member)
    · intro free
      rw [anyM_of_ok _ (fun _ => false)]
      · simp
      · intro action member
        exact (document_test_ok_iff readable action false).mpr (free action member)
  next none => simp [none]

end Documents

def contractTaken (contractId : String) : Bool :=
  ledger.kvHas (.fixed .acceptedContracts) contractId ||
    decide (1 < openItemTotal contractKind contractId ledger.proposals.entries)

def ContractConflict (actions : List ProposedAction) : Prop :=
  actions.any isSetContract = true ∧
    (actions.all isSetContract = false ∨
      setSize (actions.map fun action => action.args.field "contractId") < actions.length ∨
      ∃ action ∈ actions, ∃ contractId,
        action.args.field "contractId" = .string contractId ∧
          contractTaken ledger contractId = true)

/-- Every `set_contract` action has a contract id. -/
def ContractsNamed (actions : List ProposedAction) : Prop :=
  ∀ action ∈ actions, action.name = .setContract →
    ∃ contractId, action.args.get "contractId" = .ok (.string contractId)

def takenContract (contractId : JsValue) : Bool :=
  match contractId with
  | .string contractId => contractTaken ledger contractId
  | _ => false

variable {ledger} in
theorem set_contract_conflict_decided (readable : AllReadable contractKind ledger.proposals)
    (actions : List ProposedAction) (named : ContractsNamed actions) :
    ∃ conflict, setContractConflict ledger actions = .ok conflict ∧
      (conflict = true ↔ ContractConflict ledger actions) := by
  rw [setContractConflict, ContractConflict]
  cases someContract : actions.any isSetContract with
  | false => exact ⟨false, rfl, by simp⟩
  | true =>
      cases allContracts : actions.all isSetContract with
      | false => exact ⟨true, rfl, by simp⟩
      | true =>
          have read : ∀ action ∈ actions, ∃ contractId,
              action.args.get "contractId" = .ok (.string contractId) ∧
                action.args.field "contractId" = .string contractId := by
            intro action member
            have same := List.all_eq_true.mp allContracts action member
            obtain ⟨contractId, got⟩ := named action member (by simpa [isSetContract] using same)
            exact ⟨contractId, got, (JsValue.get_ok _ _ _ got).symm⟩
          have ids : (actions.mapM fun action => action.args.get "contractId") =
              .ok (actions.map fun action => action.args.field "contractId") := by
            apply mapM_of_ok
            intro action member
            obtain ⟨contractId, got, plain⟩ := read action member
            rw [got, plain]
          have tested : ∀ action ∈ actions,
              (do contractIdProposalAlreadyExists ledger (← action.args.get "contractId") :
                Except String Bool) =
                  .ok (takenContract ledger (action.args.field "contractId")) := by
            intro action member
            obtain ⟨contractId, got, plain⟩ := read action member
            rw [got, plain]
            exact item_exists_eq contractKind contractId ledger readable
          simp only [ids, Bool.not_true, Bool.false_eq_true, if_false, Bind.bind, Except.bind,
            true_and]
          split
          next fewer => exact ⟨true, rfl, by simp [fewer]⟩
          next asMany =>
            refine ⟨_, anyM_of_ok _ _ actions tested, ?_⟩
            rw [List.any_eq_true]
            simp only [asMany, reduceCtorEq, false_or]
            refine exists_congr fun action => and_congr_right fun member => ?_
            obtain ⟨contractId, _, plain⟩ := read action member
            simp [plain, takenContract]

def VotersRegistered (votes : List Vote) : Prop :=
  ∀ vote ∈ votes, vote.vote = true → IsRegistered ledger vote.memberId

theorem answers_member_vote_count (votes : List Vote) :
    Answers (memberVoteCount ledger votes) ↔ VotersRegistered ledger votes := by
  rw [memberVoteCount, answers_countM]
  refine forall_congr' fun vote => imp_congr_right fun _ => ?_
  cases vote.vote with
  | false => simp
  | true =>
      simp only [if_true, forall_const]
      exact answers_role ledger MemberInfo.outsideRoles vote.memberId

theorem answers_runtime_option (option : String) :
    Answers (isRuntimeOptionEnabled ledger option) := by
  rw [isRuntimeOptionEnabled]
  cases ledger.kvGet (.fixed .cgsRuntimeOptions) option with
  | none => exact answers_ok _
  | some item => cases item <;> simp [JsValue.truthy, JsValue.get] <;> split <;> simp

theorem answers_allM_of_forall {Item : Type} (test : Item → Except String Bool)
    (answered : ∀ item, Answers (test item)) (items : List Item) :
    Answers (items.allM test) :=
  (answers_allM test items).mpr fun _ item _ _ _ => answered item

theorem answers_cgs_operator_change (actions : List ProposedAction) :
    Answers (actions.allM (canCgsOperatorPass ledger)) := by
  apply answers_allM_of_forall
  intro action
  rw [canCgsOperatorPass]
  split
  · exact answers_runtime_option ledger _
  · exact answers_runtime_option ledger _
  · exact answers_ok _

theorem answers_contract_operator_change (actions : List ProposedAction) :
    Answers (actions.allM (canContractOperatorPass ledger)) := by
  apply answers_allM_of_forall
  intro action
  rw [canContractOperatorPass]
  split
  · exact answers_runtime_option ledger _
  · exact answers_runtime_option ledger _
  · exact answers_runtime_option ledger _
  · exact answers_ok _

theorem answers_resolve_by_votes (actions : List ProposedAction) (proposerId : String)
    (votes : List Vote) (registered : IsRegistered ledger proposerId) :
    Answers (resolveByVotes ledger actions proposerId votes) ↔ VotersRegistered ledger votes := by
  rw [← answers_member_vote_count, resolveByVotes, answers_bind]
  refine exists_congr fun count => and_iff_left ?_
  split
  · exact answers_pure _
  · obtain ⟨cgsChange, cgsChanged⟩ := answers_cgs_operator_change ledger actions
    obtain ⟨cgsPasses, cgsPassed⟩ : Answers (passesAs isCgsOperator ledger proposerId cgsChange) :=
      (answers_passes_as ledger MemberInfo.isCgsOperator proposerId cgsChange).mpr
        fun _ => registered
    obtain ⟨change, changed⟩ := answers_contract_operator_change ledger actions
    obtain ⟨passes, passed⟩ : Answers (passesAs isContractOperator ledger proposerId change) :=
      (answers_passes_as ledger MemberInfo.isContractOperator proposerId change).mpr
        fun _ => registered
    simp only [getActiveCgsMemberCount, getAcceptedCgsMemberCount, cgs_member_count_eq,
      cgsChanged, cgsPassed, changed, passed, Bind.bind, Except.bind]
    split_ifs <;> exact answers_pure _

/-- What `resolve` has to find. Each stage ends the resolution or leads to the
next one. -/
def ResolveReads (actions : List ProposedAction) (proposerId : String) (votes : List Vote) :
    Prop :=
  OperatorScan host ledger actions ∧
    (OperatorPasses host ledger actions proposerId ∨ vetoed actions votes = true ∨
      ContractConflict ledger actions ∨
      DocumentScan ledger actions ∧
        (ScanFindsTaken ledger actions ∨ VotersRegistered ledger votes))

/-- Some earlier state accepted the actions as a proposal. -/
def Validated (actions : List ProposedAction) : Prop :=
  ∃ earlier, (validate host earlier actions).valid = true

section Validated

variable {host} {ledger}

theorem Validated.contracts_named {actions : List ProposedAction}
    (validated : Validated host actions) : ContractsNamed actions := by
  obtain ⟨earlier, valid⟩ := validated
  intro action member named
  have checked := valid_action host earlier actions valid action member
  rw [named] at checked
  exact validated_contract_id action.args checked

theorem all_readable_of_validated {kind : ItemKind}
    (known : kind = contractKind ∨ kind = documentKind)
    (recorded : AllActions (Validated host) ledger.proposals) :
    AllReadable kind ledger.proposals := by
  intro row member
  obtain ⟨earlier, valid⟩ := recorded row member
  exact valid_readable known host earlier row.2.actions valid

end Validated

theorem run_recorded_validated (start : Ledger) (events : List Event)
    (noProposals : start.proposals = ∅) :
    AllActions (Validated host) (run host start events).proposals := by
  apply run_invariant host (fun state => AllActions (Validated host) state.proposals)
  · intro state seqno recorded
    exact recorded
  · intro state event after recorded stepped
    exact recorded.step (fun actions valid => ⟨state, valid⟩) stepped
  · rw [noProposals]
    intro row member
    cases member

theorem is_rejected_eq (actions : List ProposedAction) (votes : List Vote) (conflict : Bool)
    (decided : setContractConflict ledger actions = .ok conflict) :
    isRejected ledger actions votes =
      if vetoed actions votes = true ∨ conflict = true then .ok true
      else setMemberDocumentConflict ledger actions := by
  rw [isRejected, decided]
  cases vetoed actions votes <;> cases conflict <;> rfl

/-- The part of `resolve` after the operators. -/
def resolveWithoutOperators (actions : List ProposedAction) (proposerId : String)
    (votes : List Vote) : Except String Resolution := do
  if ← isRejected ledger actions votes then return .rejected
  resolveByVotes ledger actions proposerId votes

variable {host ledger} in
theorem answers_without_operators {actions : List ProposedAction} {votes : List Vote}
    {proposerId : String} (recorded : AllActions (Validated host) ledger.proposals)
    (validated : Validated host actions) (registered : IsRegistered ledger proposerId) :
    Answers (resolveWithoutOperators ledger actions proposerId votes) ↔
      vetoed actions votes = true ∨ ContractConflict ledger actions ∨
        DocumentScan ledger actions ∧
          (ScanFindsTaken ledger actions ∨ VotersRegistered ledger votes) := by
  have contractsReadable : AllReadable contractKind ledger.proposals :=
    all_readable_of_validated (Or.inl rfl) recorded
  have documentsReadable : AllReadable documentKind ledger.proposals :=
    all_readable_of_validated (Or.inr rfl) recorded
  obtain ⟨conflict, decided, meaning⟩ := set_contract_conflict_decided contractsReadable actions
    validated.contracts_named
  rw [resolveWithoutOperators, is_rejected_eq ledger actions votes conflict decided,
    ← or_assoc, ← meaning]
  split
  next ends =>
    simp only [ends, true_or, iff_true]
    exact answers_pure _
  next continues =>
    simp only [continues, false_or]
    rw [← answers_document_conflict documentsReadable, answers_bind]
    constructor
    · rintro ⟨found, scanned, answered⟩
      refine ⟨⟨found, scanned⟩, ?_⟩
      cases found with
      | true => exact Or.inl (document_conflict_true documentsReadable actions scanned)
      | false =>
          exact Or.inr ((answers_resolve_by_votes ledger actions proposerId votes
            registered).mp answered)
    · rintro ⟨⟨found, scanned⟩, ends⟩
      refine ⟨found, scanned, ?_⟩
      cases found with
      | true => exact answers_pure _
      | false =>
          apply (answers_resolve_by_votes ledger actions proposerId votes registered).mpr
          rcases ends with ⟨some, action, member, documentId, named, taken⟩ | voters
          · obtain ⟨freeId, freeNamed, free⟩ :=
              (document_conflict_false_iff documentsReadable actions).mp scanned some action member
            rw [NamesDocument, named] at freeNamed
            cases freeNamed
            rw [taken] at free
            cases free
          · exact voters

/-- `resolve` answers exactly when it finds what it reads. -/
theorem resolve_answers_iff (actions : List ProposedAction) (proposerId : String)
    (votes : List Vote) (recorded : AllActions (Validated host) ledger.proposals)
    (validated : Validated host actions) (registered : IsRegistered ledger proposerId) :
    Answers (resolve host ledger actions proposerId votes) ↔
      ResolveReads host ledger actions proposerId votes := by
  have stages : Answers (resolve host ledger actions proposerId votes) ↔
      Answers (operatorResolve host ledger actions proposerId) ∧
        (operatorResolve host ledger actions proposerId = .ok .accepted ∨
          Answers (resolveWithoutOperators ledger actions proposerId votes)) := by
    rw [resolve, answers_bind]
    constructor
    · rintro ⟨first, operator, rest⟩
      refine ⟨⟨first, operator⟩, ?_⟩
      split at rest
      next accepted => exact Or.inl (accepted ▸ operator)
      next => exact Or.inr rest
    · rintro ⟨⟨first, operator⟩, rest⟩
      refine ⟨first, operator, ?_⟩
      split
      next => exact answers_pure _
      next notAccepted =>
        rcases rest with accepted | answered
        · rw [operator] at accepted
          exact absurd (Except.ok.inj accepted) notAccepted
        · exact answered
  rw [stages, operator_resolve_accepted_iff, answers_without_operators recorded validated
    registered, answers_operator_resolve, ResolveReads]
  simp only [registered, implies_true, and_true]

/-- The only member of the earlier examples proposes a contract and votes for
it; the resolution finds all that it reads. -/
theorem contract_vote_answers :
    Answers (resolve idleHost (run idleHost freshLedger [contractProposed "p1"])
      soleContract.actions "m1" [⟨"m1", true⟩]) := by
  have valid : (validate idleHost freshLedger soleContract.actions).valid = true := rfl
  apply (resolve_answers_iff idleHost _ soleContract.actions "m1" [⟨"m1", true⟩]
    (run_recorded_validated idleHost freshLedger _ rfl) ⟨freshLedger, valid⟩ ⟨_, rfl⟩).mpr
  constructor
  · intro before action after split _
    have member : action ∈ soleContract.actions := by
      rw [split]
      simp
    simp only [soleContract, List.mem_singleton] at member
    subst member
    trivial
  · refine Or.inr (Or.inr (Or.inr ⟨?_, Or.inr ?_⟩))
    · intro some
      cases some
    · intro vote member _
      rw [List.mem_singleton] at member
      subst member
      exact ⟨_, rfl⟩

/-- The removal of a member, as `remove_member` defines its arguments. -/
def removalActions : List ProposedAction :=
  [⟨.removeMember, .object [("member_id", .string (String.ofList (List.replicate 64 'a')))]⟩]

/-- The removal is valid, but its resolution asks for a certificate. -/
theorem plain_removal_throws :
    (validate idleHost freshLedger removalActions).valid = true ∧
      IsRegistered freshLedger "m1" ∧
      resolve idleHost freshLedger removalActions "m1" [] = .error "Failed to parse PEM" :=
  ⟨by decide +kernel, ⟨_, rfl⟩, rfl⟩

end CleanRoom.Governance
