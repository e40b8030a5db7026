import CleanRoom.Governance.OpenItems
import Mathlib.Data.List.Perm.Subperm

/-!
# Unanimity for contracts

When `resolve` accepts a proposal of new contracts. The code compares the number
of favourable votes with the number of active members, two counts over different
tables. They are turned into lists of ids without repetition, one contained in
the other, so that equal lengths mean equal sets.
-/

namespace CleanRoom.Governance

open JavaScript Throwing

theorem length_eq_iff_covers {Item : Type} {inner outer : List Item} (innerNodup : inner.Nodup)
    (outerNodup : outer.Nodup) (contained : inner ⊆ outer) :
    inner.length = outer.length ↔ outer ⊆ inner := by
  have subperm := List.subperm_of_subset innerNodup contained
  constructor
  · intro same
    exact (subperm.perm_of_length_le (by omega)).symm.subset
  · intro covers
    exact Nat.le_antisymm subperm.length_le (List.subperm_of_subset outerNodup covers).length_le

variable (ledger : Ledger)

def outsideMember (memberId : String) : Bool :=
  match ledger.members.lookup memberId with
  | some info => info.outsideRoles
  | none => false

def voterIds (votes : List Vote) : List String :=
  (votes.filter fun vote => vote.vote && outsideMember ledger vote.memberId).map Vote.memberId

def cgsMemberIds (status : MemberStatus) : List String :=
  (ledger.members.entries.filter fun row =>
    row.2.status == status && row.2.outsideRoles).map Sigma.fst

theorem member_vote_count_eq (votes : List Vote) (registered : ∀ vote ∈ votes, vote.vote = true →
      ∃ info, ledger.members.lookup vote.memberId = some info) :
    memberVoteCount ledger votes = .ok (voterIds ledger votes).length := by
  rw [memberVoteCount, countM_of_ok _
    (fun vote => vote.vote && outsideMember ledger vote.memberId)]
  · rw [voterIds, List.length_map, List.countP_eq_length_filter]
  · intro vote member
    cases favourable : vote.vote with
    | false => simp
    | true =>
        obtain ⟨info, found⟩ := registered vote member favourable
        simp [isOutsideRoles, getMemberInfo, outsideMember, found, Functor.map, Except.map]

theorem cgs_member_count_eq (status : MemberStatus) :
    cgsMemberCount status ledger = .ok (cgsMemberIds ledger status).length := by
  rw [cgsMemberCount, countM_of_ok _ (fun row => row.2.status == status && row.2.outsideRoles)]
  · rw [cgsMemberIds, List.length_map, List.countP_eq_length_filter]
  · intro row member
    have found := lookup_of_entry ledger.members row member
    by_cases same : row.2.status = status <;>
      simp [same, isOutsideRoles, getMemberInfo, found, Functor.map, Except.map]

theorem mem_cgs_member_ids (status : MemberStatus) (memberId : String) :
    memberId ∈ cgsMemberIds ledger status ↔
      ∃ info, ledger.members.lookup memberId = some info ∧ info.status = status ∧
        info.outsideRoles = true := by
  simp only [cgsMemberIds, List.mem_map, List.mem_filter, Bool.and_eq_true, beq_iff_eq]
  constructor
  · rintro ⟨row, ⟨member, holds⟩, rfl⟩
    exact ⟨row.2, lookup_of_entry ledger.members row member, holds⟩
  · rintro ⟨info, found, holds⟩
    exact ⟨⟨memberId, info⟩, ⟨entry_of_lookup _ _ _ found, holds⟩, rfl⟩

theorem mem_voter_ids (votes : List Vote) (memberId : String) :
    memberId ∈ voterIds ledger votes ↔
      ⟨memberId, true⟩ ∈ votes ∧ outsideMember ledger memberId = true := by
  simp only [voterIds, List.mem_map, List.mem_filter, Bool.and_eq_true]
  constructor
  · rintro ⟨⟨voter, favour⟩, ⟨member, favourable, outside⟩, rfl⟩
    cases favourable
    exact ⟨member, outside⟩
  · rintro ⟨member, outside⟩
    exact ⟨⟨memberId, true⟩, ⟨member, rfl, outside⟩, rfl⟩

theorem cgs_member_ids_nodup (status : MemberStatus) : (cgsMemberIds ledger status).Nodup :=
  List.Nodup.sublist (List.Sublist.map _ List.filter_sublist) ledger.members.nodupKeys

theorem voter_ids_nodup (votes : List Vote) (distinct : (votes.map Vote.memberId).Nodup) :
    (voterIds ledger votes).Nodup :=
  List.Nodup.sublist (List.Sublist.map _ List.filter_sublist) distinct

/-- A recorded, open proposal of new contracts only: the contracts differ from
each other, none is accepted yet, and no other open proposal has one of them. -/
structure NewContracts (proposalId : String) (proposal : Proposal) : Prop where
  recorded : ledger.proposals.lookup proposalId = some proposal
  isOpen : proposal.state = .opened
  nonempty : proposal.actions ≠ []
  onlyContracts : ∀ action ∈ proposal.actions, action.name = .setContract
  distinct : (proposal.actions.map fun action => action.args.field "contractId").Nodup
  notAccepted : ∀ action ∈ proposal.actions, ∀ contractId,
    action.args.field "contractId" = .string contractId →
      ledger.kvHas (.fixed .acceptedContracts) contractId = false
  alone : ∀ otherId other, ledger.proposals.lookup otherId = some other →
    otherId ≠ proposalId → other.state = .opened →
    ∀ action ∈ proposal.actions, ∀ otherAction ∈ other.actions,
      otherAction.name = .setContract →
        otherAction.args.field "contractId" ≠ action.args.field "contractId"

/-- Every `set_contract` action on record passed its validation. -/
def ContractsValidated : Prop :=
  ∀ row ∈ ledger.proposals.entries, ∀ action ∈ row.2.actions, action.name = .setContract →
    validateSetContract action.args = .ok ()

theorem validated_contract_id (args : JsValue) (valid : validateSetContract args = .ok ()) :
    ∃ contractId, args.get "contractId" = .ok (.string contractId) := by
  obtain ⟨value, read, rest⟩ := of_bind valid
  obtain ⟨_, checked, _⟩ := of_bind rest
  obtain ⟨contractId, rfl⟩ := check_type_string value _ checked
  exact ⟨contractId, read⟩

theorem countP_le_one_of_nodup {Item Key : Type} (key : Item → Key) (wanted : Key)
    (test : Item → Bool) (only : ∀ item, test item = true → key item = wanted)
    (items : List Item) (distinct : (items.map key).Nodup) : items.countP test ≤ 1 := by
  induction items with
  | nil => simp
  | cons item rest ih =>
      obtain ⟨absent, restDistinct⟩ := List.nodup_cons.mp distinct
      rw [List.countP_cons]
      cases hit : test item with
      | false => simpa using ih restDistinct
      | true =>
          have noOther : rest.countP test = 0 := by
            rw [List.countP_eq_zero]
            intro other member passes
            apply absent
            rw [only item hit, ← only other passes]
            exact List.mem_map_of_mem member
          simp [noOther]

section Resolution

variable {ledger} {proposalId : String} {proposal : Proposal}

theorem contracts_readable (validated : ContractsValidated ledger) :
    ∀ row ∈ ledger.proposals.entries, Readable contractKind row.2.actions := by
  intro row member action actionMember same
  obtain ⟨contractId, read⟩ := validated_contract_id action.args
    (validated row member action actionMember same)
  exact ⟨_, read⟩

theorem NewContracts.contract_id (contracts : NewContracts ledger proposalId proposal)
    (validated : ContractsValidated ledger) (action : ProposedAction)
    (member : action ∈ proposal.actions) :
    ∃ contractId, action.args.get "contractId" = .ok (.string contractId) ∧
      action.args.field "contractId" = .string contractId := by
  obtain ⟨contractId, read⟩ := validated_contract_id action.args
    (validated _ (entry_of_lookup _ _ _ contracts.recorded) action member
      (contracts.onlyContracts action member))
  exact ⟨contractId, read, (JsValue.get_ok _ _ _ read).symm⟩

theorem NewContracts.scan_passes (contracts : NewContracts ledger proposalId proposal)
    (validated : ContractsValidated ledger) (action : ProposedAction)
    (member : action ∈ proposal.actions) (contractId : String)
    (named : action.args.field "contractId" = .string contractId) :
    contractIdProposalAlreadyExists ledger (.string contractId) = .ok false := by
  have single : openItemTotal contractKind contractId ledger.proposals.entries =
      openItems contractKind contractId proposal := by
    apply open_item_total_single contractKind contractId _ proposalId proposal contracts.recorded
    intro otherId other found different
    simp only [openItems]
    split_ifs with isOpen
    · rw [List.countP_eq_zero]
      intro otherAction otherMember names
      simp only [namesId, contractKind, Bool.and_eq_true, beq_iff_eq,
        JsValue.is_string_iff] at names
      exact contracts.alone otherId other found different isOpen action member otherAction
        otherMember names.1 (names.2.trans named.symm)
    · rfl
  have atMostOnce : openItems contractKind contractId proposal ≤ 1 := by
    rw [openItems, if_pos contracts.isOpen]
    apply countP_le_one_of_nodup (fun action => action.args.field "contractId")
      (.string contractId) _ _ _ contracts.distinct
    intro other names
    simp only [namesId, contractKind, Bool.and_eq_true, JsValue.is_string_iff] at names
    exact names.2
  have unaccepted := contracts.notAccepted action member contractId named
  have notTwice : ¬1 < openItemTotal contractKind contractId ledger.proposals.entries := by omega
  rw [contractIdProposalAlreadyExists, item_exists_eq contractKind contractId ledger
    (contracts_readable validated), decide_eq_false notTwice, Bool.or_false]
  exact congrArg Except.ok unaccepted

theorem NewContracts.no_conflict (contracts : NewContracts ledger proposalId proposal)
    (validated : ContractsValidated ledger) :
    setContractConflict ledger proposal.actions = .ok false := by
  have someContract : proposal.actions.any isSetContract = true := by
    obtain ⟨action, member⟩ := List.exists_mem_of_ne_nil _ contracts.nonempty
    exact List.any_eq_true.mpr
      ⟨action, member, by simp [isSetContract, contracts.onlyContracts action member]⟩
  have allContracts : proposal.actions.all isSetContract = true :=
    List.all_eq_true.mpr fun action member => by
      simp [isSetContract, contracts.onlyContracts action member]
  have ids : (proposal.actions.mapM fun action => action.args.get "contractId") =
      .ok (proposal.actions.map fun action => action.args.field "contractId") := by
    apply mapM_of_ok
    intro action member
    obtain ⟨contractId, read, named⟩ := contracts.contract_id validated action member
    rw [read, named]
  have size : setSize (proposal.actions.map fun action => action.args.field "contractId") =
      proposal.actions.length := by
    rw [set_size_of_strings _ _ contracts.distinct, List.length_map]
    intro value valueMember
    obtain ⟨action, member, rfl⟩ := List.mem_map.mp valueMember
    obtain ⟨contractId, _, named⟩ := contracts.contract_id validated action member
    exact ⟨contractId, named⟩
  have scan : (proposal.actions.anyM fun action => do
      contractIdProposalAlreadyExists ledger (← action.args.get "contractId")) = .ok false := by
    rw [anyM_of_ok _ (fun _ => false)]
    · simp
    · intro action member
      obtain ⟨contractId, read, named⟩ := contracts.contract_id validated action member
      rw [read]
      exact contracts.scan_passes validated action member contractId named
  simp only [setContractConflict, someContract, allContracts, ids, scan]
  simp [Bind.bind, Except.bind, size]

theorem NewContracts.rejected_eq (contracts : NewContracts ledger proposalId proposal)
    (validated : ContractsValidated ledger) (votes : List Vote) :
    isRejected ledger proposal.actions votes = .ok (votes.any fun vote => !vote.vote) := by
  have canVeto : proposal.actions.any canVetoAction = true := by
    obtain ⟨action, member⟩ := List.exists_mem_of_ne_nil _ contracts.nonempty
    exact List.any_eq_true.mpr
      ⟨action, member, by simp [canVetoAction, contracts.onlyContracts action member]⟩
  have noDocument : proposal.actions.any isSetMemberDocument = false :=
    List.any_eq_false.mpr fun action member => by
      simp [isSetMemberDocument, contracts.onlyContracts action member]
  rw [isRejected, vetoed, canVeto, Bool.true_and, contracts.no_conflict validated]
  cases against : votes.any fun vote => !vote.vote <;>
    simp [Bind.bind, Except.bind, pure, Except.pure, setMemberDocumentConflict, noDocument]

theorem allM_false_of_nonempty (test : ProposedAction → Except String Bool)
    (actions : List ProposedAction) (nonempty : actions ≠ [])
    (fails : ∀ action ∈ actions, test action = .ok false) : actions.allM test = .ok false := by
  rw [allM_of_ok test (fun _ => false) actions fails]
  cases actions with
  | nil => exact absurd rfl nonempty
  | cons action rest => rfl

theorem NewContracts.operator_resolve_eq (contracts : NewContracts ledger proposalId proposal)
    (host : CcfHost) :
    operatorResolve host ledger proposal.actions proposal.proposerId = .ok .opened := by
  have notOperator := allM_false_of_nonempty (canOperatorPass host ledger) proposal.actions
    contracts.nonempty fun action member => by
      simp [canOperatorPass, contracts.onlyContracts action member, allowedOperatorActions]
  rw [operatorResolve, notOperator]
  rfl

theorem NewContracts.by_votes_eq (contracts : NewContracts ledger proposalId proposal)
    (votes : List Vote)
    (registered : ∀ vote ∈ votes, ∃ info, ledger.members.lookup vote.memberId = some info) :
    resolveByVotes ledger proposal.actions proposal.proposerId votes =
      .ok (if (voterIds ledger votes).length = (cgsMemberIds ledger .active).length ∧
          cgsMemberIds ledger .accepted = [] then .accepted else .opened) := by
  have notAuto : proposal.actions.all canAutoAccept = false := by
    obtain ⟨action, member⟩ := List.exists_mem_of_ne_nil _ contracts.nonempty
    exact List.all_eq_false.mpr
      ⟨action, member, by simp [canAutoAccept, contracts.onlyContracts action member]⟩
  have needsAccepted : proposal.actions.any needsAcceptedMembersToVote = true := by
    obtain ⟨action, member⟩ := List.exists_mem_of_ne_nil _ contracts.nonempty
    exact List.any_eq_true.mpr ⟨action, member,
      by simp [needsAcceptedMembersToVote, contracts.onlyContracts action member]⟩
  have notCgs := allM_false_of_nonempty (canCgsOperatorPass ledger) proposal.actions
    contracts.nonempty fun action member => by
      simp [canCgsOperatorPass, contracts.onlyContracts action member]
  have notContract := allM_false_of_nonempty (canContractOperatorPass ledger) proposal.actions
    contracts.nonempty fun action member => by
      simp [canContractOperatorPass, contracts.onlyContracts action member]
  rw [resolveByVotes, member_vote_count_eq ledger votes (fun vote member _ =>
      registered vote member), getActiveCgsMemberCount,
    getAcceptedCgsMemberCount, cgs_member_count_eq, cgs_member_count_eq, notAuto, notCgs,
    notContract]
  simp only [votesSuffice, needsAccepted, Bind.bind, Except.bind, pure, Except.pure, passesAs]
  by_cases enough : (voterIds ledger votes).length = (cgsMemberIds ledger .active).length ∧
      cgsMemberIds ledger .accepted = []
  · simp [enough]
  · have notEnough : ((voterIds ledger votes).length == (cgsMemberIds ledger .active).length &&
        (cgsMemberIds ledger .accepted).length == 0) = false := by
      simpa using enough
    simp [enough, notEnough]

end Resolution

/-- Nobody is against, no member outside the operator roles has yet to become
active, and every active one is in favour. -/
structure Unanimous (votes : List Vote) : Prop where
  noneAgainst : ∀ vote ∈ votes, vote.vote = true
  nonePending : ∀ memberId info, ledger.members.lookup memberId = some info →
    info.outsideRoles = true → info.status ≠ .accepted
  allInFavour : ∀ memberId info, ledger.members.lookup memberId = some info →
    info.outsideRoles = true → info.status = .active → ⟨memberId, true⟩ ∈ votes

/-- The two counts agree, with nobody pending, exactly when every active member
is in favour. Without pending members each favourable vote is an active
member's, and so the voters are among the active members. -/
theorem counts_agree_iff (votes : List Vote) (distinct : (votes.map Vote.memberId).Nodup) :
    ((voterIds ledger votes).length = (cgsMemberIds ledger .active).length ∧
        cgsMemberIds ledger .accepted = []) ↔
      (∀ memberId info, ledger.members.lookup memberId = some info →
        info.outsideRoles = true → info.status ≠ .accepted) ∧
      (∀ memberId info, ledger.members.lookup memberId = some info →
        info.outsideRoles = true → info.status = .active → ⟨memberId, true⟩ ∈ votes) := by
  have pending : cgsMemberIds ledger .accepted = [] ↔
      ∀ memberId info, ledger.members.lookup memberId = some info →
        info.outsideRoles = true → info.status ≠ .accepted := by
    rw [List.eq_nil_iff_forall_not_mem]
    constructor
    · intro none memberId info found outside accepted
      exact none memberId ((mem_cgs_member_ids ledger .accepted memberId).mpr
        ⟨info, found, accepted, outside⟩)
    · intro none memberId member
      obtain ⟨info, found, accepted, outside⟩ :=
        (mem_cgs_member_ids ledger .accepted memberId).mp member
      exact none memberId info found outside accepted
  rw [pending, and_comm]
  apply and_congr_right
  intro nonePending
  have contained : voterIds ledger votes ⊆ cgsMemberIds ledger .active := by
    intro memberId member
    obtain ⟨_, outside⟩ := (mem_voter_ids ledger votes memberId).mp member
    unfold outsideMember at outside
    split at outside
    · rename_i info found
      have active : info.status = .active := by
        cases status : info.status with
        | active => rfl
        | accepted => exact absurd status (nonePending memberId info found outside)
      exact (mem_cgs_member_ids ledger .active memberId).mpr ⟨info, found, active, outside⟩
    · cases outside
  rw [length_eq_iff_covers (voter_ids_nodup ledger votes distinct)
    (cgs_member_ids_nodup ledger .active) contained]
  constructor
  · intro covers memberId info found outside active
    exact ((mem_voter_ids ledger votes memberId).mp (covers
      ((mem_cgs_member_ids ledger .active memberId).mpr ⟨info, found, active, outside⟩))).1
  · intro inFavour memberId member
    obtain ⟨info, found, active, outside⟩ :=
      (mem_cgs_member_ids ledger .active memberId).mp member
    exact (mem_voter_ids ledger votes memberId).mpr
      ⟨inFavour memberId info found outside active, by simp [outsideMember, found, outside]⟩

/-- `resolve` accepts a proposal of new contracts exactly on unanimity, rejects
it exactly when somebody is against, and leaves it open otherwise. -/
theorem new_contracts_need_unanimity (host : CcfHost) (proposalId : String) (proposal : Proposal)
    (votes : List Vote) (contracts : NewContracts ledger proposalId proposal)
    (validated : ContractsValidated ledger) (distinct : (votes.map Vote.memberId).Nodup)
    (registered : ∀ vote ∈ votes, ∃ info, ledger.members.lookup vote.memberId = some info) :
    (resolve host ledger proposal.actions proposal.proposerId votes = .ok .accepted ↔
      Unanimous ledger votes) ∧
    (resolve host ledger proposal.actions proposal.proposerId votes = .ok .rejected ↔
      ∃ vote ∈ votes, vote.vote = false) ∧
    (resolve host ledger proposal.actions proposal.proposerId votes = .ok .opened ↔
      ¬Unanimous ledger votes ∧ ¬∃ vote ∈ votes, vote.vote = false) := by
  have resolved : resolve host ledger proposal.actions proposal.proposerId votes =
      if (votes.any fun vote => !vote.vote) then .ok .rejected
      else resolveByVotes ledger proposal.actions proposal.proposerId votes := by
    rw [resolve, contracts.operator_resolve_eq host, contracts.rejected_eq validated votes]
    rfl
  have someAgainst : (votes.any fun vote => !vote.vote) = true ↔
      ∃ vote ∈ votes, vote.vote = false := by
    simp [List.any_eq_true]
  rw [resolved]
  by_cases against : ∃ vote ∈ votes, vote.vote = false
  · have notUnanimous : ¬Unanimous ledger votes := by
      intro unanimous
      obtain ⟨vote, member, opposed⟩ := against
      rw [unanimous.noneAgainst vote member] at opposed
      cases opposed
    simp [someAgainst.mpr against, against, notUnanimous]
  · have noneAgainst : ∀ vote ∈ votes, vote.vote = true := by
      intro vote member
      by_contra opposed
      exact against ⟨vote, member, by simpa using opposed⟩
    have quiet : (votes.any fun vote => !vote.vote) = false := by
      simpa using mt someAgainst.mp against
    have enough := counts_agree_iff ledger votes distinct
    have unanimity : Unanimous ledger votes ↔
        ((voterIds ledger votes).length = (cgsMemberIds ledger .active).length ∧
          cgsMemberIds ledger .accepted = []) := by
      rw [enough]
      exact ⟨fun unanimous => ⟨unanimous.nonePending, unanimous.allInFavour⟩,
        fun both => ⟨noneAgainst, both.1, both.2⟩⟩
    rw [quiet, contracts.by_votes_eq votes registered, unanimity]
    by_cases agree : (voterIds ledger votes).length = (cgsMemberIds ledger .active).length ∧
        cgsMemberIds ledger .accepted = []
    · simp [agree, against]
    · simp [agree, against]

def soleContract : Proposal where
  proposerId := "m1"
  actions := [⟨.setContract, .object [("contractId", .string "c1"), ("contract", .object [])]⟩]
  state := .opened
  ballots := ["m1"]
  finalVotes := none

def twoMembersLedger : Ledger where
  members := ((∅ : Table MemberInfo).insert "m1" ⟨.active, .undefined, .undefined⟩).insert "m2"
    ⟨.active, .undefined, .undefined⟩
  proposals := (∅ : Table Proposal).insert "p1" soleContract
  gov _ := ∅
  contracts := ∅
  documents := ∅
  seqno := 1

theorem sole_contract_is_new : NewContracts twoMembersLedger "p1" soleContract where
  recorded := rfl
  isOpen := rfl
  nonempty := by simp [soleContract]
  onlyContracts := by simp [soleContract]
  distinct := by simp [soleContract]
  notAccepted := by
    intro action member contractId named
    rfl
  alone := by
    intro otherId other found different
    have absent : twoMembersLedger.proposals.lookup otherId = none := by
      rw [twoMembersLedger, AList.lookup_insert_ne different]
      rfl
    rw [absent] at found
    cases found

theorem sole_contract_validated : ContractsValidated twoMembersLedger := by
  intro row member action actionMember same
  have onlyRow : row = ⟨"p1", soleContract⟩ := by
    simpa [twoMembersLedger] using member
  subst onlyRow
  simp only [soleContract, List.mem_singleton] at actionMember
  subst actionMember
  rfl

/-- Both members vote in favour, and the contract is accepted. -/
theorem both_members_accept_contract :
    resolve idleHost twoMembersLedger soleContract.actions soleContract.proposerId
      [⟨"m1", true⟩, ⟨"m2", true⟩] = .ok .accepted := by
  have twoMembers : ∀ memberId info, twoMembersLedger.members.lookup memberId = some info →
      (memberId = "m1" ∨ memberId = "m2") ∧ info = ⟨.active, .undefined, .undefined⟩ := by
    intro memberId info found
    by_cases second : memberId = "m2"
    · subst second
      cases found
      exact ⟨.inr rfl, rfl⟩
    · rw [twoMembersLedger, AList.lookup_insert_ne second] at found
      by_cases first : memberId = "m1"
      · subst first
        cases found
        exact ⟨.inl rfl, rfl⟩
      · rw [AList.lookup_insert_ne first] at found
        cases found
  have unanimity := new_contracts_need_unanimity twoMembersLedger idleHost "p1" soleContract
    [⟨"m1", true⟩, ⟨"m2", true⟩] sole_contract_is_new sole_contract_validated (by simp)
    (by
      simp only [List.forall_mem_cons, List.not_mem_nil, false_implies, implies_true, and_true]
      exact ⟨⟨_, rfl⟩, ⟨_, rfl⟩⟩)
  apply unanimity.1.mpr
  constructor
  · simp
  · intro memberId info found _
    rw [(twoMembers memberId info found).2]
    simp
  · intro memberId info found _ _
    rcases (twoMembers memberId info found).1 with rfl | rfl <;> simp

end CleanRoom.Governance
