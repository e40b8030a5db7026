import CleanRoom.Governance.AcceptedOnce
import CleanRoom.Governance.Unanimity

/-!
# What operators can reach on their own

Runs in which only operators propose and vote. Operators may add operators and
retire them without a vote, and `canOperatorPass` does not ask whom these
actions hit. With that an operator can turn the last active member into an
operator, after which no votes are missing for a contract. As long as such
proposals spare the members outside the operator roles, nothing that needs the
members is ever accepted.
-/

namespace CleanRoom.Governance

open JavaScript Throwing

def Event.fromOperator (ledger : Ledger) : Event → Prop
  | .propose memberId _ _ =>
      ∃ info, ledger.members.lookup memberId = some info ∧ info.isOperator = true
  | .ballot memberId _ _ =>
      ∃ info, ledger.members.lookup memberId = some info ∧ info.isOperator = true
  | _ => True

/-- An action that changes a member changes none outside the operator roles. -/
def sparesMembers (host : CcfHost) (ledger : Ledger) (action : ProposedAction) : Prop :=
  match action.name with
  | .setMember => ∀ memberId, host.idOfPem (action.args.field "cert") = .ok memberId →
      outsideMember ledger memberId = false
  | .removeMember => ∀ memberId, action.args.field "member_id" = .string memberId →
      outsideMember ledger memberId = false
  | _ => True

def operatorChangeSpares (host : CcfHost) (ledger : Ledger) (actions : List ProposedAction) :
    Prop :=
  (∀ action ∈ actions, canOperatorPass host ledger action = .ok true) →
    ∀ action ∈ actions, sparesMembers host ledger action

def Event.sparesMembers (host : CcfHost) (ledger : Ledger) : Event → Prop
  | .propose _ _ actions =>
      (validate host ledger actions).valid = true → operatorChangeSpares host ledger actions
  | .ballot _ proposalId _ => ∀ proposal, ledger.proposals.lookup proposalId = some proposal →
      proposal.state = .opened → operatorChangeSpares host ledger proposal.actions
  | _ => True

def needsMembers (action : ProposedAction) : Bool :=
  [ActionName.setContract, .setCleanRoomPolicy, .setDeploymentSpec].contains action.name

section Acceptance

variable {host : CcfHost} {ledger : Ledger}

/-- An operator, or nobody that is registered any more. -/
def OperatorOrGone (ledger : Ledger) (memberId : String) : Prop :=
  ∀ info, ledger.members.lookup memberId = some info → info.isOperator = true

theorem countM_zero {Item : Type} (test : Item → Except String Bool) (items : List Item)
    (count : Nat) (never : ∀ item ∈ items, test item ≠ .ok true)
    (counted : countM test items = .ok count) : count = 0 := by
  induction items generalizing count with
  | nil =>
      cases counted
      rfl
  | cons item rest ih =>
      obtain ⟨hit, tested, later⟩ := of_bind counted
      obtain ⟨restCount, restCounted, total⟩ := of_bind later
      have restZero := ih restCount (by
        intro other member
        exact never other (List.mem_cons_of_mem _ member)) restCounted
      cases hit with
      | true => exact absurd tested (never item (by simp))
      | false =>
          cases total
          exact restZero

theorem operator_votes_count_zero (votes : List Vote) (count : Nat)
    (operators : ∀ vote ∈ votes, OperatorOrGone ledger vote.memberId)
    (counted : memberVoteCount ledger votes = .ok count) : count = 0 := by
  refine countM_zero _ votes count ?_ counted
  intro vote member outside
  split at outside
  · cases found : ledger.members.lookup vote.memberId with
    | none => simp [isOutsideRoles, getMemberInfo, found, Functor.map, Except.map] at outside
    | some info =>
        have operator := operators vote member info found
        simp [isOutsideRoles, getMemberInfo, found, Functor.map, Except.map,
          MemberInfo.outsideRoles, operator] at outside
  · cases outside

theorem operator_votes_insufficient (actions : List ProposedAction) (memberId : String)
    (info : MemberInfo) (found : ledger.members.lookup memberId = some info)
    (active : info.status = .active) (outside : info.outsideRoles = true)
    (activeCount acceptedCount : Nat) (counted : getActiveCgsMemberCount ledger = .ok activeCount) :
    votesSuffice actions 0 activeCount acceptedCount = false := by
  have member := (mem_cgs_member_ids ledger .active memberId).mpr ⟨info, found, active, outside⟩
  have positive : 0 < (cgsMemberIds ledger .active).length := List.length_pos_of_mem member
  rw [getActiveCgsMemberCount, cgs_member_count_eq] at counted
  cases counted
  have notEqual : (0 == (cgsMemberIds ledger .active).length) = false := by
    simpa using Nat.ne_of_lt positive
  simp [votesSuffice, notEqual]

theorem options_off_pass_nothing (optionsOff : ∀ option,
      isRuntimeOptionEnabled ledger option ≠ .ok true) (action : ProposedAction) :
    canCgsOperatorPass ledger action ≠ .ok true ∧
      canContractOperatorPass ledger action ≠ .ok true := by
  constructor
  · unfold canCgsOperatorPass
    split
    · exact optionsOff _
    · exact optionsOff _
    · simp
  · unfold canContractOperatorPass
    split
    · exact optionsOff _
    · exact optionsOff _
    · exact optionsOff _
    · simp

theorem uncounted_votes_route {actions : List ProposedAction} {proposerId : String}
    {votes : List Vote} (memberId : String) (info : MemberInfo)
    (found : ledger.members.lookup memberId = some info) (active : info.status = .active)
    (outside : info.outsideRoles = true)
    (optionsOff : ∀ option, isRuntimeOptionEnabled ledger option ≠ .ok true)
    (uncounted : ∀ count, memberVoteCount ledger votes = .ok count → count = 0)
    (resolved : resolve host ledger actions proposerId votes = .ok .accepted) :
    (∀ action ∈ actions, canOperatorPass host ledger action = .ok true) ∨
      ∀ action ∈ actions, canAutoAccept action = true := by
  cases resolve_cases resolved with
  | byOperator operator => exact Or.inl (operator_resolve_accepted operator).1
  | byVotes _ _ decided =>
      right
      obtain ⟨voteCount, voted, rest⟩ := of_bind decided
      have noVotes := uncounted voteCount voted
      subst noVotes
      split at rest
      · rename_i auto
        exact List.all_eq_true.mp auto
      · obtain ⟨activeCount, activeCounted, rest⟩ := of_bind rest
        obtain ⟨acceptedCount, _, rest⟩ := of_bind rest
        rw [operator_votes_insufficient actions memberId info found active outside activeCount
          acceptedCount activeCounted] at rest
        simp only [Bool.false_eq_true, if_false] at rest
        obtain ⟨cgsChange, cgsAll, rest⟩ := of_bind rest
        obtain ⟨cgsPasses, cgsPassed, rest⟩ := of_bind rest
        cases cgsPasses with
        | true =>
            obtain ⟨rfl, _⟩ := passes_as_true cgsPassed
            intro action member
            exact absurd (allM_true _ _ cgsAll action member)
              (options_off_pass_nothing optionsOff action).1
        | false =>
            obtain ⟨change, contractAll, rest⟩ := of_bind rest
            obtain ⟨passes, passed, rest⟩ := of_bind rest
            cases passes with
            | true =>
                obtain ⟨rfl, _⟩ := passes_as_true passed
                intro action member
                exact absurd (allM_true _ _ contractAll action member)
                  (options_off_pass_nothing optionsOff action).2
            | false => cases rest

end Acceptance

section Application

variable {host : CcfHost}

/-- The members after an action of operators: the same, or one that is not
`keep` became an operator or is gone. -/
inductive MembersStep (keep : String) (before : Table MemberInfo) : Table MemberInfo → Prop where
  | same : MembersStep keep before before
  | setOperator (memberId : String) (info : MemberInfo) (different : memberId ≠ keep)
      (operator : info.isOperator = true) :
      MembersStep keep before (before.insert memberId info)
  | removed (memberId : String) (different : memberId ≠ keep) :
      MembersStep keep before (before.erase memberId)

theorem apply_set_member_members {args : JsValue} {ledger after : Ledger}
    (applied : applySetMember host args ledger = .ok after) :
    ∃ memberId info, host.idOfPem (args.field "cert") = .ok memberId ∧
      info.memberData = args.field "member_data" ∧
      after.members = ledger.members.insert memberId info := by
  simp only [applySetMember, bind_eq_ok] at applied
  obtain ⟨cert, certRead, memberId, identified, key, _, keyed, keySet, memberData, dataRead,
    recoveryRole, _, acked⟩ := applied
  have keyStep := (set_encryption_key_confined _ memberId key keyed keySet).members (by decide)
  have ackStep := (set_ack_confined _ memberId after acked).members (by decide)
  refine ⟨memberId, ⟨.accepted, memberData, recoveryRole⟩, ?_, ?_, ?_⟩
  · rw [← JsValue.get_ok _ _ _ certRead]
    exact identified
  · exact JsValue.get_ok _ _ _ dataRead
  · rw [ackStep, keyStep]
    rfl

theorem apply_remove_member_members {args : JsValue} {ledger after : Ledger}
    (applied : applyRemoveMember host args ledger = .ok after) :
    ∃ memberId, args.field "member_id" = .string memberId ∧
      (after.members = ledger.members ∨ after.members = ledger.members.erase memberId) := by
  simp only [applyRemoveMember, bind_eq_ok] at applied
  obtain ⟨given, read, memberId, converted, removed⟩ := applied
  have named : given = .string memberId := by
    cases given <;> cases converted
    rfl
  refine ⟨memberId, ?_, ?_⟩
  · rw [← JsValue.get_ok _ _ _ read, named]
  · split at removed
    · right
      split at removed
      · obtain ⟨_, _, rest⟩ := of_bind removed
        obtain ⟨_, _, written⟩ := of_bind rest
        cases written
        rfl
      · cases removed
        rfl
    · left
      cases removed
      rfl

theorem set_member_passes_operator {ledger : Ledger} {action : ProposedAction}
    (named : action.name = .setMember) (passes : canOperatorPass host ledger action = .ok true)
    (info : MemberInfo) (data : info.memberData = action.args.field "member_data") :
    info.isOperator = true := by
  simp only [canOperatorPass, named, allowedOperatorActions] at passes
  obtain ⟨memberData, read, operator⟩ := of_bind passes
  have plain := JsValue.get_ok _ _ _ read
  rw [MemberInfo.isOperator, data, ← plain]
  exact Except.ok.inj operator

theorem operator_passable_cases {ledger : Ledger} {action : ProposedAction}
    (passes : canOperatorPass host ledger action = .ok true) :
    action.name ∈ allowedOperatorActions ∨ action.name = .setMember ∨
      action.name = .removeMember := by
  unfold canOperatorPass at passes
  split at passes
  · rename_i allowed
    exact Or.inl (by simpa using allowed)
  · split at passes
    · rename_i named
      exact Or.inr (Or.inl named)
    · rename_i named
      exact Or.inr (Or.inr named)
    · cases passes

/-- What is neither a change of members nor of options, and not up to the
members. -/
def HarmlessName (name : ActionName) : Prop :=
  Area.members ∉ name.footprint ∧ Area.fixed .cgsRuntimeOptions ∉ name.footprint ∧
    name ∉ [ActionName.setContract, .setCleanRoomPolicy, .setDeploymentSpec]

instance (name : ActionName) : Decidable (HarmlessName name) :=
  inferInstanceAs (Decidable (_ ∧ _ ∧ _))

theorem allowed_operator_harmless : ∀ name ∈ allowedOperatorActions, HarmlessName name := by
  decide

theorem auto_accept_harmless (action : ProposedAction) (auto : canAutoAccept action = true) :
    HarmlessName action.name := by
  have listed : action.name ∈ [ActionName.setContractRuntimeOptionsDisableTelemetry,
      .setContractRuntimeOptionsDisableLogging] := by
    simpa [canAutoAccept] using auto
  have all : ∀ name ∈ [ActionName.setContractRuntimeOptionsDisableTelemetry,
      .setContractRuntimeOptionsDisableLogging], HarmlessName name := by
    decide
  exact all action.name listed

structure OperatorStep (keep : String) (before after : Ledger) : Prop where
  members : MembersStep keep before.members after.members
  options : after.gov (.fixed .cgsRuntimeOptions) = before.gov (.fixed .cgsRuntimeOptions)

theorem passable_not_needed {ledger : Ledger} {action : ProposedAction}
    (passes : canOperatorPass host ledger action = .ok true ∨ canAutoAccept action = true) :
    needsMembers action = false := by
  rcases passes with passes | auto
  · rcases operator_passable_cases passes with allowed | named | named
    · simpa [needsMembers] using (allowed_operator_harmless _ allowed).2.2
    · simp [needsMembers, named]
    · simp [needsMembers, named]
  · simpa [needsMembers] using (auto_accept_harmless action auto).2.2

theorem harmless_step {keep : String} {action : ProposedAction} {before after : Ledger}
    (harmless : HarmlessName action.name) (confined : Confined action.name.footprint before after) :
    OperatorStep keep before after where
  members := by
    rw [confined.members harmless.1]
    exact .same
  options := confined.gov (.fixed .cgsRuntimeOptions) harmless.2.1

theorem operator_action_step {ledger current after : Ledger} {action : ProposedAction}
    {proposalId keep : String} (outside : outsideMember ledger keep = true)
    (passes : canOperatorPass host ledger action = .ok true ∧ sparesMembers host ledger action ∨
      canAutoAccept action = true)
    (applied : applyAction host action.args proposalId current action.name = .ok after) :
    OperatorStep keep current after := by
  have confined := apply_action_confined host action.args proposalId current action.name after
    applied
  rcases passes with ⟨passes, spares⟩ | auto
  · rcases operator_passable_cases passes with allowed | named | named
    · exact harmless_step (allowed_operator_harmless _ allowed) confined
    · rw [named] at applied confined
      obtain ⟨memberId, info, identified, data, members⟩ := apply_set_member_members applied
      have different : memberId ≠ keep := by
        rintro rfl
        simp only [sparesMembers, named] at spares
        rw [spares memberId identified] at outside
        cases outside
      refine ⟨?_, confined.gov _ (by decide)⟩
      rw [members]
      exact .setOperator memberId info different (set_member_passes_operator named passes info data)
    · rw [named] at applied confined
      obtain ⟨memberId, given, members⟩ := apply_remove_member_members applied
      have different : memberId ≠ keep := by
        rintro rfl
        simp only [sparesMembers, named] at spares
        rw [spares memberId given] at outside
        cases outside
      refine ⟨?_, confined.gov _ (by decide)⟩
      rcases members with same | erased
      · rw [same]
        exact .same
      · rw [erased]
        exact .removed memberId different
  · exact harmless_step (auto_accept_harmless action auto) confined

theorem MembersStep.lookup_keep {keep : String} {before after : Table MemberInfo}
    (membersStep : MembersStep keep before after) : after.lookup keep = before.lookup keep := by
  cases membersStep with
  | same => rfl
  | setOperator memberId info different operator =>
      exact AList.lookup_insert_ne (Ne.symm different)
  | removed memberId different => exact AList.lookup_erase_ne (Ne.symm different)

theorem MembersStep.operator_or_gone {keep : String} {before after : Ledger}
    (membersStep : MembersStep keep before.members after.members) (memberId : String)
    (operator : OperatorOrGone before memberId) : OperatorOrGone after memberId := by
  intro info found
  generalize after.members = members at membersStep found
  cases membersStep with
  | same => exact operator info found
  | setOperator changedId changedInfo different isOperator =>
      by_cases same : memberId = changedId
      · subst same
        rw [AList.lookup_insert] at found
        cases found
        exact isOperator
      · rw [AList.lookup_insert_ne same] at found
        exact operator info found
  | removed removedId different =>
      by_cases same : memberId = removedId
      · subst same
        rw [AList.lookup_erase] at found
        cases found
      · rw [AList.lookup_erase_ne same] at found
        exact operator info found

end Application

/-- What stays true while only operators propose and vote: the member `keep` is
as it was, the options are as they were, open proposals carry ballots of
operators only, and what needs the members was accepted before, if at all. -/
structure Contained (start : Ledger) (keep : String) (info : MemberInfo) (ledger : Ledger) :
    Prop where
  member : ledger.members.lookup keep = some info
  options : ledger.gov (.fixed .cgsRuntimeOptions) = start.gov (.fixed .cgsRuntimeOptions)
  operators : ∀ proposalId proposal, ledger.proposals.lookup proposalId = some proposal →
    proposal.state = .opened → ∀ memberId ∈ proposal.ballots, OperatorOrGone ledger memberId
  accepted : ∀ proposalId proposal, ledger.proposals.lookup proposalId = some proposal →
    proposal.state = .accepted → (∃ action ∈ proposal.actions, needsMembers action = true) →
      start.proposals.lookup proposalId = some proposal

section Steps

variable {host : CcfHost} {start ledger after : Ledger} {keep : String} {info : MemberInfo}

theorem Contained.action {proposalId : String} (contained : Contained start keep info ledger)
    (changed : OperatorStep keep ledger after) (proposals : after.proposals = ledger.proposals ∨
      after.proposals = invalidateOtherOpenProposals proposalId ledger.proposals) :
    Contained start keep info after := by
  -- A proposal that is still open or accepted is one of those before.
  have earlier : ∀ otherId proposal, after.proposals.lookup otherId = some proposal →
      proposal.state ≠ .dropped → ledger.proposals.lookup otherId = some proposal := by
    intro otherId proposal found kept
    rcases proposals with same | dropped
    · rwa [same] at found
    · rw [dropped] at found
      obtain ⟨old, oldFound, rfl | rfl⟩ := lookup_invalidated _ _ _ _ found
      · exact oldFound
      · exact absurd rfl kept
  constructor
  · rw [changed.members.lookup_keep]
    exact contained.member
  · rw [changed.options]
    exact contained.options
  · intro otherId proposal found isOpen memberId voted
    have old := earlier otherId proposal found (by simp [isOpen])
    exact changed.members.operator_or_gone memberId
      (contained.operators otherId proposal old isOpen memberId voted)
  · intro otherId proposal found isAccepted needed
    have old := earlier otherId proposal found (by simp [isAccepted])
    exact contained.accepted otherId proposal old isAccepted needed

theorem Contained.apply {base : Ledger} {actions : List ProposedAction} {proposalId : String}
    (contained : Contained start keep info ledger) (outside : outsideMember base keep = true)
    (passes : ∀ action ∈ actions,
      canOperatorPass host base action = .ok true ∧ Governance.sparesMembers host base action ∨
        canAutoAccept action = true)
    (applied : Governance.apply host actions proposalId ledger = .ok after) :
    Contained start keep info after := by
  refine ensures_foldlM (Contained start keep info) _ actions ledger contained ?_ after applied
  intro current action member kept next stepped
  exact kept.action
    (operator_action_step outside (passes action member) stepped)
    (apply_action_proposals host action.args proposalId current action.name next stepped)

/-- Recording a proposal that is neither accepted with something that needs the
members nor open with a ballot of somebody else. -/
theorem Contained.putProposal {proposalId : String} {proposal : Proposal}
    (contained : Contained start keep info ledger)
    (ballots : proposal.state = .opened → ∀ memberId ∈ proposal.ballots,
      OperatorOrGone ledger memberId)
    (notNeeded : proposal.state = .accepted → ∀ action ∈ proposal.actions,
      needsMembers action = false) :
    Contained start keep info (ledger.putProposal proposalId proposal) := by
  constructor
  · exact contained.member
  · exact contained.options
  · intro otherId other found isOpen memberId voted
    by_cases same : otherId = proposalId
    · subst same
      simp only [Ledger.putProposal, AList.lookup_insert, Option.some.injEq] at found
      subst found
      exact ballots isOpen memberId voted
    · simp only [Ledger.putProposal, AList.lookup_insert_ne same] at found
      exact contained.operators otherId other found isOpen memberId voted
  · intro otherId other found isAccepted needed
    by_cases same : otherId = proposalId
    · subst same
      simp only [Ledger.putProposal, AList.lookup_insert, Option.some.injEq] at found
      subst found
      obtain ⟨action, member, needs⟩ := needed
      rw [notNeeded isAccepted action member] at needs
      cases needs
    · simp only [Ledger.putProposal, AList.lookup_insert_ne same] at found
      exact contained.accepted otherId other found isAccepted needed

theorem Contained.settled {proposalId : String} {proposal : Proposal} {votes : List Vote}
    (contained : Contained start keep info ledger) (active : info.status = .active)
    (outside : info.outsideRoles = true)
    (optionsOff : ∀ option, isRuntimeOptionEnabled start option ≠ .ok true)
    (isOpen : proposal.state = .opened)
    (ballots : ∀ memberId ∈ proposal.ballots, OperatorOrGone ledger memberId)
    (voters : ∀ vote ∈ votes, vote.memberId ∈ proposal.ballots)
    (spares : operatorChangeSpares host ledger proposal.actions)
    (settled : Settled host proposalId proposal votes (ledger.putProposal proposalId proposal)
      after) :
    Contained start keep info after := by
  have recorded : Contained start keep info (ledger.putProposal proposalId proposal) :=
    contained.putProposal (fun _ => ballots) (by simp [isOpen])
  have closing : ∀ state : ProposalState, state ≠ .opened →
      (state = .accepted → ∀ action ∈ proposal.actions, needsMembers action = false) →
      Contained start keep info ((ledger.putProposal proposalId proposal).putProposal proposalId
        (proposal.close state votes)) := by
    intro state closed notNeeded
    exact recorded.putProposal (fun stillOpen => absurd stillOpen closed) notNeeded
  cases settled with
  | opened _ same =>
      subst same
      exact recorded
  | rejected _ closed =>
      subst closed
      exact closing .rejected (by decide) (by simp)
  | accepted resolution applied =>
      have stillOff : ∀ option,
          isRuntimeOptionEnabled (ledger.putProposal proposalId proposal) option ≠ .ok true := by
        intro option
        have same : isRuntimeOptionEnabled (ledger.putProposal proposalId proposal) option =
            isRuntimeOptionEnabled start option := by
          simp only [isRuntimeOptionEnabled, Ledger.kvGet]
          rw [recorded.options]
        rw [same]
        exact optionsOff option
      have uncounted := fun count => operator_votes_count_zero votes count fun vote member =>
        ballots vote.memberId (voters vote member)
      have route := uncounted_votes_route keep info recorded.member active outside stillOff
        uncounted resolution
      have passes : ∀ action ∈ proposal.actions,
          canOperatorPass host ledger action = .ok true ∧
              Governance.sparesMembers host ledger action ∨
            canAutoAccept action = true := by
        intro action member
        rcases route with byOperator | auto
        · exact Or.inl ⟨byOperator action member, spares byOperator action member⟩
        · exact Or.inr (auto action member)
      have notNeeded : ∀ action ∈ proposal.actions, needsMembers action = false := by
        intro action member
        exact passable_not_needed ((passes action member).imp And.left id)
      have outsideKeep : outsideMember ledger keep = true := by
        rw [outsideMember, contained.member]
        exact outside
      exact (closing .accepted (by decide) fun _ => notNeeded).apply outsideKeep passes applied

theorem Contained.ack {memberId : String} {old : MemberInfo}
    (contained : Contained start keep info ledger) (active : info.status = .active)
    (found : ledger.members.lookup memberId = some old) :
    Contained start keep info
      { ledger with members := ledger.members.insert memberId { old with status := .active } } := by
  constructor
  · by_cases same : keep = memberId
    · subst same
      have sameInfo : old = info := Option.some.inj (found.symm.trans contained.member)
      subst sameInfo
      rw [AList.lookup_insert, ← active]
    · rw [AList.lookup_insert_ne same]
      exact contained.member
  · exact contained.options
  · intro proposalId proposal listed isOpen voterId voted voterInfo voterFound
    have operator := contained.operators proposalId proposal listed isOpen voterId voted
    by_cases same : voterId = memberId
    · subst same
      rw [AList.lookup_insert] at voterFound
      cases voterFound
      exact operator old found
    · rw [AList.lookup_insert_ne same] at voterFound
      exact operator voterInfo voterFound
  · exact contained.accepted

theorem Contained.of_same (contained : Contained start keep info ledger)
    (same : after.members = ledger.members ∧ after.proposals = ledger.proposals ∧
      after.gov = ledger.gov) : Contained start keep info after := by
  obtain ⟨members, proposals, gov⟩ := same
  constructor
  · rw [members]
    exact contained.member
  · rw [gov]
    exact contained.options
  · rw [proposals]
    intro proposalId proposal found isOpen memberId voted voterInfo voterFound
    rw [members] at voterFound
    exact contained.operators proposalId proposal found isOpen memberId voted voterInfo voterFound
  · rw [proposals]
    exact contained.accepted

theorem Contained.step {event : Event} (contained : Contained start keep info ledger)
    (active : info.status = .active) (outside : info.outsideRoles = true)
    (optionsOff : ∀ option, isRuntimeOptionEnabled start option ≠ .ok true)
    (fromOperator : event.fromOperator ledger) (spares : event.sparesMembers host ledger)
    (stepped : Stepped host ledger event after) : Contained start keep info after := by
  cases stepped with
  | propose memberId proposalId actions _ registered fresh valid settled =>
      have sparesNew : operatorChangeSpares host ledger (newProposal memberId actions).actions :=
        spares valid
      exact contained.settled active outside optionsOff rfl (by simp [newProposal]) (by simp)
        sparesNew settled
  | ballot memberId proposalId votes proposal _ registered found isOpen fromBallots settled =>
      have ballots : ∀ voterId ∈ (proposal.addBallot memberId).ballots,
          OperatorOrGone ledger voterId := by
        intro voterId voted
        rcases List.mem_append.mp voted with old | new
        · exact contained.operators proposalId proposal found isOpen voterId old
        · rw [List.mem_singleton.mp new]
          obtain ⟨operatorInfo, operatorFound, operator⟩ := fromOperator
          intro otherInfo otherFound
          rw [operatorFound] at otherFound
          cases otherFound
          exact operator
      have voters : ∀ vote ∈ votes, vote.memberId ∈ (proposal.addBallot memberId).ballots := by
        have all := (Bool.and_eq_true_iff.mp fromBallots).2
        intro vote member
        simpa using List.all_eq_true.mp all vote member
      have stillOpen : (proposal.addBallot memberId).state = .opened := isOpen
      have sparesAll : operatorChangeSpares host ledger (proposal.addBallot memberId).actions :=
        spares proposal found isOpen
      exact contained.settled active outside optionsOff stillOpen ballots voters sparesAll settled
  | withdraw memberId proposalId proposal found isOpen =>
      exact contained.putProposal (by simp) (by simp)
  | ack memberId old found => exact contained.ack active found
  | putContract contractId body _ put =>
      exact contained.of_same (put_contract_keeps_governance ledger after put)
  | putMemberDocument documentId body _ put =>
      exact contained.of_same (put_member_document_keeps_governance ledger after put)

end Steps

def acceptedNeedingMembers (ledger : Ledger) : List String :=
  (ledger.proposals.entries.filter fun row =>
    row.2.state == .accepted && row.2.actions.any needsMembers).map Sigma.fst

theorem mem_accepted_needing (ledger : Ledger) (proposalId : String) :
    proposalId ∈ acceptedNeedingMembers ledger ↔
      ∃ proposal, ledger.proposals.lookup proposalId = some proposal ∧
        proposal.state = .accepted ∧ ∃ action ∈ proposal.actions, needsMembers action = true := by
  simp only [acceptedNeedingMembers, List.mem_map, List.mem_filter, Bool.and_eq_true, beq_iff_eq,
    List.any_eq_true]
  constructor
  · rintro ⟨row, ⟨member, accepted, needed⟩, rfl⟩
    exact ⟨row.2, lookup_of_entry _ row member, accepted, needed⟩
  · rintro ⟨proposal, found, accepted, needed⟩
    exact ⟨⟨proposalId, proposal⟩, ⟨entry_of_lookup _ _ _ found, accepted, needed⟩, rfl⟩

/-- While only operators propose and vote, and the operator changes among their
proposals spare the members outside the operator roles, no contract, clean room
policy or deployment spec is accepted that was not accepted before. -/
theorem operators_contained (host : CcfHost) (start : Ledger) (events : List Event)
    (keep : String) (info : MemberInfo) (found : start.members.lookup keep = some info)
    (active : info.status = .active) (outside : info.outsideRoles = true)
    (optionsOff : ∀ option, isRuntimeOptionEnabled start option ≠ .ok true)
    (openByOperators : ∀ proposalId proposal,
      start.proposals.lookup proposalId = some proposal → proposal.state = .opened →
        ∀ memberId ∈ proposal.ballots, OperatorOrGone start memberId)
    (fromOperators : RunMeets host (fun ledger event => event.fromOperator ledger ∧
      event.sparesMembers host ledger) start events) :
    acceptedNeedingMembers (run host start events) ⊆ acceptedNeedingMembers start := by
  have contained : Contained start keep info (run host start events) := by
    refine run_invariant_meeting host _ (Contained start keep info) ?_ ?_ start events
      fromOperators ?_
    · intro ledger seqno kept
      exact kept.of_same ⟨rfl, rfl, rfl⟩
    · intro ledger event after kept meets stepped
      exact kept.step active outside optionsOff meets.1 meets.2 stepped
    · exact ⟨found, rfl, openByOperators, fun _ _ earlier _ _ => earlier⟩
  intro proposalId member
  obtain ⟨proposal, listed, accepted, needed⟩ := (mem_accepted_needing _ proposalId).mp member
  exact (mem_accepted_needing start proposalId).mpr
    ⟨proposal, contained.accepted proposalId proposal listed accepted needed, accepted, needed⟩

def operatorData : JsValue := .object [("isOperator", .bool true)]

def operatorLedger : Ledger where
  members := ((∅ : Table MemberInfo).insert "m1" ⟨.active, .undefined, .undefined⟩).insert "o1"
    ⟨.active, operatorData, .undefined⟩
  proposals := ∅
  gov _ := ∅
  contracts := ∅
  documents := ∅
  seqno := 0

def operatorAdded (cert : String) : Event :=
  .propose "o1" "p1"
    [⟨.setMember, .object [("cert", .string cert), ("member_data", operatorData)]⟩]

def operatorContract : Event :=
  .propose "o1" "p2"
    [⟨.setContract, .object [("contractId", .string "c1"), ("contract", .object [])]⟩]

theorem operator_ledger_options_off (option : String) :
    isRuntimeOptionEnabled operatorLedger option ≠ .ok true := by
  have absent : operatorLedger.kvGet (.fixed .cgsRuntimeOptions) option = none := rfl
  simp [isRuntimeOptionEnabled, absent]

/-- A new operator does no harm: the contract of the operators stays open. -/
theorem new_operator_contained :
    acceptedNeedingMembers
      (run certHost operatorLedger [operatorAdded "o2", operatorContract]) = [] := by
  have none : acceptedNeedingMembers operatorLedger = [] := rfl
  have subset := operators_contained certHost operatorLedger
    [operatorAdded "o2", operatorContract] "m1" ⟨.active, .undefined, .undefined⟩ rfl rfl rfl
    operator_ledger_options_off
    (by
      intro proposalId proposal found
      cases found)
    (by
      refine ⟨⟨⟨_, rfl, rfl⟩, ?_⟩, ⟨⟨_, rfl, rfl⟩, ?_⟩, trivial⟩
      · intro _ _ action member
        rw [List.mem_singleton] at member
        subst member
        intro memberId identified
        cases identified
        rfl
      · intro _ _ action member
        rw [List.mem_singleton] at member
        subst member
        trivial)
  rw [none] at subset
  exact List.subset_nil.mp subset

/-- The operator registers the only other member as an operator, and then gets a
contract accepted without a single vote. -/
theorem operator_takes_over :
    operatorLedger.members.lookup "m1" = some ⟨.active, .undefined, .undefined⟩ ∧
      outsideMember operatorLedger "m1" = true ∧
      (∀ option, isRuntimeOptionEnabled operatorLedger option ≠ .ok true) ∧
      RunMeets certHost (fun ledger event => event.fromOperator ledger) operatorLedger
        [operatorAdded "m1", operatorContract] ∧
      acceptedNeedingMembers operatorLedger = [] ∧
      acceptedNeedingMembers
        (run certHost operatorLedger [operatorAdded "m1", operatorContract]) = ["p2"] :=
  ⟨rfl, rfl, operator_ledger_options_off, ⟨⟨_, rfl, rfl⟩, ⟨_, rfl, rfl⟩, trivial⟩, rfl, rfl⟩

end CleanRoom.Governance
