import CleanRoom.Governance.ResolveAnswers

/-!
# Votes and current members

For proposals other than contracts the favourable votes are counted against the
active members, although a ballot outlives the status of its author. A member
who is set again is no longer counted, while the ballot still is; a member who is
removed makes the resolution throw. The counts differ from the sets by the members
who are missing and the ballots that are out of date.
-/

namespace CleanRoom.Governance

open JavaScript Throwing

section Counts

variable (ledger : Ledger)

def AllInFavour (votes : List Vote) : Prop :=
  ∀ memberId info, ledger.members.lookup memberId = some info →
    info.outsideRoles = true → info.status = .active → ⟨memberId, true⟩ ∈ votes

/-- The active members outside the operator roles without a ballot in favour. -/
def missingMembers (votes : List Vote) : List String :=
  (cgsMemberIds ledger .active).filter fun memberId => !votes.contains ⟨memberId, true⟩

/-- The ballots in favour of members outside the operator roles who are not
active at the moment. -/
def outdatedVoters (votes : List Vote) : List String :=
  (voterIds ledger votes).filter fun memberId => !(cgsMemberIds ledger .active).contains memberId

theorem all_in_favour_iff (votes : List Vote) :
    AllInFavour ledger votes ↔ missingMembers ledger votes = [] := by
  simp only [missingMembers, List.filter_eq_nil_iff, Bool.not_eq_true', Bool.not_eq_false,
    List.contains_iff_mem, mem_cgs_member_ids]
  constructor
  · rintro favour memberId ⟨info, found, active, outside⟩
    exact favour memberId info found outside active
  · intro favour memberId info found outside active
    exact favour memberId ⟨info, found, active, outside⟩

/-- The active members with a ballot in favour are the active ones among the
voters, so what is left of either count is missing or out of date. -/
theorem counts_differ (votes : List Vote) (distinct : (votes.map Vote.memberId).Nodup) :
    (voterIds ledger votes).length + (missingMembers ledger votes).length =
      (cgsMemberIds ledger .active).length + (outdatedVoters ledger votes).length := by
  have voters := (voterIds ledger votes).length_eq_length_filter_add
    fun memberId => (cgsMemberIds ledger .active).contains memberId
  have active := (cgsMemberIds ledger .active).length_eq_length_filter_add
    fun memberId => votes.contains ⟨memberId, true⟩
  have sameMembers : ((voterIds ledger votes).filter fun memberId =>
        (cgsMemberIds ledger .active).contains memberId).Perm
      ((cgsMemberIds ledger .active).filter fun memberId => votes.contains ⟨memberId, true⟩) := by
    apply (List.perm_ext_iff_of_nodup
      ((voter_ids_nodup ledger votes distinct).filter _)
      ((cgs_member_ids_nodup ledger .active).filter _)).mpr
    intro memberId
    simp only [List.mem_filter, List.contains_iff_mem, mem_voter_ids]
    constructor
    · rintro ⟨⟨favour, _⟩, member⟩
      exact ⟨member, favour⟩
    · rintro ⟨member, favour⟩
      obtain ⟨info, found, _, outside⟩ := (mem_cgs_member_ids ledger .active memberId).mp member
      exact ⟨⟨favour, by simp [outsideMember, found, outside]⟩, member⟩
  have sameLength := sameMembers.length_eq
  simp only [missingMembers, outdatedVoters]
  omega

end Counts

section Decision

variable (host : CcfHost) (ledger : Ledger) (actions : List ProposedAction) (proposerId : String)
  (votes : List Vote)

/-- A proposal without contracts that is not accepted on its own and that its
proposer cannot pass alone in an operator role. -/
structure NeedsVotes : Prop where
  noContract : ∀ action ∈ actions, action.name ≠ .setContract
  notAuto : actions.all canAutoAccept = false
  notOperator : ¬OperatorPasses host ledger actions proposerId
  notCgsOperator : ¬((∀ action ∈ actions, canCgsOperatorPass ledger action = .ok true) ∧
    isCgsOperator ledger proposerId = .ok true)
  notContractOperator : ¬((∀ action ∈ actions, canContractOperatorPass ledger action = .ok true) ∧
    isContractOperator ledger proposerId = .ok true)

/-- A document of the proposal is accepted or named by another open action. -/
def DocumentConflict : Prop :=
  ∃ action ∈ actions, action.name = .setMemberDocument ∧
    ∃ documentId, NamesDocument action documentId ∧ documentTaken ledger documentId = true

structure Unobstructed : Prop where
  operators : OperatorScan host ledger actions
  proposer : (∀ action ∈ actions, canOperatorPass host ledger action = .ok true) →
    IsRegistered ledger proposerId
  documents : actions.any isSetMemberDocument = true → ∀ action ∈ actions, ∃ documentId,
    NamesDocument action documentId ∧ documentTaken ledger documentId = false
  voters : VotersRegistered ledger votes

variable {host ledger actions proposerId votes}

theorem NeedsVotes.no_contract_conflict (needs : NeedsVotes host ledger actions proposerId) :
    setContractConflict ledger actions = .ok false := by
  have none : actions.any isSetContract = false :=
    List.any_eq_false.mpr fun action member => by
      simp [isSetContract, needs.noContract action member]
  rw [setContractConflict, none]
  rfl

theorem NeedsVotes.votes_suffice (needs : NeedsVotes host ledger actions proposerId)
    (voteCount activeCount acceptedCount : Nat) :
    votesSuffice actions voteCount activeCount acceptedCount = (voteCount == activeCount) := by
  have none : actions.any needsAcceptedMembersToVote = false :=
    List.any_eq_false.mpr fun action member => by
      simp [needsAcceptedMembersToVote, needs.noContract action member]
  rw [votesSuffice, none]
  rfl

theorem passes_as_not_true {role : Ledger → String → Except String Bool}
    {test : ProposedAction → Except String Bool} {change passes : Bool}
    (changed : actions.allM test = .ok change)
    (passed : passesAs role ledger proposerId change = .ok passes)
    (notPassable : ¬((∀ action ∈ actions, test action = .ok true) ∧
      role ledger proposerId = .ok true)) : passes = false := by
  cases passes with
  | false => rfl
  | true =>
      obtain ⟨rfl, holds⟩ := passes_as_true passed
      exact absurd ⟨allM_true _ _ changed, holds⟩ notPassable

theorem NeedsVotes.by_votes_accepted_iff (needs : NeedsVotes host ledger actions proposerId) :
    resolveByVotes ledger actions proposerId votes = .ok .accepted ↔
      VotersRegistered ledger votes ∧
        (voterIds ledger votes).length = (cgsMemberIds ledger .active).length := by
  rw [resolveByVotes]
  simp only [getActiveCgsMemberCount, getAcceptedCgsMemberCount, cgs_member_count_eq,
    needs.notAuto, needs.votes_suffice]
  constructor
  · intro accepted
    obtain ⟨voteCount, counted, rest⟩ := of_bind accepted
    have registered := (answers_member_vote_count ledger votes).mp ⟨voteCount, counted⟩
    rw [member_vote_count_eq ledger votes registered] at counted
    cases counted
    refine ⟨registered, ?_⟩
    by_contra differ
    simp only [Bool.false_eq_true, if_false, Bind.bind, Except.bind, beq_iff_eq, differ] at rest
    obtain ⟨cgsChange, cgsChanged, rest⟩ := of_bind rest
    obtain ⟨cgsPasses, cgsPassed, rest⟩ := of_bind rest
    cases passes_as_not_true cgsChanged cgsPassed needs.notCgsOperator
    obtain ⟨change, changed, rest⟩ := of_bind rest
    obtain ⟨passes, passed, rest⟩ := of_bind rest
    cases passes_as_not_true changed passed needs.notContractOperator
    cases rest
  · rintro ⟨registered, same⟩
    rw [member_vote_count_eq ledger votes registered]
    simp [Bind.bind, Except.bind, same, pure, Except.pure]

theorem NeedsVotes.accepted_iff (needs : NeedsVotes host ledger actions proposerId)
    (readable : AllReadable documentKind ledger.proposals) (votes : List Vote) :
    resolve host ledger actions proposerId votes = .ok .accepted ↔
      vetoed actions votes = false ∧ Unobstructed host ledger actions proposerId votes ∧
        (voterIds ledger votes).length = (cgsMemberIds ledger .active).length := by
  constructor
  · intro accepted
    obtain ⟨first, operator, _⟩ := of_bind accepted
    obtain ⟨operators, proposer⟩ :=
      (answers_operator_resolve host ledger actions proposerId).mp ⟨first, operator⟩
    cases resolve_cases accepted with
    | byOperator passes =>
        exact absurd ((operator_resolve_accepted_iff host ledger actions proposerId).mp passes)
          needs.notOperator
    | byVotes _ clear decided =>
        obtain ⟨noVeto, _, documents⟩ := not_rejected_cases clear
        obtain ⟨voters, same⟩ := needs.by_votes_accepted_iff.mp decided
        exact ⟨noVeto, ⟨operators, proposer,
          (document_conflict_false_iff readable actions).mp documents, voters⟩, same⟩
  · rintro ⟨noVeto, free, same⟩
    obtain ⟨first, operator⟩ := (answers_operator_resolve host ledger actions proposerId).mpr
      ⟨free.operators, free.proposer⟩
    have documents := (document_conflict_false_iff readable actions).mpr free.documents
    have clear : isRejected ledger actions votes = .ok false := by
      rw [is_rejected_eq ledger actions votes false needs.no_contract_conflict, noVeto, documents]
      rfl
    have decided := needs.by_votes_accepted_iff.mpr ⟨free.voters, same⟩
    rw [resolve, operator, clear, decided]
    have notAccepted : first ≠ .accepted := by
      rintro rfl
      exact needs.notOperator
        ((operator_resolve_accepted_iff host ledger actions proposerId).mp operator)
    simp [Bind.bind, Except.bind, notAccepted]

theorem DocumentConflict.obstructs (conflict : DocumentConflict ledger actions) :
    ¬Unobstructed host ledger actions proposerId votes := by
  intro free
  obtain ⟨action, member, same, documentId, named, taken⟩ := conflict
  have some : actions.any isSetMemberDocument = true :=
    List.any_eq_true.mpr ⟨action, member, by simp [isSetMemberDocument, same]⟩
  obtain ⟨freeId, freeNamed, notTaken⟩ := free.documents some action member
  rw [NamesDocument, named] at freeNamed
  cases freeNamed
  rw [taken] at notTaken
  cases notTaken

end Decision

/-- An accepted proposal has the ballots of all current members, and one that
has them, without a veto or a conflict, is accepted. -/
structure VotesDecide (host : CcfHost) (ledger : Ledger) (actions : List ProposedAction)
    (proposerId : String) (votes : List Vote) : Prop where
  needed : resolve host ledger actions proposerId votes = .ok .accepted → AllInFavour ledger votes
  enough : AllInFavour ledger votes → vetoed actions votes = false →
    ¬DocumentConflict ledger actions →
      resolve host ledger actions proposerId votes = .ok .accepted

/-- Nobody is missing and nothing is out of date; or somebody is missing, and
the ballots out of date do not make up for exactly that number. -/
def BallotsCurrent (host : CcfHost) (ledger : Ledger) (actions : List ProposedAction)
    (proposerId : String) (votes : List Vote) : Prop :=
  (missingMembers ledger votes = [] ∧ outdatedVoters ledger votes = [] ∧
      Unobstructed host ledger actions proposerId votes) ∨
    (missingMembers ledger votes ≠ [] ∧
      (Unobstructed host ledger actions proposerId votes →
        (missingMembers ledger votes).length ≠ (outdatedVoters ledger votes).length))

/-- For a proposal that needs votes, the current members decide exactly if it
is vetoed, conflicts, or its ballots are current. -/
theorem current_members_decide_iff (host : CcfHost) (ledger : Ledger)
    (actions : List ProposedAction) (proposerId : String) (votes : List Vote)
    (needs : NeedsVotes host ledger actions proposerId)
    (recorded : AllActions (Validated host) ledger.proposals)
    (distinct : (votes.map Vote.memberId).Nodup) :
    VotesDecide host ledger actions proposerId votes ↔
      vetoed actions votes = true ∨ DocumentConflict ledger actions ∨
        BallotsCurrent host ledger actions proposerId votes := by
  have accepted := needs.accepted_iff (all_readable_of_validated (Or.inr rfl) recorded) votes
  have counts := counts_differ ledger votes distinct
  have favour := all_in_favour_iff ledger votes
  constructor
  · intro decide
    by_cases veto : vetoed actions votes = true
    · exact Or.inl veto
    by_cases conflict : DocumentConflict ledger actions
    · exact Or.inr (Or.inl conflict)
    refine Or.inr (Or.inr ?_)
    have noVeto : vetoed actions votes = false := by simpa using veto
    by_cases none : missingMembers ledger votes = []
    · obtain ⟨_, free, same⟩ := accepted.mp (decide.enough (favour.mpr none) noVeto conflict)
      have noneOutdated : outdatedVoters ledger votes = [] := by
        apply List.eq_nil_of_length_eq_zero
        rw [none] at counts
        simp only [List.length_nil] at counts
        omega
      exact Or.inl ⟨none, noneOutdated, free⟩
    · refine Or.inr ⟨none, ?_⟩
      intro free equal
      exact none (favour.mp (decide.needed (accepted.mpr ⟨noVeto, free, by omega⟩)))
  · rintro (veto | conflict | ⟨none, noneOutdated, free⟩ | ⟨missing, differ⟩)
    · constructor
      · intro resolved
        rw [veto] at accepted
        cases (accepted.mp resolved).1
      · intro _ noVeto
        rw [veto] at noVeto
        cases noVeto
    · constructor
      · intro resolved
        exact absurd (accepted.mp resolved).2.1 conflict.obstructs
      · intro _ _ noConflict
        exact absurd conflict noConflict
    · rw [none, noneOutdated] at counts
      exact ⟨fun _ => favour.mpr none, fun _ noVeto _ => accepted.mpr ⟨noVeto, free, by omega⟩⟩
    · constructor
      · intro resolved
        obtain ⟨_, free, same⟩ := accepted.mp resolved
        exact absurd (by omega) (differ free)
      · intro inFavour
        exact absurd (favour.mp inFavour) missing

def issuerActions : List ProposedAction :=
  [⟨.enableOidcIssuer, .object [("kid", .string "k1")]⟩]

theorem issuer_needs_votes (ledger : Ledger) (proposerId : String) :
    NeedsVotes certHost ledger issuerActions proposerId where
  noContract := by simp [issuerActions]
  notAuto := rfl
  notOperator passes := by
    have first := passes.1 _ List.mem_cons_self
    cases first
  notCgsOperator passes := by
    have first := passes.1 _ List.mem_cons_self
    cases first
  notContractOperator passes := by
    have first := passes.1 _ List.mem_cons_self
    cases first

def pairLedger : Ledger :=
  { freshLedger with
    members := freshLedger.members.insert "m2" ⟨.active, .undefined, .undefined⟩ }

/-- Both members are in favour, and decide. -/
theorem both_members_decide :
    VotesDecide certHost pairLedger issuerActions "m1" [⟨"m1", true⟩, ⟨"m2", true⟩] := by
  apply (current_members_decide_iff certHost pairLedger issuerActions "m1"
    [⟨"m1", true⟩, ⟨"m2", true⟩] (issuer_needs_votes _ _)
    (run_recorded_validated certHost pairLedger [] rfl) (by simp)).mpr
  refine Or.inr (Or.inr (Or.inl ⟨rfl, rfl, ?_, ?_, ?_, ?_⟩))
  · intro before action after split _
    have member : action ∈ issuerActions := by
      rw [split]
      simp
    simp only [issuerActions, List.mem_singleton] at member
    subst member
    trivial
  · exact fun _ => ⟨_, rfl⟩
  · intro some
    cases some
  · intro vote member _
    simp only [List.mem_cons, List.not_mem_nil, or_false] at member
    rcases member with rfl | rfl <;> exact ⟨_, rfl⟩

/-- The second member votes for the issuer and is then set again, by the votes
of both. -/
def secondSetAgain : List Event :=
  [.propose "m2" "p1" issuerActions, .ballot "m2" "p1" [⟨"m2", true⟩],
    .propose "m1" "p2" [⟨.setMember, .object [("cert", .string "m2")]⟩],
    .ballot "m1" "p2" [⟨"m1", true⟩], .ballot "m2" "p2" [⟨"m1", true⟩, ⟨"m2", true⟩]]

/-- The first member, now the only active one, votes against the issuer, and
the issuer is accepted. -/
theorem opposed_issuer_accepted :
    (run certHost pairLedger secondSetAgain).members.lookup "m1" =
        some ⟨.active, .undefined, .undefined⟩ ∧
      (MemberInfo.mk .active .undefined .undefined).outsideRoles = true ∧
      ⟨"m1", true⟩ ∉ [Vote.mk "m2" true, ⟨"m1", false⟩] ∧
      resolve certHost (run certHost pairLedger secondSetAgain) issuerActions "m2"
        [⟨"m2", true⟩, ⟨"m1", false⟩] = .ok .accepted :=
  ⟨rfl, rfl, by simp, rfl⟩

end CleanRoom.Governance
