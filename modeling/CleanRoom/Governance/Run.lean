import CleanRoom.Governance.Resolve
import CleanRoom.Governance.Endpoints

/-!
# Runs of the governance service

One event is one transaction. CCF records a proposal as open and resolves it at
once, with no votes, and again after every ballot, with the votes that the
recorded ballots evaluate to. It applies the proposal when it is accepted, after
the tally has been recorded. A transaction that throws, in `resolve` or in
`apply`, is discarded as a whole. Proposal ids are not used twice. CCF deletes
closed proposals when a later one closes. Here they stay, so what is shown of a
closed proposal holds until then.
-/

namespace CleanRoom.Governance

open JavaScript Throwing

inductive Event where
  | propose (memberId proposalId : String) (actions : List ProposedAction)
  | ballot (memberId proposalId : String) (votes : List Vote)
  | withdraw (memberId proposalId : String)
  | ack (memberId : String)
  | putContract (contractId : String) (body : JsValue)
  | putMemberDocument (documentId : String) (body : JsValue)

inductive StepFailure where
  | governance (error : String)
  | request (failure : RequestFailure)

def Ledger.putProposal (ledger : Ledger) (proposalId : String) (proposal : Proposal) : Ledger :=
  { ledger with proposals := ledger.proposals.insert proposalId proposal }

def Proposal.close (proposal : Proposal) (state : ProposalState) (votes : List Vote) : Proposal :=
  { proposal with state := state, finalVotes := some votes }

def settle (host : CcfHost) (proposalId : String) (proposal : Proposal) (votes : List Vote)
    (ledger : Ledger) : Except String Ledger := do
  match ← resolve host ledger proposal.actions proposal.proposerId votes with
  | .opened => return ledger
  | .rejected => return ledger.putProposal proposalId (proposal.close .rejected votes)
  | .accepted =>
      apply host proposal.actions proposalId
        (ledger.putProposal proposalId (proposal.close .accepted votes))

def newProposal (memberId : String) (actions : List ProposedAction) : Proposal where
  proposerId := memberId
  actions := actions
  state := .opened
  ballots := []
  finalVotes := none

def propose (host : CcfHost) (memberId proposalId : String) (actions : List ProposedAction)
    (ledger : Ledger) : Except String Ledger :=
  if (ledger.members.lookup memberId).isNone then .error "Member is not registered"
  else if (ledger.proposals.lookup proposalId).isSome then .error "Proposal already exists"
  else if !(validate host ledger actions).valid then
    .error (validate host ledger actions).description
  else
    settle host proposalId (newProposal memberId actions) []
      (ledger.putProposal proposalId (newProposal memberId actions))

def votesFromBallots (ballots : List String) (votes : List Vote) : Bool :=
  decide (votes.map Vote.memberId).Nodup && votes.all fun vote => ballots.contains vote.memberId

def Proposal.addBallot (proposal : Proposal) (memberId : String) : Proposal :=
  { proposal with ballots := proposal.ballots ++ [memberId] }

def castBallot (host : CcfHost) (memberId proposalId : String) (votes : List Vote)
    (ledger : Ledger) : Except String Ledger :=
  match ledger.proposals.lookup proposalId with
  | none => .error "Could not find proposal"
  | some proposal =>
      if (ledger.members.lookup memberId).isNone then .error "Member is not registered"
      else if proposal.state ≠ .opened then .error "Proposal is not open"
      else if proposal.ballots.contains memberId then .error "Vote already exists"
      else if !votesFromBallots (proposal.addBallot memberId).ballots votes then
        .error "Votes do not match the ballots"
      else
        settle host proposalId (proposal.addBallot memberId) votes
          (ledger.putProposal proposalId (proposal.addBallot memberId))

def withdraw (memberId proposalId : String) (ledger : Ledger) : Except String Ledger :=
  match ledger.proposals.lookup proposalId with
  | none => .error "Could not find proposal"
  | some proposal =>
      if proposal.proposerId ≠ memberId then .error "Proposal can only be withdrawn by proposer"
      else if proposal.state ≠ .opened then .error "Proposal is not open"
      else .ok (ledger.putProposal proposalId { proposal with state := .withdrawn })

def ack (memberId : String) (ledger : Ledger) : Except String Ledger :=
  match ledger.members.lookup memberId with
  | none => .error "Member is not registered"
  | some info =>
      .ok { ledger with members := ledger.members.insert memberId { info with status := .active } }

def step (host : CcfHost) (ledger : Ledger) : Event → Except StepFailure Ledger
  | .propose memberId proposalId actions =>
      (propose host memberId proposalId actions ledger).mapError .governance
  | .ballot memberId proposalId votes =>
      (castBallot host memberId proposalId votes ledger).mapError .governance
  | .withdraw memberId proposalId =>
      (withdraw memberId proposalId ledger).mapError .governance
  | .ack memberId => (ack memberId ledger).mapError .governance
  | .putContract contractId body =>
      (putContract host contractId body ledger).mapError .request
  | .putMemberDocument documentId body =>
      (putMemberDocument host documentId body ledger).mapError .request

/-- A transaction that succeeds takes the next sequence number; one that fails
leaves the ledger as it was. -/
def advance (host : CcfHost) (ledger : Ledger) (event : Event) : Ledger :=
  match step host ledger event with
  | .ok after => { after with seqno := ledger.nextSeqno }
  | .error _ => ledger

def run (host : CcfHost) (ledger : Ledger) (events : List Event) : Ledger :=
  events.foldl (advance host) ledger

inductive Settled (host : CcfHost) (proposalId : String) (proposal : Proposal)
    (votes : List Vote) (ledger after : Ledger) : Prop where
  | opened
      (resolution : resolve host ledger proposal.actions proposal.proposerId votes = .ok .opened)
      (same : after = ledger)
  | rejected
      (resolution : resolve host ledger proposal.actions proposal.proposerId votes =
        .ok .rejected)
      (closed : after = ledger.putProposal proposalId (proposal.close .rejected votes))
  | accepted
      (resolution : resolve host ledger proposal.actions proposal.proposerId votes =
        .ok .accepted)
      (applied : apply host proposal.actions proposalId
        (ledger.putProposal proposalId (proposal.close .accepted votes)) = .ok after)

theorem settle_cases (host : CcfHost) (proposalId : String) (proposal : Proposal)
    (votes : List Vote) (ledger after : Ledger)
    (settled : settle host proposalId proposal votes ledger = .ok after) :
    Settled host proposalId proposal votes ledger after := by
  obtain ⟨resolution, resolved, acted⟩ := of_bind settled
  cases resolution with
  | opened =>
      cases acted
      exact .opened resolved rfl
  | rejected =>
      cases acted
      exact .rejected resolved rfl
  | accepted => exact .accepted resolved acted

/-- A successful event: a proposal, new or with one more ballot, was resolved,
or one was withdrawn, a member became active, or a draft was written. -/
inductive Stepped (host : CcfHost) (ledger : Ledger) : Event → Ledger → Prop where
  | propose (memberId proposalId : String) (actions : List ProposedAction) (after : Ledger)
      (registered : ∃ info, ledger.members.lookup memberId = some info)
      (fresh : ledger.proposals.lookup proposalId = none)
      (valid : (validate host ledger actions).valid = true)
      (settled : Settled host proposalId (newProposal memberId actions) []
        (ledger.putProposal proposalId (newProposal memberId actions)) after) :
      Stepped host ledger (.propose memberId proposalId actions) after
  | ballot (memberId proposalId : String) (votes : List Vote) (proposal : Proposal)
      (after : Ledger)
      (registered : ∃ info, ledger.members.lookup memberId = some info)
      (found : ledger.proposals.lookup proposalId = some proposal)
      (isOpen : proposal.state = .opened)
      (fromBallots : votesFromBallots (proposal.addBallot memberId).ballots votes = true)
      (settled : Settled host proposalId (proposal.addBallot memberId) votes
        (ledger.putProposal proposalId (proposal.addBallot memberId)) after) :
      Stepped host ledger (.ballot memberId proposalId votes) after
  | withdraw (memberId proposalId : String) (proposal : Proposal)
      (found : ledger.proposals.lookup proposalId = some proposal)
      (isOpen : proposal.state = .opened) :
      Stepped host ledger (.withdraw memberId proposalId)
        (ledger.putProposal proposalId { proposal with state := .withdrawn })
  | ack (memberId : String) (info : MemberInfo)
      (found : ledger.members.lookup memberId = some info) :
      Stepped host ledger (.ack memberId)
        { ledger with members := ledger.members.insert memberId { info with status := .active } }
  | putContract (contractId : String) (body : JsValue) (after : Ledger)
      (put : Governance.putContract host contractId body ledger = .ok after) :
      Stepped host ledger (.putContract contractId body) after
  | putMemberDocument (documentId : String) (body : JsValue) (after : Ledger)
      (put : Governance.putMemberDocument host documentId body ledger = .ok after) :
      Stepped host ledger (.putMemberDocument documentId body) after

theorem map_error_ok {First Second Value : Type} (wrap : First → Second)
    (computation : Except First Value) (value : Value)
    (returned : computation.mapError wrap = .ok value) : computation = .ok value := by
  cases computation with
  | error error => cases returned
  | ok result => simpa [Except.mapError] using returned

private theorem registered_of_not_none {Value : Type} {found : Option Value}
    (present : ¬found.isNone = true) : ∃ value, found = some value :=
  Option.ne_none_iff_exists'.mp (by simpa using present)

theorem step_cases (host : CcfHost) (ledger after : Ledger) (event : Event)
    (stepped : step host ledger event = .ok after) : Stepped host ledger event after := by
  cases event with
  | propose memberId proposalId actions =>
      have proposed := map_error_ok _ _ _ stepped
      unfold propose at proposed
      split_ifs at proposed with missing known invalid
      exact .propose memberId proposalId actions after (registered_of_not_none missing)
        (by simpa using known) (by simpa using invalid)
        (settle_cases _ _ _ _ _ _ proposed)
  | ballot memberId proposalId votes =>
      have cast := map_error_ok _ _ _ stepped
      unfold castBallot at cast
      split at cast
      · cases cast
      · rename_i proposal found
        split_ifs at cast with missing closed again mismatch
        exact .ballot memberId proposalId votes proposal after (registered_of_not_none missing)
          found (not_not.mp closed) (by simpa using mismatch) (settle_cases _ _ _ _ _ _ cast)
  | withdraw memberId proposalId =>
      have withdrawn := map_error_ok _ _ _ stepped
      unfold Governance.withdraw at withdrawn
      split at withdrawn
      · cases withdrawn
      · rename_i proposal found
        split_ifs at withdrawn with stranger closed
        cases withdrawn
        exact .withdraw memberId proposalId proposal found (not_not.mp closed)
  | ack memberId =>
      have acked := map_error_ok _ _ _ stepped
      unfold Governance.ack at acked
      split at acked
      · cases acked
      · rename_i info found
        cases acked
        exact .ack memberId info found
  | putContract contractId body =>
      exact .putContract contractId body after (map_error_ok _ _ _ stepped)
  | putMemberDocument documentId body =>
      exact .putMemberDocument documentId body after (map_error_ok _ _ _ stepped)

/-- Every event of a run meets a condition on the state it happens in. -/
def RunMeets (host : CcfHost) (condition : Ledger → Event → Prop) :
    Ledger → List Event → Prop
  | _, [] => True
  | ledger, event :: rest =>
      condition ledger event ∧ RunMeets host condition (advance host ledger event) rest

theorem run_invariant_meeting (host : CcfHost) (condition : Ledger → Event → Prop)
    (invariant : Ledger → Prop)
    (seqnoFree : ∀ ledger seqno, invariant ledger → invariant { ledger with seqno := seqno })
    (kept : ∀ ledger event after, invariant ledger → condition ledger event →
      Stepped host ledger event after → invariant after) (ledger : Ledger) (events : List Event)
    (meets : RunMeets host condition ledger events) (initial : invariant ledger) :
    invariant (run host ledger events) := by
  induction events generalizing ledger with
  | nil => exact initial
  | cons event rest ih =>
      refine ih _ meets.2 ?_
      unfold advance
      split
      · rename_i after stepped
        exact seqnoFree after _
          (kept ledger event after initial meets.1 (step_cases host ledger after event stepped))
      · exact initial

theorem run_invariant (host : CcfHost) (invariant : Ledger → Prop)
    (seqnoFree : ∀ ledger seqno, invariant ledger → invariant { ledger with seqno := seqno })
    (kept : ∀ ledger event after, invariant ledger → Stepped host ledger event after →
      invariant after) (ledger : Ledger) (events : List Event) (initial : invariant ledger) :
    invariant (run host ledger events) := by
  have unconditional : ∀ (rest : List Event) (current : Ledger),
      RunMeets host (fun _ _ => True) current rest := by
    intro rest
    induction rest with
    | nil => exact fun _ => trivial
    | cons event rest ih => exact fun current => ⟨trivial, ih _⟩
  exact run_invariant_meeting host (fun _ _ => True) invariant seqnoFree
    (fun current event after holds _ stepped => kept current event after holds stepped)
    ledger events (unconditional events ledger) initial

end CleanRoom.Governance
