import CleanRoom.Library.JavaScript
import Mathlib.Data.List.AList

/-!
# The governance ledger

The tables that the constitution and the governance app read and write. Members
and proposals are typed, because CCF itself defines their records; every other
governance table holds JSON under string keys. The two rows of a proposal, which
CCF writes in one transaction and under one key, are one record here.
-/

namespace CleanRoom.Governance

open JavaScript

abbrev Table (Value : Type) := AList fun _ : String => Value

theorem lookup_of_entry {Value : Type} (table : Table Value)
    (row : Sigma fun _ : String => Value) (member : row ∈ table.entries) :
    table.lookup row.1 = some row.2 :=
  AList.mem_lookup_iff.mpr member

theorem entry_of_lookup {Value : Type} (table : Table Value) (key : String) (value : Value)
    (found : table.lookup key = some value) : ⟨key, value⟩ ∈ table.entries :=
  AList.mem_lookup_iff.mp found

inductive MemberStatus where
  | accepted
  | active
deriving DecidableEq

/-- One row of `public:ccf.gov.members.info`. -/
structure MemberInfo where
  status : MemberStatus
  memberData : JsValue
  recoveryRole : JsValue

/-- The keys of the constitution's `actions` map. A proposal may name an action
that is not there; such a name is `other`. -/
inductive ActionName where
  | setConstitution
  | setMember
  | removeMember
  | setMemberData
  | setUser
  | removeUser
  | setUserData
  | setRecoveryThreshold
  | triggerRecoverySharesRefresh
  | triggerLedgerRekey
  | transitionServiceToOpen
  | setJsApp
  | removeJsApp
  | setJsRuntimeOptions
  | refreshJsAppBytecodeCache
  | setCaCertBundle
  | removeCaCertBundle
  | setJwtIssuer
  | setJwtPublicSigningKeys
  | removeJwtIssuer
  | addNodeCode
  | addSnpMeasurement
  | addSnpUvmEndorsement
  | addExecutorNodeCode
  | addSnpHostData
  | removeSnpHostData
  | removeSnpMeasurement
  | removeSnpUvmEndorsement
  | setSnpMinimumTcbVersionHex
  | removeSnpMinimumTcbVersion
  | setNodeData
  | transitionNodeToTrusted
  | removeNodeCode
  | removeExecutorNodeCode
  | removeNode
  | setNodeCertificateValidity
  | setAllNodesCertificateValidity
  | setServiceCertificateValidity
  | setServiceConfiguration
  | triggerLedgerChunk
  | triggerSnapshot
  | triggerAcmeRefresh
  | assertServiceIdentity
  | setContract
  | setDeploymentSpec
  | setDeploymentInfo
  | enableOidcIssuer
  | setOidcIssuerUrl
  | oidcIssuerEnableRotateSigningKey
  | enableSigning
  | signingEnableRotateSigningKey
  | setCleanRoomPolicy
  | enableCa
  | caEnableRotateSigningKey
  | setContractRuntimeOptionsEnableTelemetry
  | setContractRuntimeOptionsDisableTelemetry
  | setContractRuntimeOptionsEnableLogging
  | setContractRuntimeOptionsDisableLogging
  | setCgsRuntimeOptions
  | setMemberDocument
  | setUserIdentity
  | removeUserIdentity
  | setUserInvitationByJwtClaims
  | removeUserInvitationByJwtClaims
  | other (name : String)
deriving DecidableEq

structure ProposedAction where
  name : ActionName
  args : JsValue

structure Vote where
  memberId : String
  vote : Bool
deriving DecidableEq

inductive ProposalState where
  | opened
  | accepted
  | withdrawn
  | rejected
  | failed
  | dropped
deriving DecidableEq

/-- A proposal with its info. A ballot is a script that CCF evaluates anew at
every resolution, so only its author is recorded here. -/
structure Proposal where
  proposerId : String
  actions : List ProposedAction
  state : ProposalState
  ballots : List String
  finalVotes : Option (List Vote)

inductive GovTable where
  | constitution
  | membersCerts
  | membersEncryptionPublicKeys
  | membersAcks
  | history
  | usersCerts
  | usersInfo
  | serviceConfig
  | serviceInfo
  | internalSignatures
  | modules
  | modulesQuickjsBytecode
  | modulesQuickjsVersion
  | interpreterFlush
  | endpoints
  | jsRuntimeOptions
  | tlsCaCertBundles
  | jwtIssuers
  | jwtPublicSigningKeys
  | nodesCodeIds
  | nodesExecutorCodeIds
  | nodesSnpMeasurements
  | nodesSnpUvmEndorsements
  | nodesSnpHostData
  | nodesSnpTcbVersions
  | nodesInfo
  | nodesEndorsedCertificates
  | acceptedContracts
  | deploymentSpecs
  | deploymentInfo
  | oidcIssuer
  | signing
  | ca
  | contractsTelemetryStatus
  | contractsLoggingStatus
  | cgsRuntimeOptions
  | acceptedMemberDocuments
  | userIdentities
  | acceptedUserInvitations
  | userInvitations
deriving DecidableEq

/-- All governance tables. The last two families have one table for each id:
`public:ccf.gov.policies.cleanroom-<contractId>` and
`public:ccf.gov.user_invitations-<invitationId>`. -/
inductive TableName where
  | fixed (table : GovTable)
  | cleanRoomPolicy (contractId : String)
  | userInvitationClaims (invitationId : String)
deriving DecidableEq

structure Versioned where
  value : JsValue
  seqno : Nat

structure Ledger where
  members : Table MemberInfo
  proposals : Table Proposal
  gov : TableName → Table JsValue
  /-- `public:contracts` -/
  contracts : Table Versioned
  /-- `public:documents` -/
  documents : Table Versioned
  seqno : Nat

def singletonKvKey : String := String.ofList (List.replicate 8 (Char.ofNat 0))

namespace Ledger

def kvGet (ledger : Ledger) (table : TableName) (key : String) : Option JsValue :=
  (ledger.gov table).lookup key

def kvHas (ledger : Ledger) (table : TableName) (key : String) : Bool :=
  (ledger.kvGet table key).isSome

def setTable (ledger : Ledger) (table : TableName) (rows : Table JsValue) : Ledger :=
  { ledger with gov := Function.update ledger.gov table rows }

def kvSet (ledger : Ledger) (table : TableName) (key : String) (value : JsValue) : Ledger :=
  ledger.setTable table ((ledger.gov table).insert key value)

def kvDelete (ledger : Ledger) (table : TableName) (key : String) : Ledger :=
  ledger.setTable table ((ledger.gov table).erase key)

def kvClear (ledger : Ledger) (table : TableName) : Ledger :=
  ledger.setTable table ∅

@[simp] theorem set_table_same (ledger : Ledger) (table : TableName) (rows : Table JsValue) :
    (ledger.setTable table rows).gov table = rows := by
  simp [setTable]

theorem set_table_other (ledger : Ledger) (table other : TableName) (rows : Table JsValue)
    (different : other ≠ table) :
    (ledger.setTable table rows).gov other = ledger.gov other := by
  simp [setTable, different]

theorem kv_get_set (ledger : Ledger) (table : TableName) (key other : String) (value : JsValue) :
    (ledger.kvSet table key value).kvGet table other =
      if other = key then some value else ledger.kvGet table other := by
  simp only [kvGet, kvSet, set_table_same]
  split_ifs with same
  · rw [same, AList.lookup_insert]
  · exact AList.lookup_insert_ne same

end Ledger

/-- What an action can touch: the members, the proposals, or a table. The
tables of one family form one area. -/
inductive Area where
  | members
  | proposals
  | fixed (table : GovTable)
  | cleanRoomPolicies
  | userInvitationClaims
deriving DecidableEq

def TableName.area : TableName → Area
  | .fixed table => .fixed table
  | .cleanRoomPolicy _ => .cleanRoomPolicies
  | .userInvitationClaims _ => .userInvitationClaims

/-- Everything outside the listed areas is as it was. The drafts of the app are
never within reach of an action. -/
structure Confined (areas : List Area) (before after : Ledger) : Prop where
  members : Area.members ∉ areas → after.members = before.members
  proposals : Area.proposals ∉ areas → after.proposals = before.proposals
  gov : ∀ table : TableName, table.area ∉ areas → after.gov table = before.gov table
  contracts : after.contracts = before.contracts
  documents : after.documents = before.documents
  seqno : after.seqno = before.seqno

namespace Confined

variable {areas : List Area} {first before after : Ledger}

theorem refl (areas : List Area) (ledger : Ledger) : Confined areas ledger ledger :=
  ⟨fun _ => rfl, fun _ => rfl, fun _ _ => rfl, rfl, rfl, rfl⟩

theorem trans (left : Confined areas first before) (right : Confined areas before after) :
    Confined areas first after where
  members outside := (right.members outside).trans (left.members outside)
  proposals outside := (right.proposals outside).trans (left.proposals outside)
  gov table outside := (right.gov table outside).trans (left.gov table outside)
  contracts := right.contracts.trans left.contracts
  documents := right.documents.trans left.documents
  seqno := right.seqno.trans left.seqno

theorem mono (confined : Confined areas before after) (wider : List Area) (subset : areas ⊆ wider) :
    Confined wider before after where
  members outside := confined.members fun member => outside (subset member)
  proposals outside := confined.proposals fun member => outside (subset member)
  gov table outside := confined.gov table fun member => outside (subset member)
  contracts := confined.contracts
  documents := confined.documents
  seqno := confined.seqno

theorem setTable (confined : Confined areas before after) (table : TableName)
    (rows : Table JsValue) (listed : table.area ∈ areas) :
    Confined areas before (after.setTable table rows) where
  members := confined.members
  proposals := confined.proposals
  gov other outside := by
    have different : other ≠ table := by
      intro same
      exact outside (same ▸ listed)
    rw [Ledger.set_table_other after table other rows different]
    exact confined.gov other outside
  contracts := confined.contracts
  documents := confined.documents
  seqno := confined.seqno

theorem kvSet (confined : Confined areas before after) (table : TableName) (key : String)
    (value : JsValue) (listed : table.area ∈ areas) :
    Confined areas before (after.kvSet table key value) :=
  confined.setTable table _ listed

theorem kvDelete (confined : Confined areas before after) (table : TableName) (key : String)
    (listed : table.area ∈ areas) : Confined areas before (after.kvDelete table key) :=
  confined.setTable table _ listed

theorem kvClear (confined : Confined areas before after) (table : TableName)
    (listed : table.area ∈ areas) : Confined areas before (after.kvClear table) :=
  confined.setTable table _ listed

theorem withMembers (confined : Confined areas before after) (members : Table MemberInfo)
    (listed : Area.members ∈ areas) :
    Confined areas before { after with members := members } where
  members outside := absurd listed outside
  proposals := confined.proposals
  gov := confined.gov
  contracts := confined.contracts
  documents := confined.documents
  seqno := confined.seqno

theorem withProposals (confined : Confined areas before after) (proposals : Table Proposal)
    (listed : Area.proposals ∈ areas) :
    Confined areas before { after with proposals := proposals } where
  members := confined.members
  proposals outside := absurd listed outside
  gov := confined.gov
  contracts := confined.contracts
  documents := confined.documents
  seqno := confined.seqno

end Confined

end CleanRoom.Governance
