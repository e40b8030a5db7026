import Mathlib.Data.List.Induction
import Mathlib.Data.List.Nodup
import Mathlib.Tactic.Common

/-!
# Identities of storage items

`_get_identity_sidecar` and the part of `Build` of `cleanroom_application_builder.py` that
feeds it, with the identity sidecar that reads the configuration:
`IdentityConfigurationUtils.cs` and `CredentialManager.cs`. The encoding in between is left out.
Without any blob storage item there is no sidecar.
-/

namespace CleanRoom.Frontend

inductive ResourceType where
  | azureBlobStorage
  | azureBlobStorageDataLakeGen2
  | azureOneLake
  | awsS3
  | azureKeyVault
  | cgs
  | azureContainerRegistry
deriving DecidableEq

inductive TokenIssuer where
  | attestationBased (managedIdentity : Bool) (url : String)
  | secretBased (url : String)
  | federatedIdentityBased (url : String)
deriving DecidableEq

structure Identity where
  clientId : String
  tokenIssuer : TokenIssuer
deriving DecidableEq

structure StorageItem where
  name : String
  storeType : ResourceType
  identity : Identity
  /-- `expected_subject`, the owner of the dataset -/
  owner : String

structure FederationConfiguration where
  idTokenEndpoint : String
  subject : String
  audience : String
  issuer : String
deriving DecidableEq

structure Identities where
  managedIdentities : List String
  applicationIdentities : List (String × FederationConfiguration)

def audience : String := "api://AzureADTokenExchange"

def isBlobStorage (item : StorageItem) : Bool :=
  item.storeType = .azureBlobStorage ∨ item.storeType = .azureBlobStorageDataLakeGen2

def subjectOf (contractId : String) (item : StorageItem) : String :=
  contractId ++ "-" ++ item.owner

def ResourceType.str : ResourceType → String
  | .azureBlobStorage => "ResourceType.Azure_BlobStorage"
  | .azureBlobStorageDataLakeGen2 => "ResourceType.Azure_BlobStorage_DataLakeGen2"
  | .azureOneLake => "ResourceType.Azure_OneLake"
  | .awsS3 => "ResourceType.Aws_S3"
  | .azureKeyVault => "ResourceType.AzureKeyVault"
  | .cgs => "ResourceType.Cgs"
  | .azureContainerRegistry => "ResourceType.AzureContainerRegistry"

/-- An iteration of the loop over the storage items. -/
def addStorageItem (contractId : String) (identities : List (Identity × String))
    (item : StorageItem) : Except String (List (Identity × String)) :=
  if isBlobStorage item then .ok (identities ++ [(item.identity, subjectOf contractId item)])
  else if item.storeType = .awsS3 then .ok identities
  else .error s!"Unsupported store type {item.storeType.str} for {item.name}."

def storageIdentities (contractId : String) (items : List StorageItem) :
    Except String (List (Identity × String)) :=
  items.foldlM (addStorageItem contractId) []

def addIdentity (configured : Identities) (entry : Identity × String) : Identities :=
  match entry.1.tokenIssuer with
  | .attestationBased managedIdentity _ =>
      if managedIdentity ∧ entry.1.clientId ∉ configured.managedIdentities then
        { configured with
          managedIdentities := configured.managedIdentities ++ [entry.1.clientId] }
      else configured
  | .federatedIdentityBased url =>
      if entry.1.clientId ∉ configured.applicationIdentities.map Prod.fst then
        { configured with
          applicationIdentities := configured.applicationIdentities ++
            [(entry.1.clientId, ⟨"http://localhost:8300", entry.2, audience, url⟩)] }
      else configured
  | .secretBased _ => configured

def identityArgs (identities : List (Identity × String)) : Identities :=
  identities.foldl addIdentity ⟨[], []⟩

inductive Credential where
  | default
  | managedIdentity (clientId : String)
  | application (clientId : String) (federation : FederationConfiguration)
deriving DecidableEq

def validateConfiguration (config : Identities) : Except String Unit :=
  if "" ∈ config.managedIdentities then
    .error "The configuration specified is invalid - Managed Identity has an empty client ID."
  else if "" ∈ config.applicationIdentities.map Prod.fst then
    .error "The configuration specified is invalid - Application Identity has an empty client ID."
  else .ok ()

/-- `Dictionary.Add`, which refuses a key that is there. -/
def addCredential (credentials : List (String × Credential)) (entry : String × Credential) :
    Except String (List (String × Credential)) :=
  if entry.1 ∈ credentials.map Prod.fst then
    .error s!"An item with the same key has already been added. Key: {entry.1}"
  else .ok (credentials ++ [entry])

def configuredCredentials (config : Identities) : List (String × Credential) :=
  config.managedIdentities.map (fun clientId => (clientId, .managedIdentity clientId)) ++
    config.applicationIdentities.map fun entry => (entry.1, .application entry.1 entry.2)

def initializeCredentials (config : Identities) : Except String (List (String × Credential)) :=
  (configuredCredentials config).foldlM addCredential []

def startSidecar (config : Identities) : Except String (List (String × Credential)) := do
  validateConfiguration config
  initializeCredentials config

def getCredential (credentials : List (String × Credential)) (clientId : String) :
    Except String Credential :=
  if clientId = "" then .ok .default
  else match credentials.find? fun entry => entry.1 == clientId with
    | some entry => .ok entry.2
    | none => .error s!"Invalid client ID specified: {clientId}"

def Identity.Supported (identity : Identity) : Prop :=
  match identity.tokenIssuer with
  | .attestationBased managedIdentity _ => managedIdentity = true
  | .federatedIdentityBased _ => True
  | .secretBased _ => False

def Identity.IsFederated (identity : Identity) : Prop :=
  match identity.tokenIssuer with
  | .federatedIdentityBased _ => True
  | _ => False

/-- The credential of a federated identity has the subject of the item; that of a managed one
is the managed identity. -/
def Serves (contractId : String) (item : StorageItem) (credential : Credential) : Prop :=
  match item.identity.tokenIssuer with
  | .federatedIdentityBased _ => ∃ federation : FederationConfiguration,
      credential = .application item.identity.clientId federation ∧
        federation.subject = subjectOf contractId item
  | _ => credential = .managedIdentity item.identity.clientId

/-- The pod is built, its sidecar starts, and every blob storage item gets a credential of its
own. -/
def IdentitiesConfigured (contractId : String) (items : List StorageItem) : Prop :=
  ∃ identities credentials, storageIdentities contractId items = .ok identities ∧
    startSidecar (identityArgs identities) = .ok credentials ∧
    ∀ item ∈ items, isBlobStorage item = true →
      ∃ credential, getCredential credentials item.identity.clientId = .ok credential ∧
        Serves contractId item credential

/-- The stores are supported, and items with one client id are of one kind, and of one owner if
they are federated. -/
structure ClientsAgree (items : List StorageItem) : Prop where
  stores : ∀ item ∈ items, isBlobStorage item = true ∨ item.storeType = .awsS3
  named : ∀ item ∈ items, isBlobStorage item = true → item.identity.clientId ≠ ""
  kinds : ∀ first ∈ items, ∀ second ∈ items, isBlobStorage first = true →
    isBlobStorage second = true → first.identity.clientId = second.identity.clientId →
      (first.identity.IsFederated ↔ second.identity.IsFederated)
  owners : ∀ first ∈ items, ∀ second ∈ items, isBlobStorage first = true →
    isBlobStorage second = true → first.identity.clientId = second.identity.clientId →
      first.identity.IsFederated → second.identity.IsFederated → first.owner = second.owner

def IsManaged (entry : Identity × String) (clientId : String) : Prop :=
  entry.1.clientId = clientId ∧ ∃ url, entry.1.tokenIssuer = .attestationBased true url

def IsFederatedAs (entry : Identity × String) (clientId : String) : Prop :=
  entry.1.clientId = clientId ∧ ∃ url, entry.1.tokenIssuer = .federatedIdentityBased url

structure Configures (identities : List (Identity × String)) (config : Identities) : Prop where
  managed : ∀ clientId, clientId ∈ config.managedIdentities ↔
    ∃ entry ∈ identities, IsManaged entry clientId
  managedDistinct : config.managedIdentities.Nodup
  keys : ∀ clientId, clientId ∈ config.applicationIdentities.map Prod.fst ↔
    ∃ entry ∈ identities, IsFederatedAs entry clientId
  keysDistinct : (config.applicationIdentities.map Prod.fst).Nodup
  subjects : ∀ application ∈ config.applicationIdentities,
    ∃ entry ∈ identities, IsFederatedAs entry application.1 ∧ application.2.subject = entry.2

theorem nodup_append_one (keys : List String) (key : String) (distinct : keys.Nodup)
    (absent : key ∉ keys) : (keys ++ [key]).Nodup :=
  List.nodup_append.mpr ⟨distinct, List.nodup_singleton _, by
    rintro other present _ single rfl
    exact absent (List.mem_singleton.mp single ▸ present)⟩

variable {identities : List (Identity × String)} {config : Identities}

theorem configures_skip (entry : Identity × String) (before : Configures identities config)
    (managed : ∀ clientId, IsManaged entry clientId → clientId ∈ config.managedIdentities)
    (federated : ∀ clientId, IsFederatedAs entry clientId →
      clientId ∈ config.applicationIdentities.map Prod.fst) :
    Configures (identities ++ [entry]) config := by
  refine ⟨?_, before.managedDistinct, ?_, before.keysDistinct, ?_⟩
  · intro clientId
    have known := managed clientId
    rw [before.managed] at known ⊢
    simp only [List.mem_append, List.mem_singleton, or_and_right, exists_or, exists_eq_left]
    exact (or_iff_left_of_imp known).symm
  · intro clientId
    have known := federated clientId
    rw [before.keys] at known ⊢
    simp only [List.mem_append, List.mem_singleton, or_and_right, exists_or, exists_eq_left]
    exact (or_iff_left_of_imp known).symm
  · intro application member
    obtain ⟨found, present, same⟩ := before.subjects application member
    exact ⟨found, List.mem_append_left _ present, same⟩

theorem configures_step (entry : Identity × String) (before : Configures identities config) :
    Configures (identities ++ [entry]) (addIdentity config entry) := by
  obtain ⟨⟨clientId, issuer⟩, subject⟩ := entry
  cases issuer with
  | secretBased url =>
      apply configures_skip _ before <;> rintro _ ⟨_, _, other⟩ <;> cases other
  | attestationBased managedIdentity url =>
      by_cases fresh : managedIdentity = true ∧ clientId ∉ config.managedIdentities
      · obtain ⟨rfl, absent⟩ := fresh
        simp only [addIdentity, absent, not_false_eq_true, and_self, if_true]
        refine ⟨?_, ?_, ?_, before.keysDistinct, ?_⟩
        · intro other
          rw [List.mem_append, before.managed]
          simp [or_and_right, exists_or, IsManaged, eq_comm]
        · exact nodup_append_one _ _ before.managedDistinct absent
        · intro other
          rw [before.keys]
          simp [or_and_right, exists_or, IsFederatedAs]
        · intro application member
          obtain ⟨found, present, same⟩ := before.subjects application member
          exact ⟨found, List.mem_append_left _ present, same⟩
      · simp only [addIdentity, fresh, if_false]
        apply configures_skip _ before
        · rintro _ ⟨rfl, _, same⟩
          cases same
          simpa using fresh
        · rintro _ ⟨_, _, other⟩
          cases other
  | federatedIdentityBased url =>
      by_cases fresh : clientId ∉ config.applicationIdentities.map Prod.fst
      · simp only [addIdentity, fresh, not_false_eq_true, if_true]
        refine ⟨?_, before.managedDistinct, ?_, ?_, ?_⟩
        · intro other
          rw [before.managed]
          simp [or_and_right, exists_or, IsManaged]
        · intro other
          rw [List.map_append, List.mem_append, before.keys]
          simp [or_and_right, exists_or, IsFederatedAs, eq_comm]
        · rw [List.map_append]
          exact nodup_append_one _ _ before.keysDistinct fresh
        · intro application member
          rcases List.mem_append.mp member with member | member
          · obtain ⟨found, present, same⟩ := before.subjects application member
            exact ⟨found, List.mem_append_left _ present, same⟩
          · rw [List.mem_singleton.mp member]
            exact ⟨_, List.mem_append_right _ (List.mem_singleton_self _), ⟨rfl, url, rfl⟩, rfl⟩
      · simp only [addIdentity, fresh, if_false]
        apply configures_skip _ before
        · rintro _ ⟨_, _, other⟩
          cases other
        · rintro _ ⟨rfl, _, _⟩
          exact not_not.mp fresh

theorem configures_args (identities : List (Identity × String)) :
    Configures identities (identityArgs identities) := by
  induction identities using List.reverseRecOn with
  | nil => constructor <;> simp [identityArgs]
  | append_singleton identities entry induction =>
      have step := configures_step entry induction
      simpa [identityArgs] using step

theorem add_credentials_iff (start entries result : List (String × Credential))
    (distinct : (start.map Prod.fst).Nodup) :
    entries.foldlM addCredential start = .ok result ↔
      ((start ++ entries).map Prod.fst).Nodup ∧ result = start ++ entries := by
  induction entries generalizing start with
  | nil => simp [pure, Except.pure, distinct, eq_comm]
  | cons entry entries induction =>
      rw [List.foldlM_cons]
      by_cases present : entry.1 ∈ start.map Prod.fst
      · rw [addCredential, if_pos present]
        constructor
        · intro failed
          cases failed
        · rintro ⟨wrong, _⟩
          rw [List.map_append, List.nodup_append] at wrong
          exact absurd rfl (wrong.2.2 _ present _ (by simp))
      · have later : ((start ++ [entry]).map Prod.fst).Nodup := by
          rw [List.map_append]
          exact nodup_append_one _ _ distinct present
        rw [addCredential, if_neg present]
        have rest := induction (start ++ [entry]) later
        rw [List.append_assoc] at rest
        exact rest

theorem find_credential (entries : List (String × Credential)) (entry : String × Credential)
    (distinct : (entries.map Prod.fst).Nodup) (member : entry ∈ entries) :
    entries.find? (fun other => other.1 == entry.1) = some entry := by
  induction entries with
  | nil => cases member
  | cons first rest induction =>
      rw [List.map_cons, List.nodup_cons] at distinct
      rcases List.mem_cons.mp member with rfl | later
      · simp
      · have differ : first.1 ≠ entry.1 := by
          intro same
          exact distinct.1 (same ▸ List.mem_map_of_mem later)
        rw [List.find?_cons_of_neg (by simpa using differ)]
        exact induction distinct.2 later

theorem start_sidecar_ok (configures : Configures identities config)
    (named : "" ∉ config.managedIdentities ∧ "" ∉ config.applicationIdentities.map Prod.fst)
    (apart : ∀ clientId ∈ config.managedIdentities,
      clientId ∉ config.applicationIdentities.map Prod.fst) :
    startSidecar config = .ok (configuredCredentials config) ∧
      ((configuredCredentials config).map Prod.fst).Nodup := by
  have distinct : ((configuredCredentials config).map Prod.fst).Nodup := by
    simp only [configuredCredentials, List.map_append, List.map_map]
    change (config.managedIdentities.map id ++
      config.applicationIdentities.map Prod.fst).Nodup
    rw [List.map_id, List.nodup_append]
    refine ⟨configures.managedDistinct, configures.keysDistinct, ?_⟩
    rintro first managed second application rfl
    exact apart first managed application
  refine ⟨?_, distinct⟩
  have added := (add_credentials_iff [] (configuredCredentials config) _ List.nodup_nil).mpr
    ⟨distinct, rfl⟩
  simp only [startSidecar, validateConfiguration, named, if_false]
  exact added

section

variable (contractId : String) (items : List StorageItem)

/-- What the loop collects, if it comes to its end. -/
def blobIdentities : List (Identity × String) :=
  (items.filter isBlobStorage).map fun item => (item.identity, subjectOf contractId item)

theorem add_storage_items_iff (before identities : List (Identity × String)) :
    items.foldlM (addStorageItem contractId) before = .ok identities ↔
      (∀ item ∈ items, isBlobStorage item = true ∨ item.storeType = .awsS3) ∧
        identities = before ++ blobIdentities contractId items := by
  induction items generalizing before with
  | nil => simp [pure, Except.pure, blobIdentities, eq_comm (a := before)]
  | cons item items induction =>
      rw [List.foldlM_cons, addStorageItem, List.forall_mem_cons]
      by_cases blob : isBlobStorage item = true
      · simp [blob, bind, Except.bind, induction, blobIdentities]
      · by_cases bucket : item.storeType = .awsS3
        · simp [blob, bucket, bind, Except.bind, induction, blobIdentities]
        · simp [blob, bucket, bind, Except.bind]

theorem storage_identities_iff (identities : List (Identity × String)) :
    storageIdentities contractId items = .ok identities ↔
      (∀ item ∈ items, isBlobStorage item = true ∨ item.storeType = .awsS3) ∧
        identities = blobIdentities contractId items :=
  add_storage_items_iff contractId items [] identities

theorem mem_blob_identities (entry : Identity × String) :
    entry ∈ blobIdentities contractId items ↔ ∃ item ∈ items, isBlobStorage item = true ∧
      (item.identity, subjectOf contractId item) = entry := by
  simp [blobIdentities, and_assoc]

theorem subject_inj (first second : StorageItem)
    (same : subjectOf contractId first = subjectOf contractId second) :
    first.owner = second.owner := by
  have chars := congrArg String.toList same
  simp only [subjectOf, String.toList_append, List.append_cancel_left_eq] at chars
  exact String.toList_inj.mp chars

variable {identity : Identity}

theorem supported_cases (supported : identity.Supported) :
    (∃ url, identity.tokenIssuer = .attestationBased true url) ∨
      ∃ url, identity.tokenIssuer = .federatedIdentityBased url := by
  unfold Identity.Supported at supported
  cases issuer : identity.tokenIssuer <;> simp_all

theorem federated_issuer (federated : identity.IsFederated) :
    ∃ url, identity.tokenIssuer = .federatedIdentityBased url := by
  unfold Identity.IsFederated at federated
  cases issuer : identity.tokenIssuer <;> simp_all

theorem clients_agree_of_configured
    (supported : ∀ item ∈ items, isBlobStorage item = true → item.identity.Supported)
    (configured : IdentitiesConfigured contractId items) : ClientsAgree items := by
  obtain ⟨identities, credentials, collected, started, served⟩ := configured
  obtain ⟨stores, rfl⟩ := (storage_identities_iff contractId items identities).mp collected
  have spec := configures_args (blobIdentities contractId items)
  refine ⟨stores, ?_, ?_, ?_⟩
  · intro item member blob empty
    have entry := (mem_blob_identities contractId items _).mpr ⟨item, member, blob, rfl⟩
    rcases supported_cases (supported item member blob) with managed | federated
    · have found := (spec.managed "").mpr ⟨_, entry, empty, managed⟩
      simp only [startSidecar, validateConfiguration, found, if_true] at started
      cases started
    · have found := (spec.keys "").mpr ⟨_, entry, empty, federated⟩
      simp only [startSidecar, validateConfiguration, found, if_true] at started
      split at started <;> cases started
  · intro first one second two blobOne blobTwo same
    obtain ⟨credential, given, serves⟩ := served first one blobOne
    obtain ⟨other, alike, servesOther⟩ := served second two blobTwo
    rw [same, alike] at given
    cases given
    unfold Serves at serves servesOther
    unfold Identity.IsFederated
    cases issuerOne : first.identity.tokenIssuer <;>
      cases issuerTwo : second.identity.tokenIssuer <;> simp_all
  · intro first one second two blobOne blobTwo same federatedOne federatedTwo
    obtain ⟨credential, given, serves⟩ := served first one blobOne
    obtain ⟨other, alike, servesOther⟩ := served second two blobTwo
    rw [same, alike] at given
    cases given
    apply subject_inj contractId
    obtain ⟨_, issuerOne⟩ := federated_issuer federatedOne
    obtain ⟨_, issuerTwo⟩ := federated_issuer federatedTwo
    simp only [Serves, issuerOne, issuerTwo] at serves servesOther
    obtain ⟨federation, rfl, subject⟩ := serves
    obtain ⟨other, equal, subjectOther⟩ := servesOther
    have sameFederation : federation = other := by
      injection equal
    rw [← subject, ← subjectOther, sameFederation]

theorem configured_of_clients_agree
    (supported : ∀ item ∈ items, isBlobStorage item = true → item.identity.Supported)
    (agree : ClientsAgree items) : IdentitiesConfigured contractId items := by
  have spec := configures_args (blobIdentities contractId items)
  have named : "" ∉ (identityArgs (blobIdentities contractId items)).managedIdentities ∧
      "" ∉ (identityArgs (blobIdentities contractId items)).applicationIdentities.map
        Prod.fst := by
    rw [spec.managed, spec.keys]
    constructor <;>
    · rintro ⟨entry, member, empty, _⟩
      obtain ⟨item, present, blob, rfl⟩ := (mem_blob_identities contractId items _).mp member
      exact agree.named item present blob empty
  have apart : ∀ clientId ∈ (identityArgs (blobIdentities contractId items)).managedIdentities,
      clientId ∉ (identityArgs (blobIdentities contractId items)).applicationIdentities.map
        Prod.fst := by
    intro clientId managed federated
    obtain ⟨one, memberOne, rfl, _, issuerOne⟩ := (spec.managed clientId).mp managed
    obtain ⟨two, memberTwo, same, _, issuerTwo⟩ := (spec.keys _).mp federated
    obtain ⟨first, presentOne, blobOne, rfl⟩ :=
      (mem_blob_identities contractId items _).mp memberOne
    obtain ⟨second, presentTwo, blobTwo, rfl⟩ :=
      (mem_blob_identities contractId items _).mp memberTwo
    have kinds := agree.kinds first presentOne second presentTwo blobOne blobTwo same.symm
    simp_all [Identity.IsFederated]
  obtain ⟨started, distinct⟩ := start_sidecar_ok spec named apart
  refine ⟨_, _, (storage_identities_iff contractId items _).mpr ⟨agree.stores, rfl⟩, started, ?_⟩
  intro item member blob
  have entry := (mem_blob_identities contractId items _).mpr ⟨item, member, blob, rfl⟩
  have present := agree.named item member blob
  rcases supported_cases (supported item member blob) with ⟨url, issuer⟩ | ⟨url, issuer⟩
  · have listed := (spec.managed item.identity.clientId).mpr ⟨_, entry, rfl, url, issuer⟩
    have found := find_credential _
      (item.identity.clientId, .managedIdentity item.identity.clientId) distinct
      (List.mem_append_left _ (List.mem_map_of_mem listed))
    refine ⟨_, by rw [getCredential, if_neg present, found], ?_⟩
    simp [Serves, issuer]
  · have listed := (spec.keys item.identity.clientId).mpr ⟨_, entry, rfl, url, issuer⟩
    obtain ⟨⟨clientId, federation⟩, application, sameClient⟩ := List.mem_map.mp listed
    change clientId = item.identity.clientId at sameClient
    subst clientId
    have found := find_credential _
      (item.identity.clientId, .application item.identity.clientId federation) distinct
      (List.mem_append_right _ (List.mem_map.mpr ⟨_, application, rfl⟩))
    obtain ⟨other, memberOther, ⟨sameId, _, issuerOther⟩, subject⟩ := spec.subjects _ application
    obtain ⟨second, presentOther, blobOther, rfl⟩ :=
      (mem_blob_identities contractId items _).mp memberOther
    have owner := agree.owners second presentOther item member blobOther blob sameId
      (by simp_all [Identity.IsFederated]) (by simp_all [Identity.IsFederated])
    refine ⟨_, by rw [getCredential, if_neg present, found], ?_⟩
    simp only [Serves, issuer]
    exact ⟨federation, rfl, by rw [subject, subjectOf, subjectOf, owner]⟩

end

def federatedItem (name owner : String) : StorageItem :=
  ⟨name, .azureBlobStorage, ⟨"client", .federatedIdentityBased "https://issuer"⟩, owner⟩

/-- Two items of one owner and client id, one of a managed identity and a bucket. -/
def ownersItems : List StorageItem :=
  [federatedItem "input" "alice",
    ⟨"model", .azureBlobStorageDataLakeGen2, ⟨"managed", .attestationBased true ""⟩, "bob"⟩,
    ⟨"bucket", .awsS3, ⟨"", .secretBased ""⟩, "carol"⟩, federatedItem "output" "alice"]

end CleanRoom.Frontend
