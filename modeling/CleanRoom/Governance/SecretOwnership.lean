import CleanRoom.Governance.AttestedKey
import CleanRoom.Library.Joining

/-!
# Whose secret a secret is

A secret of a contract is kept under the id of its owner, an underscore and its
name. The owner is a member, a user or an identity, or any clean room of the
contract. The ids and the names are arbitrary text, so a secret of one owner can
have the id of a secret of another. This module says exactly when.
-/

namespace CleanRoom.Governance

open JavaScript Joining Throwing

def putSecretByMemberUser (host : CleanRoomHost) (caller : Caller) (contractId secretName : String)
    (body : JsValue) (store : AppStore) : Except RequestFailure (AppStore × String) := do
  validateCallerAuthorized host.ccf store.ledger caller
  let secretPrefix ← getCallerId caller
  let value ← bodyField body "value"
  putSecretInternal host contractId secretPrefix secretName value store

def putSecret (host : CleanRoomHost) (caller : Caller) (contractId secretName : String)
    (body : JsValue) (store : AppStore) : Except RequestFailure (AppStore × String) :=
  match caller with
  | .noAuth => putSecretByCleanRoom host contractId secretName body store
  | _ => putSecretByMemberUser host caller contractId secretName body store

/-- Who stores a secret. The clean rooms of a contract store for each other. -/
inductive SecretOwner where
  | member (id : String)
  | user (id : String)
  | identity (oid : String)
  | cleanRoom
deriving DecidableEq

namespace SecretOwner

def id : SecretOwner → String
  | member id => id
  | user id => id
  | identity oid => oid
  | cleanRoom => "cleanroom"

end SecretOwner

/-- The owner for whom a request stores. A token without an id stores nothing. -/
def Caller.secretOwner : Caller → Option SecretOwner
  | .memberCert id => some (.member id)
  | .userCert id => some (.user id)
  | .jwt payload =>
      match payload.field "oid" with
      | .string oid => some (.identity oid)
      | _ => none
  | .noAuth => some .cleanRoom

theorem get_secret_id_joined (callerId secretName : String) :
    getSecretId callerId secretName = joined '_' callerId secretName := rfl

theorem secret_owner_of_id (caller : Caller) (callerId : String)
    (identified : getCallerId caller = .ok callerId) :
    ∃ owner, caller.secretOwner = some owner ∧ owner.id = callerId := by
  cases caller with
  | memberCert id =>
      cases identified
      exact ⟨.member callerId, rfl, rfl⟩
  | userCert id =>
      cases identified
      exact ⟨.user callerId, rfl, rfl⟩
  | jwt payload =>
      obtain ⟨value, read, identified⟩ := of_bind identified
      have found := body_field_ok _ _ _ read
      cases value with
      | string oid =>
          cases identified
          refine ⟨.identity callerId, ?_, rfl⟩
          simp only [Caller.secretOwner, ← found]
      | _ => cases identified
  | noAuth => cases identified

variable {owner : SecretOwner} {storer : SecretOwner} {contractId : String} {store after : AppStore}
  {other : String} {name : String} {host : CleanRoomHost} {secretId : String}

theorem put_secret_internal_ok (contractId secretPrefix secretName : String) (value : JsValue)
    (accepted : putSecretInternal host contractId secretPrefix secretName value store =
      .ok (after, secretId)) :
    secretId = getSecretId secretPrefix secretName ∧
      after = store.set (secretsMapName contractId) secretId (jsonObject [("value", value)]) := by
  unfold putSecretInternal at accepted
  split at accepted
  · cases accepted
  · split at accepted
    · cases accepted
    · cases accepted
      exact ⟨rfl, rfl⟩

theorem put_secret_ok (caller : Caller) (contractId secretName : String) (body : JsValue)
    (accepted : putSecret host caller contractId secretName body store = .ok (after, secretId)) :
    ∃ owner value, caller.secretOwner = some owner ∧ secretId = getSecretId owner.id secretName ∧
      after = store.set (secretsMapName contractId) secretId (jsonObject [("value", value)]) := by
  have by_member_user : putSecretByMemberUser host caller contractId secretName body store =
      .ok (after, secretId) → ∃ owner value, caller.secretOwner = some owner ∧
        secretId = getSecretId owner.id secretName ∧
        after = store.set (secretsMapName contractId) secretId (jsonObject [("value", value)]) := by
    intro accepted
    obtain ⟨_, _, accepted⟩ := of_bind accepted
    obtain ⟨callerId, identified, accepted⟩ := of_bind accepted
    obtain ⟨value, _, accepted⟩ := of_bind accepted
    obtain ⟨owner, owned, rfl⟩ := secret_owner_of_id caller callerId identified
    obtain ⟨named, stored⟩ := put_secret_internal_ok _ _ _ _ accepted
    exact ⟨owner, value, owned, named, stored⟩
  cases caller with
  | noAuth =>
      obtain ⟨_, _, accepted⟩ := of_bind accepted
      obtain ⟨_, _, accepted⟩ := of_bind accepted
      obtain ⟨_, _, accepted⟩ := of_bind accepted
      obtain ⟨_, _, accepted⟩ := of_bind accepted
      obtain ⟨value, _, accepted⟩ := of_bind accepted
      obtain ⟨named, stored⟩ := put_secret_internal_ok _ _ _ _ accepted
      exact ⟨.cleanRoom, value, rfl, named, stored⟩
  | memberCert id => exact by_member_user accepted
  | userCert id => exact by_member_user accepted
  | jwt payload => exact by_member_user accepted

/-- The two secrets have one id: one owner is known by the id of the other, or its id
continues the other over an underscore, as the name does. -/
def SharesSecretId (storer : SecretOwner) (name : String) (owner : SecretOwner) (other : String) :
    Prop :=
  (storer.id = owner.id ∧ name = other) ∨ Continues '_' storer.id name owner.id other ∨
    Continues '_' owner.id other storer.id name

theorem shares_secret_id_iff :
    SharesSecretId storer name owner other ↔
      getSecretId storer.id name = getSecretId owner.id other := by
  rw [get_secret_id_joined, get_secret_id_joined]
  exact joined_eq_iff.symm

/-- A secret that was stored for the owner and is still there stays as it is when a
secret is stored for the storer. -/
def KeepsSecret (contractId : String) (storer : SecretOwner) (name : String) (owner : SecretOwner)
    (other : String) : Prop :=
  ∀ (host : CleanRoomHost) (first second : Caller) (firstBody secondBody : JsValue)
    (before stored later after : AppStore) (firstId secondId : String),
    first.secretOwner = some owner → second.secretOwner = some storer →
    putSecret host first contractId other firstBody before = .ok (stored, firstId) →
    later.get (secretsMapName contractId) firstId = stored.get (secretsMapName contractId) firstId →
    putSecret host second contractId name secondBody later = .ok (after, secondId) →
    after.get (secretsMapName contractId) firstId = stored.get (secretsMapName contractId) firstId

/-- One owner's secrets with different names have different ids. -/
def NamesSecrets (contractId : String) (owner : SecretOwner) (name other : String) : Prop :=
  ∀ (host : CleanRoomHost) (first second : Caller) (firstBody secondBody : JsValue)
    (firstStore secondStore firstAfter secondAfter : AppStore) (firstId secondId : String),
    first.secretOwner = some owner → second.secretOwner = some owner →
    putSecret host first contractId name firstBody firstStore = .ok (firstAfter, firstId) →
    putSecret host second contractId other secondBody secondStore = .ok (secondAfter, secondId) →
    firstId ≠ secondId

theorem names_secrets (name other : String) (different : name ≠ other) :
    NamesSecrets contractId owner name other := by
  intro host first second firstBody secondBody firstStore secondStore firstAfter secondAfter firstId
    secondId firstOwned secondOwned firstPut secondPut same
  obtain ⟨firstOwner, _, firstOwner_eq, rfl, _⟩ := put_secret_ok _ _ _ _ firstPut
  obtain ⟨secondOwner, _, secondOwner_eq, rfl, _⟩ := put_secret_ok _ _ _ _ secondPut
  cases firstOwned.symm.trans firstOwner_eq
  cases secondOwned.symm.trans secondOwner_eq
  exact different (joined_right_injective '_' owner.id name other same)

theorem keeps_secret_of_separate (separate : ¬SharesSecretId storer name owner other) :
    KeepsSecret contractId storer name owner other := by
  intro host first second firstBody secondBody before stored later after firstId secondId owned
    storing firstPut present secondPut
  obtain ⟨firstOwner, _, firstOwner_eq, rfl, _⟩ := put_secret_ok _ _ _ _ firstPut
  obtain ⟨secondOwner, _, secondOwner_eq, rfl, rfl⟩ := put_secret_ok _ _ _ _ secondPut
  cases owned.symm.trans firstOwner_eq
  cases storing.symm.trans secondOwner_eq
  rw [← present]
  refine AppStore.get_set_other_key _ _ _ _ _ ?_
  intro same
  exact separate (shares_secret_id_iff.mpr same.symm)

def SecretOwner.caller : SecretOwner → Caller
  | member id => .memberCert id
  | user id => .userCert id
  | identity oid => .jwt (.object [("oid", .string oid), ("tid", .string "tenant")])
  | cleanRoom => .noAuth

def SecretOwner.body (value : String) : SecretOwner → JsValue
  | cleanRoom => signedRequest attestedKey attestedKey
  | _ => .object [("value", .string value)]

def SecretOwner.storedValue (value : String) : SecretOwner → String
  | cleanRoom => "s"
  | _ => value

def hostDataPolicy : Table JsValue :=
  AList.insert "x-ms-sevsnpvm-hostdata" (.array [.string "01"]) ∅

theorem host_data_policy_matches :
    matchPolicyClaims (policyProps hostDataPolicy) (sampleReport sampleReportData).getClaims =
      .ok true := by
  decide +kernel

def tenantUser : JsValue := .object [("data", .object [("tenantId", .string "tenant")])]

/-- The ids are those of identities of the tenant, and every contract admits the sample report. -/
def identityStore (first second : String) : AppStore where
  ledger :=
    { sampleStore.ledger with
      gov := fun table =>
        match table with
        | .cleanRoomPolicy _ => hostDataPolicy
        | .fixed .userIdentities =>
            AList.insert first tenantUser (AList.insert second tenantUser ∅)
        | _ => ∅ }
  kv := fun _ => ∅

theorem secret_owner_caller : owner.caller.secretOwner = some owner := by
  cases owner <;> rfl

theorem put_secret_internal_accepts (host : CleanRoomHost)
    (contractId secretPrefix secretName value : String) (store : AppStore) (present : value ≠ "")
    (short : jsLength value ≤ maxSecretLength) :
    putSecretInternal host contractId secretPrefix secretName (.string value) store =
      .ok (store.set (secretsMapName contractId) (getSecretId secretPrefix secretName)
        (jsonObject [("value", .string value)]), getSecretId secretPrefix secretName) := by
  have truthy : (JsValue.string value).truthy = true := by
    simpa [JsValue.truthy] using present
  have fits : lessThan (.number maxSecretLength) (lengthProperty (.string value)) = false := by
    have bound : (jsLength value : Rat) ≤ maxSecretLength := by exact_mod_cast short
    simpa [lessThan, toNumber, lengthProperty] using Rat.not_lt.mpr bound
  unfold putSecretInternal
  rw [truthy, fits]
  rfl

theorem put_secret_accepts (contractId secretName value : String) (store : AppStore)
    (present : value ≠ "") (short : jsLength value ≤ maxSecretLength)
    (admitted : verifyPolicyClaims store.policySource contractId
      (sampleReport sampleReportData).getClaims none = .ok ())
    (known : store.ledger.kvGet (.fixed .userIdentities) owner.id = some tenantUser) :
    putSecret sampleCleanRoomHost owner.caller contractId secretName (owner.body value) store =
      .ok (store.set (secretsMapName contractId) (getSecretId owner.id secretName)
        (jsonObject [("value", .string (owner.storedValue value))]),
        getSecretId owner.id secretName) := by
  cases owner with
  | member id | user id =>
      exact put_secret_internal_accepts sampleCleanRoomHost contractId id secretName value store
        present short
  | identity oid =>
      refine bind_eq_ok.mpr ⟨(), ?_, bind_eq_ok.mpr ⟨oid, rfl,
        bind_eq_ok.mpr ⟨.string value, rfl, put_secret_internal_accepts
          sampleCleanRoomHost contractId oid secretName value store present short⟩⟩⟩
      refine bind_eq_ok.mpr ⟨oid, rfl, ?_⟩
      change store.ledger.kvGet (.fixed .userIdentities) oid = _ at known
      rw [known]
      rfl
  | cleanRoom =>
      refine bind_eq_ok.mpr ⟨(), rfl, bind_eq_ok.mpr
        ⟨_, sample_attestation_accepted _ _ attestedKey _ admitted, bind_eq_ok.mpr
          ⟨_, sample_payload_verified attestedKey _ attested_key_plain, ?_⟩⟩⟩
      exact put_secret_internal_accepts sampleCleanRoomHost contractId "cleanroom" secretName "s"
        store (by decide) (by decide)

theorem identity_store_knows (first second : String) :
    (identityStore first second).ledger.kvGet (.fixed .userIdentities) first = some tenantUser ∧
      (identityStore first second).ledger.kvGet (.fixed .userIdentities) second =
        some tenantUser := by
  refine ⟨AList.lookup_insert _, ?_⟩
  change (AList.insert first tenantUser
    (AList.insert second tenantUser (∅ : Table JsValue))).lookup second = _
  by_cases same : second = first
  · rw [same, AList.lookup_insert]
  · rw [AList.lookup_insert_ne same, AList.lookup_insert]

theorem stored_value_differs (owner storer : SecretOwner) (different : storer ≠ owner) :
    jsonObject [("value", .string (storer.storedValue "second"))] ≠
      jsonObject [("value", .string (owner.storedValue "first"))] := by
  have values : storer.storedValue "second" ≠ owner.storedValue "first" := by
    cases storer <;> cases owner <;> simp_all [SecretOwner.storedValue]
  intro same
  simp [jsonObject, JsValue.typeOf, values] at same

theorem separate_of_keeps_secret (different : storer ≠ owner)
    (keeps : KeepsSecret contractId storer name owner other) :
    ¬SharesSecretId storer name owner other := by
  intro shares
  have sameId := shares_secret_id_iff.mp shares
  have admitted : ∀ kv, verifyPolicyClaims
      (AppStore.policySource { identityStore owner.id storer.id with kv := kv }) contractId
      (sampleReport sampleReportData).getClaims none = .ok () := fun kv =>
    verify_policy_claims_of_contract _ _ _ _ rfl host_data_policy_matches
  obtain ⟨knownOwner, knownStorer⟩ := identity_store_knows owner.id storer.id
  have first := put_secret_accepts contractId other "first" (identityStore owner.id storer.id)
    (by decide) (by decide) (admitted _) knownOwner
  have second := put_secret_accepts contractId name "second"
    ((identityStore owner.id storer.id).set (secretsMapName contractId) (getSecretId owner.id other)
      (jsonObject [("value", .string (owner.storedValue "first"))]))
    (by decide) (by decide) (admitted _) knownStorer
  have kept := keeps _ _ _ _ _ _ _ _ _ _ _ secret_owner_caller secret_owner_caller
    first rfl second
  rw [← sameId, AppStore.get_set_same, AppStore.get_set_same] at kept
  exact stored_value_differs owner storer different (Option.some.inj kept)

/-- A secret of one owner is safe from the secrets of another exactly when the two do not
share an id, and the names of one owner never share one. -/
theorem secret_ownership (contractId : String) (storer : SecretOwner) (name : String)
    (owner : SecretOwner) (other : String) :
    ((storer ≠ owner → KeepsSecret contractId storer name owner other) ↔
      (storer ≠ owner → ¬SharesSecretId storer name owner other)) ∧
    (name ≠ other → NamesSecrets contractId owner name other) := by
  refine ⟨⟨?_, ?_⟩, names_secrets name other⟩
  · intro keeps different
    exact separate_of_keeps_secret different (keeps different)
  · intro separate different
    exact keeps_secret_of_separate (separate different)

/-- The secret `a_k` of the member `m` is overwritten by the secret `k` of the identity `m_a`. -/
theorem identity_overwrites_secret :
    ∃ stored after : AppStore,
      putSecret sampleCleanRoomHost (.memberCert "m") "c1" "a_k"
        (.object [("value", .string "first")]) (identityStore "m_a" "m_a") =
        .ok (stored, "m_a_k") ∧
      putSecret sampleCleanRoomHost (SecretOwner.identity "m_a").caller "c1" "k"
        (.object [("value", .string "second")]) stored = .ok (after, "m_a_k") ∧
      stored.get (secretsMapName "c1") "m_a_k" = some (.object [("value", .string "first")]) ∧
      after.get (secretsMapName "c1") "m_a_k" = some (.object [("value", .string "second")]) := by
  refine ⟨_, _, rfl, rfl, rfl, rfl⟩

end CleanRoom.Governance
