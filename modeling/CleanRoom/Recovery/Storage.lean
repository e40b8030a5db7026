import CleanRoom.Library.Stamped
import CleanRoom.Recovery.JoinPolicyController
import CleanRoom.Recovery.Vault

/-!
# Storage that nobody else changes

Key Vault under the requests of the recovery service alone. Reads and writes are atomic and
may fail; what is missing is the only thing that is reported as missing. The storage keeps
every document that was written, with the request that wrote it and with the number of
documents there were when that request read the policy.
-/

namespace CleanRoom.Recovery

open Attestation ByteFile Encodings Hex
open Interaction Throwing

structure Update where
  content : JsonObject
  since : Nat
  value : String

structure Storage where
  keys : String → Option JsonWebKey
  secrets : String → Option String
  updates : List Update

def Storage.fresh : Storage := ⟨fun _ => none, fun _ => none, []⟩

def Storage.withKey (storage : Storage) (name : String) (key : JsonWebKey) : Storage :=
  { storage with keys := fun other => if other = name then some key else storage.keys other }

/-- The updates that had been made at a time. -/
def asOf (updates : List Update) (time : Nat) : List Update := updates.drop (updates.length - time)

theorem as_of_now (updates : List Update) : asOf updates updates.length = updates := by
  simp [asOf]

theorem as_of_suffix (earlier updates : List Update) (suffix : earlier <:+ updates) (time : Nat)
    (past : time ≤ earlier.length) : asOf updates time = asOf earlier time := by
  obtain ⟨new, rfl⟩ := suffix
  have count : (new ++ earlier).length - time = new.length + (earlier.length - time) := by
    rw [List.length_append]
    omega
  rw [asOf, count, ← List.drop_drop, List.drop_left, asOf]

section

variable (host : PolicyHost) (generates : AttestationReportKeyCert → Prop)
  (outages : StoreError → Prop)

def isDocument (name : String) : Bool := decide (signedPolicySecretName host = .ok name)

def readsDocument : VaultRequest → Bool
  | .getSecret name => isDocument host name
  | _ => false

def Storage.withSecret (storage : Storage) (content : JsonObject) (since : Nat)
    (name value : String) : Storage where
  keys := storage.keys
  secrets := fun other => if other = name then some value else storage.secrets other
  updates :=
    if isDocument host name then ⟨content, since, value⟩ :: storage.updates else storage.updates

def isNotFound : StoreError → Bool
  | .requestFailed status _ => status == notFound
  | _ => false

structure KeyPair (pair : AttestationReportKeyCert) (cert : Certificate) (key : EcdsaKey) :
    Prop where
  loaded : host.loadPemCertificate pair.certificate = .ok cert
  ofKey : cert.ecdsaPublicKey = some key
  exported : host.exportSubjectPublicKeyInfoPem key = pair.publicKey
  imported : ∀ material, host.importPrivateKey pair.privateKey = .ok material →
    material.ecdsaKey = some key
  reportRead : host.deserializeReport (host.serializeReport pair.report) = .ok (some pair.report)
  reportVerified :
    verifyKeyImportedByService host.toVaultHost pair.publicKey pair.report.snpCaci = .ok ()

/-- The serializer reads what it wrote, the generator gives proper pairs, and no two of them
have a fingerprint in common. The host data of the service is read from a file, not from Key
Vault. -/
structure Dependable : Prop where
  fromFile : ∀ error, host.getCACIHostData = .error error → isNotFound error = false
  serializes : Serializes host
  nonempty : ∀ policy, host.serializePolicy policy ≠ ""
  pair : ∀ pair, generates pair → ∃ cert key, KeyPair host pair cert key
  distinct : ∀ pair other, generates pair → generates other →
    fingerprintPublicKey host.toVaultHost pair.publicKey =
      fingerprintPublicKey host.toVaultHost other.publicKey → pair = other

def Signs (data : Bytes) (signingKey : String) (signature : Bytes) : Prop :=
  ∀ pair material cert key, generates pair →
    host.importPrivateKey pair.privateKey = .ok material → material.privateKey = signingKey →
    KeyPair host pair cert key → host.verifyData key data signature = true

def Served {Value : Type} (stored : Option Value) : Except StoreError Value → Prop
  | .ok value => stored = some value
  | .error error => if isNotFound error then stored = none else outages error

/-- A write that failed may have been made. A key is never replaced, because its release
policy is immutable. -/
def requestServed (content : JsonObject) (since : Nat) : Responds Storage VaultRequest.Answer
  | .getKey name, before, answer, after =>
      after = before ∧ Served outages (before.keys name) answer
  | .importKey name key _ _, before, answer, after =>
      ((∃ error, answer = .error error) ∧ after = before) ∨
        (before.keys name = none ∧ after = before.withKey name key)
  | .releaseKey name, before, answer, after =>
      after = before ∧ ∀ key, answer = .ok key → before.keys name = some key
  | .getSecret name, before, answer, after =>
      after = before ∧ Served outages (before.secrets name) answer
  | .setSecret name value, before, answer, after =>
      ((∃ error, answer = .error error) ∧ after = before) ∨
        after = before.withSecret host content since name value
  | .generateEcdsaKeyPairAndReport, before, answer, after =>
      after = before ∧ ∀ pair, answer = .ok pair → generates pair
  | .readInsecureKeyPairAndReport, before, answer, after =>
      after = before ∧ ∀ pair, answer = .ok pair → generates pair
  | .signData data signingKey, before, answer, after =>
      after = before ∧ ∀ signature, answer = .ok signature →
        Signs host generates data signingKey signature

abbrev StampedAnswer (stamped : Nat × VaultRequest) : Type := VaultRequest.Answer stamped.2 × Nat

def storageResponds :
    Responds Storage fun marked : JsonObject × (Nat × VaultRequest) => StampedAnswer marked.2 :=
  fun marked before answered after => answered.2 = before.updates.length ∧
    requestServed host generates outages marked.1 marked.2.1 marked.2.2 before answered.1 after

def documentOf (cert : Certificate) (policy : JoinPolicy) (signature : Bytes) :
    NetworkSecuritySignedPolicy where
  policy := some (toBase64String (utf8GetBytes (host.serializePolicy policy)))
  signatures := some [(signerIdOf host cert, some (toBase64String signature))]

def documentPolicy (value : String) : Option JoinPolicy := do
  let document ← (← (host.deserializeSignedPolicy value).toOption)
  let policyBytes ← (fromBase64 document.policy).toOption
  (← (host.deserializePolicy (utf8GetString policyBytes)).toOption)

def inForce (initialPolicy : JoinPolicy) : List Update → Option JoinPolicy
  | [] => some initialPolicy
  | update :: _ => documentPolicy host update.value

structure Held (storage : Storage) (pair : AttestationReportKeyCert) (material : JsonWebKey) :
    Prop where
  generated : generates pair
  imported : host.importPrivateKey pair.privateKey = .ok material
  report : storage.secrets (reportSecretName host.toVaultHost pair.publicKey) =
    some (host.serializeReport pair.report)
  certificate : storage.secrets (certSecretName host.toVaultHost pair.publicKey) =
    some pair.certificate

structure HoldsKey (storage : Storage) (name : String) (pair : AttestationReportKeyCert)
    (material : JsonWebKey) : Prop where
  signer : ∃ kid, policySignerKeyName host = .ok kid ∧ name = toSigningKeyName kid
  stored : storage.keys name = some material
  held : Held host generates storage pair material

def SignedBy (storage : Storage) (policy : JoinPolicy) (value : String) : Prop :=
  ∃ name pair material cert key signature,
    HoldsKey host generates storage name pair material ∧ KeyPair host pair cert key ∧
    host.verifyData key (utf8GetBytes (host.serializePolicy policy)) signature = true ∧
    value = host.serializeSignedPolicy (documentOf host cert policy signature)

structure Later (before after : Storage) : Prop where
  updates : before.updates <:+ after.updates
  keys : ∀ name key, before.keys name = some key → after.keys name = some key
  reports : ∀ pair, generates pair →
    before.secrets (reportSecretName host.toVaultHost pair.publicKey) =
      some (host.serializeReport pair.report) →
    after.secrets (reportSecretName host.toVaultHost pair.publicKey) =
      some (host.serializeReport pair.report)
  certificates : ∀ pair, generates pair →
    before.secrets (certSecretName host.toVaultHost pair.publicKey) = some pair.certificate →
    after.secrets (certSecretName host.toVaultHost pair.publicKey) = some pair.certificate

theorem later_refl (storage : Storage) : Later host generates storage storage :=
  ⟨List.suffix_refl _, fun _ _ stored => stored, fun _ _ stored => stored,
    fun _ _ stored => stored⟩

theorem later_trans (first second third : Storage) (former : Later host generates first second)
    (latter : Later host generates second third) : Later host generates first third where
  updates := former.updates.trans latter.updates
  keys name key stored := latter.keys name key (former.keys name key stored)
  reports pair own stored := latter.reports pair own (former.reports pair own stored)
  certificates pair own stored := latter.certificates pair own (former.certificates pair own stored)

end

section

variable {host : PolicyHost} {generates : AttestationReportKeyCert → Prop}

variable {publicKey other : String} {before after : Storage} {material : JsonWebKey}
  {pair : AttestationReportKeyCert} {content : JsonObject} {policy : JoinPolicy}
  {name value : String} {storage : Storage} {since : Nat}

theorem document_policy_of (serializes : Serializes host) (cert : Certificate) (signature : Bytes) :
    documentPolicy host (host.serializeSignedPolicy (documentOf host cert policy signature)) =
      some policy := by
  simp [documentPolicy, serializes.signedPolicy, documentOf, fromBase64, serializes.policy,
    Except.toOption]

theorem held_later (held : Held host generates before pair material)
    (later : Later host generates before after) : Held host generates after pair material where
  generated := held.generated
  imported := held.imported
  report := later.reports pair held.generated held.report
  certificate := later.certificates pair held.generated held.certificate

theorem holds_key_later (name : String)
    (holds : HoldsKey host generates before name pair material)
    (later : Later host generates before after) :
    HoldsKey host generates after name pair material where
  signer := holds.signer
  stored := later.keys name material holds.stored
  held := held_later holds.held later

theorem signed_by_later (value : String) (signed : SignedBy host generates before policy value)
    (later : Later host generates before after) : SignedBy host generates after policy value := by
  obtain ⟨name, pair, material, cert, key, signature, holds, proper, verifies, same⟩ := signed
  exact ⟨name, pair, material, cert, key, signature,
    holds_key_later name holds later, proper, verifies, same⟩

theorem held_unique (dependable : Dependable host generates) (storage other : Storage)
    (pair another : AttestationReportKeyCert) (held : Held host generates storage pair material)
    (also : Held host generates other another material) : pair = another := by
  obtain ⟨cert, key, proper⟩ := dependable.pair pair held.generated
  obtain ⟨anotherCert, anotherKey, anotherProper⟩ := dependable.pair another also.generated
  have same : some key = some anotherKey :=
    (proper.imported material held.imported).symm.trans
      (anotherProper.imported material also.imported)
  obtain rfl := Option.some.inj same
  apply dependable.distinct pair another held.generated also.generated
  rw [← proper.exported, ← anotherProper.exported]

theorem report_secret_name_fingerprint
    (same : reportSecretName host.toVaultHost publicKey = reportSecretName host.toVaultHost other) :
    fingerprintPublicKey host.toVaultHost publicKey =
      fingerprintPublicKey host.toVaultHost other := by
  simpa [reportSecretName] using same

theorem cert_secret_name_fingerprint
    (same : certSecretName host.toVaultHost publicKey = certSecretName host.toVaultHost other) :
    fingerprintPublicKey host.toVaultHost publicKey =
      fingerprintPublicKey host.toVaultHost other := by
  simpa [certSecretName] using same

theorem report_not_cert_name :
    reportSecretName host.toVaultHost publicKey ≠ certSecretName host.toVaultHost other := by
  intro same
  have head : (reportSecretName host.toVaultHost publicKey).toList.head? = some 'r' :=
    report_secret_name_head publicKey
  rw [same, cert_secret_name_head] at head
  exact absurd head (by decide)

theorem report_name_not_document (publicKey : String) :
    signedPolicySecretName host ≠ .ok (reportSecretName host.toVaultHost publicKey) := by
  intro named
  have head := signed_policy_secret_name_head _ named
  rw [report_secret_name_head] at head
  exact absurd head (by decide)

theorem cert_name_not_document (publicKey : String) :
    signedPolicySecretName host ≠ .ok (certSecretName host.toVaultHost publicKey) := by
  intro named
  have head := signed_policy_secret_name_head _ named
  rw [cert_secret_name_head] at head
  exact absurd head (by decide)

theorem secret_after_write :
    (storage.withSecret host content since name value).secrets name = some value :=
  if_pos rfl

theorem secret_unwritten (name value other : String) (differ : other ≠ name) :
    (storage.withSecret host content since name value).secrets other = storage.secrets other :=
  if_neg differ

theorem later_written (storage : Storage) (content : JsonObject) (since : Nat)
    (reports : ∀ pair, generates pair → name = reportSecretName host.toVaultHost pair.publicKey →
      value = host.serializeReport pair.report) (certificates : ∀ pair, generates pair →
      name = certSecretName host.toVaultHost pair.publicKey → value = pair.certificate) :
    Later host generates storage (storage.withSecret host content since name value) where
  updates := by
    unfold Storage.withSecret
    dsimp only
    split
    · exact List.suffix_cons _ _
    · exact List.suffix_refl _
  keys _ _ stored := stored
  reports pair own stored := by
    by_cases same : reportSecretName host.toVaultHost pair.publicKey = name
    · rw [same, secret_after_write, reports pair own same.symm]
    · rw [secret_unwritten _ _ _ same, stored]
  certificates pair own stored := by
    by_cases same : certSecretName host.toVaultHost pair.publicKey = name
    · rw [same, secret_after_write, certificates pair own same.symm]
    · rw [secret_unwritten _ _ _ same, stored]

end

/-- `v.ToUpper() == hostData` for a value of the policy. -/
def Lists (host : Host) (policy : JoinPolicy) (hostData : String) : Prop :=
  ∃ value ∈ policy.network.hostData, host.toUpper value = hostData

instance (host : Host) (policy : JoinPolicy) (hostData : String) :
    Decidable (Lists host policy hostData) :=
  inferInstanceAs (Decidable (∃ value ∈ policy.network.hostData, host.toUpper value = hostData))

section

variable (host : ControllerHost) (generates : AttestationReportKeyCert → Prop)
  (initialPolicy : JoinPolicy)

def Admits (updates : List Update) (hostData : String) : Prop :=
  ∃ policy, inForce host.toPolicyHost initialPolicy updates = some policy ∧
    Lists host.toHost policy hostData

/-- What the requests establish of an update: its agent was listed when the policy was read,
and the new policy is valid and lists the agent as well. -/
structure Founded (storage : Storage) (update : Update) (earlier : List Update)
    (report : SnpReport) (policy : JoinPolicy) : Prop where
  attested : attestedReport host.service update.content = .ok report
  recent : update.since ≤ earlier.length
  admitted : Admits host initialPolicy (asOf earlier update.since) report.hostData
  valid : validateJoinPolicy (some policy) = .ok policy
  own : host.toLower report.hostData ∈ policy.network.hostData
  signed : SignedBy host.toPolicyHost generates storage policy update.value

structure Sound (storage : Storage) : Prop where
  document : ∀ name, signedPolicySecretName host.toPolicyHost = .ok name →
    storage.secrets name = storage.updates.head?.map Update.value
  keys : ∀ name material, storage.keys name = some material →
    ∃ pair, HoldsKey host.toPolicyHost generates storage name pair material
  updates : ∀ update earlier, update :: earlier <:+ storage.updates →
    ∃ report policy, Founded host generates initialPolicy storage update earlier report policy

def storageDiscipline : Discipline Storage where
  invariant := Sound host generates initialPolicy
  later := Later host.toPolicyHost generates
  later_refl := later_refl host.toPolicyHost generates
  later_trans := later_trans host.toPolicyHost generates

variable {host generates initialPolicy}

variable {storage : Storage} {before after : Storage} {content : JsonObject} {policy : JoinPolicy}
  {name value : String} {report : SnpReport} {key : JsonWebKey} {since : Nat}

theorem founded_later (update : Update) (earlier : List Update)
    (founded : Founded host generates initialPolicy before update earlier report policy)
    (later : Later host.toPolicyHost generates before after) :
    Founded host generates initialPolicy after update earlier report policy :=
  { founded with signed := signed_by_later update.value founded.signed later }

theorem fresh_sound : Sound host generates initialPolicy Storage.fresh where
  document _ _ := rfl
  keys := nofun
  updates update earlier suffix := by
    cases List.suffix_nil.mp suffix

theorem sound_later (sound : Sound host generates initialPolicy before)
    (later : Later host.toPolicyHost generates before after)
    (updates : after.updates = before.updates)
    (document : ∀ name, signedPolicySecretName host.toPolicyHost = .ok name →
      after.secrets name = before.secrets name)
    (keys : ∀ name material, after.keys name = some material → before.keys name = none →
      ∃ pair, HoldsKey host.toPolicyHost generates after name pair material) :
    Sound host generates initialPolicy after where
  document name named := by
    rw [document name named, updates]
    exact sound.document name named
  keys name material stored := by
    cases known : before.keys name with
    | none => exact keys name material stored known
    | some old =>
        have kept := later.keys name old known
        rw [stored] at kept
        obtain rfl := Option.some.inj kept
        obtain ⟨pair, holds⟩ := sound.keys name material known
        exact ⟨pair, holds_key_later name holds later⟩
  updates update earlier suffix := by
    rw [updates] at suffix
    obtain ⟨report, policy, founded⟩ := sound.updates update earlier suffix
    exact ⟨report, policy, founded_later update earlier founded later⟩

theorem sound_with_secret (sound : Sound host generates initialPolicy storage)
    (other : signedPolicySecretName host.toPolicyHost ≠ .ok name)
    (later : Later host.toPolicyHost generates storage
      (storage.withSecret host.toPolicyHost content since name value)) :
    Sound host generates initialPolicy
      (storage.withSecret host.toPolicyHost content since name value) := by
  apply sound_later sound later
  · simp [Storage.withSecret, isDocument, other]
  · intro document named
    apply secret_unwritten
    rintro rfl
    exact other named
  · intro key material stored free
    rw [Storage.withSecret, free] at stored
    cases stored

theorem sound_with_document (sound : Sound host generates initialPolicy storage)
    (named : signedPolicySecretName host.toPolicyHost = .ok name)
    (later : Later host.toPolicyHost generates storage
      (storage.withSecret host.toPolicyHost content since name value))
    (founded : Founded host generates initialPolicy storage ⟨content, since, value⟩
      storage.updates report policy) :
    Sound host generates initialPolicy
      (storage.withSecret host.toPolicyHost content since name value) where
  document other also := by
    rw [named] at also
    cases also
    rw [secret_after_write]
    simp [Storage.withSecret, isDocument, named]
  keys key material stored := by
    obtain ⟨pair, holds⟩ := sound.keys key material stored
    exact ⟨pair, holds_key_later key holds later⟩
  updates update earlier suffix := by
    have added : (storage.withSecret host.toPolicyHost content since name value).updates =
        ⟨content, since, value⟩ :: storage.updates := by
      simp [Storage.withSecret, isDocument, named]
    rw [added] at suffix
    rcases List.suffix_cons_iff.mp suffix with same | older
    · cases same
      exact ⟨report, policy, founded_later _ _ founded later⟩
    · obtain ⟨oldReport, oldPolicy, old⟩ := sound.updates update earlier older
      exact ⟨oldReport, oldPolicy, founded_later _ _ old later⟩

theorem later_with_key (name : String) (free : storage.keys name = none) :
    Later host.toPolicyHost generates storage (storage.withKey name key) where
  updates := List.suffix_refl _
  keys other found stored := by
    have differ : other ≠ name := by
      rintro rfl
      rw [free] at stored
      cases stored
    simp [Storage.withKey, differ, stored]
  reports _ _ stored := stored
  certificates _ _ stored := stored

theorem sound_with_key (kid : String)
    (pair : AttestationReportKeyCert) (sound : Sound host generates initialPolicy storage)
    (named : policySignerKeyName host.toPolicyHost = .ok kid)
    (free : storage.keys (toSigningKeyName kid) = none)
    (held : Held host.toPolicyHost generates storage pair key) :
    Sound host generates initialPolicy (storage.withKey (toSigningKeyName kid) key) := by
  have later : Later host.toPolicyHost generates storage
      (storage.withKey (toSigningKeyName kid) key) := later_with_key _ free
  apply sound_later sound later rfl
  · intro document _
    rfl
  · intro name material stored unknown
    by_cases same : name = toSigningKeyName kid
    · have imported := stored
      simp only [Storage.withKey, if_pos same, Option.some.injEq] at imported
      subst imported
      exact ⟨pair, ⟨kid, named, same⟩, stored, held_later held later⟩
    · simp only [Storage.withKey, if_neg same, unknown] at stored
      cases stored

end

end CleanRoom.Recovery
