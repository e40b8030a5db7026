import CleanRoom.Recovery.Storage

/-!
# Runs of the policy store

The programs of the key store and of the policy store against a server that answers every
request in one way. Each run is given by the answers that it depends on, whatever else the
state of the server is.
-/

namespace CleanRoom.Recovery

open Attestation ByteFile Encodings Hex
open Interaction Throwing

section

variable {State : Type} {serve : (request : VaultRequest) → State → request.Answer × State}

variable {state : State} {request : VaultRequest}

theorem run_call :
    Program.run serve (call request) state = serve request state := by
  rw [call, Program.run_bind]
  change Program.run serve (Program.ofExcept (serve request state).1) _ = _
  rw [Program.run_of_except]

theorem run_answered (value : request.Result) (state after : State)
    (answered : serve request state = (.ok value, after)) :
    Program.run serve (call request) state = (.ok value, after) := by
  rw [run_call, answered]

theorem run_throwing_ok {Value : Type} (computation : Except String Value) (value : Value)
    (ok : computation = .ok value) :
    Program.run serve (throwing computation) state = (.ok value, state) := by
  rw [ok]
  rfl

theorem run_of_except_ok {Value : Type} (computation : Except StoreError Value) (value : Value)
    (ok : computation = .ok value) :
    Program.run serve (Program.ofExcept computation) state = (.ok value, state) := by
  rw [ok]
  rfl

theorem run_get_key (name : String) (key : JsonWebKey)
    (stored : serve (.getKey name) state = (.ok key, state)) :
    Program.run serve (getKey name) state = (.ok (some key), state) := by
  rw [getKey, Program.run_recover, Program.run_bind_ok _ _ _ _ _ _ (run_answered _ _ _ stored)]
  rfl

theorem run_get_key_missing (name message : String)
    (missing : serve (.getKey name) state = (.error (.requestFailed notFound message), state)) :
    Program.run serve (getKey name) state = (.ok none, state) := by
  rw [getKey, Program.run_recover, Program.run_bind, run_call, missing]
  rfl

variable {host : PolicyHost}

structure HasSigner (serve : (request : VaultRequest) → State → request.Answer × State)
    (host : PolicyHost) (kid : String) (pair : AttestationReportKeyCert) (material : JsonWebKey)
    (certificate : String) (state : State) : Prop where
  named : policySignerKeyName host = .ok kid
  key : serve (.getKey (toSigningKeyName kid)) state = (.ok material, state)
  released : serve (.releaseKey (toSigningKeyName kid)) state = (.ok material, state)
  imported : host.importPrivateKey pair.privateKey = .ok material
  report : serve (.getSecret (reportSecretName host.toVaultHost pair.publicKey)) state =
    (.ok (host.serializeReport pair.report), state)
  certificate : serve (.getSecret (certSecretName host.toVaultHost pair.publicKey)) state =
    (.ok certificate, state)

section

variable {kid : String} {pair : AttestationReportKeyCert} {material : JsonWebKey}
  {certificate : String} {state : State} {cert : Certificate} {key : EcdsaKey}

theorem run_signing_key_info (proper : KeyPair host pair cert key)
    (has : HasSigner serve host kid pair material certificate state) :
    Program.run serve (signingKeyInfo host.toVaultHost pair.publicKey) state =
      (.ok ⟨pair.report, certificate⟩, state) := by
  have report : Program.run serve (getAttestationReportSecret host.toVaultHost pair.publicKey)
      state = (.ok pair.report, state) := by
    rw [getAttestationReportSecret,
      Program.run_bind_ok _ _ _ _ _ _ (run_answered _ _ _ has.report),
      Program.run_bind_ok _ _ _ _ _ _ (run_throwing_ok _ _ proper.reportRead),
      Program.run_bind_ok _ _ _ _ _ _ (run_of_except_ok _ () proper.reportVerified)]
    rfl
  rw [signingKeyInfo, Program.run_bind_ok _ _ _ _ _ _ report, getSigningCertSecret,
    Program.run_bind_ok _ _ _ _ _ _ (run_answered _ _ _ has.certificate)]
  rfl

theorem run_to_ecdsa (proper : KeyPair host pair cert key)
    (imported : host.importPrivateKey pair.privateKey = .ok material) (state : State) :
    Program.run serve (toECDsa material) state = (.ok key, state) := by
  rw [toECDsa, proper.imported material imported]
  rfl

theorem run_get_policy_signer (proper : KeyPair host pair cert key)
    (has : HasSigner serve host kid pair material certificate state) :
    Program.run serve (getPolicySigner host) state = (.ok certificate, state) := by
  have signer : Program.run serve (getSigningKey host.toVaultHost kid) state =
      (.ok (some ⟨pair.report, certificate⟩), state) := by
    rw [getSigningKey, Program.run_bind_ok _ _ _ _ _ _ (run_get_key _ _ has.key),
      Program.run_bind_ok _ _ _ _ _ _ (run_to_ecdsa proper has.imported state), proper.exported,
      Program.run_bind_ok _ _ _ _ _ _ (run_signing_key_info proper has)]
    rfl
  rw [getPolicySigner, Program.run_bind_ok _ _ _ _ _ _ (run_of_except_ok _ _ has.named),
    Program.run_bind_ok _ _ _ _ _ _ signer]
  rfl

theorem run_release_signing_key (proper : KeyPair host pair cert key)
    (has : HasSigner serve host kid pair material certificate state) :
    Program.run serve (releaseSigningKey host.toVaultHost kid) state =
      (.ok ⟨⟨pair.report, certificate⟩, material.privateKey⟩, state) := by
  rw [releaseSigningKey, Program.run_bind_ok _ _ _ _ _ _ (run_answered _ _ _ has.released),
    Program.run_bind_ok _ _ _ _ _ _ (run_to_ecdsa proper has.imported state), proper.exported,
    Program.run_bind_ok _ _ _ _ _ _ (run_signing_key_info proper has)]
  rfl

/-- The secrets of a new pair are written, and its key is imported unless there is one. -/
structure Creates (serve : (request : VaultRequest) → State → request.Answer × State)
    (host : PolicyHost) (kid : String) (pair : AttestationReportKeyCert)
    (start reported certified created : State) : Prop where
  caci : host.isSnpCACI = .ok true
  missing : ∃ message, serve (.getKey (toSigningKeyName (toSigningKeyName kid))) start =
    (.error (.requestFailed notFound message), start)
  generated : serve .generateEcdsaKeyPairAndReport start = (.ok pair, start)
  report : serve (.setSecret (reportSecretName host.toVaultHost pair.publicKey)
    (host.serializeReport pair.report)) start = (.ok (), reported)
  certificate : serve (.setSecret (certSecretName host.toVaultHost pair.publicKey)
    pair.certificate) reported = (.ok (), certified)
  verified : ∃ snpReport, verifyReport host.toVaultHost pair.report.snpCaci = .ok snpReport
  imported : ∃ material, host.importPrivateKey pair.privateKey = .ok material ∧
    ∀ hostData tags, ∃ answer,
      serve (.importKey (toSigningKeyName kid) material hostData tags) certified =
        (answer, created) ∧
      (answer = .ok () ∨ ∃ status, answer = .error (.requestFailed status immutablePolicy))

variable {start reported certified created : State}

theorem run_import_generated (kty : String)
    (creates : Creates serve host kid pair start reported certified created) :
    Program.run serve (importGenerated host.toVaultHost (toSigningKeyName kid) kid kty [] pair)
        certified = (.ok pair.publicKey, created) ∨
      ∃ status, Program.run serve (importGenerated host.toVaultHost (toSigningKeyName kid) kid kty
        [] pair) certified = (.error (.requestFailed status immutablePolicy), created) := by
  obtain ⟨snpReport, verified⟩ := creates.verified
  obtain ⟨material, read, imports⟩ := creates.imported
  obtain ⟨answer, answered, outcome⟩ := imports (host.toLower snpReport.hostData)
    [(keyIdTag, kid), (keyTypeTag, kty)]
  have tagged : addTags [(keyIdTag, kid), (keyTypeTag, kty)] [] =
      .ok [(keyIdTag, kid), (keyTypeTag, kty)] := rfl
  have imported : Program.run serve (importKey host.toVaultHost (toSigningKeyName kid)
      pair.privateKey snpReport.hostData [(keyIdTag, kid), (keyTypeTag, kty)]) certified =
      (answer, created) := by
    rw [importKey, Program.run_bind_ok _ _ _ _ _ _ (run_throwing_ok _ _ read), run_call,
      answered]
  rw [importGenerated, Program.run_bind_ok _ _ _ _ _ _ (run_throwing_ok _ _ tagged),
    Program.run_bind_ok _ _ _ _ _ _ (run_throwing_ok _ _ verified),
    Program.run_bind, imported]
  rcases outcome with rfl | ⟨status, rfl⟩
  · exact .inl rfl
  · exact .inr ⟨status, rfl⟩

theorem run_get_or_create_policy_signer (proper : KeyPair host pair cert key)
    (creates : Creates serve host kid pair start reported certified created)
    (has : HasSigner serve host kid pair material certificate created) :
    Program.run serve (getOrCreatePolicySigner host) start = (.ok certificate, created) := by
  obtain ⟨message, unknown⟩ := creates.missing
  have missing : Program.run serve (getSigningKey host.toVaultHost (toSigningKeyName kid)) start =
      (.ok none, start) := by
    rw [getSigningKey, Program.run_bind_ok _ _ _ _ _ _ (run_get_key_missing _ _ unknown)]
    rfl
  have generated : Program.run serve (generateSigningKey host.toVaultHost kid policySignerKeyType
      []) start = (.ok ⟨pair.report, certificate⟩, created) := by
    unfold generateSigningKey
    dsimp only
    rw [Program.run_bind_ok _ _ _ _ _ _ missing]
    dsimp only
    rw [Program.run_bind_ok _ _ _ _ _ _ (run_of_except_ok _ _ creates.caci)]
    rw [generateKeyPair, if_pos rfl,
      Program.run_bind_ok _ _ _ _ _ _ (run_answered _ _ _ creates.generated),
      setAttestationReportSecret,
      Program.run_bind_ok _ _ _ _ _ _ (run_answered _ _ _ creates.report),
      setSigningCertSecret,
      Program.run_bind_ok _ _ _ _ _ _ (run_answered _ _ _ creates.certificate)]
    refine (Program.run_bind_ok _ _ _ _ created pair.publicKey ?_).trans
      (run_signing_key_info proper has)
    -- the key is imported, or the one that is there already is read back
    rcases run_import_generated policySignerKeyType creates with
      imported | ⟨status, imported⟩
    · exact Program.run_recover_ok _ _ _ _ _ _ imported
    · have contains : containsText immutablePolicy immutablePolicy = true := by
        simp [containsText]
      rw [Program.run_recover, imported]
      simp only [contains, if_true]
      rw [existingPublicKey, Program.run_bind_ok _ _ _ _ _ _ (run_get_key _ _ has.key),
        Program.run_bind_ok _ _ _ _ _ _ (run_to_ecdsa proper has.imported created),
        proper.exported]
      rfl
  rw [getOrCreatePolicySigner,
    Program.run_bind_ok _ _ _ _ _ _ (run_of_except_ok _ _ has.named),
    Program.run_bind_ok _ _ _ _ _ _ generated]
  rfl

theorem run_set_network_join_policy (policy : JoinPolicy) (signature : Bytes) (document : String)
    (start reported certified created signed stored : State) (proper : KeyPair host pair cert key)
    (creates : Creates serve host kid pair start reported certified created)
    (has : HasSigner serve host kid pair material pair.certificate created)
    (valid : validateJoinPolicy (some policy) = .ok policy)
    (signs : serve (.signData (utf8GetBytes (host.serializePolicy policy)) material.privateKey)
      created = (.ok signature, signed)) (named : signedPolicySecretName host = .ok document)
    (stores : serve (.setSecret document (host.serializeSignedPolicy
      (documentOf host cert policy signature))) signed = (.ok (), stored)) :
    Program.run serve (setNetworkJoinPolicy host (some policy)) start = (.ok (), stored) := by
  have signer := run_get_or_create_policy_signer proper creates has
  have released : Program.run serve (getPolicySigningKey host) created =
      (.ok material.privateKey, created) := by
    rw [getPolicySigningKey,
      Program.run_bind_ok _ _ _ _ _ _ (run_of_except_ok _ _ has.named),
      Program.run_bind_ok _ _ _ _ _ _ (run_release_signing_key proper has)]
    rfl
  rw [setNetworkJoinPolicy, Program.run_bind_ok _ _ _ _ _ _ (run_of_except_ok _ _ valid),
    Program.run_bind_ok _ _ _ _ _ _ signer, Program.run_bind_ok _ _ _ _ _ _ released]
  dsimp only
  rw [Program.run_bind_ok _ _ _ _ _ _ (run_answered _ _ _ signs),
    Program.run_bind_ok _ _ _ _ _ _ (run_throwing_ok _ _ proper.loaded),
    setSignedPolicyDocument,
    Program.run_bind_ok _ _ _ _ _ _ (run_of_except_ok _ _ named)]
  exact run_answered _ _ _ stores

theorem run_get_initial_policy (initialPolicy : JoinPolicy) (document message : String)
    (start state : State) (named : signedPolicySecretName host = .ok document)
    (missing : serve (.getSecret document) start =
      (.error (.requestFailed notFound message), state)) :
    Program.run serve (getNetworkJoinPolicy host initialPolicy) start =
      (.ok initialPolicy, state) := by
  have absent : Program.run serve (getPolicyDocument host) start = (.ok none, state) := by
    rw [getPolicyDocument, Program.run_recover,
      Program.run_bind_ok _ _ _ _ _ _ (run_of_except_ok _ _ named), Program.run_bind,
      run_call, missing]
    rfl
  rw [getNetworkJoinPolicy, Program.run_bind_ok _ _ _ _ _ _ absent]
  rfl

theorem base64_present (bytes : Bytes) (nonempty : bytes ≠ []) :
    presentText (some (toBase64String bytes)) = some (toBase64String bytes) := by
  refine if_neg fun empty => nonempty ?_
  have decoded := from_base64_to_base64 bytes
  rw [empty] at decoded
  exact (Except.ok.inj decoded).symm

theorem utf8_bytes_present (text : String) (nonempty : text ≠ "") : utf8GetBytes text ≠ [] := by
  intro none
  have same := utf8_get_string_bytes text
  rw [none] at same
  exact nonempty same.symm

end

end

section

variable {host : PolicyHost}

theorem document_read_back (serializes : Serializes host) (policy : JoinPolicy)
    (valid : validateJoinPolicy (some policy) = .ok policy) :
    readPolicy host (utf8GetString (utf8GetBytes (host.serializePolicy policy))) = .ok policy := by
  rw [utf8_get_string_bytes]
  exact bind_eq_ok.mpr ⟨some policy,
    (store_error_eq_ok _ _).mpr (serializes.policy policy), valid⟩

theorem document_content (serializes : Serializes host) (cert : Certificate) (policy : JoinPolicy)
    (signature : Bytes) (valid : validateJoinPolicy (some policy) = .ok policy) :
    policyContent host (documentOf host cert policy signature) =
      .ok (utf8GetBytes (host.serializePolicy policy)) := by
  simp only [policyContent, documentOf, fromBase64, from_base64_to_base64,
    document_read_back serializes policy valid]

theorem document_signature (certificate : String) (cert : Certificate) (key : EcdsaKey)
    (policy : JoinPolicy) (signature : Bytes)
    (loaded : host.loadPemCertificate certificate = .ok cert)
    (own : cert.ecdsaPublicKey = some key)
    (verifies : host.verifyData key (utf8GetBytes (host.serializePolicy policy)) signature = true) :
    checkSignature host [(signerIdOf host cert, some (toBase64String signature))]
      (utf8GetBytes (host.serializePolicy policy)) certificate = .ok () := by
  refine bind_eq_ok.mpr ⟨cert, (store_error_eq_ok _ _).mpr loaded, ?_⟩
  simp only [List.lookup_cons, beq_self_eq_true]
  refine bind_eq_ok.mpr ⟨_, (store_error_eq_ok _ _).mpr (from_base64_to_base64 _), ?_⟩
  refine bind_eq_ok.mpr ⟨true, ?_, rfl⟩
  simp [verifyDataUsingCert, own, verifies]

theorem document_policy_present (nonempty : ∀ policy, host.serializePolicy policy ≠ "")
    (cert : Certificate) (policy : JoinPolicy) (signature : Bytes) :
    presentText ((some (documentOf host cert policy signature)).bind fun document =>
        document.policy) = some (toBase64String (utf8GetBytes (host.serializePolicy policy))) :=
  base64_present _ (utf8_bytes_present _ (nonempty policy))

variable {State : Type} {serve : (request : VaultRequest) → State → request.Answer × State}

theorem run_get_network_join_policy (serializes : Serializes host)
    (nonempty : ∀ policy, host.serializePolicy policy ≠ "") (kid : String)
    (pair : AttestationReportKeyCert) (material : JsonWebKey) (pairCert cert : Certificate)
    (pairKey key : EcdsaKey) (certificate document : String) (initialPolicy policy : JoinPolicy)
    (signature : Bytes) (start state : State) (proper : KeyPair host pair pairCert pairKey)
    (has : HasSigner serve host kid pair material certificate state)
    (named : signedPolicySecretName host = .ok document)
    (stored : serve (.getSecret document) start =
      (.ok (host.serializeSignedPolicy (documentOf host cert policy signature)), state))
    (loaded : host.loadPemCertificate certificate = .ok cert)
    (own : cert.ecdsaPublicKey = some key)
    (verifies : host.verifyData key (utf8GetBytes (host.serializePolicy policy)) signature = true)
    (valid : validateJoinPolicy (some policy) = .ok policy) :
    Program.run serve (getNetworkJoinPolicy host initialPolicy) start = (.ok policy, state) := by
  have validated : Program.run serve (validateSignedPolicy host
      (some (documentOf host cert policy signature))) state =
      (.ok (documentOf host cert policy signature), state) := by
    have content := document_content serializes cert policy signature valid
    have checked := document_signature certificate cert key policy signature loaded own verifies
    simp only [documentOf] at content
    simp only [validateSignedPolicy, documentOf, List.length_singleton, expectedSignatures,
      ne_eq, not_true_eq_false, if_false]
    rw [Program.run_bind_ok _ _ _ _ _ _ (run_of_except_ok _ _ content),
      Program.run_bind_ok _ _ _ _ _ _ (run_get_policy_signer proper has),
      Program.run_bind_ok _ _ _ _ _ _ (run_of_except_ok _ () checked)]
    rfl
  have found : Program.run serve (getPolicyDocument host) start =
      (.ok (some (documentOf host cert policy signature)), state) := by
    rw [getPolicyDocument, Program.run_recover,
      Program.run_bind_ok _ _ _ _ _ _ (run_of_except_ok _ _ named),
      Program.run_bind_ok _ _ _ _ _ _ (run_answered _ _ _ stored),
      Program.run_bind_ok _ _ _ _ _ _
        (run_throwing_ok _ _ (serializes.signedPolicy _)),
      Program.run_bind_ok _ _ _ _ _ _ validated]
    rfl
  have decoded : fromBase64 (some (toBase64String (utf8GetBytes (host.serializePolicy policy)))) =
      .ok (utf8GetBytes (host.serializePolicy policy)) := by
    rw [fromBase64, from_base64_to_base64]
  rw [getNetworkJoinPolicy, Program.run_bind_ok _ _ _ _ _ _ found,
    document_policy_present nonempty]
  dsimp only
  rw [Program.run_bind_ok _ _ _ _ _ _ (run_throwing_ok _ _ decoded),
    run_of_except_ok _ _ (document_read_back serializes policy valid)]

end

end CleanRoom.Recovery
