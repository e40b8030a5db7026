import CleanRoom.Recovery.StoreRuns

/-!
# The stored policy under concurrent requests

The key store and the policy store over storage that nobody else changes, as programs that
remember when they read the document. A reader returns the policy that was in force at that
time, and it fails only where a request to Key Vault failed.
-/

namespace CleanRoom.Recovery

open Attestation ByteFile Encodings Hex
open Interaction Throwing

section

variable {host : ControllerHost} {generates : AttestationReportKeyCert → Prop}
  {outages : StoreError → Prop} {initialPolicy : JoinPolicy} {content : JsonObject}

abbrev Obtains (host : ControllerHost) (generates : AttestationReportKeyCert → Prop)
    (outages : StoreError → Prop) (initialPolicy : JoinPolicy) (content : JsonObject)
    {Value : Type} (fact : Nat → Value → Storage → Prop)
    (fault : Nat → StoreError → Storage → Prop) (time : Nat) (program : VaultProgram Value)
    (storage : Storage) : Prop :=
  Timely (readsDocument host.toPolicyHost)
    (fun stamped => storageResponds host.toPolicyHost generates outages (content, stamped))
    (storageDiscipline host generates initialPolicy) fact fault time program storage

def anyFault : Nat → StoreError → Storage → Prop := fun _ _ _ => True

def outage (outages : StoreError → Prop) : Nat → StoreError → Storage → Prop :=
  fun _ error _ => outages error ∧ isNotFound error = false

variable {storage : Storage} {pair : AttestationReportKeyCert} {time : Nat}
  {fault : Nat → StoreError → Storage → Prop} {material : JsonWebKey} {name : String}
  {tags : List (String × String)} {error : StoreError} {kid kty : String}

theorem obtains_call (request : VaultRequest) (fact : Nat → request.Result → Storage → Prop)
    (answers : ∀ before, Sound host generates initialPolicy before →
      Later host.toPolicyHost generates storage before → ∀ answer after,
      requestServed host.toPolicyHost generates outages content time request before answer after →
        let now := if readsDocument host.toPolicyHost request then before.updates.length else time
        Sound host generates initialPolicy after ∧ Later host.toPolicyHost generates before after ∧
          (∀ value, answer = .ok value → fact now value after) ∧
          ∀ error, answer = .error error → fault now error after) :
    Obtains host generates outages initialPolicy content fact fault time (call request)
      storage := by
  refine timely_bind (fun now (answer : request.Answer) after =>
    (∀ value, answer = .ok value → fact now value after) ∧
      ∀ error, answer = .error error → fault now error after) _
    (timely_ask _ _ ?_) ?_
  · intro before sound later answer now after answered
    obtain ⟨rfl, served⟩ := answered
    exact answers before sound later answer after served
  · intro now answer after holds _
    exact timely_of_except holds.2 holds.1

theorem obtains_read (request : VaultRequest) (fact : request.Result → Storage → Prop)
    (fault : Nat → StoreError → Storage → Prop) (time : Nat) (storage : Storage)
    (unwatched : readsDocument host.toPolicyHost request = false)
    (reads : ∀ before answer after, Sound host generates initialPolicy before →
      Later host.toPolicyHost generates storage before →
      requestServed host.toPolicyHost generates outages content time request before answer after →
        after = before ∧ (∀ value, answer = .ok value → fact value before) ∧
          ∀ error, answer = .error error → fault time error before) :
    Obtains host generates outages initialPolicy content
      (fun now value after => now = time ∧ fact value after) fault time (call request)
      storage := by
  refine obtains_call request _ ?_
  intro before sound later answer after served
  obtain ⟨rfl, holds, fails⟩ := reads before answer after sound later served
  rw [unwatched]
  exact ⟨sound, later_refl _ _ _, fun value ok => ⟨rfl, holds value ok⟩, fails⟩

theorem obtains_thrown {Value Other : Type} (fact : Nat → Other → Storage → Prop)
    (computation : Except String Value)
    (value : Value) (next : Value → VaultProgram Other)
    (known : computation = .ok value)
    (rest : Obtains host generates outages initialPolicy content fact fault time (next value)
      storage) :
    Obtains host generates outages initialPolicy content fact fault time
      (throwing computation >>= next) storage := by
  rw [known]
  exact rest

theorem served_ok {Value : Type} (stored : Option Value) (answer : Except StoreError Value)
    (value : Value) (served : Served outages stored answer) (ok : answer = .ok value) :
    stored = some value := by
  rw [ok] at served
  exact served

theorem served_error {Value : Type} (stored : Option Value) (answer : Except StoreError Value)
    (served : Served outages stored answer) (failed : answer = .error error) :
    isNotFound error = true ∧ stored = none ∨ isNotFound error = false ∧ outages error := by
  rw [failed] at served
  change if isNotFound error then stored = none else outages error at served
  split at served
  · next missing => exact .inl ⟨missing, served⟩
  · next other => exact .inr ⟨Bool.eq_false_iff.mpr other, served⟩

theorem served_outage {Value : Type} (stored : Option Value) (value : Value)
    (answer : Except StoreError Value) (known : stored = some value)
    (served : Served outages stored answer) (failed : answer = .error error) :
    outages error ∧ isNotFound error = false := by
  rcases served_error stored answer served failed with ⟨_, missing⟩ | ⟨other, out⟩
  · rw [known] at missing
    cases missing
  · exact ⟨out, other⟩

theorem not_found_handled {Value : Type} (fact : Nat → Option Value → Storage → Prop)
    (missing : isNotFound error = true → fact time none storage)
    (other : isNotFound error = false → fault time error storage) :
    Obtains host generates outages initialPolicy content fact fault time
      ((fun
        | .requestFailed status message =>
            if status = notFound then return none else .fail (.requestFailed status message)
        | error => .fail error : StoreError → VaultProgram (Option Value)) error) storage := by
  cases error with
  | requestFailed status message =>
      dsimp only
      split
      · next absent => exact timely_done (missing (by simp [isNotFound, absent]))
      · next present => exact timely_fail _ (other (by simp [isNotFound, present]))
  | api status code message => exact timely_fail _ (other rfl)
  | unhandled message => exact timely_fail _ (other rfl)

theorem get_key_obtains :
    Obtains host generates outages initialPolicy content
      (fun now found after => now = time ∧
        (∀ material, found = some material →
          ∃ pair, HoldsKey host.toPolicyHost generates after name pair material) ∧
        (found = none → storage.keys name = none))
      (outage outages) time (getKey name) storage := by
  refine timely_recover (fun now error _ => now = time ∧
    (isNotFound error = true ∧ storage.keys name = none ∨
      isNotFound error = false ∧ outages error)) _ _ ?_ ?_
  · refine timely_bind _ _ (obtains_read (.getKey name)
      (fun material after =>
        ∃ pair, HoldsKey host.toPolicyHost generates after name pair material)
      _ time storage rfl ?_) ?_
    · intro before answer after sound later served
      refine ⟨served.1, fun material ok => sound.keys name material
        (served_ok _ _ _ served.2 ok), fun error failed => ?_⟩
      refine ⟨rfl, (served_error _ _ served.2 failed).imp_left fun reported => ?_⟩
      refine ⟨reported.1, ?_⟩
      cases known : storage.keys name with
      | none => rfl
      | some material => exact absurd (later.keys name material known) (by simp [reported.2])
    · intro now material after stored _
      exact timely_done ⟨stored.1, by rintro _ ⟨⟩; exact stored.2, nofun⟩
  · intro now error after failed _
    obtain ⟨rfl, cause⟩ := failed
    refine not_found_handled _ (fun missing => ⟨rfl, nofun, fun _ => ?_⟩)
      fun other => ⟨?_, other⟩
    · rcases cause with ⟨_, absent⟩ | ⟨other, _⟩
      · exact absent
      · simp [missing] at other
    · rcases cause with ⟨missing, _⟩ | ⟨_, out⟩
      · simp [other] at missing
      · exact out

theorem get_secret_obtains (name value : String)
    (other : signedPolicySecretName host.toPolicyHost ≠ .ok name)
    (stored : ∀ after, Later host.toPolicyHost generates storage after →
      after.secrets name = some value) :
    Obtains host generates outages initialPolicy content
      (fun now found _ => now = time ∧ found = value) (outage outages) time
      (call (.getSecret name)) storage := by
  refine obtains_read (.getSecret name) (fun found _ => found = value) _ time storage ?_ ?_
  · simp [readsDocument, isDocument, other]
  · intro before answer after sound later served
    have known := stored before later
    refine ⟨served.1, fun found ok => ?_, fun error failed => ?_⟩
    · have same := served_ok _ _ _ served.2 ok
      rw [known] at same
      exact (Option.some.inj same).symm
    · exact served_outage _ _ _ known served.2 failed

theorem signing_key_info_obtains (dependable : Dependable host.toPolicyHost generates)
    (held : Held host.toPolicyHost generates storage pair material) :
    Obtains host generates outages initialPolicy content
      (fun now info _ => now = time ∧ info.signingCert = pair.certificate) (outage outages) time
      (signingKeyInfo host.toVaultHost pair.publicKey) storage := by
  obtain ⟨cert, key, proper⟩ := dependable.pair pair held.generated
  refine timely_bind (fun now _ _ => now = time) _ ?_ ?_
  · refine timely_bind _ _ (get_secret_obtains _ _
      (report_name_not_document _)
      fun after later => later.reports pair held.generated held.report) ?_
    rintro now value after ⟨rfl, rfl⟩ _
    refine obtains_thrown _ _ _ _ proper.reportRead ?_
    exact timely_known _ proper.reportVerified (timely_done rfl)
  · rintro now report after rfl later
    refine timely_bind _ _ (get_secret_obtains _ _
      (cert_name_not_document _) fun last onwards =>
        onwards.certificates pair held.generated
          (later.certificates pair held.generated held.certificate)) ?_
    intro now certificate after same _
    exact timely_done same

theorem to_ecdsa_obtains (dependable : Dependable host.toPolicyHost generates)
    (storage held : Storage) (holds : Held host.toPolicyHost generates held pair material) :
    Obtains host generates outages initialPolicy content
      (fun now key after => now = time ∧
        host.exportSubjectPublicKeyInfoPem key = pair.publicKey ∧ after = storage) fault time
      (toECDsa material) storage := by
  obtain ⟨cert, key, proper⟩ := dependable.pair pair holds.generated
  rw [toECDsa, proper.imported material holds.imported]
  exact timely_done ⟨rfl, proper.exported, rfl⟩

theorem get_signing_key_obtains (dependable : Dependable host.toPolicyHost generates)
    (kid : String) :
    Obtains host generates outages initialPolicy content
      (fun now found after => now = time ∧
        (∀ info, found = some info → ∃ pair material,
          HoldsKey host.toPolicyHost generates after (toSigningKeyName kid) pair material ∧
          info.signingCert = pair.certificate) ∧
        (found = none → storage.keys (toSigningKeyName kid) = none))
      (outage outages) time (getSigningKey host.toVaultHost kid) storage := by
  refine timely_bind _ _ get_key_obtains ?_
  rintro now found after ⟨rfl, holds, missing⟩ _
  cases found with
  | none => exact timely_done ⟨rfl, nofun, fun _ => missing rfl⟩
  | some material =>
      obtain ⟨pair, holds⟩ := holds material rfl
      refine timely_bind _ _
        (to_ecdsa_obtains dependable after after holds.held) ?_
      rintro now key same ⟨rfl, exported, rfl⟩ _
      rw [exported]
      refine timely_bind _ _
        (signing_key_info_obtains dependable holds.held) ?_
      rintro now info last ⟨rfl, certificate⟩ later
      have holds := holds_key_later _ holds later
      exact timely_done ⟨rfl, by rintro _ ⟨⟩; exact ⟨pair, material, holds, certificate⟩, nofun⟩

theorem get_policy_signer_obtains (dependable : Dependable host.toPolicyHost generates)
    (holds : HoldsKey host.toPolicyHost generates storage name pair material) :
    Obtains host generates outages initialPolicy content
      (fun now certificate _ => now = time ∧ certificate = pair.certificate) (outage outages) time
      (getPolicySigner host.toPolicyHost) storage := by
  obtain ⟨kid, named, rfl⟩ := holds.signer
  refine timely_known _ named ?_
  refine timely_bind _ _ (get_signing_key_obtains dependable kid) ?_
  rintro now found after ⟨rfl, known, missing⟩ later
  cases found with
  | none =>
      have absent := missing rfl
      rw [holds.stored] at absent
      cases absent
  | some info =>
      obtain ⟨other, otherMaterial, otherHolds, certificate⟩ := known info rfl
      have stored := later.keys _ _ holds.stored
      rw [otherHolds.stored] at stored
      obtain rfl := Option.some.inj stored
      obtain rfl := held_unique dependable _ _ pair other holds.held otherHolds.held
      exact timely_done ⟨rfl, certificate⟩

theorem validate_signed_policy_obtains (dependable : Dependable host.toPolicyHost generates)
    (cert : Certificate)
    (key : EcdsaKey) (policy : JoinPolicy) (signature : Bytes)
    (holds : HoldsKey host.toPolicyHost generates storage name pair material)
    (proper : KeyPair host.toPolicyHost pair cert key)
    (verifies : host.verifyData key (utf8GetBytes (host.serializePolicy policy)) signature = true)
    (valid : validateJoinPolicy (some policy) = .ok policy) :
    Obtains host generates outages initialPolicy content
      (fun now document _ => now = time ∧
        document = documentOf host.toPolicyHost cert policy signature) (outage outages) time
      (validateSignedPolicy host.toPolicyHost
        (some (documentOf host.toPolicyHost cert policy signature))) storage := by
  have content := document_content dependable.serializes cert policy signature valid
  have checked := document_signature pair.certificate cert key policy signature proper.loaded
    proper.ofKey verifies
  simp only [validateSignedPolicy, documentOf, List.length_singleton, expectedSignatures, ne_eq,
    not_true_eq_false, if_false] at content ⊢
  refine timely_known _ content ?_
  refine timely_bind _ _
    (get_policy_signer_obtains dependable holds) ?_
  rintro now certificate after ⟨rfl, rfl⟩ _
  refine timely_known _ checked ?_
  exact timely_done ⟨rfl, rfl⟩

def DocumentAt (host : PolicyHost) : List Update → Option NetworkSecuritySignedPolicy → Prop
  | [], found => found = none
  | update :: _, found => ∃ cert policy signature,
      update.value = host.serializeSignedPolicy (documentOf host cert policy signature) ∧
      validateJoinPolicy (some policy) = .ok policy ∧
      found = some (documentOf host cert policy signature)

/-- Reading fails where a request fails or where the service does not know its own name. -/
def unread (host : PolicyHost) (outages : StoreError → Prop) :
    Nat → StoreError → Storage → Prop :=
  fun _ error _ => outages error ∨ signedPolicySecretName host = .error error

theorem signed_policy_secret_unnamed (error : StoreError)
    (unnamed : signedPolicySecretName host.toPolicyHost = .error error) :
    host.getCACIHostData = .error error := by
  unfold signedPolicySecretName at unnamed
  cases read : host.getCACIHostData with
  | ok hostData => simp [read, bind, Except.bind, pure, Except.pure] at unnamed
  | error other => simpa [read, bind, Except.bind] using unnamed

theorem get_document_obtains (named : signedPolicySecretName host.toPolicyHost = .ok name) :
    Obtains host generates outages initialPolicy content
      (fun now value after => now ≤ after.updates.length ∧
        ∃ update earlier report policy, asOf after.updates now = update :: earlier ∧
          value = update.value ∧
          Founded host generates initialPolicy after update earlier report policy)
      (fun now error after =>
        isNotFound error = true ∧ now ≤ after.updates.length ∧ asOf after.updates now = [] ∨
          isNotFound error = false ∧ unread host.toPolicyHost outages now error after) time
      (call (.getSecret name)) storage := by
  refine obtains_call _ _ ?_
  rintro before sound _ answer after ⟨rfl, served⟩
  have watched : readsDocument host.toPolicyHost (.getSecret name) = true := by
    simp [readsDocument, isDocument, named]
  have document := sound.document name named
  rw [watched]
  refine ⟨sound, later_refl _ _ _, fun value ok => ⟨le_rfl, ?_⟩, fun error failed => ?_⟩
  · rw [if_pos rfl, as_of_now]
    have stored := served_ok _ _ _ served ok
    rw [document] at stored
    cases known : after.updates with
    | nil => simp [known] at stored
    | cons update earlier =>
        obtain ⟨report, policy, founded⟩ := sound.updates update earlier
          (known ▸ List.suffix_refl _)
        rw [known] at stored
        exact ⟨update, earlier, report, policy, rfl, (Option.some.inj stored).symm, founded⟩
  · rcases served_error _ _ served failed with ⟨missing, absent⟩ | ⟨other, out⟩
    · rw [document] at absent
      refine .inl ⟨missing, le_rfl, ?_⟩
      rw [if_pos rfl, as_of_now]
      simpa using absent
    · exact .inr ⟨other, .inl out⟩

theorem get_policy_document_obtains (dependable : Dependable host.toPolicyHost generates) :
    Obtains host generates outages initialPolicy content
      (fun now found after => now ≤ after.updates.length ∧
        DocumentAt host.toPolicyHost (asOf after.updates now) found)
      (unread host.toPolicyHost outages) time (getPolicyDocument host.toPolicyHost) storage := by
  -- A failure for a missing secret comes from the document, and then no update was made.
  refine timely_recover (fun now error after =>
    isNotFound error = true ∧ now ≤ after.updates.length ∧ asOf after.updates now = [] ∨
      isNotFound error = false ∧ unread host.toPolicyHost outages now error after) _ _ ?_ ?_
  · refine timely_computed _ (fun error failed => .inr ?_) ?_
    · exact ⟨dependable.fromFile error (signed_policy_secret_unnamed error failed), .inr failed⟩
    · intro name named
      refine timely_bind _ _ (get_document_obtains named) ?_
      intro now value after found _
      obtain ⟨past, update, earlier, report, policy, inForce, rfl, founded⟩ := found
      obtain ⟨keyName, pair, material, cert, key, signature, holds, proper, verifies, written⟩ :=
        founded.signed
      refine obtains_thrown _ _ (some (documentOf host.toPolicyHost cert policy signature)) _
        (written ▸ dependable.serializes.signedPolicy _) ?_
      refine timely_bind _ _ (timely_weaken _ _ _ _
        (validate_signed_policy_obtains dependable cert key policy signature holds proper verifies
          founded.valid) (fun _ _ _ obtained _ => obtained)
        fun _ _ _ out => .inr ⟨out.2, .inl out.1⟩) ?_
      rintro now document last ⟨rfl, rfl⟩ later
      refine timely_done ⟨past.trans later.updates.length_le, ?_⟩
      rw [as_of_suffix _ _ later.updates now past, inForce]
      exact ⟨cert, policy, signature, written, founded.valid, rfl⟩
  · intro now error after cause _
    refine not_found_handled _ (fun missing => ?_) fun other => ?_
    · rcases cause with ⟨_, past, none⟩ | ⟨other, _⟩
      · rw [none]
        exact ⟨past, rfl⟩
      · simp [missing] at other
    · rcases cause with ⟨missing, _⟩ | ⟨_, failed⟩
      · simp [other] at missing
      · exact failed

theorem get_network_join_policy_obtains (dependable : Dependable host.toPolicyHost generates)
    (time : Nat) (storage : Storage) :
    Obtains host generates outages initialPolicy content
      (fun now policy after => now ≤ after.updates.length ∧
        inForce host.toPolicyHost initialPolicy (asOf after.updates now) = some policy)
      (unread host.toPolicyHost outages) time
      (getNetworkJoinPolicy host.toPolicyHost initialPolicy) storage := by
  refine timely_bind _ _ (get_policy_document_obtains dependable) ?_
  rintro now found after ⟨past, document⟩ _
  cases made : asOf after.updates now with
  | nil =>
      rw [made] at document
      obtain rfl : found = none := document
      refine timely_done ⟨past, ?_⟩
      rw [made, inForce]
  | cons update earlier =>
      rw [made] at document
      obtain ⟨cert, policy, signature, written, valid, rfl⟩ := document
      rw [document_policy_present dependable.nonempty]
      refine obtains_thrown _ _ _ _ (from_base64_to_base64 _) ?_
      rw [document_read_back dependable.serializes policy valid]
      refine timely_done ⟨past, ?_⟩
      rw [made, inForce, written, document_policy_of dependable.serializes]

theorem signing_key_name_injective (kid other : String)
    (same : toSigningKeyName kid = toSigningKeyName other) : kid = other := by
  simpa [toSigningKeyName] using same

theorem signing_key_name_longer (kid : String) : toSigningKeyName kid ≠ kid := by
  intro same
  have lengths := congrArg String.length same
  simp [toSigningKeyName, String.length_append] at lengths

theorem no_key_of_key_name (kid : String)
    (named : policySignerKeyName host.toPolicyHost = .ok kid) :
    ¬HoldsKey host.toPolicyHost generates storage (toSigningKeyName (toSigningKeyName kid)) pair
      material := by
  intro holds
  obtain ⟨found, alsoNamed, same⟩ := holds.signer
  rw [named] at alsoNamed
  cases alsoNamed
  exact signing_key_name_longer kid (signing_key_name_injective _ _ same)

theorem generate_key_pair_obtains (isSnpCACI : Bool) :
    Obtains host generates outages initialPolicy content
      (fun now pair _ => now = time ∧ generates pair) anyFault time (generateKeyPair isSnpCACI)
      storage := by
  cases isSnpCACI with
  | true =>
      exact obtains_read .generateEcdsaKeyPairAndReport _ _ time storage rfl
        fun before answer after _ _ served => ⟨served.1, served.2, fun _ _ => trivial⟩
  | false =>
      exact obtains_read .readInsecureKeyPairAndReport _ _ time storage rfl
        fun before answer after _ _ served => ⟨served.1, served.2, fun _ _ => trivial⟩

theorem set_secret_obtains (name value : String)
    (other : signedPolicySecretName host.toPolicyHost ≠ .ok name)
    (reports : ∀ pair, generates pair → name = reportSecretName host.toVaultHost pair.publicKey →
      value = host.serializeReport pair.report) (certificates : ∀ pair, generates pair →
      name = certSecretName host.toVaultHost pair.publicKey → value = pair.certificate) :
    Obtains host generates outages initialPolicy content
      (fun now _ after => now = time ∧ after.secrets name = some value) anyFault time
      (call (.setSecret name value)) storage := by
  refine obtains_call _ _ ?_
  intro before sound _ answer after served
  rcases served with ⟨⟨error, rfl⟩, rfl⟩ | rfl
  · exact ⟨sound, later_refl _ _ _, nofun, fun _ _ => trivial⟩
  · have later := later_written before content time reports certificates
    exact ⟨sound_with_secret sound other later, later,
      fun _ _ => ⟨rfl, secret_after_write⟩, fun _ _ => trivial⟩

theorem set_report_obtains (dependable : Dependable host.toPolicyHost generates)
    (generated : generates pair) :
    Obtains host generates outages initialPolicy content
      (fun now _ after => now = time ∧
        after.secrets (reportSecretName host.toVaultHost pair.publicKey) =
          some (host.serializeReport pair.report)) anyFault time
      (setAttestationReportSecret host.toVaultHost pair.publicKey pair.report) storage := by
  refine set_secret_obtains _ _ (report_name_not_document _) ?_ ?_
  · intro other own same
    rw [dependable.distinct pair other generated own (report_secret_name_fingerprint same)]
  · intro other _ same
    exact absurd same report_not_cert_name

theorem set_certificate_obtains (dependable : Dependable host.toPolicyHost generates)
    (generated : generates pair) :
    Obtains host generates outages initialPolicy content
      (fun now _ after => now = time ∧
        after.secrets (certSecretName host.toVaultHost pair.publicKey) =
          some pair.certificate) anyFault time
      (setSigningCertSecret host.toVaultHost pair.publicKey pair.certificate) storage := by
  refine set_secret_obtains _ _ (cert_name_not_document _) ?_ ?_
  · intro other _ same
    exact absurd same.symm report_not_cert_name
  · intro other own same
    rw [dependable.distinct pair other generated own (cert_secret_name_fingerprint same)]

theorem obtains_throwing {Value Other : Type} (fact : Nat → Other → Storage → Prop)
    (computation : Except String Value) (next : Value → VaultProgram Other)
    (fails : ∀ error, fault time error storage) (rest : ∀ value, computation = .ok value →
      Obtains host generates outages initialPolicy content fact fault time (next value)
        storage) :
    Obtains host generates outages initialPolicy content fact fault time
      (throwing computation >>= next) storage := by
  cases computation with
  | ok value => exact rest value rfl
  | error message => exact fails (.unhandled message)

theorem import_generated_obtains
    (named : policySignerKeyName host.toPolicyHost = .ok kid) (generated : generates pair)
    (report : storage.secrets (reportSecretName host.toVaultHost pair.publicKey) =
      some (host.serializeReport pair.report))
    (certificate : storage.secrets (certSecretName host.toVaultHost pair.publicKey) =
      some pair.certificate) :
    Obtains host generates outages initialPolicy content
      (fun now publicKey after => now = time ∧ ∃ other material, publicKey = other.publicKey ∧
        HoldsKey host.toPolicyHost generates after (toSigningKeyName kid) other material)
      (fun now _ _ => now = time) time
      (importGenerated host.toVaultHost (toSigningKeyName kid) kid kty tags pair) storage := by
  refine obtains_throwing _ _ _ (fun _ => rfl) ?_
  intro keyTags _
  refine obtains_throwing _ _ _ (fun _ => rfl) ?_
  intro snpReport _
  refine timely_bind (fun now _ after => now = time ∧ ∃ material,
    HoldsKey host.toPolicyHost generates after (toSigningKeyName kid) pair material)
    _ ?_ ?_
  · refine obtains_throwing _ _ _ (fun _ => rfl) ?_
    intro material imported
    refine obtains_call _ _ ?_
    intro before sound later answer after served
    rcases served with ⟨⟨error, rfl⟩, rfl⟩ | ⟨free, rfl⟩
    · exact ⟨sound, later_refl _ _ _, nofun, fun _ _ => rfl⟩
    · have held : Held host.toPolicyHost generates before pair material :=
        ⟨generated, imported, later.reports pair generated report,
          later.certificates pair generated certificate⟩
      have onwards : Later host.toPolicyHost generates before
          (before.withKey (toSigningKeyName kid) material) := later_with_key _ free
      refine ⟨sound_with_key kid pair sound named free held, onwards,
        fun _ _ => ⟨rfl, material, ⟨kid, named, rfl⟩, if_pos rfl, ?_⟩, fun _ _ => rfl⟩
      exact held_later held onwards
  · rintro now _ after ⟨rfl, material, holds⟩ _
    exact timely_done ⟨rfl, pair, material, rfl, holds⟩

theorem existing_public_key_obtains (dependable : Dependable host.toPolicyHost generates)
    (keyName : String) :
    Obtains host generates outages initialPolicy content
      (fun now publicKey after => now = time ∧ ∃ pair material, publicKey = pair.publicKey ∧
        HoldsKey host.toPolicyHost generates after keyName pair material)
      anyFault time (existingPublicKey host.toVaultHost keyName) storage := by
  refine timely_bind _ _ (timely_weaken _ _ _ anyFault
    get_key_obtains (fun _ _ _ found _ => found) fun _ _ _ _ => trivial) ?_
  rintro now found after ⟨rfl, known, _⟩ _
  cases found with
  | none => exact timely_fail _ trivial
  | some material =>
      obtain ⟨pair, holds⟩ := known material rfl
      refine timely_bind _ _
        (to_ecdsa_obtains dependable after after holds.held) ?_
      rintro now key same ⟨rfl, exported, rfl⟩ _
      exact timely_done ⟨rfl, pair, material, exported, holds⟩

theorem generate_signing_key_obtains (dependable : Dependable host.toPolicyHost generates)
    (named : policySignerKeyName host.toPolicyHost = .ok kid) :
    Obtains host generates outages initialPolicy content
      (fun now info after => now = time ∧ ∃ pair material,
        HoldsKey host.toPolicyHost generates after (toSigningKeyName kid) pair material ∧
        info.signingCert = pair.certificate) anyFault time
      (generateSigningKey host.toVaultHost kid kty tags) storage := by
  refine timely_bind _ _ (timely_weaken _ _ _ anyFault
    (get_signing_key_obtains dependable (toSigningKeyName kid))
    (fun _ _ _ found _ => found) fun _ _ _ _ => trivial) ?_
  rintro now found after ⟨rfl, known, _⟩ _
  cases found with
  | some info =>
      obtain ⟨pair, material, holds, _⟩ := known info rfl
      exact absurd holds (no_key_of_key_name kid named)
  | none =>
      refine timely_computed _ (fun _ _ => trivial) ?_
      intro isSnpCACI _
      refine timely_bind _ _ (generate_key_pair_obtains isSnpCACI) ?_
      rintro now pair first ⟨rfl, generated⟩ _
      refine timely_bind _ _
        (set_report_obtains dependable generated) ?_
      rintro now _ second ⟨rfl, report⟩ _
      refine timely_bind _ _
        (set_certificate_obtains dependable generated) ?_
      rintro now _ third ⟨rfl, certificate⟩ later
      have report := later.reports pair generated report
      refine timely_bind _ _ (timely_recover (fun last _ _ => last = now) _ _
        (import_generated_obtains named generated report
          certificate) ?_) ?_
      · rintro last error after rfl _
        cases error with
        | requestFailed status message =>
            dsimp only
            split
            · exact existing_public_key_obtains dependable _
            · exact timely_fail _ trivial
        | api status code message => exact timely_fail _ trivial
        | unhandled message => exact timely_fail _ trivial
      · rintro now publicKey fourth ⟨rfl, other, material, rfl, holds⟩ _
        refine timely_weaken _ _ _ _ (signing_key_info_obtains dependable holds.held) ?_
          fun _ _ _ _ => trivial
        rintro last info after ⟨rfl, certificate⟩ later
        exact ⟨rfl, other, material, holds_key_later _ holds later,
          certificate⟩

theorem get_or_create_policy_signer_obtains (dependable : Dependable host.toPolicyHost generates) :
    Obtains host generates outages initialPolicy content
      (fun now certificate after => now = time ∧ ∃ name pair material,
        HoldsKey host.toPolicyHost generates after name pair material ∧
        certificate = pair.certificate) anyFault time
      (getOrCreatePolicySigner host.toPolicyHost) storage := by
  refine timely_computed _ (fun _ _ => trivial) ?_
  intro kid named
  refine timely_bind _ _
    (generate_signing_key_obtains dependable named) ?_
  rintro now info after ⟨rfl, pair, material, holds, certificate⟩ _
  exact timely_done ⟨rfl, _, pair, material, holds, certificate⟩

theorem get_policy_signing_key_obtains (dependable : Dependable host.toPolicyHost generates)
    (holds : HoldsKey host.toPolicyHost generates storage name pair material) :
    Obtains host generates outages initialPolicy content
      (fun now signingKey _ => now = time ∧ signingKey = material.privateKey) anyFault time
      (getPolicySigningKey host.toPolicyHost) storage := by
  obtain ⟨kid, named, rfl⟩ := holds.signer
  refine timely_known _ named ?_
  refine timely_bind (fun now info _ => now = time ∧ info.signingKey = material.privateKey)
    _ ?_ fun now info after same _ => timely_done same
  refine timely_bind _ _ (obtains_read (.releaseKey (toSigningKeyName kid))
    (fun released _ => released = material) _ time storage rfl ?_) ?_
  · intro before answer after _ later served
    refine ⟨served.1, fun released ok => ?_, fun _ _ => trivial⟩
    have stored := served.2 released ok
    rw [later.keys _ _ holds.stored] at stored
    exact (Option.some.inj stored).symm
  · rintro now released after ⟨rfl, rfl⟩ later
    have held := held_later holds.held later
    refine timely_bind _ _
      (to_ecdsa_obtains dependable after after held) ?_
    rintro now key same ⟨rfl, exported, rfl⟩ _
    rw [exported]
    refine timely_bind _ _ (timely_weaken _ _ _ anyFault
      (signing_key_info_obtains dependable held)
      (fun _ _ _ obtained _ => obtained) fun _ _ _ _ => trivial) ?_
    rintro now info last ⟨rfl, _⟩ _
    exact timely_done ⟨rfl, rfl⟩

theorem set_document_obtains (document value : String) (report : SnpReport) (policy : JoinPolicy)
    (time : Nat) (storage : Storage)
    (named : signedPolicySecretName host.toPolicyHost = .ok document)
    (founded : ∀ before, Later host.toPolicyHost generates storage before →
      Founded host generates initialPolicy before ⟨content, time, value⟩ before.updates report
        policy) :
    Obtains host generates outages initialPolicy content (fun _ _ _ => True) anyFault time
      (call (.setSecret document value)) storage := by
  refine obtains_call _ _ ?_
  intro before sound later answer after served
  rcases served with ⟨⟨error, rfl⟩, rfl⟩ | rfl
  · exact ⟨sound, later_refl _ _ _, fun _ _ => trivial, fun _ _ => trivial⟩
  · have onwards : Later host.toPolicyHost generates before
        (before.withSecret host.toPolicyHost content time document value) :=
      later_written before content time
        (fun _ _ same => absurd (same ▸ named) (report_name_not_document _))
        fun _ _ same => absurd (same ▸ named) (cert_name_not_document _)
    exact ⟨sound_with_document sound named onwards
      (founded before later), onwards, fun _ _ => trivial, fun _ _ => trivial⟩

theorem set_network_join_policy_obtains (dependable : Dependable host.toPolicyHost generates)
    (policy : JoinPolicy) (report : SnpReport) (time : Nat) (storage : Storage)
    (attested : attestedReport host.service content = .ok report)
    (past : time ≤ storage.updates.length)
    (admitted : Admits host initialPolicy (asOf storage.updates time) report.hostData)
    (own : host.toLower report.hostData ∈ policy.network.hostData) :
    Obtains host generates outages initialPolicy content (fun _ _ _ => True) anyFault time
      (setNetworkJoinPolicy host.toPolicyHost (some policy)) storage := by
  refine timely_computed _ (fun _ _ => trivial) ?_
  intro valid isValid
  obtain rfl := Option.some.inj (validate_join_policy_ok _ _ isValid)
  refine timely_bind _ _ (get_or_create_policy_signer_obtains dependable) ?_
  rintro now certificate first ⟨rfl, name, pair, material, holds, rfl⟩ created
  refine timely_bind _ _
    (get_policy_signing_key_obtains dependable holds) ?_
  rintro now signingKey second ⟨rfl, rfl⟩ released
  refine timely_bind _ _ (obtains_read (.signData _ _)
    (fun signature _ => Signs host.toPolicyHost generates
      (utf8GetBytes (host.serializePolicy policy)) material.privateKey signature)
    anyFault now second rfl ?_) ?_
  · intro before answer after _ _ served
    exact ⟨served.1, served.2, fun _ _ => trivial⟩
  · rintro now signature third ⟨rfl, signs⟩ signed
    obtain ⟨cert, key, proper⟩ := dependable.pair pair holds.held.generated
    refine obtains_thrown _ _ _ _ proper.loaded ?_
    refine timely_computed _ (fun _ _ => trivial) ?_
    intro document named
    refine set_document_obtains document _ report policy now third named ?_
    intro before later
    have sinceCreated : Later host.toPolicyHost generates first before :=
      later_trans _ _ _ _ _ released (later_trans _ _ _ _ _ signed later)
    have sinceRead : Later host.toPolicyHost generates storage before :=
      later_trans _ _ _ _ _ created sinceCreated
    exact {
      attested := attested
      recent := past.trans sinceRead.updates.length_le
      admitted := by
        rw [as_of_suffix _ _ sinceRead.updates now past]
        exact admitted
      valid := isValid
      own := own
      signed := ⟨name, pair, material, cert, key, signature,
        holds_key_later name holds sinceCreated, proper,
        signs pair material cert key holds.held.generated holds.held.imported rfl proper, rfl⟩ }

end

end CleanRoom.Recovery
