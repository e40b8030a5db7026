import CleanRoom.Library.Codes
import CleanRoom.Recovery.StoredPolicy

/-!
# Updates of the join policy

Requests of any number of agents to set the join policy, in every interleaving of their calls
to Key Vault. An agent that sets the policy was listed when its request read the policy, which
may have been replaced before the new one is written. An agent that has set the policy passes
the check against it.
-/

namespace CleanRoom.Recovery

open Attestation ByteFile Encodings Hex
open Interaction JavaScript Throwing

inductive ControllerCall where
  | setNetworkJoinPolicy (content : JsonObject)
  | verifyAttestationReport (content : JsonObject)

def ControllerCall.content : ControllerCall → JsonObject
  | .setNetworkJoinPolicy content => content
  | .verifyAttestationReport content => content

def ControllerCall.program (host : ControllerHost) (initialPolicy : JoinPolicy) :
    ControllerCall → VaultProgram (Option AttesationReportInfo)
  | .setNetworkJoinPolicy content => do
      JoinPolicyController.setNetworkJoinPolicy host initialPolicy content
      return none
  | .verifyAttestationReport content => do
      return some (← BaseController.verifyAttestationReport host initialPolicy content)

def recoveryService (host : ControllerHost) (generates : AttestationReportKeyCert → Prop)
    (outages : StoreError → Prop) (initialPolicy : JoinPolicy) :
    Service ControllerCall Storage
      (fun marked : JsonObject × (Nat × VaultRequest) => StampedAnswer marked.2)
      (Nat × StoreError) (Nat × Option AttesationReportInfo) where
  responds := storageResponds host.toPolicyHost generates outages
  body call := ((call.program host initialPolicy).stamp (readsDocument host.toPolicyHost) 0).mark
    call.content
  enter _ := id
  environment _ _ := False

abbrev RecoveryPool := Pool ControllerCall Storage
  (fun marked : JsonObject × (Nat × VaultRequest) => StampedAnswer marked.2)
  (Nat × StoreError) (Nat × Option AttesationReportInfo)

def agentOf (host : ControllerHost) (content : JsonObject) : Option String :=
  (attestedReport host.service content).toOption.map fun report => report.hostData

section

variable (host : ControllerHost) (initialPolicy : JoinPolicy)

/-- The agent of the update is listed in the policy that it replaces. -/
def Authorised (update : Update) (earlier : List Update) : Prop :=
  ∃ hostData, agentOf host update.content = some hostData ∧
    Admits host initialPolicy earlier hostData

def meanwhile (update : Update) (earlier : List Update) : List Update :=
  earlier.take (earlier.length - update.since)

/-- The agent of the update is listed in the last policy that was set meanwhile, if any. -/
def Undisturbed (update : Update) (earlier : List Update) : Prop :=
  ∀ last ∈ (meanwhile update earlier).head?, ∃ hostData policy,
    agentOf host update.content = some hostData ∧
    documentPolicy host.toPolicyHost last.value = some policy ∧ Lists host.toHost policy hostData

end

section

variable {host : ControllerHost} {generates : AttestationReportKeyCert → Prop}
  {outages : StoreError → Prop} {initialPolicy : JoinPolicy} {content : JsonObject}

variable {storage : Storage} {fault : Nat → StoreError → Storage → Prop}
  {info : AttesationReportInfo} {time : Nat} {policy : JoinPolicy} {report : SnpReport}

theorem obtains_checked {Value Other : Type} (fact : Nat → Other → Storage → Prop)
    (computation : Except ServiceError Value) (next : Value → VaultProgram Other)
    (fails : ∀ error, computation = .error error → fault time error.thrown storage)
    (rest : ∀ value, computation = .ok value →
      Obtains host generates outages initialPolicy content fact fault time (next value) storage) :
    Obtains host generates outages initialPolicy content fact fault time
      (checked computation >>= next) storage := by
  cases computation with
  | ok value => exact rest value rfl
  | error error => exact fails error rfl

theorem obtains_of_checked {Value : Type} (fact : Nat → Value → Storage → Prop)
    (computation : Except ServiceError Value)
    (fails : ∀ error, computation = .error error → fault time error.thrown storage)
    (holds : ∀ value, computation = .ok value → fact time value storage) :
    Obtains host generates outages initialPolicy content fact fault time (checked computation)
      storage := by
  cases computation with
  | ok value => exact holds value rfl
  | error error => exact fails error rfl

/-- The request carries an attestation for the report, bound to its public key. -/
structure ValidAttestation (host : ControllerHost) (content : JsonObject) (report : SnpReport)
    (info : AttesationReportInfo) : Prop where
  attested : attestedReport host.service content = .ok report
  bound : checkReportData host.service report content = .ok info

def Verified (host : ControllerHost) (initialPolicy : JoinPolicy) (content : JsonObject)
    (now : Nat) (info : AttesationReportInfo) (storage : Storage) : Prop :=
  ∃ report, ValidAttestation host content report info ∧ now ≤ storage.updates.length ∧
    Admits host initialPolicy (asOf storage.updates now) report.hostData

/-- The failure of the check of host data against the policy in force at a time. -/
def Mismatch (host : ControllerHost) (initialPolicy : JoinPolicy) (hostData : String) (now : Nat)
    (error : StoreError) (storage : Storage) : Prop :=
  ∃ policy refused, now ≤ storage.updates.length ∧
    inForce host.toPolicyHost initialPolicy (asOf storage.updates now) = some policy ∧
    checkHostData host.service hostData (some policy.network) = .error refused ∧
    error = refused.thrown

/-- A verification of a valid attestation fails for host data that is not listed, and
otherwise where the policy could not be read. -/
def Refused (host : ControllerHost) (outages : StoreError → Prop) (initialPolicy : JoinPolicy)
    (content : JsonObject) (now : Nat) (error : StoreError) (storage : Storage) : Prop :=
  ∀ report info, ValidAttestation host content report info →
    unread host.toPolicyHost outages now error storage ∨
      Mismatch host initialPolicy report.hostData now error storage

theorem check_host_data_lists (hostData : String) (policy : JoinPolicy) :
    checkHostData host.service hostData (some policy.network) = .ok () ↔
      Lists host.toHost policy hostData := by
  simp only [checkHostData, Lists]
  constructor
  · intro checked
    split at checked
    · next listed =>
        obtain ⟨value, member, same⟩ := List.any_eq_true.mp listed
        exact ⟨value, member, beq_iff_eq.mp same⟩
    · cases checked
  · rintro ⟨value, member, same⟩
    have listed : (policy.network.hostData.any fun value =>
        host.service.toUpper value == hostData) = true :=
      List.any_eq_true.mpr ⟨value, member, by exact beq_iff_eq.mpr same⟩
    exact if_pos listed

theorem verify_attestation_report_obtains (dependable : Dependable host.toPolicyHost generates) :
    Obtains host generates outages initialPolicy content (Verified host initialPolicy content)
      (Refused host outages initialPolicy content) time
      (BaseController.verifyAttestationReport host initialPolicy content) storage := by
  refine obtains_checked _ _ _ (fun error failed report info valid => ?_) ?_
  · rw [valid.attested] at failed
    cases failed
  intro snpReport attested
  refine timely_bind _ _ (timely_weaken _ _ _ _
    (get_network_join_policy_obtains dependable time storage)
    (fun _ _ _ obtained _ => obtained) fun _ _ _ failed _ _ _ => .inl failed) ?_
  rintro now policy after ⟨past, read⟩ _
  refine obtains_checked _ _ _ (fun error refused report info valid => .inr ?_) ?_
  · have same := valid.attested
    rw [attested] at same
    cases same
    exact ⟨policy, error, past, read, refused, rfl⟩
  intro _ listed
  have admitted : Admits host initialPolicy (asOf after.updates now) snpReport.hostData :=
    ⟨policy, read, (check_host_data_lists _ _).mp listed⟩
  refine obtains_of_checked _ _ (fun error failed report info valid => ?_) ?_
  · have same := valid.attested
    rw [attested] at same
    cases same
    rw [valid.bound] at failed
    cases failed
  · intro info bound
    exact ⟨snpReport, ⟨attested, bound⟩, past, admitted⟩

theorem check_report_data_host_data
    (bound : checkReportData host.service report content = .ok info) :
    info.hostData = report.hostData := by
  obtain ⟨publicKey, _, rest⟩ := of_bind bound
  dsimp only at rest
  split at rest
  · cases rest
  · rw [← Except.ok.inj rest]

theorem policy_host_data_ok (data : Option JoinPolicyInput)
    (hostData : List (Option String)) (given : policyHostData data = .ok (policy, hostData)) :
    policy.snp.bind SnpSection.hostData = some hostData := by
  unfold policyHostData at given
  split at given
  · split at given
    · cases given
    · next snp present =>
        split at given
        · cases given
        · next listed =>
            cases given
            rw [present, Option.bind_some, listed]
  · cases given

theorem incoming_policy_own (accepted : incomingPolicy host info content = .ok policy) :
    host.toLower info.hostData ∈ policy.network.hostData := by
  obtain ⟨data, _, accepted⟩ := of_bind accepted
  obtain ⟨⟨found, hostData⟩, given, accepted⟩ := of_bind accepted
  dsimp only at accepted
  split at accepted
  · next listed =>
      rw [← Except.ok.inj accepted, JoinPolicy.network,
        policy_host_data_ok data hostData given]
      obtain ⟨value, member, same⟩ := List.any_eq_true.mp listed
      rw [beq_iff_eq.mp same] at member
      simpa using member
  · cases accepted

theorem set_policy_obtains (dependable : Dependable host.toPolicyHost generates) :
    Obtains host generates outages initialPolicy content (fun _ _ _ => True) anyFault time
      (JoinPolicyController.setNetworkJoinPolicy host initialPolicy content) storage := by
  refine timely_bind _ _ (timely_weaken _ _ _ anyFault
    (verify_attestation_report_obtains dependable)
    (fun _ _ _ verified _ => verified) fun _ _ _ _ => trivial) ?_
  rintro now info after ⟨report, valid, past, admitted⟩ _
  refine obtains_checked _ _ _ (fun _ _ => trivial) ?_
  intro policy accepted
  have own := incoming_policy_own accepted
  rw [check_report_data_host_data valid.bound] at own
  exact set_network_join_policy_obtains dependable policy report now after valid.attested past
    admitted own

def controllerPost (host : ControllerHost) (outages : StoreError → Prop)
    (initialPolicy : JoinPolicy) : ControllerCall →
    Except (Nat × StoreError) (Nat × Option AttesationReportInfo) → Storage → Prop
  | .setNetworkJoinPolicy _ => Ends (fun _ _ _ => True) anyFault
  | .verifyAttestationReport content =>
      Ends (fun now result storage => ∃ info, result = some info ∧
        Verified host initialPolicy content now info storage)
        (Refused host outages initialPolicy content)

theorem controller_post_stable (call : ControllerCall) :
    Stable (storageDiscipline host generates initialPolicy)
      (controllerPost host outages initialPolicy call) := by
  intro outcome storage after holds later
  cases call with
  | setNetworkJoinPolicy content => cases outcome <;> trivial
  | verifyAttestationReport content =>
      cases outcome with
      | ok stamped =>
          obtain ⟨info, returned, report, valid, past, admitted⟩ := holds
          refine ⟨info, returned, report, valid, past.trans later.updates.length_le, ?_⟩
          rwa [as_of_suffix _ _ later.updates _ past]
      | error stamped =>
          intro report info valid
          refine (holds report info valid).imp_right ?_
          rintro ⟨policy, refused, past, read, checked, same⟩
          refine ⟨policy, refused, past.trans later.updates.length_le, ?_, checked, same⟩
          rwa [as_of_suffix _ _ later.updates _ past]

theorem call_correct (dependable : Dependable host.toPolicyHost generates) (call : ControllerCall) :
    Correct (fun stamped => storageResponds host.toPolicyHost generates outages
        (call.content, stamped)) (storageDiscipline host generates initialPolicy)
      (controllerPost host outages initialPolicy call)
      ((call.program host initialPolicy).stamp (readsDocument host.toPolicyHost) 0) storage := by
  cases call with
  | setNetworkJoinPolicy content =>
      exact timely_bind _ _ (set_policy_obtains dependable)
        fun _ _ _ _ _ => timely_done trivial
  | verifyAttestationReport content =>
      refine timely_bind _ _
        (verify_attestation_report_obtains dependable) ?_
      intro now info after verified _
      exact timely_done ⟨info, rfl, verified⟩

theorem recovery_service_keeps (dependable : Dependable host.toPolicyHost generates) :
    (recoveryService host generates outages initialPolicy).Keeps
      (storageDiscipline host generates initialPolicy)
      (controllerPost host outages initialPolicy) where
  stable := controller_post_stable
  enter call _ sound := ⟨sound, later_refl _ _ _,
    correct_mark _ _ _ _ _ (call_correct dependable call)⟩
  environment := nofun

theorem reached_sound (dependable : Dependable host.toPolicyHost generates) (pool : RecoveryPool)
    (reached : Reaches (recoveryService host generates outages initialPolicy) Storage.fresh pool) :
    Sound host generates initialPolicy pool.state :=
  (reaches_correct _ _ (recovery_service_keeps dependable) fresh_sound pool reached).1

theorem agent_of_attested (attested : attestedReport host.service content = .ok report) :
    agentOf host content = some report.hostData := by
  rw [agentOf, attested]
  rfl

theorem as_of_undisturbed (update : Update) (earlier : List Update)
    (recent : update.since ≤ earlier.length) (none : meanwhile update earlier = []) :
    asOf earlier update.since = earlier := by
  rcases List.take_eq_nil_iff.mp none with now | rfl
  · rw [asOf, now, List.drop_zero]
  · simp [asOf]

theorem last_meanwhile (update last : Update) (earlier rest : List Update)
    (made : meanwhile update earlier = last :: rest) : ∃ before, earlier = last :: before := by
  have split := List.take_append_drop (earlier.length - update.since) earlier
  rw [meanwhile] at made
  rw [made] at split
  exact ⟨_, split.symm⟩

end

/-- In every interleaving, an update is authorised by the policy that it replaces exactly if
its agent is still listed in the last policy that was set between the read and the write of
its request; so it is if none was. -/
theorem update_authorised_iff_undisturbed (host : ControllerHost)
    (generates : AttestationReportKeyCert → Prop) (outages : StoreError → Prop)
    (dependable : Dependable host.toPolicyHost generates) (initialPolicy : JoinPolicy)
    (pool : RecoveryPool)
    (reached : Reaches (recoveryService host generates outages initialPolicy) Storage.fresh pool)
    (update : Update) (earlier : List Update) (stored : update :: earlier <:+ pool.state.updates) :
    Authorised host initialPolicy update earlier ↔ Undisturbed host update earlier := by
  obtain ⟨report, policy, founded⟩ := (reached_sound dependable pool reached).updates update
    earlier stored
  have agent := agent_of_attested founded.attested
  cases made : meanwhile update earlier with
  | nil =>
      have admitted := founded.admitted
      rw [as_of_undisturbed update earlier founded.recent made] at admitted
      constructor
      · intro _ last member
        simp [made] at member
      · intro _
        exact ⟨report.hostData, agent, admitted⟩
  | cons last rest =>
      obtain ⟨before, rfl⟩ := last_meanwhile update last earlier rest made
      constructor
      · rintro ⟨hostData, own, replaced, read, lists⟩ found member
        rw [made, List.head?_cons, Option.mem_some] at member
        subst member
        exact ⟨hostData, replaced, own, read, lists⟩
      · intro undisturbed
        obtain ⟨hostData, replaced, own, read, lists⟩ := undisturbed last (by simp [made])
        exact ⟨hostData, own, replaced, read, lists⟩

variable {storage : Storage} {content : JsonObject} {policy : JoinPolicy} {since : Nat}
  {byte : UInt8} {digit : Char} {report : SnpReport} {digits : List Char}

theorem attested_host_data (host : ServiceHost)
    (attested : attestedReport host content = .ok report) :
    ∃ bytes, report.hostData = hexString bytes := by
  obtain ⟨attestation, _, rest⟩ := of_bind attested
  obtain ⟨found, verified, rest⟩ := of_bind rest
  obtain ⟨_, _, _, _, _, _, _, same⟩ :=
    verify_snp_attestation_ok _ _ _ _ ((verify_snp_report_eq_ok host _ _).mp verified)
  split at rest
  · cases rest
  · rw [← Except.ok.inj rest, same]
    exact ⟨_, rfl⟩

theorem founded_admits_own (host : ControllerHost) (generates : AttestationReportKeyCert → Prop)
    (initialPolicy : JoinPolicy) (dependable : Dependable host.toPolicyHost generates)
    (digits : ∀ bytes, host.toUpper (host.toLower (hexString bytes)) = hexString bytes)
    (update : Update) (earlier : List Update)
    (founded : Founded host generates initialPolicy storage update earlier report policy) :
    inForce host.toPolicyHost initialPolicy (update :: earlier) = some policy ∧
      Lists host.toHost policy report.hostData := by
  obtain ⟨_, _, _, cert, _, signature, _, _, _, written⟩ := founded.signed
  refine ⟨?_, host.toLower report.hostData, founded.own, ?_⟩
  · rw [inForce, written, document_policy_of dependable.serializes]
  · obtain ⟨bytes, hex⟩ := attested_host_data host.service founded.attested
    rw [hex]
    exact digits bytes

theorem document_named_of_signed {host : ControllerHost}
    {generates : AttestationReportKeyCert → Prop} (value : String)
    (signed : SignedBy host.toPolicyHost generates storage policy value) (error : StoreError) :
    signedPolicySecretName host.toPolicyHost ≠ .error error := by
  intro unnamed
  obtain ⟨_, _, _, _, _, _, holds, _⟩ := signed
  obtain ⟨kid, named, _⟩ := holds.signer
  obtain ⟨hostData, read, _⟩ := of_bind named
  rw [signed_policy_secret_unnamed error unnamed] at read
  cases read

/-- In every interleaving, the verification of a valid attestation succeeds or fails for host
data that is not listed in the policy as it was read; it never stumbles over a document that
is stored. An agent with the host data of the one that wrote the document is not refused. -/
theorem writer_of_policy_not_refused (host : ControllerHost)
    (generates : AttestationReportKeyCert → Prop) (outages : StoreError → Prop)
    (dependable : Dependable host.toPolicyHost generates)
    (digits : ∀ bytes, host.toUpper (host.toLower (hexString bytes)) = hexString bytes)
    (initialPolicy : JoinPolicy) (pool : RecoveryPool)
    (reached : Reaches (recoveryService host generates outages initialPolicy) Storage.fresh pool)
    (content : JsonObject) (report : SnpReport) (info : AttesationReportInfo)
    (valid : ValidAttestation host content report info) (since : Nat) :
    (∀ result, (.verifyAttestationReport content, .done (since, result)) ∈ pool.threads →
      result = some info) ∧
    ∀ error, (.verifyAttestationReport content, .fail (since, error)) ∈ pool.threads →
      (outages error ∨ signedPolicySecretName host.toPolicyHost = .error error ∨
        Mismatch host initialPolicy report.hostData since error pool.state) ∧
      ∀ update earlier, asOf pool.state.updates since = update :: earlier →
        agentOf host update.content = some report.hostData → outages error := by
  obtain ⟨sound, ends⟩ := reaches_correct _ _ (recovery_service_keeps dependable) fresh_sound
    pool reached
  refine ⟨?_, ?_⟩
  · intro result returned
    obtain ⟨found, same, other, otherValid, _⟩ := ends _ returned
    have sameReport := otherValid.attested
    rw [valid.attested] at sameReport
    cases sameReport
    have sameInfo := otherValid.bound
    rw [valid.bound] at sameInfo
    rw [same, Except.ok.inj sameInfo]
  · intro error failed
    have refused : Refused host outages initialPolicy content since error pool.state :=
      ends _ failed
    refine ⟨or_assoc.mp (refused report info valid), ?_⟩
    intro update earlier read own
    obtain ⟨writer, policy, founded⟩ := sound.updates update earlier (read ▸ List.drop_suffix _ _)
    obtain ⟨set, lists⟩ := founded_admits_own host generates initialPolicy dependable digits
      update earlier founded
    rw [agent_of_attested founded.attested] at own
    rw [Option.some.inj own] at lists
    rcases refused report info valid with (out | unnamed) | mismatch
    · exact out
    · exact absurd unnamed (document_named_of_signed _ founded.signed error)
    · obtain ⟨found, cause, _, stored, checked, _⟩ := mismatch
      rw [read, set] at stored
      rw [← Option.some.inj stored, (check_host_data_lists _ _).mpr lists] at checked
      cases checked

/-! ## Two agents

The small service of one key pair, with the reports of two agents whose host data repeat one
byte. -/

open Codes

def policyCode : Code JoinPolicy :=
  Code.string.option.list.option.option.map
    (fun snp => ⟨snp.map SnpSection.mk⟩) (fun policy => policy.snp.map SnpSection.hostData)
    (by rintro ⟨_ | snp⟩ <;> rfl)

def signedPolicyCode : Code NetworkSecuritySignedPolicy :=
  (Code.string.option.pair (Code.string.pair Code.string.option).list.option).map
    (fun parts => ⟨parts.1, parts.2⟩) (fun document => (document.policy, document.signatures))
    fun _ => rfl

def inputCode : Code JoinPolicyInput := policyCode.option.map (⟨·⟩) (·.joinPolicy) fun _ => rfl

def signerKey : EcdsaKey := ⟨[0, 0], some [0]⟩

def signerMaterial : JsonWebKey := ⟨some signerKey, "private"⟩

def signerAttestation : AttestationReport :=
  ⟨some ⟨smallEvidence keyReport, smallPlatform smallChain, none⟩⟩

def signerPair : AttestationReportKeyCert where
  certificate := String.ofList (smallBlock smallSigner)
  publicKey := "key"
  privateKey := "private"
  report := signerAttestation

def signerKeyName : String := "psk-ccf-policy-signer-" ++ zeroDigits

def documentName : String := "sps-ccf-network-policy-" ++ zeroDigits

def agentReport (byte : UInt8) : Bytes := overwrite keyReport 192 (List.replicate 32 byte)

def agentHost : ControllerHost :=
  { smallHost keyReport with
    ecdsaVerifyData := fun key data signature =>
      [keyReport, agentReport 17, agentReport 34].any (fun report =>
        data == report.take signatureOffset) && signature == key.encoding
    exportSubjectPublicKeyInfoPem := fun key => if key = signerKey then "key" else "other"
    importPrivateKey := fun _ => .ok signerMaterial
    serializeReport := fun _ => "report"
    deserializeReport := fun _ => .ok (some signerAttestation)
    serializeHostData := fun _ => ""
    isSnpCACI := .ok true
    getCACIHostData := .ok zeroDigits
    serializePolicy := policyCode.text
    deserializePolicy := fun text => some <$> policyCode.value text
    serializeSignedPolicy := signedPolicyCode.text
    deserializeSignedPolicy := fun text => some <$> signedPolicyCode.value text
    verifyData := fun key data signature => signature == key.encoding ++ data
    jsonText := fun _ => ""
    notAString := fun name => name
    deserializeInput := fun text => some <$> inputCode.value text
    verifyDataUsingKey := fun data signature key => .ok (signature == utf8GetBytes key ++ data) }

def policyFor (digits : List Char) : JoinPolicy :=
  ⟨some ⟨some (digits.map fun digit => some (String.ofList (List.replicate 64 digit)))⟩⟩

def agentRequest (byte : UInt8) (policy : JoinPolicy) : JsonObject :=
  let data := utf8GetBytes (inputCode.text ⟨some policy⟩)
  [("attestation", .object [("evidence", .string (toBase64String (agentReport byte))),
      ("endorsements", .string (toBase64String (smallChainBytes smallChain)))]),
    ("data", .string (toBase64String data)),
    ("sign", .object [("publicKey", .string "a2V5"),
      ("signature", .string (toBase64String (utf8GetBytes "key" ++ data)))])]

def agentServe : (marked : JsonObject × (Nat × VaultRequest)) → Storage →
    StampedAnswer marked.2 × Storage
  | (content, since, request), storage =>
      let now := storage.updates.length
      match request with
      | .getKey name => ((match storage.keys name with
          | some key => .ok key
          | none => .error (.requestFailed notFound "KeyNotFound"), now), storage)
      | .importKey name key _ _ =>
          match storage.keys name with
          | some _ => ((.error (.requestFailed 403 immutablePolicy), now), storage)
          | none => ((.ok (), now), storage.withKey name key)
      | .releaseKey name => ((match storage.keys name with
          | some key => .ok key
          | none => .error (.requestFailed notFound "KeyNotFound"), now), storage)
      | .getSecret name => ((match storage.secrets name with
          | some value => .ok value
          | none => .error (.requestFailed notFound "SecretNotFound"), now), storage)
      | .setSecret name value =>
          ((.ok (), now), storage.withSecret agentHost.toPolicyHost content since name value)
      | .generateEcdsaKeyPairAndReport => ((.ok signerPair, now), storage)
      | .readInsecureKeyPairAndReport => ((.ok signerPair, now), storage)
      | .signData data _ => ((.ok (signerKey.encoding ++ data), now), storage)

theorem agent_requested :
    requestAttestation agentHost.service (agentRequest byte policy) =
      .ok ⟨smallEvidence (agentReport byte), smallPlatform smallChain, none⟩ := by rfl

def agentSnpReport (byte : UInt8) : SnpReport :=
  SnpReport.ofFields (marshall agentHost.toHost (agentReport byte)) none

theorem agent_report_accepted (report : Bytes)
    (checked : checkReportKey agentHost.toHost (marshall agentHost.toHost report) report smallLeaf =
      .ok ()) :
    verifySnpAttestation agentHost.toHost (smallEvidence report) (smallPlatform smallChain) none =
      .ok (SnpReport.ofFields (marshall agentHost.toHost report) none) := by
  have signed := small_report_signed agentHost.toHost report smallChain smallLeaf rfl
    (small_chain_supplied _ rfl) rfl (by decide +kernel) checked
  exact small_report_accepted _ report smallChain none none signed rfl

theorem agent_attested
    (checked : checkReportKey agentHost.toHost (marshall agentHost.toHost (agentReport byte))
      (agentReport byte) smallLeaf = .ok ())
    (released : (agentSnpReport byte).debugAllowed = false) :
    attestedReport agentHost.service (agentRequest byte policy) = .ok (agentSnpReport byte) := by
  refine bind_eq_ok.mpr ⟨_, agent_requested, ?_⟩
  refine bind_eq_ok.mpr ⟨_, (verify_snp_report_eq_ok _ _ _).mpr
    (agent_report_accepted (agentReport byte) checked), ?_⟩
  exact if_neg (by simpa [agentSnpReport] using released)

theorem agent_key_pair :
    KeyPair agentHost.toPolicyHost signerPair smallSigner signerKey where
  loaded := by decide +kernel
  ofKey := rfl
  exported := rfl
  imported := by
    intro material imported
    exact Except.ok.inj imported ▸ rfl
  reportRead := rfl
  reportVerified := by
    have verified : verifyReport agentHost.toVaultHost signerPair.report.snpCaci =
        .ok (SnpReport.ofFields (marshall agentHost.toHost keyReport) none) :=
      agent_report_accepted keyReport (by decide +kernel)
    rw [verifyKeyImportedByService, verified]
    decide +kernel

theorem agent_dependable : Dependable agentHost.toPolicyHost (fun pair => pair = signerPair) where
  fromFile := nofun
  serializes :=
    ⟨fun policy => congrArg (some <$> ·) (policyCode.value_text policy),
      fun document => congrArg (some <$> ·) (signedPolicyCode.value_text document)⟩
  nonempty := by
    rintro ⟨_ | snp⟩ <;> exact policyCode.text_ne_empty _ (List.cons_ne_nil _ _)
  pair := by
    rintro pair rfl
    exact ⟨smallSigner, signerKey, agent_key_pair⟩
  distinct := by
    rintro pair other rfl rfl _
    rfl

theorem agent_serves (marked : JsonObject × (Nat × VaultRequest)) (storage : Storage) :
    storageResponds agentHost.toPolicyHost (fun pair => pair = signerPair) (fun _ => False) marked
      storage (agentServe marked storage).1 (agentServe marked storage).2 := by
  obtain ⟨content, since, request⟩ := marked
  cases request with
  | getKey name | getSecret name =>
      refine ⟨rfl, rfl, ?_⟩
      simp only [agentServe]
      split
      · next stored => exact stored
      · next missing => exact missing
  | importKey name key hostData tags =>
      simp only [agentServe]
      split
      · exact ⟨rfl, .inl ⟨⟨_, rfl⟩, rfl⟩⟩
      · next free => exact ⟨rfl, .inr ⟨free, rfl⟩⟩
  | releaseKey name =>
      refine ⟨rfl, rfl, ?_⟩
      intro key found
      simp only [agentServe] at found
      split at found
      · next stored => exact Except.ok.inj found ▸ stored
      · cases found
  | setSecret name value => exact ⟨rfl, .inr rfl⟩
  | generateEcdsaKeyPairAndReport | readInsecureKeyPairAndReport =>
      exact ⟨rfl, rfl, fun _ generated => (Except.ok.inj generated).symm⟩
  | signData data signingKey =>
      refine ⟨rfl, rfl, ?_⟩
      rintro signature signed pair material cert key rfl _ _ proper
      have loaded := proper.loaded
      rw [agent_key_pair.loaded] at loaded
      cases loaded
      have own := proper.ofKey
      rw [agent_key_pair.ofKey] at own
      cases own
      rw [← Except.ok.inj signed]
      exact beq_self_eq_true _

structure KnownAgent (byte : UInt8) (digit : Char) : Prop where
  checked : checkReportKey agentHost.toHost (marshall agentHost.toHost (agentReport byte))
    (agentReport byte) smallLeaf = .ok ()
  released : (agentSnpReport byte).debugAllowed = false
  hostData : (agentSnpReport byte).hostData = String.ofList (List.replicate 64 digit)
  reportData : (agentSnpReport byte).reportData =
    hexString (agentHost.service.sha256 (utf8GetBytes "key")) ++ zeroDigits

theorem first_agent : KnownAgent 17 '1' :=
  ⟨by decide +kernel, by decide +kernel, by decide +kernel, by decide +kernel⟩

theorem second_agent : KnownAgent 34 '2' :=
  ⟨by decide +kernel, by decide +kernel, by decide +kernel, by decide +kernel⟩

def agentInfo (digit : Char) : AttesationReportInfo :=
  ⟨"key", String.ofList (List.replicate 64 digit)⟩

theorem agent_valid (agent : KnownAgent byte digit) (policy : JoinPolicy) :
    ValidAttestation agentHost (agentRequest byte policy) (agentSnpReport byte)
      (agentInfo digit) where
  attested := agent_attested agent.checked agent.released
  bound := by
    have presented : getPublicKey agentHost.service (agentRequest byte policy) = .ok "key" := by
      have decoded : fromBase64String "a2V5" = .ok (utf8GetBytes "key") := by decide +kernel
      change (unhandled (fromBase64String "a2V5") >>= fun keyBytes =>
        pure (utf8GetString keyBytes)) = _
      rw [decoded]
      exact congrArg Except.ok (utf8_get_string_bytes "key")
    refine bind_eq_ok.mpr ⟨"key", presented, ?_⟩
    rw [agent.reportData, agent.hostData]
    exact if_neg (not_not.mpr rfl)

def inputText (digits : List Char) : String := inputCode.text ⟨some (policyFor digits)⟩

theorem unhandled_ok {Value : Type} (computation : Except String Value) (value : Value)
    (ok : computation = .ok value) : unhandled computation = .ok value := by
  rw [ok]
  rfl

theorem agent_incoming (byte : UInt8) (own : digit ∈ digits) :
    incomingPolicy agentHost (agentInfo digit) (agentRequest byte (policyFor digits)) =
      .ok (policyFor digits) := by
  have text : inputText digits ≠ "" := inputCode.text_ne_empty _ (List.cons_ne_nil _ _)
  have present := base64_present _ (utf8_bytes_present _ text)
  have signed := base64_present (utf8GetBytes "key" ++ utf8GetBytes (inputText digits))
    (List.append_ne_nil_of_left_ne_nil (utf8_bytes_present _ (by decide)) _)
  have data : JsonObject.node (agentRequest byte (policyFor digits)) "data" =
      some (.string (toBase64String (utf8GetBytes (inputText digits)))) := rfl
  have sign : JsonObject.node (agentRequest byte (policyFor digits)) "sign" =
      some (.object [("publicKey", .string "a2V5"), ("signature", .string (toBase64String
        (utf8GetBytes "key" ++ utf8GetBytes (inputText digits))))]) := rfl
  have signature : JsonObject.node [("publicKey", .string "a2V5"), ("signature", .string
      (toBase64String (utf8GetBytes "key" ++ utf8GetBytes (inputText digits))))] "signature" =
      some (.string (toBase64String
        (utf8GetBytes "key" ++ utf8GetBytes (inputText digits)))) := rfl
  have given : getSignedData agentHost "key" (agentRequest byte (policyFor digits)) =
      .ok (some ⟨some (policyFor digits)⟩) := by
    unfold getSignedData
    rw [data, sign, Option.map_some, nodeText, present]
    refine bind_eq_ok.mpr ⟨_, rfl, bind_eq_ok.mpr ⟨_, rfl, ?_⟩⟩
    rw [signature]
    beta_reduce
    rw [Option.map_some, nodeText, signed]
    refine bind_eq_ok.mpr ⟨_, unhandled_ok _ _ (from_base64_to_base64 _), ?_⟩
    refine bind_eq_ok.mpr ⟨_, unhandled_ok _ _ (from_base64_to_base64 _), ?_⟩
    refine bind_eq_ok.mpr ⟨true, ?_, ?_⟩
    · exact unhandled_ok _ _ (congrArg Except.ok (beq_self_eq_true _))
    · rw [if_pos rfl, utf8_get_string_bytes]
      exact unhandled_ok _ _ (congrArg (some <$> ·) (inputCode.value_text _))
  refine bind_eq_ok.mpr ⟨_, given, ?_⟩
  refine bind_eq_ok.mpr ⟨(policyFor digits, _), rfl, ?_⟩
  refine if_pos (List.any_eq_true.mpr ⟨_, List.mem_map.mpr ⟨digit, own, rfl⟩, ?_⟩)
  exact beq_iff_eq.mpr rfl

abbrev agentServer (content : JsonObject) :
    (request : VaultRequest) → Storage × Nat → request.Answer × (Storage × Nat) :=
  seenBy (readsDocument agentHost.toPolicyHost) agentServe content

theorem run_checked_ok {State Value : Type}
    {serve : (request : VaultRequest) → State → request.Answer × State}
    (computation : Except ServiceError Value) (value : Value) (state : State)
    (ok : computation = .ok value) :
    Program.run serve (checked computation) state = (.ok value, state) := by
  rw [ok]
  rfl

theorem run_agent_verified (agent : KnownAgent byte digit)
    (wanted initialPolicy policy : JoinPolicy) (start after : Storage × Nat)
    (read : Program.run (agentServer (agentRequest byte wanted))
      (getNetworkJoinPolicy agentHost.toPolicyHost initialPolicy) start = (.ok policy, after))
    (lists : Lists agentHost.toHost policy (String.ofList (List.replicate 64 digit))) :
    Program.run (agentServer (agentRequest byte wanted))
      (BaseController.verifyAttestationReport agentHost initialPolicy (agentRequest byte wanted))
      start = (.ok (agentInfo digit), after) := by
  have valid := agent_valid agent wanted
  have listed := (check_host_data_lists (agentSnpReport byte).hostData policy).mpr
    (agent.hostData ▸ lists)
  rw [BaseController.verifyAttestationReport,
    Program.run_bind_ok _ _ _ _ _ _ (run_checked_ok _ _ start valid.attested),
    Program.run_bind_ok _ _ _ _ _ _ read,
    Program.run_bind_ok _ _ _ _ _ _ (run_checked_ok _ () after listed)]
  exact run_checked_ok _ _ after valid.bound

def pairStored (content : JsonObject) (since : Nat) (storage : Storage) : Storage :=
  (storage.withSecret agentHost.toPolicyHost content since
    (reportSecretName agentHost.toVaultHost "key") "report").withSecret agentHost.toPolicyHost
    content since (certSecretName agentHost.toVaultHost "key") signerPair.certificate

def keyImported (storage : Storage) : Storage :=
  match storage.keys (toSigningKeyName signerKeyName) with
  | some _ => storage
  | none => storage.withKey (toSigningKeyName signerKeyName) signerMaterial

def policyText (policy : JoinPolicy) : String :=
  agentHost.serializeSignedPolicy (documentOf agentHost.toPolicyHost smallSigner policy
    (signerKey.encoding ++ utf8GetBytes (agentHost.serializePolicy policy)))

def policyStored (content : JsonObject) (since : Nat) (policy : JoinPolicy) (storage : Storage) :
    Storage :=
  (keyImported (pairStored content since storage)).withSecret agentHost.toPolicyHost content since
    documentName (policyText policy)

structure OnlySigner (storage : Storage) : Prop where
  signer : storage.keys (toSigningKeyName signerKeyName) = none ∨
    storage.keys (toSigningKeyName signerKeyName) = some signerMaterial
  other : storage.keys (toSigningKeyName (toSigningKeyName signerKeyName)) = none

theorem serves_secret
    (name value : String) (other : signedPolicySecretName agentHost.toPolicyHost ≠ .ok name)
    (stored : storage.secrets name = some value) :
    agentServer content (.getSecret name) (storage, since) = (.ok value, storage, since) := by
  simp [agentServer, seenBy, agentServe, stored, readsDocument, isDocument, other]

theorem serves_document (content : JsonObject) (since : Nat) (storage : Storage) (value : String)
    (stored : storage.secrets documentName = some value) :
    agentServer content (.getSecret documentName) (storage, since) =
      (.ok value, storage, storage.updates.length) := by
  have named : signedPolicySecretName agentHost.toPolicyHost = .ok documentName := rfl
  simp [agentServer, seenBy, agentServe, stored, readsDocument, isDocument, named]

theorem serves_no_document (missing : storage.secrets documentName = none) :
    agentServer content (.getSecret documentName) (storage, since) =
      (.error (.requestFailed notFound "SecretNotFound"), storage, storage.updates.length) := by
  have named : signedPolicySecretName agentHost.toPolicyHost = .ok documentName := rfl
  simp [agentServer, seenBy, agentServe, missing, readsDocument, isDocument, named]

theorem pair_stored_keys :
    (pairStored content since storage).keys = storage.keys := rfl

theorem key_imported_secrets : (keyImported storage).secrets =
    storage.secrets := by
  unfold keyImported
  split <;> rfl

theorem key_imported_key (only : OnlySigner storage) :
    (keyImported storage).keys (toSigningKeyName signerKeyName) = some signerMaterial := by
  unfold keyImported
  rcases only.signer with free | stored
  · simp [free, Storage.withKey]
  · simp [stored]

theorem serves_import
    (only : OnlySigner storage) (hostData : String) (tags : List (String × String)) :
    ∃ answer, agentServer content (.importKey (toSigningKeyName signerKeyName) signerMaterial
        hostData tags) (storage, since) = (answer, keyImported storage, since) ∧
      (answer = .ok () ∨ ∃ status, answer = .error (.requestFailed status immutablePolicy)) := by
  unfold keyImported
  rcases only.signer with free | stored
  · refine ⟨.ok (), ?_, .inl rfl⟩
    simp [agentServer, seenBy, agentServe, free, readsDocument]
  · refine ⟨.error (.requestFailed 403 immutablePolicy), ?_, .inr ⟨403, rfl⟩⟩
    simp [agentServer, seenBy, agentServe, stored, readsDocument]

theorem agent_creates_signer (only : OnlySigner storage) :
    Creates (agentServer content) agentHost.toPolicyHost signerKeyName signerPair (storage, since)
      (storage.withSecret agentHost.toPolicyHost content since
        (reportSecretName agentHost.toVaultHost "key") "report", since)
      (pairStored content since storage, since)
      (keyImported (pairStored content since storage), since) where
  caci := rfl
  missing := ⟨"KeyNotFound", by
    simp [agentServer, seenBy, agentServe, only.other, readsDocument]⟩
  generated := rfl
  report := rfl
  certificate := rfl
  verified := ⟨_, agent_report_accepted keyReport (by decide +kernel)⟩
  imported := ⟨signerMaterial, rfl, serves_import ⟨only.signer, only.other⟩⟩

structure SignerStored (storage : Storage) : Prop where
  key : storage.keys (toSigningKeyName signerKeyName) = some signerMaterial
  report : storage.secrets (reportSecretName agentHost.toVaultHost "key") = some "report"
  certificate : storage.secrets (certSecretName agentHost.toVaultHost "key") =
    some signerPair.certificate

theorem imported_signer_stored (only : OnlySigner storage) :
    SignerStored (keyImported (pairStored content since storage)) where
  key := key_imported_key ⟨only.signer, only.other⟩
  report := by
    rw [key_imported_secrets]
    exact (secret_unwritten _ _ _ report_not_cert_name).trans secret_after_write
  certificate := by
    rw [key_imported_secrets]
    exact secret_after_write

theorem agent_has_signer (stored : SignerStored storage) :
    HasSigner (agentServer content) agentHost.toPolicyHost signerKeyName signerPair signerMaterial
      signerPair.certificate (storage, since) where
  named := rfl
  key := by simp [agentServer, seenBy, agentServe, readsDocument, stored.key]
  released := by simp [agentServer, seenBy, agentServe, readsDocument, stored.key]
  imported := rfl
  report := serves_secret _ _ (report_name_not_document _) stored.report
  certificate := serves_secret _ _ (cert_name_not_document _) stored.certificate

theorem run_agent_stores (only : OnlySigner storage)
    (valid : validateJoinPolicy (some policy) = .ok policy) :
    Program.run (agentServer content) (setNetworkJoinPolicy agentHost.toPolicyHost (some policy))
      (storage, since) = (.ok (), policyStored content since policy storage, since) :=
  run_set_network_join_policy policy _ documentName _ _ _ _
    (keyImported (pairStored content since storage), since) _ agent_key_pair
    (agent_creates_signer only)
    (agent_has_signer (imported_signer_stored only)) valid
    rfl rfl rfl

def bothAgents : JoinPolicy := policyFor ['1', '2']

def firstRequest : JsonObject := agentRequest 17 (policyFor ['1'])

def secondRequest : JsonObject := agentRequest 34 (policyFor ['2'])

abbrev agentService : Service ControllerCall Storage
    (fun marked : JsonObject × (Nat × VaultRequest) => StampedAnswer marked.2)
    (Nat × StoreError) (Nat × Option AttesationReportInfo) :=
  recoveryService agentHost (fun pair => pair = signerPair) (fun _ => False) bothAgents

theorem fresh_only_signer : OnlySigner Storage.fresh := ⟨.inl rfl, rfl⟩

theorem run_first_verification (agent : KnownAgent byte digit) (wanted : JoinPolicy)
    (lists : Lists agentHost.toHost bothAgents (String.ofList (List.replicate 64 digit))) :
    Program.run (agentServer (agentRequest byte wanted))
      (BaseController.verifyAttestationReport agentHost bothAgents (agentRequest byte wanted))
      (Storage.fresh, 0) = (.ok (agentInfo digit), Storage.fresh, 0) :=
  run_agent_verified agent wanted bothAgents bothAgents _ _
    (run_get_initial_policy bothAgents documentName "SecretNotFound" _ _ rfl
      (serves_no_document rfl)) lists

def afterVerification (content : JsonObject) (info : AttesationReportInfo) :
    VaultProgram (Option AttesationReportInfo) := do
  let joinPolicy ← checked (incomingPolicy agentHost info content)
  setNetworkJoinPolicy agentHost.toPolicyHost (some joinPolicy)
  return none

theorem set_after_verification :
    (ControllerCall.setNetworkJoinPolicy content).program agentHost bothAgents =
      BaseController.verifyAttestationReport agentHost bothAgents content >>=
        afterVerification content := by
  rw [ControllerCall.program, JoinPolicyController.setNetworkJoinPolicy]
  simp only [program_bind_assoc]
  rfl

theorem run_after_verification (byte : UInt8) (digit : Char) (since : Nat) (storage : Storage)
    (only : OnlySigner storage)
    (valid : validateJoinPolicy (some (policyFor [digit])) = .ok (policyFor [digit])) :
    Program.run (agentServer (agentRequest byte (policyFor [digit])))
      (afterVerification (agentRequest byte (policyFor [digit])) (agentInfo digit))
      (storage, since) = (.ok none, policyStored (agentRequest byte (policyFor [digit])) since
        (policyFor [digit]) storage, since) := by
  have incoming := agent_incoming byte (List.mem_singleton_self digit)
  rw [afterVerification,
    Program.run_bind_ok _ _ _ _ _ _ (run_checked_ok _ _ (storage, since) incoming),
    Program.run_bind_ok _ _ _ _ _ _ (run_agent_stores only valid)]
  rfl

theorem set_body (content : JsonObject) :
    agentService.body (.setNetworkJoinPolicy content) =
      ((BaseController.verifyAttestationReport agentHost bothAgents content >>=
        afterVerification content).stamp (readsDocument agentHost.toPolicyHost) 0).mark
          content := by
  rw [← set_after_verification]
  rfl

def secondStored : Storage := policyStored secondRequest 0 (policyFor ['2']) Storage.fresh

def bothStored : Storage := policyStored firstRequest 0 (policyFor ['1']) secondStored

theorem reaches_verified (byte : UInt8) (digit : Char) (agent : KnownAgent byte digit)
    (wanted : JoinPolicy)
    (lists : Lists agentHost.toHost bothAgents (String.ofList (List.replicate 64 digit)))
    (threads : List (ControllerCall × Program (JsonObject × (Nat × VaultRequest))
      (fun marked => StampedAnswer marked.2) (Nat × StoreError)
      (Nat × Option AttesationReportInfo)))
    (reached : Reaches agentService Storage.fresh ⟨Storage.fresh, threads⟩) :
    Reaches agentService Storage.fresh ⟨Storage.fresh, threads ++
      [(.setNetworkJoinPolicy (agentRequest byte wanted),
        ((afterVerification (agentRequest byte wanted) (agentInfo digit)).stamp
          (readsDocument agentHost.toPolicyHost) 0).mark (agentRequest byte wanted))]⟩ := by
  have entered := Reaches.step _ _ reached (.enter Storage.fresh threads
    (.setNetworkJoinPolicy (agentRequest byte wanted)))
  rw [set_body] at entered
  exact reaches_stamped agentService agent_serves
    (.setNetworkJoinPolicy (agentRequest byte wanted)) threads []
    (BaseController.verifyAttestationReport agentHost bothAgents (agentRequest byte wanted))
    (afterVerification (agentRequest byte wanted))
    (agentInfo digit) (run_first_verification agent wanted lists) entered

theorem policy_stored_updates (content : JsonObject) (since : Nat) (policy : JoinPolicy)
    (storage : Storage) :
    (policyStored content since policy storage).updates =
      ⟨content, since, policyText policy⟩ :: storage.updates := by
  have named : isDocument agentHost.toPolicyHost documentName = true := by decide +kernel
  have kept : (keyImported (pairStored content since storage)).updates = storage.updates := by
    have pair : (pairStored content since storage).updates = storage.updates := by
      simp [pairStored, Storage.withSecret, isDocument, report_name_not_document,
        cert_name_not_document]
    unfold keyImported
    split
    · exact pair
    · exact pair
  rw [policyStored, Storage.withSecret, if_pos named, kept]

theorem policy_stored_only_signer (content : JsonObject) (since : Nat) (policy : JoinPolicy)
    (only : OnlySigner storage) :
    OnlySigner (policyStored content since policy storage) where
  signer := .inr (key_imported_key ⟨only.signer, only.other⟩)
  other := by
    have differ : toSigningKeyName (toSigningKeyName signerKeyName) ≠
        toSigningKeyName signerKeyName := signing_key_name_longer _
    change (keyImported (pairStored content since storage)).keys _ = none
    unfold keyImported
    split
    · exact only.other
    · simp [Storage.withKey, differ, pair_stored_keys, only.other]

theorem policy_text_policy :
    documentPolicy agentHost.toPolicyHost (policyText policy) = some policy :=
  document_policy_of agent_dependable.serializes smallSigner _

theorem reaches_second_set (threads : List (ControllerCall × Program
      (JsonObject × (Nat × VaultRequest)) (fun marked => StampedAnswer marked.2)
      (Nat × StoreError) (Nat × Option AttesationReportInfo)))
    (reached : Reaches agentService Storage.fresh ⟨Storage.fresh, threads⟩) :
    Reaches agentService Storage.fresh
      ⟨secondStored, threads ++ [(.setNetworkJoinPolicy secondRequest, .done (0, none))]⟩ :=
  reaches_stamped_end agentService agent_serves (.setNetworkJoinPolicy secondRequest) threads []
    none
    (run_after_verification 34 '2' 0 Storage.fresh fresh_only_signer (by decide +kernel))
    (reaches_verified 34 '2' second_agent (policyFor ['2']) (by decide +kernel) threads reached)

theorem reaches_both_set :
    Reaches agentService Storage.fresh ⟨bothStored,
      [(.setNetworkJoinPolicy firstRequest, .done (0, none)),
        (.setNetworkJoinPolicy secondRequest, .done (0, none))]⟩ := by
  have verified := reaches_verified 17 '1' first_agent (policyFor ['1']) (by decide +kernel) []
    .start
  have removed := reaches_second_set _ verified
  have ran := run_after_verification 17 '1' 0 secondStored
    (policy_stored_only_signer _ _ _ fresh_only_signer) (by decide +kernel)
  -- The threads are brought into shape first: requests are not to be compared by evaluation.
  rw [List.nil_append, List.singleton_append] at removed
  exact reaches_stamped_end agentService agent_serves _ [] _ none ran removed

theorem first_agent_of : agentOf agentHost firstRequest =
    some (String.ofList (List.replicate 64 '1')) := by
  rw [← first_agent.hostData]
  exact agent_of_attested (agent_valid first_agent _).attested

/-- The first agent sets the policy although the policy that it replaces does not list it. -/
theorem removed_agent_sets_policy :
    Dependable agentHost.toPolicyHost (fun pair => pair = signerPair) ∧
    ∃ pool, Reaches (recoveryService agentHost (fun pair => pair = signerPair) (fun _ => False)
        bothAgents) Storage.fresh pool ∧
      ∃ update earlier, pool.state.updates = update :: earlier ∧
        ¬Authorised agentHost bothAgents update earlier := by
  refine ⟨agent_dependable, _, reaches_both_set, ⟨firstRequest, 0, policyText (policyFor ['1'])⟩,
    secondStored.updates, policy_stored_updates _ _ _ _, ?_⟩
  rintro ⟨hostData, own, policy, read, lists⟩
  rw [first_agent_of] at own
  cases own
  rw [secondStored, policy_stored_updates, inForce, policy_text_policy] at read
  cases read
  exact absurd lists (by decide +kernel)

/-- The second agent replaces the initial policy, which lists it. -/
theorem second_update_authorised :
    let update : Update := ⟨secondRequest, 0, policyText (policyFor ['2'])⟩
    (∃ pool, Reaches (recoveryService agentHost (fun pair => pair = signerPair) (fun _ => False)
        bothAgents) Storage.fresh pool ∧ [update] <:+ pool.state.updates) ∧
      Authorised agentHost bothAgents update [] := by
  have stored : [⟨secondRequest, 0, policyText (policyFor ['2'])⟩] <:+ bothStored.updates := by
    rw [bothStored, secondStored, policy_stored_updates, policy_stored_updates]
    exact List.suffix_cons _ _
  exact ⟨⟨_, reaches_both_set, stored⟩, (update_authorised_iff_undisturbed agentHost _ _
    agent_dependable bothAgents _ reaches_both_set _ [] stored).mpr nofun⟩

theorem policy_stored_signer_stored (only : OnlySigner storage) :
    SignerStored (policyStored content since policy storage) where
  key := (imported_signer_stored only).key
  report := (secret_unwritten _ _ _ (by decide +kernel)).trans
    (imported_signer_stored only).report
  certificate := (secret_unwritten _ _ _ (by decide +kernel)).trans
    (imported_signer_stored only).certificate

theorem run_read_stored (reader content : JsonObject) (since time : Nat)
    (policy initialPolicy : JoinPolicy) (only : OnlySigner storage)
    (valid : validateJoinPolicy (some policy) = .ok policy) :
    Program.run (agentServer reader) (getNetworkJoinPolicy agentHost.toPolicyHost initialPolicy)
      (policyStored content since policy storage, time) =
      (.ok policy, policyStored content since policy storage, storage.updates.length + 1) := by
  have document := serves_document reader time (policyStored content since policy storage)
    (policyText policy) secret_after_write
  rw [policy_stored_updates, List.length_cons] at document
  exact run_get_network_join_policy agent_dependable.serializes agent_dependable.nonempty
    signerKeyName signerPair signerMaterial smallSigner smallSigner signerKey signerKey
    signerPair.certificate documentName initialPolicy policy _ _ _ agent_key_pair
    (agent_has_signer (policy_stored_signer_stored only))
    rfl document agent_key_pair.loaded rfl (beq_self_eq_true _) valid

theorem verify_body (content : JsonObject) :
    agentService.body (.verifyAttestationReport content) =
      ((BaseController.verifyAttestationReport agentHost bothAgents content >>=
        fun info => pure (some info)).stamp (readsDocument agentHost.toPolicyHost) 0).mark
        content := rfl

theorem reaches_second_verified :
    Reaches agentService Storage.fresh ⟨secondStored,
      [(.setNetworkJoinPolicy secondRequest, .done (0, none)),
        (.verifyAttestationReport secondRequest, .done (1, some (agentInfo '2')))]⟩ := by
  have entered := Reaches.step _ _ (reaches_second_set [] .start)
    (.enter secondStored _ (.verifyAttestationReport secondRequest))
  rw [verify_body] at entered
  have read := run_read_stored secondRequest secondRequest 0 0 (policyFor ['2']) bothAgents
    fresh_only_signer (by decide +kernel)
  have ran := run_agent_verified second_agent (policyFor ['2']) bothAgents
    (policyFor ['2']) _ _ read (by decide +kernel)
  exact reaches_stamped agentService agent_serves
    (.verifyAttestationReport secondRequest)
    [(.setNetworkJoinPolicy secondRequest, .done (0, none))] [] _ _ _ ran entered

/-- The agent that has set the policy is verified against it. -/
theorem second_agent_not_refused :
    ∃ pool, Reaches (recoveryService agentHost (fun pair => pair = signerPair) (fun _ => False)
        bothAgents) Storage.fresh pool ∧
      (.verifyAttestationReport secondRequest, .done (1, some (agentInfo '2'))) ∈ pool.threads ∧
      (∃ update earlier, asOf pool.state.updates 1 = update :: earlier ∧
        agentOf agentHost update.content = some (agentSnpReport 34).hostData) ∧
      ∀ error, (.verifyAttestationReport secondRequest, .fail (1, error)) ∉ pool.threads := by
  have valid := agent_valid second_agent (policyFor ['2'])
  have made : asOf secondStored.updates 1 =
      [⟨secondRequest, 0, policyText (policyFor ['2'])⟩] := by
    rw [secondStored, policy_stored_updates]
    rfl
  have own := agent_of_attested valid.attested
  refine ⟨_, reaches_second_verified, by simp, ⟨_, _, made, own⟩, ?_⟩
  intro error failed
  exact ((writer_of_policy_not_refused agentHost _ _ agent_dependable (fun _ => rfl) bothAgents _
    reaches_second_verified secondRequest _ _ valid 1).2 error failed).2 _ _ made own

end CleanRoom.Recovery
