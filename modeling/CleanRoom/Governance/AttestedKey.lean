import CleanRoom.Governance.CleanRoomEndpoints
import CleanRoom.Library.Encodings

/-!
# Whose key signed the payload

Four endpoints take a signed payload from a clean room. Each checks the attestation and the
signature with a public key in the request. `putEvent` takes the same key for both. The other
three compare the report data with the key under `encrypt` and verify the signature with the
key under `sign`, and nothing relates the two.
-/

namespace CleanRoom.Governance

open JavaScript Hex ByteFile Throwing

/-- The endpoints with a signed payload, with the parameters of their paths. -/
inductive SignedEndpoint where
  | putSecret (secretName : String)
  | setDelegatePolicy (delegateType delegateId : String)
  | generateEndorsedCert
  | putEvent (query : String)

/-- A request without authentication is answered with success. -/
def Accepts (host : CleanRoomHost) (endpoint : SignedEndpoint) (contractId : String)
    (body : JsValue) (store : AppStore) : Prop :=
  match endpoint with
  | .putSecret secretName =>
      ∃ result, putSecretByCleanRoom host contractId secretName body store = .ok result
  | .setDelegatePolicy delegateType delegateId =>
      ∃ result, setDelegatePolicy host contractId delegateType delegateId body store = .ok result
  | .generateEndorsedCert => ∃ result, generateEndorsedCert host contractId body store = .ok result
  | .putEvent query => ∃ result, putEvent host .noAuth contractId query body store = .ok result

def SignedEndpoint.delegatedPolicies (endpoint : SignedEndpoint) (contractId : String) :
    Except String (Option (List String)) :=
  match endpoint with
  | .putSecret _ => .ok none
  | .setDelegatePolicy _ _ => .ok none
  | .generateEndorsedCert => (toEndorsedCertPolicyKey contractId).map fun key => some [key]
  | .putEvent _ => (toEventsPolicyKey contractId).map fun key => some [key]

def SignedEndpoint.attestedPart : SignedEndpoint → String
  | .putSecret _ => "encrypt"
  | .setDelegatePolicy _ _ => "encrypt"
  | .generateEndorsedCert => "encrypt"
  | .putEvent _ => "sign"

def ReportsKey (host : CleanRoomHost) (platform : TeePlatform) (reportData key : String) : Prop :=
  jsLength (expectedReportData host platform key) = 64 ∧
    presentedReportData host platform reportData =
      expectedReportData host platform key ++ String.ofList (List.replicate 64 '0')

/-- The key that verified the signature of the payload is the key whose digest
the accepted attestation reports. -/
def SignedByAttestedKey (host : CleanRoomHost) (endpoint : SignedEndpoint) (contractId : String)
    (body : JsValue) (store : AppStore) : Prop :=
  ∃ platform delegated reportData key,
    getAttestationVerifier host (body.field "platform") = .ok platform ∧
    endpoint.delegatedPolicies contractId = .ok delegated ∧
    verifyAttestation host store.policySource platform contractId (body.field "attestation")
      delegated = .ok reportData ∧
    publicKeyOf host body "sign" = .ok key ∧ ReportsKey host platform reportData key

theorem or_refuse_ok {Value : Type} (code : String) (result : Except String Value) (value : Value)
    (returned : orRefuse code result = .ok value) : result = .ok value := by
  cases result with
  | ok found =>
      cases returned
      rfl
  | error message => cases returned

theorem or_throw_ok {Value : Type} (result : Except String Value) (value : Value)
    (returned : orThrow result = .ok value) : result = .ok value := by
  cases result with
  | ok found =>
      cases returned
      rfl
  | error message => cases returned

variable {host : CleanRoomHost} {endpoint : SignedEndpoint} {platform : TeePlatform}
  {body : JsValue} {contractId : String} {bytes : Bytes} {store : AppStore}
  {reportData key : String}

theorem verify_report_data_ok (verified : verifyReportData host platform reportData key = .ok ()) :
    ReportsKey host platform reportData key := by
  unfold verifyReportData at verified
  obtain ⟨_, verified⟩ := of_guard verified
  obtain ⟨digestLength, verified⟩ := of_guard verified
  obtain ⟨same, _⟩ := of_guard verified
  have length := not_not.mp digestLength
  refine ⟨length, ?_⟩
  rw [not_not.mp same, padEndZeros, length]

theorem verify_attestation_and_report_data_ok (host : CleanRoomHost) (source : PolicySource)
    (contractId : String) (body : JsValue) (getReportData : Except String String)
    (delegated : Option (List String)) (reportData : String)
    (verified : verifyAttestationAndReportData host source contractId body getReportData delegated =
      .ok reportData) :
    ∃ platform key, getAttestationVerifier host (body.field "platform") = .ok platform ∧
      verifyAttestation host source platform contractId (body.field "attestation") delegated =
        .ok reportData ∧
      getReportData = .ok key ∧ ReportsKey host platform reportData key := by
  unfold verifyAttestationAndReportData at verified
  obtain ⟨platform, chosen, attested⟩ := of_bind verified
  obtain ⟨found, evidence, reported⟩ := of_bind attested
  obtain ⟨_, compared, returned⟩ := of_bind reported
  cases returned
  obtain ⟨key, decoded, matched⟩ := of_bind (or_refuse_ok _ _ _ compared)
  exact ⟨platform, key, or_refuse_ok _ _ _ chosen, or_refuse_ok _ _ _ evidence, decoded,
    verify_report_data_ok matched⟩

structure Checked (host : CleanRoomHost) (endpoint : SignedEndpoint) (contractId : String)
    (body : JsValue) (store : AppStore) (delegated : Option (List String))
    (reportData : String) : Prop where
  present : ∀ part, body.get part = .ok (body.field part)
  policies : endpoint.delegatedPolicies contractId = .ok delegated
  attestation : verifyAttestationAndReportData host store.policySource contractId body
    (publicKeyOf host body endpoint.attestedPart) delegated = .ok reportData
  payload : ∃ data, verifiedPayload host body = .ok data

theorem require_part_ok (part code message : String)
    (required : requirePart body part code message = .ok ()) (other : String) :
    body.get other = .ok (body.field other) := by
  obtain ⟨_, found, _⟩ := of_bind required
  cases body <;> first | rfl | cases found

theorem accepts_checked (accepted : Accepts host endpoint contractId body store) :
    ∃ delegated reportData,
      Checked host endpoint contractId body store delegated reportData := by
  cases endpoint with
  | putSecret secretName | setDelegatePolicy delegateType delegateId =>
      obtain ⟨result, returned⟩ := accepted
      obtain ⟨_, required, afterParts⟩ := of_bind returned
      obtain ⟨reportData, attested, afterAttestation⟩ := of_bind afterParts
      obtain ⟨data, signed, _⟩ := of_bind afterAttestation
      exact ⟨none, reportData, require_part_ok _ _ _ required, rfl, attested, data, signed⟩
  | generateEndorsedCert =>
      obtain ⟨result, returned⟩ := accepted
      obtain ⟨_, required, afterFirst⟩ := of_bind returned
      obtain ⟨_, _, afterParts⟩ := of_bind afterFirst
      obtain ⟨key, keyed, afterKey⟩ := of_bind afterParts
      obtain ⟨reportData, attested, afterAttestation⟩ := of_bind afterKey
      obtain ⟨data, signed, _⟩ := of_bind afterAttestation
      have policies := (@map_eq_ok _ _ _ _ (fun key => some [key]) _).mpr
        ⟨key, or_throw_ok _ _ keyed, rfl⟩
      exact ⟨some [key], reportData, require_part_ok _ _ _ required, policies, attested, data,
        signed⟩
  | putEvent query =>
      obtain ⟨result, returned⟩ := accepted
      obtain ⟨_, required, afterFirst⟩ := of_bind returned
      obtain ⟨_, _, afterSecond⟩ := of_bind afterFirst
      obtain ⟨_, _, afterParts⟩ := of_bind afterSecond
      obtain ⟨_, afterParts⟩ := of_guard afterParts
      obtain ⟨key, keyed, afterKey⟩ := of_bind afterParts
      obtain ⟨_, caller, afterAttestation⟩ := of_bind afterKey
      obtain ⟨reportData, attested, _⟩ := of_bind caller
      obtain ⟨data, signed, _⟩ := of_bind afterAttestation
      have policies := (@map_eq_ok _ _ _ _ (fun key => some [key]) _).mpr
        ⟨key, or_throw_ok _ _ keyed, rfl⟩
      exact ⟨some [key], reportData, require_part_ok _ _ _ required, policies, attested, data,
        signed⟩

theorem verified_payload_key (data : Bytes)
    (present : ∀ part, body.get part = .ok (body.field part))
    (verified : verifiedPayload host body = .ok data) :
    ∃ key, publicKeyOf host body "sign" = .ok key := by
  obtain ⟨decoded, _, signed⟩ := of_bind verified
  obtain ⟨_, checked, _⟩ := of_bind signed
  obtain ⟨_, _, first⟩ := of_bind (or_refuse_ok _ _ _ checked)
  obtain ⟨_, _, second⟩ := of_bind first
  obtain ⟨keyText, readKey, third⟩ := of_bind second
  obtain ⟨key, keyDecoded, _⟩ := of_bind third
  exact ⟨key, bind_eq_ok.mpr ⟨_, present "sign", bind_eq_ok.mpr ⟨keyText, readKey, keyDecoded⟩⟩⟩

theorem to_upper_case_lower_hex :
    host.toUpperCase (lowerHexString bytes) = hexString bytes := by
  unfold CleanRoomHost.toUpperCase lowerHexString hexString
  rw [String.toList_ofList, ← to_upper_lower_hex, List.map_eq_flatMap]
  congr 1
  apply List.flatMap_congr
  intro char member
  rw [if_pos (lower_hex_text_ascii bytes char member)]

theorem js_length_hex : jsLength (hexString bytes) = 2 * bytes.length := by
  have ascii : ∀ char ∈ (hexString bytes).toList, char.toNat < 128 := by
    rw [hexString, String.toList_ofList]
    exact hex_text_ascii bytes
  rw [js_length_ascii _ ascii, hexString, String.toList_ofList, hex_text_length]

theorem js_length_lower_hex :
    jsLength (lowerHexString bytes) = 2 * bytes.length := by
  have ascii : ∀ char ∈ (lowerHexString bytes).toList, char.toNat < 128 := by
    rw [lowerHexString, String.toList_ofList]
    exact lower_hex_text_ascii bytes
  rw [js_length_ascii _ ascii, lowerHexString, String.toList_ofList, lower_hex_text_length]

theorem verify_report_data_of_reports
    (width : jsLength (presentedReportData host platform reportData) = 128)
    (reports : ReportsKey host platform reportData key) :
    verifyReportData host platform reportData key = .ok () := by
  have padded : presentedReportData host platform reportData =
      padEndZeros (expectedReportData host platform key) 128 := by
    rw [padEndZeros, reports.1]
    exact reports.2
  simp only [verifyReportData]
  rw [if_neg (not_not.mpr width), if_neg (not_not.mpr reports.1), if_neg (not_not.mpr padded)]

theorem verify_report_data_of_digest (host : CleanRoomHost) (platform : TeePlatform)
    (key : String) (size : (host.ccf.sha256Digest key).length = 32) :
    verifyReportData host platform
      (lowerHexString (host.ccf.sha256Digest key ++ List.replicate 32 0)) key = .ok () := by
  have total : (host.ccf.sha256Digest key ++ List.replicate 32 0).length = 64 := by
    rw [List.length_append, List.length_replicate, size]
  apply verify_report_data_of_reports
  · cases platform with
    | snpCaci => rw [presentedReportData, js_length_lower_hex, total]
    | snpCvm => rw [presentedReportData, to_upper_case_lower_hex, js_length_hex, total]
  · cases platform with
    | snpCaci =>
        constructor
        · rw [expectedReportData, js_length_lower_hex, size]
        · rw [presentedReportData, lower_hex_string_append, lower_hex_string_zeros]
          rfl
    | snpCvm =>
        simp only [ReportsKey, presentedReportData, expectedReportData, to_upper_case_lower_hex]
        constructor
        · rw [js_length_hex, size]
        · rw [hex_string_append, hex_string_zeros]

theorem expected_report_data_injective
    (collisionFree : Function.Injective host.ccf.sha256Digest) (left right : String)
    (same : expectedReportData host platform left = expectedReportData host platform right) :
    left = right := by
  apply collisionFree
  cases platform with
  | snpCaci => exact lower_hex_string_injective same
  | snpCvm =>
      simp only [expectedReportData, to_upper_case_lower_hex] at same
      exact hex_string_injective same

theorem reports_key_unique (collisionFree : Function.Injective host.ccf.sha256Digest)
    (reportData left right : String) (first : ReportsKey host platform reportData left)
    (second : ReportsKey host platform reportData right) : left = right := by
  apply expected_report_data_injective collisionFree
  exact String.append_left_inj _ |>.mp (first.2.symm.trans second.2)

/-- The endpoint takes both keys from one part, or the two parts hold one key. -/
def OneKey (host : CleanRoomHost) (endpoint : SignedEndpoint) (body : JsValue) : Prop :=
  match endpoint with
  | .putEvent _ => True
  | _ => publicKeyOf host body "encrypt" = publicKeyOf host body "sign"

theorem one_key_iff :
    OneKey host endpoint body ↔
      publicKeyOf host body endpoint.attestedPart = publicKeyOf host body "sign" := by
  cases endpoint <;> simp [OneKey, SignedEndpoint.attestedPart]

theorem one_key_of_signed (collisionFree : Function.Injective host.ccf.sha256Digest)
    (accepted : Accepts host endpoint contractId body store)
    (signed : SignedByAttestedKey host endpoint contractId body store) :
    OneKey host endpoint body := by
  obtain ⟨delegated, reportData, checked⟩ := accepts_checked accepted
  obtain ⟨platform, attestedKey, chosen, attested, read, reports⟩ :=
    verify_attestation_and_report_data_ok _ _ _ _ _ _ _ checked.attestation
  obtain ⟨_, _, _, key, chosen', policies', attested', decoded, reports'⟩ := signed
  -- the checks are functions of the request, so both sides speak of one report
  cases chosen.symm.trans chosen'
  cases checked.policies.symm.trans policies'
  cases attested.symm.trans attested'
  rw [one_key_iff, read, decoded,
    reports_key_unique collisionFree reportData _ _ reports reports']

theorem signed_of_one_key (accepted : Accepts host endpoint contractId body store)
    (oneKey : OneKey host endpoint body) :
    SignedByAttestedKey host endpoint contractId body store := by
  obtain ⟨delegated, reportData, checked⟩ := accepts_checked accepted
  obtain ⟨platform, attestedKey, chosen, attested, read, reports⟩ :=
    verify_attestation_and_report_data_ok _ _ _ _ _ _ _ checked.attestation
  have decoded := (one_key_iff.mp oneKey).symm.trans read
  exact ⟨platform, delegated, reportData, attestedKey, chosen, checked.policies, attested, decoded,
    reports⟩

/-- Every accepted request is signed by the attested key exactly when the key
it presents for encryption is the one it presents for the signature, or when
the endpoint is `putEvent`. -/
theorem payload_signed_by_attested_key (host : CleanRoomHost) (endpoint : SignedEndpoint)
    (contractId : String) (body : JsValue) (store : AppStore)
    (collisionFree : Function.Injective host.ccf.sha256Digest)
    (accepted : Accepts host endpoint contractId body store) :
    (∃ key, publicKeyOf host body "sign" = .ok key) ∧
      (SignedByAttestedKey host endpoint contractId body store ↔ OneKey host endpoint body) := by
  obtain ⟨_, _, checked⟩ := accepts_checked accepted
  obtain ⟨data, payload⟩ := checked.payload
  constructor
  · exact verified_payload_key data checked.present payload
  · constructor
    · exact one_key_of_signed collisionFree accepted
    · exact signed_of_one_key accepted

theorem verify_policy_claims_of_contract (source : PolicySource) (contractId : String)
    (claims : List (String × JsValue)) (delegatedPolicies : Option (List String))
    (present : (policyProps (source.contract contractId)).isEmpty = false)
    (matched : matchPolicyClaims (policyProps (source.contract contractId)) claims = .ok true) :
    verifyPolicyClaims source contractId claims delegatedPolicies = .ok () := by
  unfold verifyPolicyClaims
  simp only [present, matched]
  rfl

def sampleReport (reportData : Bytes) : SnpAttestation where
  version := 2
  guestSvn := 2
  smt := 1
  debug := 0
  familyId := []
  imageId := []
  vmpl := 0
  reportData := reportData
  measurement := []
  hostData := [1]
  idKeyDigest := []
  authorKeyDigest := []
  reportId := []
  signatureR := []
  signatureS := []
  uvmEndorsements := none

def samplePayload : String := "\x7b\"value\":\"s\"\x7d"

/-- Evidence is its report data, a digest is the text itself, and a signature
is the key with the data. The only JSON text is `samplePayload`. -/
def sampleCleanRoomHost : CleanRoomHost where
  ccf := { idleHost with sha256Digest := Encodings.utf8GetBytes }
  base64Decode text := (Encodings.fromBase64String text).map Encodings.utf8GetString
  base64ToBytes := Encodings.fromBase64String
  verifySnpEvidence evidence _ _ _ := .ok (sampleReport evidence)
  verifyCvmSnpAttestation _ := .error "not a confidential VM"
  verifySignature key signature data :=
    .ok (decide (signature = Encodings.utf8GetBytes key ++ data))
  parseJson bytes :=
    if bytes = Encodings.utf8GetBytes samplePayload then
      .ok (.object [("value", .string "s")])
    else .error "SyntaxError"
  wrapKey text key := .ok (key ++ text)
  upperCaseOther char := [char]
  sign _ data := .ok (Encodings.toBase64String data)
  signToken _ _ := .ok "token"
  generateEndorsedCert _ _ _ _ _ _ := .ok "certificate"

theorem sample_digest_injective : Function.Injective sampleCleanRoomHost.ccf.sha256Digest := by
  intro left right same
  exact String.toByteArray_inj.mp (ByteArray.ext (Array.toList_inj.mp same))

def encoded (bytes : Bytes) : JsValue := .string (Encodings.toBase64String bytes)

/-- A request with the digest of `attested` in its evidence and a payload that
is signed with `signing`. -/
def payloadRequest (attested signing payload : String) : JsValue :=
  .object [
    ("attestation", .object [
      ("evidence", encoded (Encodings.utf8GetBytes attested ++ List.replicate 32 0)),
      ("endorsements", encoded [])]),
    ("encrypt", .object [("publicKey", encoded (Encodings.utf8GetBytes attested))]),
    ("sign", .object [
      ("publicKey", encoded (Encodings.utf8GetBytes signing)),
      ("signature", encoded (Encodings.utf8GetBytes signing ++ Encodings.utf8GetBytes payload))]),
    ("data", encoded (Encodings.utf8GetBytes payload))]

def signedRequest (attested signing : String) : JsValue :=
  payloadRequest attested signing samplePayload

def sampleStore : AppStore where
  ledger :=
    { members := ∅
      proposals := ∅
      gov := fun table =>
        if table = .cleanRoomPolicy "c1" then
          AList.insert "x-ms-sevsnpvm-hostdata" (.array [.string "01"]) ∅
        else ∅
      contracts := ∅
      documents := ∅
      seqno := 0 }
  kv := fun _ => ∅

def attestedKey : String := "an attested key of 32 characters"

def strangeKey : String := "the key of the untrusted storage"

@[simp] theorem sample_decodes_bytes :
    decodedBytes sampleCleanRoomHost (encoded bytes) = .ok bytes :=
  Encodings.from_base64_to_base64 bytes

theorem sample_decodes_key (key : String)
    (plain : Encodings.utf8GetString (Encodings.utf8GetBytes key) = key) :
    decodedKey sampleCleanRoomHost (encoded (Encodings.utf8GetBytes key)) = .ok key := by
  unfold decodedKey encoded
  refine map_eq_ok.mpr ⟨_, Encodings.from_base64_to_base64 _, plain⟩

theorem attested_key_plain :
    Encodings.utf8GetString (Encodings.utf8GetBytes attestedKey) = attestedKey := by
  decide +kernel

theorem strange_key_plain :
    Encodings.utf8GetString (Encodings.utf8GetBytes strangeKey) = strangeKey := by
  decide +kernel

def sampleReportData : Bytes := Encodings.utf8GetBytes attestedKey ++ List.replicate 32 0

theorem sample_attestation_accepted (source : PolicySource) (contractId signing payload : String)
    (admitted : verifyPolicyClaims source contractId (sampleReport sampleReportData).getClaims
      none = .ok ()) :
    verifyAttestationAndReportData sampleCleanRoomHost source contractId
      (payloadRequest attestedKey signing payload)
      (publicKeyOf sampleCleanRoomHost (payloadRequest attestedKey signing payload) "encrypt")
      none =
      .ok (lowerHexString sampleReportData) := by
  have attested : verifyAttestation sampleCleanRoomHost source .snpCaci contractId
      ((payloadRequest attestedKey signing payload).field "attestation") none =
      .ok (lowerHexString sampleReportData) :=
    bind_eq_ok.mpr ⟨_, rfl, bind_eq_ok.mpr ⟨_, sample_decodes_bytes,
      bind_eq_ok.mpr ⟨_, rfl, bind_eq_ok.mpr ⟨_, sample_decodes_bytes,
        bind_eq_ok.mpr ⟨none, rfl, bind_eq_ok.mpr ⟨_, rfl,
          bind_eq_ok.mpr ⟨(), admitted, rfl⟩⟩⟩⟩⟩⟩⟩
  have compared : (publicKeyOf sampleCleanRoomHost (payloadRequest attestedKey signing payload)
      "encrypt" >>= fun key => verifyReportData sampleCleanRoomHost .snpCaci
        (lowerHexString sampleReportData) key) = .ok () :=
    bind_eq_ok.mpr ⟨attestedKey, sample_decodes_key attestedKey attested_key_plain,
      verify_report_data_of_digest sampleCleanRoomHost .snpCaci attestedKey (by decide +kernel)⟩
  unfold verifyAttestationAndReportData
  refine bind_eq_ok.mpr ⟨.snpCaci, rfl, bind_eq_ok.mpr ⟨_, ?_,
    bind_eq_ok.mpr ⟨(), ?_, rfl⟩⟩⟩
  · exact congrArg (orRefuse _) attested
  · exact congrArg (orRefuse _) compared

theorem sample_payload_verified (signing payload : String)
    (plain : Encodings.utf8GetString (Encodings.utf8GetBytes signing) = signing) :
    verifiedPayload sampleCleanRoomHost (payloadRequest attestedKey signing payload) =
      .ok (Encodings.utf8GetBytes payload) := by
  have signed : verifySignature sampleCleanRoomHost
      ((payloadRequest attestedKey signing payload).field "sign")
      (Encodings.utf8GetBytes payload) = .ok () := by
    refine bind_eq_ok.mpr ⟨_, rfl, bind_eq_ok.mpr ⟨_, sample_decodes_bytes,
      bind_eq_ok.mpr ⟨_, rfl, bind_eq_ok.mpr
        ⟨signing, sample_decodes_key signing plain, bind_eq_ok.mpr ⟨true, ?_, rfl⟩⟩⟩⟩⟩
    exact congrArg Except.ok (decide_eq_true rfl)
  refine bind_eq_ok.mpr ⟨_, congrArg orThrow sample_decodes_bytes,
    bind_eq_ok.mpr ⟨(), ?_, rfl⟩⟩
  exact congrArg (orRefuse _) signed

theorem sample_request_accepted (signing : String)
    (plain : Encodings.utf8GetString (Encodings.utf8GetBytes signing) = signing) :
    Accepts sampleCleanRoomHost (.putSecret "key") "c1" (signedRequest attestedKey signing)
      sampleStore :=
  ⟨_, bind_eq_ok.mpr ⟨(), rfl, bind_eq_ok.mpr
    ⟨_, sample_attestation_accepted _ _ signing _ (by decide +kernel), bind_eq_ok.mpr
      ⟨_, sample_payload_verified signing _ plain, rfl⟩⟩⟩⟩

/-- The secret is stored although its payload was signed with a key that no
attestation reports. -/
theorem strange_key_signs_secret :
    Function.Injective sampleCleanRoomHost.ccf.sha256Digest ∧
      Accepts sampleCleanRoomHost (.putSecret "key") "c1" (signedRequest attestedKey strangeKey)
        sampleStore ∧
      ¬ SignedByAttestedKey sampleCleanRoomHost (.putSecret "key") "c1"
        (signedRequest attestedKey strangeKey) sampleStore := by
  have accepted := sample_request_accepted strangeKey strange_key_plain
  refine ⟨sample_digest_injective, accepted, ?_⟩
  intro signed
  have oneKey : decodedKey sampleCleanRoomHost (encoded (Encodings.utf8GetBytes attestedKey)) =
      decodedKey sampleCleanRoomHost (encoded (Encodings.utf8GetBytes strangeKey)) :=
    one_key_of_signed sample_digest_injective accepted signed
  rw [sample_decodes_key _ attested_key_plain, sample_decodes_key _ strange_key_plain] at oneKey
  exact absurd (Except.ok.inj oneKey) (by decide +kernel)

theorem attested_key_signs_secret :
    SignedByAttestedKey sampleCleanRoomHost (.putSecret "key") "c1"
      (signedRequest attestedKey attestedKey) sampleStore :=
  (payload_signed_by_attested_key _ _ _ _ _ sample_digest_injective
    (sample_request_accepted attestedKey attested_key_plain)).2.mpr rfl

end CleanRoom.Governance
