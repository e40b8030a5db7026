import CleanRoom.Attestation.ChainLinks
import CleanRoom.Recovery.BaseController

/-!
# What an accepted report says

The two checks of signatures are taken as they are meant: a report whose signature is
accepted was signed by the hardware, and an endorsement that is accepted comes from its
issuer. Then a request that the recovery service accepts, and a certificate that the
locator returns, come with a genuine report that is bound to the public key or to the
payload. Neither caller asks for an endorsement of the launch measurement.
-/

namespace CleanRoom.Recovery

open Attestation ByteFile Encodings Hex
open JavaScript Throwing X509Chain

theorem window_append_take (bytes behind : Bytes) (size offset count : Nat)
    (inside : offset + count ≤ size) (long : size ≤ bytes.length) :
    window (bytes ++ behind) offset count = window (bytes.take size) offset count := by
  apply List.map_congr_left
  intro position member
  have small := List.mem_range.mp member
  rw [List.getD_append _ _ _ _ (by omega)]
  simp only [List.getD_eq_getElem?_getD]
  rw [List.getElem?_take_of_lt (by omega)]

structure SameClaims (left right : ReportFields) : Prop where
  policy : left.policy = right.policy
  reportData : left.reportData = right.reportData
  measurement : left.measurement = right.measurement
  hostData : left.hostData = right.hostData

theorem marshall_same_claims (host : Host) (decodedReport : Bytes)
    (whole : (decodedReport.take signatureOffset).length = signatureOffset) :
    SameClaims (marshall host decodedReport)
      (reportFields (decodedReport.take signatureOffset)) := by
  have long : signatureOffset ≤ decodedReport.length := by
    rw [List.length_take] at whole
    omega
  have same (offset count : Nat) (inside : offset + count ≤ signatureOffset) :=
    window_append_take decodedReport (host.memoryAfter decodedReport) signatureOffset offset count
      inside long
  constructor
  · simp only [marshall, reportFields, same 8 8 (by decide)]
  · exact same 80 64 (by decide)
  · exact same 144 48 (by decide)
  · exact same 192 32 (by decide)

/-- What the two signature checks are meant to establish. -/
structure SignatureTrust (host : Host) where
  genuine : Bytes → Prop
  whole : ∀ region, genuine region → region.length = signatureOffset
  reportChecked : ∀ decodedReport text, verifyReportSignature host (marshall host decodedReport)
    text decodedReport = .ok () → genuine (decodedReport.take signatureOffset)
  issued : CoseSign1Message → Prop
  endorsementChecked : ∀ message, verifyUvm host message = .ok () → issued message

def NamesMeasurement (host : Host) (message : CoseSign1Message) (measurement : Bytes) : Prop :=
  ∃ named, getUvmPayload host message = .ok (some named) ∧
    host.toLower named = host.toLower (hexString measurement)

def EndorsedIfPresented (host : Host) (trust : SignatureTrust host)
    (uvmEndorsements : Option String) (measurement : Bytes) : Prop :=
  ∀ text, uvmEndorsements = some text → text ≠ "" →
    ∃ message, getDecodedUvmEndorsement host text = .ok message ∧ trust.issued message ∧
      NamesMeasurement host message measurement

def PresentsGenuine (host : Host) (trust : SignatureTrust host) (evidence : Option String)
    (region : Bytes) : Prop :=
  ∃ decodedReport, fromBase64 evidence = .ok decodedReport ∧
    region = decodedReport.take signatureOffset ∧ trust.genuine region

def HostDataExpected (host : Host) (expected : List String) (hostData : Bytes) : Prop :=
  ∃ value ∈ expected, host.toUpper value = hexString hostData

def BindsBytes (host : Host) (bytes reportData : Bytes) : Prop :=
  reportData = host.sha256 bytes ++ List.replicate 32 0

theorem present_text_some (text : String) (nonempty : text ≠ "") :
    presentText (some text) = some text := by
  simp [presentText, nonempty]

theorem lower_cased_some (host : Host) (text : Option String) (lower : String)
    (found : lowerCased host text = some lower) :
    ∃ original, text = some original ∧ host.toLower original = lower := by
  obtain ⟨original, present, lowered⟩ := Option.map_eq_some_iff.mp found
  refine ⟨original, ?_, lowered⟩
  cases text with
  | none => cases present
  | some text =>
      simp only [presentText] at present
      split at present
      · cases present
      · exact present

theorem verify_uvm_endosement_ok (host : Host) (fields : ReportFields) (text : String)
    (endorsement : Option CoseSign1Message)
    (verified : verifyUvmEndosement host fields (some text) = .ok endorsement) :
    ∃ message, getDecodedUvmEndorsement host text = .ok message ∧
      verifyUvm host message = .ok () ∧ NamesMeasurement host message fields.measurement := by
  obtain ⟨message, decoded, rest⟩ := of_bind verified
  obtain ⟨_, checked, rest⟩ := of_bind rest
  obtain ⟨presented, payload, rest⟩ := of_bind rest
  refine ⟨message, decoded, checked, ?_⟩
  obtain ⟨matching, _⟩ := of_guard rest
  push Not at matching
  obtain ⟨_, present, same⟩ := matching
  obtain ⟨lower, lowerIs⟩ := Option.ne_none_iff_exists'.mp present
  obtain ⟨named, rfl, lowerNamed⟩ := lower_cased_some host presented lower lowerIs
  obtain ⟨measured, measuredIs, lowerMeasured⟩ :=
    lower_cased_some host _ lower (same.symm.trans lowerIs)
  rw [← Option.some.inj measuredIs] at lowerMeasured
  exact ⟨named, payload, lowerNamed.trans lowerMeasured.symm⟩

theorem accepted_report (host : Host) (trust : SignatureTrust host)
    (evidence platformCertificates uvmEndorsements : Option String) (report : SnpReport)
    (verified : verifySnpAttestation host evidence platformCertificates uvmEndorsements =
      .ok report) :
    ∃ region, PresentsGenuine host trust evidence region ∧
      report.reportData = hexString (reportFields region).reportData ∧
      report.hostData = hexString (reportFields region).hostData ∧
      report.debugAllowed = isDebugAllowed (reportFields region) ∧
      EndorsedIfPresented host trust uvmEndorsements (reportFields region).measurement := by
  obtain ⟨decodedReport, _, endorsement, readReport, _, signed, endorsed, rfl⟩ :=
    verify_snp_attestation_ok _ _ _ report verified
  have genuine := trust.reportChecked decodedReport _ signed
  have same := marshall_same_claims host decodedReport (trust.whole _ genuine)
  refine ⟨_, ⟨decodedReport, readReport, rfl, genuine⟩, congrArg hexString same.reportData,
    congrArg hexString same.hostData, ?_, ?_⟩
  · simp only [SnpReport.ofFields, isDebugAllowed, same.policy]
  · intro text presented nonempty
    rw [presented, present_text_some text nonempty] at endorsed
    obtain ⟨message, decoded, checked, names⟩ :=
      verify_uvm_endosement_ok host _ text endorsement endorsed
    rw [same.measurement] at names
    exact ⟨message, decoded, trust.endorsementChecked message checked, names⟩

theorem binds_bytes_of_text (host : Host) (bytes reportData : Bytes)
    (same : hexString reportData = hexString (host.sha256 bytes) ++ zeroDigits) :
    BindsBytes host bytes reportData :=
  eq_append_zeros same

/-- A caller of the recovery service: the report is genuine and not debuggable, its
host data is in the join policy, and it is bound to the public key. -/
structure AttestedCaller (host : ServiceHost) (trust : SignatureTrust host.toHost)
    (policy : NetworkJoinPolicy) (attestation : CcfSnpCACIAttestationReport)
    (info : AttesationReportInfo) (region : Bytes) : Prop where
  genuine : PresentsGenuine host.toHost trust attestation.evidence region
  notDebuggable : isDebugAllowed (reportFields region) = false
  endorsed : EndorsedIfPresented host.toHost trust attestation.uvmEndorsements
    (reportFields region).measurement
  hostData : HostDataExpected host.toHost policy.hostData (reportFields region).hostData
  answered : info.hostData = hexString (reportFields region).hostData
  bound : BindsBytes host.toHost (utf8GetBytes info.publicKey)
    (reportFields region).reportData

theorem verify_snp_report_eq_ok (host : ServiceHost) (attestation : CcfSnpCACIAttestationReport)
    (report : SnpReport) :
    verifySnpReport host attestation = .ok report ↔
      verifySnpAttestation host.toHost attestation.evidence attestation.endorsements
        attestation.uvmEndorsements = .ok report := by
  unfold verifySnpReport
  split
  · next found same => rw [same]; simp
  · next message same => rw [same]; simp

theorem check_host_data_ok (host : ServiceHost) (region : Bytes)
    (policy : Option NetworkJoinPolicy)
    (checked : checkHostData host (hexString (reportFields region).hostData) policy = .ok ()) :
    ∃ found, policy = some found ∧
      HostDataExpected host.toHost found.hostData (reportFields region).hostData := by
  cases policy with
  | none => cases checked
  | some found =>
      simp only [checkHostData] at checked
      split at checked
      · next listed =>
          obtain ⟨value, member, same⟩ := List.any_eq_true.mp listed
          exact ⟨found, rfl, value, member, beq_iff_eq.mp same⟩
      · cases checked

theorem verify_attestation_report_ok (host : ServiceHost) (trust : SignatureTrust host.toHost)
    (policy : Except ServiceError (Option NetworkJoinPolicy)) (content : JsonObject)
    (info : AttesationReportInfo)
    (verified : verifyAttestationReport host policy content = .ok info) :
    ∃ inForce attestation region, policy = .ok (some inForce) ∧
      requestAttestation host content = .ok attestation ∧
      getPublicKey host content = .ok info.publicKey ∧
      AttestedCaller host trust inForce attestation info region := by
  obtain ⟨attestation, requested, rest⟩ := of_bind verified
  obtain ⟨report, accepted, rest⟩ := of_bind rest
  obtain ⟨region, genuine, reportData, hostData, debug, endorsed⟩ :=
    accepted_report host.toHost trust _ _ _ report ((verify_snp_report_eq_ok host _ _).mp accepted)
  obtain ⟨notDebuggable, rest⟩ := of_guard rest
  obtain ⟨joinPolicy, stored, rest⟩ := of_bind rest
  obtain ⟨_, checked, rest⟩ := of_bind rest
  obtain ⟨publicKey, presented, rest⟩ := of_bind rest
  rw [hostData] at checked
  obtain ⟨inForce, isSet, expected⟩ := check_host_data_ok host region joinPolicy checked
  rw [isSet] at stored
  obtain ⟨padded, rest⟩ := of_guard rest
  cases rest
  rw [ne_eq, not_not, reportData] at padded
  exact ⟨inForce, attestation, region, stored, requested, presented, {
    genuine := genuine
    notDebuggable := by rw [← debug]; exact Bool.eq_false_iff.mpr notDebuggable
    endorsed := endorsed
    hostData := expected
    answered := hostData
    bound := binds_bytes_of_text host.toHost _ _ padded }⟩

/-- A payload whose report is genuine, has expected host data and is bound to it. -/
structure AttestedPayload (host : LocatorHost) (trust : SignatureTrust host.toHost)
    (locator : ServiceCertLocator) (report : SnpCACIAttestationReport) (payload region : Bytes) :
    Prop where
  genuine : PresentsGenuine host.toHost trust report.attestation region
  endorsed : EndorsedIfPresented host.toHost trust report.uvmEndorsements
    (reportFields region).measurement
  hostData : HostDataExpected host.toHost locator.hostData (reportFields region).hostData
  bound : BindsBytes host.toHost payload (reportFields region).reportData

theorem check_service_report_ok (host : LocatorHost) (trust : SignatureTrust host.toHost)
    (locator : ServiceCertLocator) (serviceCertReport : ServiceCertReport)
    (report : SnpCACIAttestationReport) (payload : Bytes)
    (checked : checkServiceReport host locator serviceCertReport report payload = .ok ()) :
    ∃ region, AttestedPayload host trust locator report payload region := by
  obtain ⟨snpReport, verified, rest⟩ := of_bind checked
  obtain ⟨region, genuine, reportData, hostData, _, endorsed⟩ :=
    accepted_report host.toHost trust _ _ _ snpReport verified
  obtain ⟨listed, rest⟩ := of_guard rest
  rw [not_not] at listed
  obtain ⟨value, member, same⟩ := List.any_eq_true.mp listed
  obtain ⟨_, rest⟩ := of_guard rest
  obtain ⟨padded, _⟩ := of_guard rest
  rw [ne_eq, not_not, reportData] at padded
  exact ⟨region, genuine, endorsed, ⟨value, member, (beq_iff_eq.mp same).trans hostData⟩,
    binds_bytes_of_text host.toHost _ _ padded⟩

theorem download_service_certificate_pem_ok (host : LocatorHost)
    (trust : SignatureTrust host.toHost) (locator : ServiceCertLocator)
    (extractCertificate : Bytes → Except String String)
    (response : Except String (Option ServiceCertReport)) (pem : String)
    (restricted : locator.allowsAll = false)
    (downloaded : downloadServiceCertificatePem host locator extractCertificate response =
      .ok pem) :
    ∃ serviceCertReport report payload region, response = .ok (some serviceCertReport) ∧
      serviceCertReport.report = some report ∧
      fromBase64 serviceCertReport.reportDataPayload = .ok payload ∧
      extractCertificate payload = .ok pem ∧
      AttestedPayload host trust locator report payload region := by
  obtain ⟨answer, answered, rest⟩ := of_bind downloaded
  cases answer with
  | none => cases rest
  | some serviceCertReport =>
      obtain ⟨payload, decoded, rest⟩ := of_bind rest
      cases returned : serviceCertReport.report with
      | none => simp [returned, restricted] at rest
      | some report =>
          rw [returned] at rest
          obtain ⟨_, checked, extracted⟩ := of_bind rest
          obtain ⟨region, attested⟩ :=
            check_service_report_ok host trust locator serviceCertReport report payload checked
          exact ⟨serviceCertReport, report, payload, region, answered, returned, decoded,
            extracted, attested⟩

/-- Every request that the recovery service accepts has an attested caller, and every
certificate that the locator returns under restricted host data comes from an attested
payload. -/
theorem accepted_reports_attested (service : ServiceHost)
    (serviceTrust : SignatureTrust service.toHost) (discovery : LocatorHost)
    (discoveryTrust : SignatureTrust discovery.toHost) :
    (∀ policy content info, verifyAttestationReport service policy content = .ok info →
      ∃ inForce attestation region, policy = .ok (some inForce) ∧
        requestAttestation service content = .ok attestation ∧
        getPublicKey service content = .ok info.publicKey ∧
        AttestedCaller service serviceTrust inForce attestation info region) ∧
    ∀ locator extractCertificate response pem, locator.allowsAll = false →
      downloadServiceCertificatePem discovery locator extractCertificate response = .ok pem →
      ∃ serviceCertReport report payload region, response = .ok (some serviceCertReport) ∧
        serviceCertReport.report = some report ∧
        fromBase64 serviceCertReport.reportDataPayload = .ok payload ∧
        extractCertificate payload = .ok pem ∧
        AttestedPayload discovery discoveryTrust locator report payload region :=
  ⟨verify_attestation_report_ok service serviceTrust,
    download_service_certificate_pem_ok discovery discoveryTrust⟩

/-! A host on which one report is signed: its report data is the hash of a short key,
and everything else in it is zero. -/

def keyReport : Bytes := overwrite smallReport 80 (utf8GetBytes "key")

def smallEndorsement : CoseSign1Message := { smallMessage smallChain with content := some [] }

/-- The host reads every endorsement as one of the measurement in the report. -/
def endorsingHost : Host :=
  { smallHost keyReport with
    decodeSign1 := fun _ => .ok smallEndorsement
    deserializeUvmPayload := fun _ => .ok (some (some (hexString (List.replicate 48 0)))) }

def serviceOn (host : Host) : ServiceHost :=
  { host with
    jsonText := fun _ => ""
    notAString := fun name => name
    serializePolicy := fun _ => "" }

def locatorOn (host : Host) : LocatorHost :=
  { host with
    serializeReport := fun _ => ""
    serializeHostData := fun _ => "" }

def signedOnce (host : Host) (region : Bytes) (whole : region.length = signatureOffset)
    (only : ∀ key data signature, host.ecdsaVerifyData key data signature = true → data = region) :
    SignatureTrust host where
  genuine := fun found => found = region
  whole := by
    intro found same
    rw [same, whole]
  reportChecked := by
    intro decodedReport text verified
    obtain ⟨_, _, _, _, key, _, _, _, verifies⟩ :=
      verify_report_signature_ok verified
    exact only key _ _ verifies
  issued := fun message => verifyUvm host message = .ok ()
  endorsementChecked := fun _ verified => verified

theorem endorsing_host_verifies (key : EcdsaKey) (data signature : Bytes)
    (verifies : endorsingHost.ecdsaVerifyData key data signature = true) :
    data = keyReport.take signatureOffset :=
  beq_iff_eq.mp (Bool.and_eq_true_iff.mp verifies).1

def endorsingTrust : SignatureTrust endorsingHost :=
  signedOnce endorsingHost (keyReport.take signatureOffset) (by decide +kernel)
    endorsing_host_verifies

def smallPolicy : NetworkJoinPolicy := ⟨[zeroDigits]⟩

def smallRequest (endorsement : JsonObject) : JsonObject :=
  [("attestation", .object (("evidence", .string (toBase64String keyReport)) ::
      ("endorsements", .string (toBase64String (smallChainBytes smallChain))) :: endorsement)),
    ("sign", .object [("publicKey", .string "a2V5")])]

def smallLocator : ServiceCertLocator := ⟨[zeroDigits], List.cons_ne_nil _ _⟩

def smallServiceReport : ServiceCertReport :=
  ⟨some ⟨smallEvidence keyReport, smallPlatform smallChain, some "AA=="⟩, some "a2V5"⟩

theorem small_endorsement_verified :
    verifyUvmEndosement endorsingHost (marshall endorsingHost keyReport) (some "AA==") =
      .ok (some smallEndorsement) := by
  refine bind_eq_ok.mpr ⟨smallEndorsement, by rfl, ?_⟩
  refine bind_eq_ok.mpr ⟨(), by decide +kernel, ?_⟩
  refine bind_eq_ok.mpr ⟨some (hexString (List.replicate 48 0)), by rfl, ?_⟩
  exact if_neg (by decide +kernel)

theorem endorsing_host_signed :
    verifyReportSignature endorsingHost (marshall endorsingHost keyReport)
      (utf8GetString (smallChainBytes smallChain)) keyReport = .ok () :=
  small_report_signed endorsingHost keyReport smallChain smallLeaf rfl
    (small_chain_supplied _ rfl) rfl (by decide +kernel) (by decide +kernel)

/-- Both callers accept the endorsed report, for the key and for the payload. -/
theorem endorsed_report_attested :
    (∃ inForce attestation info region, attestation.uvmEndorsements = some "AA==" ∧
      AttestedCaller (serviceOn endorsingHost) endorsingTrust inForce attestation info region) ∧
    ∃ report payload region, report.uvmEndorsements = some "AA==" ∧
      AttestedPayload (locatorOn endorsingHost) endorsingTrust smallLocator report payload
        region := by
  obtain ⟨callers, payloads⟩ := accepted_reports_attested (serviceOn endorsingHost)
    endorsingTrust (locatorOn endorsingHost) endorsingTrust
  have accepted := small_report_accepted endorsingHost keyReport smallChain (some "AA==") _
    endorsing_host_signed small_endorsement_verified
  have requested : requestAttestation (serviceOn endorsingHost)
      (smallRequest [("uvm_endorsements", .string "AA==")]) =
      .ok ⟨smallEvidence keyReport, smallPlatform smallChain, some "AA=="⟩ := by rfl
  constructor
  · have returned : verifyAttestationReport (serviceOn endorsingHost) (.ok (some smallPolicy))
        (smallRequest [("uvm_endorsements", .string "AA==")]) = .ok ⟨"key", zeroDigits⟩ := by
      refine bind_eq_ok.mpr ⟨_, requested, bind_eq_ok.mpr ⟨_,
        (verify_snp_report_eq_ok _ _ _).mpr accepted, ?_⟩⟩
      decide +kernel
    obtain ⟨inForce, attestation, region, _, same, _, attested⟩ := callers _ _ _ returned
    rw [requested] at same
    cases same
    exact ⟨inForce, _, _, region, rfl, attested⟩
  · have checked : checkServiceReport (locatorOn endorsingHost) smallLocator smallServiceReport
        ⟨smallEvidence keyReport, smallPlatform smallChain, some "AA=="⟩ (utf8GetBytes "key") =
        .ok () := by
      refine bind_eq_ok.mpr ⟨_, accepted, ?_⟩
      decide +kernel
    have returned : downloadServiceCertificatePem (locatorOn endorsingHost) smallLocator
        (fun _ => .ok "pem") (.ok (some smallServiceReport)) = .ok "pem" := by
      refine bind_eq_ok.mpr ⟨_, rfl, bind_eq_ok.mpr ⟨utf8GetBytes "key",
        by decide +kernel, ?_⟩⟩
      exact bind_eq_ok.mpr ⟨(), checked, rfl⟩
    obtain ⟨serviceCertReport, report, payload, region, answered, presented, _, _, attested⟩ :=
      payloads _ _ _ _ (by decide +kernel) returned
    cases answered
    cases presented
    exact ⟨_, payload, region, rfl, attested⟩

/-- A request without an endorsement is accepted, on a host where no endorsement can
even be decoded. -/
theorem unendorsed_caller_accepted :
    let host := serviceOn (smallHost keyReport)
    verifyAttestationReport host (.ok (some smallPolicy)) (smallRequest []) =
        .ok ⟨"key", zeroDigits⟩ ∧
      ∀ text message, getDecodedUvmEndorsement host.toHost text ≠ .ok message := by
  have signed := small_report_signed (smallHost keyReport) keyReport smallChain smallLeaf rfl
    (small_chain_supplied _ rfl) rfl (by decide +kernel) (by decide +kernel)
  have accepted := small_report_accepted _ keyReport smallChain none none signed rfl
  constructor
  · refine bind_eq_ok.mpr ⟨⟨smallEvidence keyReport, smallPlatform smallChain, none⟩,
      by rfl, bind_eq_ok.mpr ⟨_, (verify_snp_report_eq_ok _ _ _).mpr accepted, ?_⟩⟩
    decide +kernel
  · intro text message decoded
    unfold getDecodedUvmEndorsement at decoded
    cases read : fromBase64String text with
    | error error => simp [read] at decoded
    | ok bytes => simp [read, serviceOn, smallHost] at decoded

end CleanRoom.Recovery
