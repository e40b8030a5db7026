import CleanRoom.Attestation.SnpReport

/-!
# Discovery of service certificates

`ServiceCertLocator.DownloadServiceCertificatePem`. The answer of the discovery
endpoint is an argument, and so is the abstract method that takes the certificate out
of the payload.
-/

namespace CleanRoom.Attestation

open ByteFile Hex

def allowAll : String := "73973b78d70cc68353426de188db5dfc57e5b766e399935fb73a61127ea26d20"

def allowAll2 : String := "7ec5120f0f497e22b18e59ed702ed82e2732562245c9a944f54cd41db4f491af"

structure SnpCACIAttestationReport where
  attestation : Option String
  platformCertificates : Option String
  uvmEndorsements : Option String
deriving DecidableEq

structure ServiceCertReport where
  report : Option SnpCACIAttestationReport
  reportDataPayload : Option String
deriving DecidableEq

structure LocatorHost extends Host where
  serializeReport : ServiceCertReport → String
  serializeHostData : List String → String

structure ServiceCertLocator where
  hostData : List String
  specified : hostData ≠ []

/-- Host data that lets an endpoint without a report pass. -/
def ServiceCertLocator.allowsAll (locator : ServiceCertLocator) : Bool :=
  match locator.hostData with
  | [only] => only == allowAll || only == allowAll2
  | _ => false

def zeroDigits : String := String.ofList (List.replicate 64 '0')

/-- The checks on a report that the endpoint returned. Unlike the recovery service,
the locator does not ask whether the report is debuggable. -/
def checkServiceReport (host : LocatorHost) (locator : ServiceCertLocator)
    (serviceCertReport : ServiceCertReport) (attestationReport : SnpCACIAttestationReport)
    (reportDataPayloadBytes : Bytes) : Except String Unit := do
  let snpReport ← verifySnpAttestation host.toHost attestationReport.attestation
    attestationReport.platformCertificates attestationReport.uvmEndorsements
  if ¬(locator.hostData.any fun value => host.toUpper value == snpReport.hostData) then
    .error ("HostDataMismatch: Attestation report host data value did not match " ++
      "expected host data value(s). Report value: " ++ host.toLower snpReport.hostData ++
      ", expected value(s): " ++ host.serializeHostData locator.hostData ++ ".")
  else if presentText serviceCertReport.reportDataPayload = none then
    .error ("ServiceCertEndpoint did not return any report payload: '" ++
      host.serializeReport serviceCertReport ++ "'.")
  else
    let expectedReportData := hexString (host.sha256 reportDataPayloadBytes) ++ zeroDigits
    if snpReport.reportData ≠ expectedReportData then
      .error ("ReportDataMismatch: Attestation report report data value did not match " ++
        "expected report data value(s). Report value: " ++ snpReport.reportData ++
        ", expected value: " ++ expectedReportData ++ ".")
    else .ok ()

def downloadServiceCertificatePem (host : LocatorHost) (locator : ServiceCertLocator)
    (extractCertificate : Bytes → Except String String)
    (response : Except String (Option ServiceCertReport)) : Except String String := do
  match ← response with
  | none => .error "CertificateReportUrl did not return any data."
  | some serviceCertReport => do
      let reportDataPayloadBytes ← fromBase64 serviceCertReport.reportDataPayload
      match serviceCertReport.report with
      | none =>
          if locator.allowsAll then extractCertificate reportDataPayloadBytes
          else .error ("ServiceCertEndpoint did not return any attestation report: '" ++
            host.serializeReport serviceCertReport ++ "'.")
      | some attestationReport => do
          checkServiceReport host locator serviceCertReport attestationReport
            reportDataPayloadBytes
          extractCertificate reportDataPayloadBytes

end CleanRoom.Attestation
