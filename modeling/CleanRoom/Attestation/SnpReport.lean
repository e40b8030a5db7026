import CleanRoom.Attestation.Model

/-!
# SNP reports

`SnpReport` of the attestation client. `Marshal.PtrToStructure` reads the size of the
report structure from the address of the decoded bytes, whatever their number: the
fields of a short report come from the memory behind it, while the signature is
checked over the decoded bytes alone.
-/

namespace CleanRoom.Attestation

open ByteFile BigEndian Encodings Hex
open X509Chain

def amdMilanRootPublicKey : String :=
  "-----BEGIN PUBLIC KEY-----\n" ++
  "MIICIjANBgkqhkiG9w0BAQEFAAOCAg8AMIICCgKCAgEA0Ld52RJOdeiJlqK2JdsV\n" ++
  "mD7FktuotWwX1fNgW41XY9Xz1HEhSUmhLz9Cu9DHRlvgJSNxbeYYsnJfvyjx1MfU\n" ++
  "0V5tkKiU1EesNFta1kTA0szNisdYc9isqk7mXT5+KfGRbfc4V/9zRIcE8jlHN61S\n" ++
  "1ju8X93+6dxDUrG2SzxqJ4BhqyYmUDruPXJSX4vUc01P7j98MpqOS95rORdGHeI5\n" ++
  "2Naz5m2B+O+vjsC060d37jY9LFeuOP4Meri8qgfi2S5kKqg/aF6aPtuAZQVR7u3K\n" ++
  "FYXP59XmJgtcog05gmI0T/OitLhuzVvpZcLph0odh/1IPXqx3+MnjD97A7fXpqGd\n" ++
  "/y8KxX7jksTEzAOgbKAeam3lm+3yKIcTYMlsRMXPcjNbIvmsBykD//xSniusuHBk\n" ++
  "gnlENEWx1UcbQQrs+gVDkuVPhsnzIRNgYvM48Y+7LGiJYnrmE8xcrexekBxrva2V\n" ++
  "9TJQqnN3Q53kt5viQi3+gCfmkwC0F0tirIZbLkXPrPwzZ0M9eNxhIySb2npJfgnq\n" ++
  "z55I0u33wh4r0ZNQeTGfw03MBUtyuzGesGkcw+loqMaq1qR4tjGbPYxCvpCq7+Og\n" ++
  "pCCoMNit2uLo9M18fHz10lOMT8nWAUvRZFzteXCm+7PHdYPlmQwUw3LvenJ/ILXo\n" ++
  "QPHfbkH0CyPfhl1jWhJFZasCAwEAAQ==\n" ++
  "-----END PUBLIC KEY-----"

def amdGenoaRootPublicKey : String :=
  "-----BEGIN PUBLIC KEY-----\n" ++
  "MIICIjANBgkqhkiG9w0BAQEFAAOCAg8AMIICCgKCAgEA3Cd95S/uFOuRIskW9vz9\n" ++
  "VDBF69NDQF79oRhL/L2PVQGhK3YdfEBgpF/JiwWFBsT/fXDhzA01p3LkcT/7Ldjc\n" ++
  "RfKXjHl+0Qq/M4dZkh6QDoUeKzNBLDcBKDDGWo3v35NyrxbA1DnkYwUKU5AAk4P9\n" ++
  "4tKXLp80oxt84ahyHoLmc/LqsGsp+oq1Bz4PPsYLwTG4iMKVaaT90/oZ4I8oibSr\n" ++
  "u92vJhlqWO27d/Rxc3iUMyhNeGToOvgx/iUo4gGpG61NDpkEUvIzuKcaMx8IdTpW\n" ++
  "g2DF6SwF0IgVMffnvtJmA68BwJNWo1E4PLJdaPfBifcJpuBFwNVQIPQEVX3aP89H\n" ++
  "JSp8YbY9lySS6PlVEqTBBtaQmi4ATGmMR+n2K/e+JAhU2Gj7jIpJhOkdH9firQDn\n" ++
  "mlA2SFfJ/Cc0mGNzW9RmIhyOUnNFoclmkRhl3/AQU5Ys9Qsan1jT/EiyT+pCpmnA\n" ++
  "+y9edvhDCbOG8F2oxHGRdTBkylungrkXJGYiwGrR8kaiqv7NN8QhOBMqYjcbrkEr\n" ++
  "0f8QMKklIS5ruOfqlLMCBw8JLB3LkjpWgtD7OpxkzSsohN47Uom86RY6lp72g8eX\n" ++
  "HP1qYrnvhzaG1S70vw6OkbaaC9EjiH/uHgAJQGxon7u0Q7xgoREWA/e7JcBQwLg8\n" ++
  "0Hq/sbRuqesxz7wBWSY254cCAwEAAQ==\n" ++
  "-----END PUBLIC KEY-----"

def amdTurinRootPublicKey : String :=
  "-----BEGIN PUBLIC KEY-----\n" ++
  "MIICIjANBgkqhkiG9w0BAQEFAAOCAg8AMIICCgKCAgEAwaAriB7EIuVc4ZB1wD3Y\n" ++
  "fDx+9eyS7+izm0Jj3W772NINCWl8Bj3w/JD2ZjmbRxWdIq/4d9iarCKorXloJUB\n" ++
  "1jRdgxqccTx1aOoig42w1XhVVJT7K457wT5ZLNJgQaxqa9Etkwjd6+9sOhlCDE9\n" ++
  "l43kQ0R2BikVJa/uyyVOSwEk5w5tXKOuGjvq6QtAMJasW38wlqRDaKEGtZ9VUgG\n" ++
  "on27ZuL4sTJuC/azz9/iQBw8kEilzOl95AiTkeY5jSEBDWbAnZk5qlM7kISKG20\n" ++
  "kgQm14mhNKDI2p2oua+zuAG7i52epoRF2GfU0TYk/yf+vCNB2tnechFQuP2e8bL\n" ++
  "95ZdqPi9/UWw4JXjtdEA4u2JYplSSUPQVAXKt6LVqujtJcM59JKr2u0XQ75KwxcM\n" ++
  "p15gSXhBfInvPwuAY4dEwwGqT8oIg4esPHwEsmChhYeDIxPG9R4fx9O0q6p8Gb+\n" ++
  "HXlTiS47P9YNeOpidOUKzDl/S1OvhDtSL8LJc24QATFydo/iD/KUdvFTRlD0crk\n" ++
  "AMkZLoWQ8hLDGc6BZJXsdd7Zf2e4UW3tI/1oh/2t23O3zyhTcv5gDbABu0LjVe9\n" ++
  "8uRnS15SMwK//lJt9e5BqKvgABkSoABf+B4VFtPVEX0ygrYaFaI9i5ABrxnVBmzX\n" ++
  "pRb21iI1NlNCfOGUPIhVpWECAwEAAQ==\n" ++
  "-----END PUBLIC KEY-----"

def trustedAmdRootPublicKeys : List String :=
  [amdMilanRootPublicKey, amdGenoaRootPublicKey, amdTurinRootPublicKey]

/-- The fields of `AttestationReportV1` that the callers use. -/
structure ReportFields where
  policy : Nat
  reportData : Bytes
  measurement : Bytes
  hostData : Bytes
  rComponent : Bytes
  sComponent : Bytes
deriving DecidableEq

def signatureOffset : Nat := 672

/-- The size of `AttestationReportV1`: 512 bytes of signature end it. -/
def reportSize : Nat := signatureOffset + 512

def reportFields (memory : Bytes) : ReportFields where
  policy := decode (window memory 8 8).reverse
  reportData := window memory 80 64
  measurement := window memory 144 48
  hostData := window memory 192 32
  rComponent := window memory 672 72
  sComponent := window memory 744 72

def marshall (host : Host) (decodedReport : Bytes) : ReportFields :=
  reportFields (decodedReport ++ host.memoryAfter decodedReport)

def isDebugAllowed (fields : ReportFields) : Bool := fields.policy &&& 0x80000 != 0

def snpChainFlags : VerificationFlags := ⟨true, false⟩

def beginCertificate : List Char := "-----BEGIN CERTIFICATE-----".toList

def endCertificate : List Char := "-----END CERTIFICATE-----".toList

def certificateMatches (text : List Char) : List String :=
  (markedBlocks beginCertificate endCertificate text.length text).map String.ofList

def suppliedCertificates (host : Host) (certificateChain : String) :
    Except String (List Certificate) :=
  (certificateMatches certificateChain.toList).mapM host.loadPemCertificate

def snpChainInvalid (cert : Certificate) (_ : List ChainStatus) : String :=
  "'" ++ cert.subject ++ "' certificate chain was not valid."

def vcekChainInvalid (status : List ChainStatus) : String :=
  status.foldl
    (fun text _ => text ++ "System.Security.Cryptography.X509Certificates.X509ChainStatus")
    "VCEK certificate chain was not valid."

def verifyCertificateChain (host : Host) (certificateChain : String) :
    Except String (Certificate × Certificate) := do
  let certs ← suppliedCertificates host certificateChain
  let ends ← leafAndRoot certs
  let status ← buildChains host.chain snpChainFlags snpChainInvalid [] [] certs.reverse
  if status.length > 0 then .error (vcekChainInvalid status)
  else .ok ends

def comparePublicKey (host : Host) (cert : Certificate) (expectedKey : String) :
    Except String Bool := do
  if expectedKey = "" then .error "Key or expected key is null"
  else
    let expectedKeyBuffer ← host.importRsaPublicKey expectedKey
    match cert.rsaPublicKey with
    | none => .error "Public RSA key was not found"
    | some publicKeyBuffer => .ok (expectedKeyBuffer == publicKeyBuffer)

def isReportSignatureValid (host : Host) (key : EcdsaKey) (rawReportData : Bytes)
    (expectedSignature : Bytes) : Bool :=
  host.ecdsaVerifyData key (rawReportData.take signatureOffset) expectedSignature

def reportSignature (fields : ReportFields) (keyLengthBytes : Nat) : Bytes :=
  (fields.rComponent.take keyLengthBytes).reverse ++
    (fields.sComponent.take keyLengthBytes).reverse

def checkReportKey (host : Host) (fields : ReportFields) (reportBuffer : Bytes)
    (leafCert : Certificate) : Except String Unit :=
  match leafCert.ecdsaPublicKey with
  | none => .error "Leaf cert does not have an ECDSA public key"
  | some leafCertKey =>
      match leafCertKey.x with
      | none => .error "Could not determine length of public key in leaf certificate"
      | some keyParameters =>
          if isReportSignatureValid host leafCertKey reportBuffer
            (reportSignature fields keyParameters.length) then .ok ()
          else .error "VCEK signature validation failed"

def verifyReportSignature (host : Host) (fields : ReportFields) (certificateChain : String)
    (reportBuffer : Bytes) : Except String Unit := do
  let (leafCert, rootCert) ← verifyCertificateChain host certificateChain
  let trusted ← trustedAmdRootPublicKeys.anyM (comparePublicKey host rootCert)
  if trusted then checkReportKey host fields reportBuffer leafCert
  else .error ("AMD RootKey did not match any expected value " ++
    "(checked Milan, Genoa, and Turin root keys).")

/-- `string.IsNullOrEmpty`, with the text that is there otherwise. -/
def presentText : Option String → Option String
  | none => none
  | some text => if text = "" then none else some text

def lowerCased (host : Host) (text : Option String) : Option String :=
  (presentText text).map host.toLower

def verifyUvmEndosement (host : Host) (fields : ReportFields) :
    Option String → Except String (Option CoseSign1Message)
  | none => .ok none
  | some endorsements => do
      let uvmEndorsement ← getDecodedUvmEndorsement host endorsements
      verifyUvm host uvmEndorsement
      let presented ← getUvmPayload host uvmEndorsement
      let endorsedLaunchMeasurement := lowerCased host (some (hexString fields.measurement))
      let presentedLaunchMeasurement := lowerCased host presented
      if endorsedLaunchMeasurement = none ∨ presentedLaunchMeasurement = none ∨
          presentedLaunchMeasurement ≠ endorsedLaunchMeasurement then
        .error "Uvm endorsement does not match endorsed launch measurement."
      else .ok (some uvmEndorsement)

structure SnpReport where
  reportData : String
  hostData : String
  launchMeasurement : String
  debugAllowed : Bool
  trustedUvmEndorsement : Option CoseSign1Message

def SnpReport.ofFields (fields : ReportFields) (uvmEndorsement : Option CoseSign1Message) :
    SnpReport where
  reportData := hexString fields.reportData
  hostData := hexString fields.hostData
  launchMeasurement := hexString fields.measurement
  debugAllowed := isDebugAllowed fields
  trustedUvmEndorsement := uvmEndorsement

def verifySnpAttestation (host : Host)
    (evidence platformCertificates uvmEndorsements : Option String) :
    Except String SnpReport := do
  let decodedReport ← fromBase64 evidence
  let fields := marshall host decodedReport
  let decodedCertChain ← fromBase64 platformCertificates
  let certChain := utf8GetString decodedCertChain
  verifyReportSignature host fields certChain decodedReport
  let uvmEndorsement ← verifyUvmEndosement host fields (presentText uvmEndorsements)
  pure (SnpReport.ofFields fields uvmEndorsement)

end CleanRoom.Attestation
