import CleanRoom.Governance.Callers
import CleanRoom.Library.Hex

/-!
# Requests that carry an attestation

A clean room has no account at the governance service. It sends evidence of its
hardware, a public key whose digest the evidence reports, and, where it sends
data, a signature. These are the checks that all such endpoints share. What CCF
and its libraries do is a parameter.
-/

namespace CleanRoom.Governance

open JavaScript Hex ByteFile

structure SnpAttestation where
  version : Nat
  guestSvn : Nat
  smt : Nat
  debug : Nat
  familyId : Bytes
  imageId : Bytes
  vmpl : Nat
  reportData : Bytes
  measurement : Bytes
  hostData : Bytes
  idKeyDigest : Bytes
  authorKeyDigest : Bytes
  reportId : Bytes
  signatureR : Bytes
  signatureS : Bytes
  uvmEndorsements : Option (String × String × String)
deriving DecidableEq

structure CvmAttestation where
  verified : Bool
  failedChecks : List (String × String)
  runtimeClaims : JsValue

structure CleanRoomHost where
  ccf : CcfHost
  /-- `Base64.decode` -/
  base64Decode : String → Except String String
  /-- `Base64.toUint8Array` -/
  base64ToBytes : String → Except String Bytes
  verifySnpEvidence : Bytes → Bytes → Option Bytes → JsValue → Except String SnpAttestation
  verifyCvmSnpAttestation : JsValue → Except String CvmAttestation
  /-- `ccf.crypto.verifySignature` with RSA-PSS and SHA-256: key, signature, data. -/
  verifySignature : String → Bytes → Bytes → Except String Bool
  /-- `JSON.parse(ccf.bufToStr(buffer))` -/
  parseJson : Bytes → Except String JsValue
  /-- `ccf.crypto.wrapKey` of a text for a public key, in base64. -/
  wrapKey : String → String → Except String String
  /-- `toUpperCase` of a character outside ASCII. -/
  upperCaseOther : Char → List Char
  /-- `ccf.crypto.sign` with a private key, in base64. -/
  sign : JsValue → Bytes → Except String String
  /-- The token that `ccf.crypto.sign` completes, from the key item and the claims. -/
  signToken : JsValue → List (String × JsValue) → Except String String
  /-- `JSON.stringify(cleanroom.crypto.generateEndorsedCert(...))` of the public key, the
  subject name, the alternate names, the validity period, and the key and certificate of
  the authority. -/
  generateEndorsedCert : JsValue → JsValue → JsValue → JsValue → JsValue → JsValue →
    Except String String

/-- `text.toUpperCase()` -/
def CleanRoomHost.toUpperCase (host : CleanRoomHost) (text : String) : String :=
  String.ofList (text.toList.flatMap fun char =>
    if char.toNat < 128 then [char.toUpper] else host.upperCaseOther char)

def decodedKey (host : CleanRoomHost) : JsValue → Except String String
  | .string text => host.base64Decode text
  | _ => .error "TypeError: not a function"

def decodedBytes (host : CleanRoomHost) : JsValue → Except String Bytes
  | .string text => host.base64ToBytes text
  | _ => .error "TypeError: not a function"

/-- `Base64.decode(body.encrypt.publicKey)`, and the same of `body.sign`. -/
def publicKeyOf (host : CleanRoomHost) (body : JsValue) (part : String) : Except String String := do
  let holder ← body.get part
  decodedKey host (← holder.get "publicKey")

def SnpAttestation.getClaims (report : SnpAttestation) : List (String × JsValue) :=
  [("x-ms-ver", .string (toString report.version)),
    ("x-ms-sevsnpvm-guestsvn", .number report.guestSvn),
    ("x-ms-sevsnpvm-smt-allowed", .bool (report.smt == 1)),
    ("x-ms-sevsnpvm-is-debuggable", .bool (report.debug == 1)),
    ("x-ms-sevsnpvm-familyId", .string (lowerHexString report.familyId)),
    ("x-ms-sevsnpvm-imageId", .string (lowerHexString report.imageId)),
    ("x-ms-sevsnpvm-vmpl", .number report.vmpl),
    ("x-ms-sevsnpvm-reportdata", .string (lowerHexString report.reportData)),
    ("x-ms-sevsnpvm-launchmeasurement", .string (lowerHexString report.measurement)),
    ("x-ms-sevsnpvm-hostdata", .string (lowerHexString report.hostData)),
    ("x-ms-sevsnpvm-idkeydigest", .string (lowerHexString report.idKeyDigest)),
    ("x-ms-sevsnpvm-authorkeydigest", .string (lowerHexString report.authorKeyDigest)),
    ("x-ms-sevsnpvm-reportid", .string (lowerHexString report.reportId)),
    ("signature-r", .string (lowerHexString report.signatureR)),
    ("signature-s", .string (lowerHexString report.signatureS))] ++
    match report.uvmEndorsements with
    | none => []
    | some (did, feed, svn) =>
        [("uvm_endorsements-did", .string did), ("uvm_endorsements-feed", .string feed),
          ("uvm_endorsements-svn", .string svn)]

def cvmClaims (attestation : JsValue) : Except String (List (String × JsValue)) :=
  match (attestation.field "evidence").field "pcrs" with
  | .undefined => .ok []
  | .null => .error "TypeError: cannot convert to object"
  | .object fields =>
      .ok ((fields.filter fun entry => entry.2.typeOf ≠ .undefined).map fun entry =>
        ("pcr" ++ entry.1, entry.2))
  | .array items =>
      .ok ((List.range items.length).map fun index =>
        (s!"pcr{index}", items.getD index .undefined))
  | _ => .ok []

/-- The properties of a policy, as `getCleanRoomPolicyProps` reads them from its map. -/
def policyProps (rows : Table JsValue) : List (String × JsValue) :=
  rows.entries.map fun row => (row.1, row.2)

/-- `policyValue.filter(...)` is called on an array only. -/
def policyValues : JsValue → Except String (List JsValue)
  | .array items => .ok items
  | _ => .error "TypeError: not a function"

def matchPolicyClaims (policy : List (String × JsValue)) (claims : List (String × JsValue)) :
    Except String Bool :=
  policy.allM fun property => do
    match (claims.lookup property.1).getD .undefined with
    | .undefined => return false
    | attested => return (← policyValues property.2).any fun value => value.sameValueZero attested

/-- The maps that hold the policies: those of the contracts, and those of the
delegates by their key. -/
structure PolicySource where
  contract : String → Table JsValue
  delegate : String → Table JsValue

def matchDelegatedPolicy (source : PolicySource) (claims : List (String × JsValue))
    (delegatedPolicyId : String) : Except String Bool :=
  let policy := policyProps (source.delegate delegatedPolicyId)
  if policy.isEmpty then .ok false else matchPolicyClaims policy claims

def verifyPolicyClaims (source : PolicySource) (contractId : String)
    (claims : List (String × JsValue)) (delegatedPolicies : Option (List String)) :
    Except String Unit := do
  let cleanroomPolicy := policyProps (source.contract contractId)
  if cleanroomPolicy.isEmpty then
    .error "The clean room policy is missing. Please propose a new clean room policy."
  else if ← matchPolicyClaims cleanroomPolicy claims then return ()
  else
    match delegatedPolicies with
    | none => .error "Attestation claims do not match the contract policy."
    | some keys =>
        if ← keys.anyM (matchDelegatedPolicy source claims) then return ()
        else
          .error <| "Attestation claims do not match the contract policy" ++
            ", or the delegated policies."

inductive TeePlatform where
  | snpCaci
  | snpCvm
deriving DecidableEq

def getAttestationVerifier (host : CleanRoomHost) (platform : JsValue) :
    Except String TeePlatform :=
  if !platform.truthy then .ok .snpCaci
  else if platform.isString "snp-caci" then .ok .snpCaci
  else if platform.isString "snp-cvm" then .ok .snpCvm
  else
    let text := host.ccf.text platform
    .error s!"Unknown TEE platform '{text}'. Supported values: snp-caci, snp-cvm."

def verifyCaciAttestation (host : CleanRoomHost) (source : PolicySource) (contractId : String)
    (attestation : JsValue) (delegatedPolicies : Option (List String)) :
    Except String String := do
  let evidence ← decodedBytes host (← attestation.get "evidence")
  let endorsements ← decodedBytes host (← attestation.get "endorsements")
  let uvmEndorsements ← match attestation.field "uvm_endorsements" with
    | .undefined => .ok none
    | present => (decodedBytes host present).map some
  let report ← host.verifySnpEvidence evidence endorsements uvmEndorsements
    (attestation.field "endorsed_tcb")
  verifyPolicyClaims source contractId report.getClaims delegatedPolicies
  return lowerHexString report.reportData

def verifyCvmAttestation (host : CleanRoomHost) (source : PolicySource) (contractId : String)
    (attestation : JsValue) (delegatedPolicies : Option (List String)) :
    Except String String := do
  let result ← host.verifyCvmSnpAttestation attestation
  if !result.verified then
    let failedChecks := String.intercalate "; "
      (result.failedChecks.map fun check => check.1 ++ ": " ++ check.2)
    .error s!"CVM SNP attestation verification failed. Failed checks: {failedChecks}"
  else
    verifyPolicyClaims source contractId (← cvmClaims attestation) delegatedPolicies
    match ← result.runtimeClaims.get "user-data" with
    | .string userData => return userData
    | _ => .error "CVM SNP attestation result is missing runtimeClaims 'user-data'."

def verifyAttestation (host : CleanRoomHost) (source : PolicySource) (platform : TeePlatform)
    (contractId : String) (attestation : JsValue) (delegatedPolicies : Option (List String)) :
    Except String String :=
  match platform with
  | .snpCaci => verifyCaciAttestation host source contractId attestation delegatedPolicies
  | .snpCvm => verifyCvmAttestation host source contractId attestation delegatedPolicies

/-- `padEnd` with zeros: both paddings of the source consist of them. -/
def padEndZeros (text : String) (width : Nat) : String :=
  text ++ String.ofList (List.replicate (width - jsLength text) '0')

def expectedReportData (host : CleanRoomHost) (platform : TeePlatform) (key : String) : String :=
  let digest := lowerHexString (host.ccf.sha256Digest key)
  match platform with
  | .snpCaci => digest
  | .snpCvm => host.toUpperCase digest

def presentedReportData (host : CleanRoomHost) (platform : TeePlatform) (reportData : String) :
    String :=
  match platform with
  | .snpCaci => reportData
  | .snpCvm => host.toUpperCase reportData

def TeePlatform.reportDataName : TeePlatform → String
  | .snpCaci => "attestation.report_data"
  | .snpCvm => "runtimeClaims user-data"

def TeePlatform.mismatchMessage : TeePlatform → String
  | .snpCaci => "Attestation report_data value did not match calculated value."
  | .snpCvm => "Attestation runtimeClaims user-data value did not match calculated value."

def verifyReportData (host : CleanRoomHost) (platform : TeePlatform) (reportData data : String) :
    Except String Unit :=
  let presented := presentedReportData host platform reportData
  let expected := expectedReportData host platform data
  if jsLength presented ≠ 128 then
    let name := platform.reportDataName
    let length := jsLength presented
    .error s!"Unexpected string length of {name}: {length}"
  else if jsLength expected ≠ 64 then
    let length := jsLength expected
    .error s!"Unexpected string length of expectedReportData: {length}"
  else if presented ≠ padEndZeros expected 128 then .error platform.mismatchMessage
  else .ok ()

def orRefuse {Value : Type} (code : String) : Except String Value → Except RequestFailure Value
  | .ok value => .ok value
  | .error message => refuse 400 code message

def orThrow {Value : Type} : Except String Value → Except RequestFailure Value
  | .ok value => .ok value
  | .error message => raise message

/-- Returns the report data of the attestation that was accepted. The data that
it has to report is computed under the handler for a mismatch. -/
def verifyAttestationAndReportData (host : CleanRoomHost) (source : PolicySource)
    (contractId : String) (body : JsValue) (getReportData : Except String String)
    (delegatedPolicies : Option (List String)) : Except RequestFailure String := do
  let platform ← orRefuse "UnsupportedPlatform"
    (getAttestationVerifier host (body.field "platform"))
  let reportData ← orRefuse "VerifySnpAttestationFailed"
    (verifyAttestation host source platform contractId (body.field "attestation")
      delegatedPolicies)
  orRefuse "ReportDataMismatch" do
    verifyReportData host platform reportData (← getReportData)
  return reportData

def verifySignature (host : CleanRoomHost) (sign : JsValue) (data : Bytes) :
    Except String Unit := do
  let signature ← decodedBytes host (← sign.get "signature")
  let publicKey ← decodedKey host (← sign.get "publicKey")
  if ← host.verifySignature publicKey signature data then return ()
  else .error "Signature verification was not successful."

end CleanRoom.Governance
