import CleanRoom.Attestation.ServiceCertLocator
import CleanRoom.Library.JavaScript

/-!
# Requests to the recovery service

`VerifyAttestationReport` and `GetPublicKey` of the base controller. A request is a
JSON object, and a property that is absent or null gives a null node. An exception of
the controllers is an API error with its status and code; any other one carries its
text alone.
-/

namespace CleanRoom.Recovery

open Attestation ByteFile Encodings Hex
open JavaScript

inductive HttpStatusCode where
  | unauthorized
  | badRequest
deriving DecidableEq

inductive ServiceError where
  | api (status : HttpStatusCode) (code message : String)
  | unhandled (message : String)
deriving DecidableEq

structure NetworkJoinPolicy where
  hostData : List String
deriving DecidableEq

structure CcfSnpCACIAttestationReport where
  evidence : Option String
  endorsements : Option String
  uvmEndorsements : Option String
deriving DecidableEq

structure ServiceHost extends Host where
  /-- `JsonNode.ToString` of a node that is not a string. -/
  jsonText : JsValue → String
  /-- The text of the exception for a property that is not a string. -/
  notAString : String → String
  serializePolicy : NetworkJoinPolicy → String

abbrev JsonObject := List (String × JsValue)

def JsonObject.node (content : JsonObject) (key : String) : Option JsValue :=
  match content.lookup key with
  | none => none
  | some .undefined => none
  | some .null => none
  | some value => some value

/-- `AsObject`, and the indexer of a node. -/
def asObject : JsValue → Except ServiceError JsonObject
  | .object fields => .ok fields
  | _ => .error (.unhandled "The node must be of type 'JsonObject'.")

def isNullableString : JsValue → Bool
  | .undefined => true
  | .null => true
  | .string _ => true
  | _ => false

def reportProperties : List String := ["evidence", "endorsements", "uvm_endorsements"]

def stringProperty (content : JsonObject) (key : String) : Option String :=
  match content.node key with
  | some (.string text) => some text
  | _ => none

/-- The first property that is not a string stops the deserializer. -/
def deserializeReport (host : ServiceHost) (attestationJson : JsonObject) :
    Except ServiceError CcfSnpCACIAttestationReport :=
  match attestationJson.find? fun entry =>
      reportProperties.contains entry.1 && !isNullableString entry.2 with
  | some entry => .error (.unhandled (host.notAString entry.1))
  | none =>
      .ok {
        evidence := stringProperty attestationJson "evidence"
        endorsements := stringProperty attestationJson "endorsements"
        uvmEndorsements := stringProperty attestationJson "uvm_endorsements" }

def requestAttestation (host : ServiceHost) (content : JsonObject) :
    Except ServiceError CcfSnpCACIAttestationReport := do
  match content.node "attestation" with
  | none => .error (.api .unauthorized "AttestationMissing" "attestation input must be supplied.")
  | some node => do
      let attestationJson ← asObject node
      deserializeReport host attestationJson

def nodeText (host : ServiceHost) : JsValue → String
  | .string text => text
  | other => host.jsonText other

def unhandled {Value : Type} : Except String Value → Except ServiceError Value
  | .ok value => .ok value
  | .error message => .error (.unhandled message)

def getPublicKey (host : ServiceHost) (content : JsonObject) : Except ServiceError String := do
  let publicKey ← match content.node "sign" with
    | none => .ok none
    | some sign => do
        let signJson ← asObject sign
        pure (signJson.node "publicKey")
  match presentText (publicKey.map (nodeText host)) with
  | none => .error (.api .badRequest "PublicKeyMissing" "sign.publicKey input must be supplied.")
  | some base64Key => do
      let keyBytes ← unhandled (fromBase64String base64Key)
      pure (utf8GetString keyBytes)

structure AttesationReportInfo where
  publicKey : String
  hostData : String
deriving DecidableEq

def verifySnpReport (host : ServiceHost) (attestation : CcfSnpCACIAttestationReport) :
    Except ServiceError SnpReport :=
  match verifySnpAttestation host.toHost attestation.evidence attestation.endorsements
    attestation.uvmEndorsements with
  | .ok snpReport => .ok snpReport
  | .error message => .error (.api .unauthorized "VerifySnpAttestationFailed" message)

def checkHostData (host : ServiceHost) (incomingHostData : String) :
    Option NetworkJoinPolicy → Except ServiceError Unit
  | none =>
      .error (.api .unauthorized "SecurityPolicyNotSet"
        ("No security policy has been set to validate the claim 'hostData' Value '" ++
          incomingHostData ++ "'"))
  | some networkJoinPolicy =>
      if networkJoinPolicy.hostData.any fun value => host.toUpper value == incomingHostData then
        .ok ()
      else
        .error (.api .unauthorized "HostDataMismatch"
          ("Attestation claim 'hostData' Value '" ++ host.toLower incomingHostData ++
            "' does not match any expected value(s): " ++
            host.serializePolicy networkJoinPolicy))

/-- The answer of the policy store is `policy`. -/
def verifyAttestationReport (host : ServiceHost)
    (policy : Except ServiceError (Option NetworkJoinPolicy)) (content : JsonObject) :
    Except ServiceError AttesationReportInfo := do
  let attestation ← requestAttestation host content
  let snpReport ← verifySnpReport host attestation
  if snpReport.debugAllowed then
    .error (.api .unauthorized "TeeDebugModeEnabled"
      "TEE is in debug mode hence failing SNP attestation verification.")
  else
    let networkJoinPolicy ← policy
    checkHostData host snpReport.hostData networkJoinPolicy
    let publicKey ← getPublicKey host content
    let paddedPublicKeyReportData :=
      hexString (host.sha256 (utf8GetBytes publicKey)) ++ zeroDigits
    if snpReport.reportData ≠ paddedPublicKeyReportData then
      .error (.api .unauthorized "ReportDataMismatch"
        ("Attestation claim 'reportData' Value '" ++ snpReport.reportData ++
          "' does not match expected value: " ++ paddedPublicKeyReportData ++
          " (publicKey: " ++ publicKey ++ ")"))
    else pure ⟨publicKey, snpReport.hostData⟩

end CleanRoom.Recovery
