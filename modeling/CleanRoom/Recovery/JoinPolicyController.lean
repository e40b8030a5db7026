import CleanRoom.Recovery.AkvPolicyStore
import CleanRoom.Recovery.AttestedCallers

/-!
# Requests to set the join policy

`SetNetworkJoinPolicy` of the controller, with the verification of the caller that every
endpoint of the recovery service begins with. The policy is read from the store between two
checks of the request, and nothing keeps it in place until the new one is written.
-/

namespace CleanRoom.Recovery

open Attestation ByteFile Encodings Hex
open Interaction JavaScript Throwing

structure JoinPolicyInput where
  joinPolicy : Option JoinPolicy
deriving DecidableEq

structure ControllerHost extends PolicyHost where
  /-- `JsonNode.ToString` of a node that is not a string. -/
  jsonText : JsValue → String
  /-- The text of the exception for a property that is not a string. -/
  notAString : String → String
  /-- `JsonSerializer.Deserialize` of a `JoinPolicyInput`, which may be null. -/
  deserializeInput : String → Except String (Option JoinPolicyInput)
  /-- `Signing.VerifyDataUsingKey` with PSS: data, signature, key. -/
  verifyDataUsingKey : Bytes → Bytes → String → Except String Bool

/-- The parts of the host that the checks of a request use. -/
def ControllerHost.service (host : ControllerHost) : ServiceHost :=
  { host.toHost with
    jsonText := host.jsonText
    notAString := host.notAString
    serializePolicy := fun policy => host.serializePolicy ⟨some ⟨some (policy.hostData.map some)⟩⟩ }

def JoinPolicy.network (policy : JoinPolicy) : NetworkJoinPolicy :=
  ⟨((policy.snp.bind SnpSection.hostData).getD []).filterMap id⟩

def HttpStatusCode.number : HttpStatusCode → Nat
  | .unauthorized => Recovery.unauthorized
  | .badRequest => 400

def ServiceError.thrown : ServiceError → StoreError
  | .api status code message => .api status.number code message
  | .unhandled message => .unhandled message

def checked {Value : Type} : Except ServiceError Value → VaultProgram Value
  | .ok value => .done value
  | .error error => .fail error.thrown

def attestedReport (host : ServiceHost) (content : JsonObject) :
    Except ServiceError SnpReport := do
  let attestation ← requestAttestation host content
  let snpReport ← verifySnpReport host attestation
  if snpReport.debugAllowed then
    .error (.api .unauthorized "TeeDebugModeEnabled"
      "TEE is in debug mode hence failing SNP attestation verification.")
  else pure snpReport

def checkReportData (host : ServiceHost) (snpReport : SnpReport) (content : JsonObject) :
    Except ServiceError AttesationReportInfo := do
  let publicKey ← getPublicKey host content
  let paddedPublicKeyReportData := hexString (host.sha256 (utf8GetBytes publicKey)) ++ zeroDigits
  if snpReport.reportData ≠ paddedPublicKeyReportData then
    .error (.api .unauthorized "ReportDataMismatch"
      ("Attestation claim 'reportData' Value '" ++ snpReport.reportData ++
        "' does not match expected value: " ++ paddedPublicKeyReportData ++
        " (publicKey: " ++ publicKey ++ ")"))
  else pure ⟨publicKey, snpReport.hostData⟩

def BaseController.verifyAttestationReport (host : ControllerHost) (initialPolicy : JoinPolicy)
    (content : JsonObject) : VaultProgram AttesationReportInfo := do
  let snpReport ← checked (attestedReport host.service content)
  let networkJoinPolicy ← getNetworkJoinPolicy host.toPolicyHost initialPolicy
  checked (checkHostData host.service snpReport.hostData (some networkJoinPolicy.network))
  checked (checkReportData host.service snpReport content)

def getSignedData (host : ControllerHost) (publicKey : String) (content : JsonObject) :
    Except ServiceError (Option JoinPolicyInput) := do
  match presentText ((content.node "data").map (nodeText host.service)) with
  | none => .error (.api .badRequest "DataMissing" "data input must be supplied.")
  | some data => do
      let signature ← match content.node "sign" with
        | none => .ok none
        | some sign => do
            let signJson ← asObject sign
            pure (signJson.node "signature")
      match presentText (signature.map (nodeText host.service)) with
      | none =>
          .error (.api .badRequest "SignatureMissing" "sign.signature input must be supplied.")
      | some signature => do
          let dataBytes ← unhandled (fromBase64String data)
          let signatureBytes ← unhandled (fromBase64String signature)
          if ← unhandled (host.verifyDataUsingKey dataBytes signatureBytes publicKey) then
            unhandled (host.deserializeInput (utf8GetString dataBytes))
          else .error (.api .badRequest "SignatureMismatch" "Signature verification failed.")

/-- The policy of an input and its host data. A null on the way is dereferenced. -/
def policyHostData : Option JoinPolicyInput →
    Except ServiceError (JoinPolicy × List (Option String))
  | some ⟨some joinPolicy⟩ =>
      match joinPolicy.snp with
      | none => .error (.unhandled nullReference.message)
      | some snp =>
          match snp.hostData with
          | none => .error (.unhandled "Value cannot be null. (Parameter 'source')")
          | some hostData => .ok (joinPolicy, hostData)
  | _ => .error (.unhandled nullReference.message)

def incomingPolicy (host : ControllerHost) (reportInfo : AttesationReportInfo)
    (content : JsonObject) : Except ServiceError JoinPolicy := do
  let data ← getSignedData host reportInfo.publicKey content
  let (joinPolicy, hostData) ← policyHostData data
  let own := host.toLower reportInfo.hostData
  if hostData.any fun value => value == some own then pure joinPolicy
  else
    .error (.api .badRequest "CannotRemoveSelf"
      ("Incoming join policy does not include the calling agent's hostData value " ++ own ++
        ". A recovery agent is blocked from removing " ++
        "itself from the join policy as that can lead to a dead lock situation " ++
        "where the CCF network can then no longer access the recovery service."))

def JoinPolicyController.setNetworkJoinPolicy (host : ControllerHost) (initialPolicy : JoinPolicy)
    (content : JsonObject) : VaultProgram Unit := do
  let reportInfo ← BaseController.verifyAttestationReport host initialPolicy content
  let joinPolicy ← checked (incomingPolicy host reportInfo content)
  Recovery.setNetworkJoinPolicy host.toPolicyHost (some joinPolicy)

end CleanRoom.Recovery
