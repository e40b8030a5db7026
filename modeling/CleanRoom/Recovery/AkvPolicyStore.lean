import CleanRoom.Library.JavaScript
import CleanRoom.Recovery.AkvKeyStore

/-!
# The join policy in Key Vault

`AkvPolicyStore` keeps the policy for joining the network as a secret in Key
Vault: the policy with a signature by a key that the service generated and
imported. A reader checks the signature with the certificate that Key Vault
holds for that key. The JSON serializer is part of the host; a policy has the
shape that it reads, in which any reference may be null.
-/

namespace CleanRoom.Recovery

open Attestation ByteFile Encodings Hex
open Interaction JavaScript

structure SnpSection where
  hostData : Option (List (Option String))
deriving DecidableEq

structure JoinPolicy where
  snp : Option SnpSection
deriving DecidableEq

structure NetworkSecuritySignedPolicy where
  policy : Option String
  signatures : Option (List (String × Option String))
deriving DecidableEq

structure PolicyHost extends VaultHost where
  serializePolicy : JoinPolicy → String
  deserializePolicy : String → Except String (Option JoinPolicy)
  serializeSignedPolicy : NetworkSecuritySignedPolicy → String
  deserializeSignedPolicy : String → Except String (Option NetworkSecuritySignedPolicy)
  /-- `ECDsa.VerifyData` with SHA-256: key, data, signature. -/
  verifyData : EcdsaKey → Bytes → Bytes → Bool

def storeError {Value : Type} : Except String Value → Except StoreError Value
  | .ok value => .ok value
  | .error message => .error (.unhandled message)

def apiError (code message : String) : StoreError := .api internalServerError code message

/-- `Any(x => x.Length != 64)`, which throws at a null element. -/
def anyInvalidHostData : List (Option String) → Except StoreError Bool
  | [] => .ok false
  | none :: _ => .error nullReference
  | some value :: rest => if jsLength value ≠ 64 then .ok true else anyInvalidHostData rest

def validateJoinPolicy : Option JoinPolicy → Except StoreError JoinPolicy
  | none => .error (apiError "PolicyMissing" "CCF NetworkJoinPolicy must be supplied.")
  | some policy =>
      match policy.snp with
      | none => .error (apiError "SnpKeyMissing" "snp key is missing")
      | some snp =>
          match snp.hostData with
          | none | some [] =>
              .error (apiError "HostDataKeyMissing" "snp.hostData value is missing")
          | some hostData => do
              if ← anyInvalidHostData hostData then
                .error (apiError "InvalidHostData" "hostData hex string must have 64 characters.")
              else .ok policy

def readPolicy (host : PolicyHost) (policyJson : String) : Except StoreError JoinPolicy := do
  validateJoinPolicy (← storeError (host.deserializePolicy policyJson))

def policySignerKeyType : String := "policy-signer-key"

def policySignerKeyName (host : PolicyHost) : Except StoreError String := do
  return "psk-ccf-policy-signer-" ++ (← host.getCACIHostData)

def signedPolicySecretName (host : PolicyHost) : Except StoreError String := do
  return "sps-ccf-network-policy-" ++ (← host.getCACIHostData)

def getPolicySigner (host : PolicyHost) : VaultProgram String := do
  let keyName ← Program.ofExcept (policySignerKeyName host)
  match ← getSigningKey host.toVaultHost keyName with
  | none => .fail (apiError "PolicySignerNotFound" "No policy signer exists.")
  | some signingKeyInfo => return signingKeyInfo.signingCert

def getOrCreatePolicySigner (host : PolicyHost) : VaultProgram String := do
  let keyName ← Program.ofExcept (policySignerKeyName host)
  return (← generateSigningKey host.toVaultHost keyName policySignerKeyType []).signingCert

def getPolicySigningKey (host : PolicyHost) : VaultProgram String := do
  let keyName ← Program.ofExcept (policySignerKeyName host)
  return (← releaseSigningKey host.toVaultHost keyName).signingKey

/-- `GetCertHashString` with SHA-256, in lower case. -/
def signerIdOf (host : PolicyHost) (cert : Certificate) : String :=
  host.toLower (hexString (host.sha256 cert.raw))

def policyContent (host : PolicyHost) (signedPolicy : NetworkSecuritySignedPolicy) :
    Except StoreError Bytes :=
  match fromBase64 signedPolicy.policy with
  | .error message =>
      .error (apiError "InvalidNetworkSecurityPolicyContent" s!"Content: , Message: {message}")
  | .ok policyBytes =>
      let policyJson := utf8GetString policyBytes
      match readPolicy host policyJson with
      | .error error =>
          .error (apiError "InvalidNetworkSecurityPolicyContent"
            s!"Content: {policyJson}, Message: {error.message}")
      | .ok _ => .ok policyBytes

def verifyDataUsingCert (host : PolicyHost) (data signature : Bytes) (signingCert : Certificate) :
    Except StoreError Bool :=
  match signingCert.ecdsaPublicKey with
  | none => .error nullReference
  | some publicKey => .ok (host.verifyData publicKey data signature)

def checkSignature (host : PolicyHost) (signatures : List (String × Option String))
    (policyBytes : Bytes) (certificate : String) : Except StoreError Unit := do
  let cert ← storeError (host.loadPemCertificate certificate)
  let signerId := signerIdOf host cert
  match signatures.lookup signerId with
  | none =>
      .error (apiError "MissingSigner"
        (s!"Signer {signerId} for cert '{cert.subject}' is not present " ++ "in signatures."))
  | some signature => do
      let signatureBytes ← storeError (fromBase64 signature)
      if ← verifyDataUsingCert host policyBytes signatureBytes cert then .ok ()
      else
        .error (apiError "BadSignature"
          (s!"Signature for signer {signerId} over the policy is " ++ "invalid."))

def expectedSignatures : Nat := 1

def validateSignedPolicy (host : PolicyHost) :
    Option NetworkSecuritySignedPolicy → VaultProgram NetworkSecuritySignedPolicy
  | none => .fail (apiError "BadInput" "signedPolicy input is missing.")
  | some signedPolicy =>
      match signedPolicy.signatures with
      | none => .fail nullReference
      | some signatures =>
          if signatures.length ≠ expectedSignatures then
            .fail (apiError "InvalidSignaturesCount"
              (s!"{expectedSignatures} signature(s) are " ++
                s!"required but policy contains {signatures.length} signature(s)."))
          else do
            let policyBytes ← Program.ofExcept (policyContent host signedPolicy)
            let certificate ← getPolicySigner host
            Program.ofExcept (checkSignature host signatures policyBytes certificate)
            return signedPolicy

/-- The signed policy in Key Vault. A missing secret is no document, whichever of the
secrets that are read it is. -/
def getPolicyDocument (host : PolicyHost) :
    VaultProgram (Option NetworkSecuritySignedPolicy) :=
  Program.recover
    (do
      let secretName ← Program.ofExcept (signedPolicySecretName host)
      let value ← call (.getSecret secretName)
      let signedPolicy ← throwing (host.deserializeSignedPolicy value)
      return some (← validateSignedPolicy host signedPolicy))
    fun
      | .requestFailed status message =>
          if status = notFound then return none else .fail (.requestFailed status message)
      | error => .fail error

def setSignedPolicyDocument (host : PolicyHost) (signedPolicy : NetworkSecuritySignedPolicy) :
    VaultProgram Unit := do
  let secretName ← Program.ofExcept (signedPolicySecretName host)
  call (.setSecret secretName (host.serializeSignedPolicy signedPolicy))

def setNetworkJoinPolicy (host : PolicyHost) (joinPolicy : Option JoinPolicy) :
    VaultProgram Unit := do
  let policy ← Program.ofExcept (validateJoinPolicy joinPolicy)
  let certificate ← getOrCreatePolicySigner host
  let signingKey ← getPolicySigningKey host
  let joinPolicyBytes := utf8GetBytes (host.serializePolicy policy)
  let signature ← call (.signData joinPolicyBytes signingKey)
  let cert ← throwing (host.loadPemCertificate certificate)
  setSignedPolicyDocument host
    { policy := some (toBase64String joinPolicyBytes)
      signatures := some [(signerIdOf host cert, some (toBase64String signature))] }

def getNetworkJoinPolicy (host : PolicyHost) (initialPolicy : JoinPolicy) :
    VaultProgram JoinPolicy := do
  let signedPolicy ← getPolicyDocument host
  match presentText (signedPolicy.bind fun document => document.policy) with
  | none => return initialPolicy
  | some policy => do
      let policyBytes ← throwing (fromBase64 (some policy))
      Program.ofExcept (readPolicy host (utf8GetString policyBytes))

end CleanRoom.Recovery
