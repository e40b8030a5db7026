import CleanRoom.Attestation.ServiceCertLocator
import CleanRoom.Library.Interaction
import Mathlib.Data.List.Infix

/-!
# Signing keys of the recovery service in Key Vault

`AkvKeyStore`, as far as signing keys go. A key is imported under the name of
its id; the attestation report and the certificate of a key are secrets under
the fingerprint of its public key. Each call to another service is a request; so is
the use of a private key.
-/

namespace CleanRoom.Recovery

open Attestation ByteFile Encodings Hex
open Interaction

inductive StoreError where
  /-- An `ApiException`. -/
  | api (status : Nat) (code message : String)
  /-- A `RequestFailedException`. -/
  | requestFailed (status : Nat) (message : String)
  | unhandled (message : String)
deriving DecidableEq

def StoreError.message : StoreError → String
  | .api _ _ message => message
  | .requestFailed _ message => message
  | .unhandled message => message

def nullReference : StoreError :=
  .unhandled "Object reference not set to an instance of an object."

def unauthorized : Nat := 401

def notFound : Nat := 404

def internalServerError : Nat := 500

structure AttestationReport where
  snpCaci : Option SnpCACIAttestationReport

structure AttestationReportKeyCert where
  certificate : String
  publicKey : String
  privateKey : String
  report : AttestationReport

structure JsonWebKey where
  /-- The key, unless it is of another type than `ToECDsa` accepts. -/
  ecdsaKey : Option EcdsaKey
  privateKey : String
deriving DecidableEq

inductive VaultRequest where
  | getKey (name : String)
  | importKey (name : String) (key : JsonWebKey) (hostData : String)
      (tags : List (String × String))
  | releaseKey (name : String)
  | getSecret (name : String)
  | setSecret (name value : String)
  /-- `Attestation.GenerateEcdsaKeyPairAndReportAsync` -/
  | generateEcdsaKeyPairAndReport
  | readInsecureKeyPairAndReport
  | signData (data : Bytes) (signingKey : String)

@[reducible] def VaultRequest.Result : VaultRequest → Type
  | .getKey _ => JsonWebKey
  | .importKey _ _ _ _ => Unit
  | .releaseKey _ => JsonWebKey
  | .getSecret _ => String
  | .setSecret _ _ => Unit
  | .generateEcdsaKeyPairAndReport => AttestationReportKeyCert
  | .readInsecureKeyPairAndReport => AttestationReportKeyCert
  | .signData _ _ => Bytes

abbrev VaultRequest.Answer (request : VaultRequest) : Type := Except StoreError request.Result

abbrev VaultProgram := Program VaultRequest VaultRequest.Answer StoreError

structure VaultHost extends Host where
  exportSubjectPublicKeyInfoPem : EcdsaKey → String
  /-- `ImportFromPem` of a private key, as key material for Key Vault. -/
  importPrivateKey : String → Except String JsonWebKey
  serializeReport : AttestationReport → String
  deserializeReport : String → Except String (Option AttestationReport)
  serializeHostData : List String → String
  /-- `Attestation.IsSnpCACI`, which throws outside of both environments. -/
  isSnpCACI : Except StoreError Bool
  /-- `Attestation.GetCACIHostData` -/
  getCACIHostData : Except StoreError String

def throwing {Value : Type} : Except String Value → VaultProgram Value
  | .ok value => .done value
  | .error message => .fail (.unhandled message)

def call (request : VaultRequest) : VaultProgram request.Result :=
  Program.ask request >>= Program.ofExcept

def fingerprintPublicKey (host : VaultHost) (publicKey : String) : String :=
  host.toLower (hexString (host.sha256 (utf8GetBytes publicKey)))

def toSigningKeyName (kid : String) : String := kid ++ "-signing-key"

def getKey (keyName : String) : VaultProgram (Option JsonWebKey) :=
  Program.recover
    (do return some (← call (.getKey keyName)))
    fun
      | .requestFailed status message =>
          if status = notFound then return none else .fail (.requestFailed status message)
      | error => .fail error

def toECDsa (key : JsonWebKey) : VaultProgram EcdsaKey :=
  match key.ecdsaKey with
  | some ecdsaKey => return ecdsaKey
  | none => .fail (.unhandled "key is not an EC or EC-HSM type")

def importKey (host : VaultHost) (keyName privateKey hostData : String)
    (tags : List (String × String)) : VaultProgram Unit := do
  let keyMaterial ← throwing (host.importPrivateKey privateKey)
  call (.importKey keyName keyMaterial (host.toLower hostData) tags)

def verifyReport (host : VaultHost) : Option SnpCACIAttestationReport → Except String SnpReport
  | none => .error nullReference.message
  | some report =>
      verifySnpAttestation host.toHost report.attestation report.platformCertificates
        report.uvmEndorsements

def verifyKeyImportedByService (host : VaultHost) (publicKey : String)
    (report : Option SnpCACIAttestationReport) : Except StoreError Unit :=
  match verifyReport host report with
  | .error message => .error (.api unauthorized "VerifySnpAttestationFailed" message)
  | .ok snpReport =>
      if snpReport.debugAllowed then
        .error (.api unauthorized "TeeDebugModeEnabled"
          "TEE is in debug mode hence failing SNP attestation verification.")
      else do
        let trustedServicesPolicy := [← host.getCACIHostData]
        if trustedServicesPolicy.any (fun value => value == host.toLower snpReport.hostData) then
          let paddedPublicKeyReportData :=
            hexString (host.sha256 (utf8GetBytes publicKey)) ++ zeroDigits
          if snpReport.reportData ≠ paddedPublicKeyReportData then
            .error (.api unauthorized "ReportDataMismatch"
              ("Key imported by service verification failed attestation report associated " ++
                "with the key" ++ s!"has 'reportData' Value '{snpReport.reportData}' which " ++
                s!"does not match expected value: {paddedPublicKeyReportData} for a key " ++
                "generated by the recovery service."))
          else .ok ()
        else
          .error (.api unauthorized "HostDataMismatch"
            ("Key imported by service verification failed as attestation report associated " ++
              "with the key " ++
              s!"has 'hostData' Value '{host.toLower snpReport.hostData}' which does not " ++
              "match any expected value(s) of the recovery service: " ++
              host.serializeHostData trustedServicesPolicy))

def reportSecretName (host : VaultHost) (publicKey : String) : String :=
  "report-" ++ fingerprintPublicKey host publicKey

def certSecretName (host : VaultHost) (publicKey : String) : String :=
  "cert-" ++ fingerprintPublicKey host publicKey

def setAttestationReportSecret (host : VaultHost) (publicKey : String)
    (report : AttestationReport) : VaultProgram Unit :=
  call (.setSecret (reportSecretName host publicKey) (host.serializeReport report))

def getAttestationReportSecret (host : VaultHost) (publicKey : String) :
    VaultProgram AttestationReport := do
  let reportValue ← call (.getSecret (reportSecretName host publicKey))
  match ← throwing (host.deserializeReport reportValue) with
  | none => .fail nullReference
  | some attestationReport => do
      Program.ofExcept (verifyKeyImportedByService host publicKey attestationReport.snpCaci)
      return attestationReport

def setSigningCertSecret (host : VaultHost) (publicKey certificate : String) :
    VaultProgram Unit :=
  call (.setSecret (certSecretName host publicKey) certificate)

/-- Unlike the report, the certificate is not checked against the key. -/
def getSigningCertSecret (host : VaultHost) (publicKey : String) : VaultProgram String :=
  call (.getSecret (certSecretName host publicKey))

structure SigningKeyInfo where
  attestationReport : AttestationReport
  signingCert : String

structure SigningPrivateKeyInfo extends SigningKeyInfo where
  signingKey : String

def signingKeyInfo (host : VaultHost) (publicKey : String) : VaultProgram SigningKeyInfo := do
  let attestationReport ← getAttestationReportSecret host publicKey
  let signingCert ← getSigningCertSecret host publicKey
  return { attestationReport, signingCert }

def getSigningKey (host : VaultHost) (kid : String) : VaultProgram (Option SigningKeyInfo) := do
  match ← getKey (toSigningKeyName kid) with
  | none => return none
  | some jsonWebKey => do
      let ecdsaKey ← toECDsa jsonWebKey
      return some (← signingKeyInfo host (host.exportSubjectPublicKeyInfoPem ecdsaKey))

def keyIdTag : String := "ccf-key-id"

def keyTypeTag : String := "ccf-key-type"

/-- `Dictionary.Add` of each tag, which throws for a key that is present. -/
def addTags (keyTags : List (String × String)) :
    List (String × String) → Except String (List (String × String))
  | [] => .ok keyTags
  | tag :: tags =>
      if (keyTags.lookup tag.1).isSome then
        .error s!"An item with the same key has already been added. Key: {tag.1}"
      else addTags (keyTags ++ [tag]) tags

def containsText (value part : String) : Bool := part.toList <:+: value.toList

def immutablePolicy : String :=
  "AKV.SKR.1020: Immutable Key Release Policy cannot be modified."

def generateKeyPair (isSnpCACI : Bool) : VaultProgram AttestationReportKeyCert :=
  if isSnpCACI then call .generateEcdsaKeyPairAndReport else call .readInsecureKeyPairAndReport

def importGenerated (host : VaultHost) (keyName kid kty : String) (tags : List (String × String))
    (generated : AttestationReportKeyCert) : VaultProgram String := do
  let keyTags ← throwing (addTags [(keyIdTag, kid), (keyTypeTag, kty)] tags)
  let snpReport ← throwing (verifyReport host generated.report.snpCaci)
  importKey host keyName generated.privateKey snpReport.hostData keyTags
  return generated.publicKey

def existingPublicKey (host : VaultHost) (keyName : String) : VaultProgram String := do
  match ← getKey keyName with
  | none => .fail nullReference
  | some jsonWebKey => return host.exportSubjectPublicKeyInfoPem (← toECDsa jsonWebKey)

/-- The key is looked for under the name of its name, so one that was imported before
is found only when the import of another one fails. -/
def generateSigningKey (host : VaultHost) (kid kty : String) (tags : List (String × String)) :
    VaultProgram SigningKeyInfo := do
  let keyName := toSigningKeyName kid
  match ← getSigningKey host keyName with
  | some existingKeyInfo => return existingKeyInfo
  | none => do
      let generated ← generateKeyPair (← Program.ofExcept host.isSnpCACI)
      setAttestationReportSecret host generated.publicKey generated.report
      setSigningCertSecret host generated.publicKey generated.certificate
      let publicKey ← Program.recover (importGenerated host keyName kid kty tags generated) fun
        | .requestFailed status message =>
            if containsText message immutablePolicy then existingPublicKey host keyName
            else .fail (.requestFailed status message)
        | error => .fail error
      signingKeyInfo host publicKey

def releaseSigningKey (host : VaultHost) (kid : String) : VaultProgram SigningPrivateKeyInfo := do
  let jsonWebKey ← call (.releaseKey (toSigningKeyName kid))
  let ecdsaKey ← toECDsa jsonWebKey
  let info ← signingKeyInfo host (host.exportSubjectPublicKeyInfoPem ecdsaKey)
  return { info with signingKey := jsonWebKey.privateKey }

end CleanRoom.Recovery
