import CleanRoom.Library.BigEndian
import CleanRoom.Library.Encodings
import CleanRoom.Library.Hex
import CleanRoom.Library.Throwing
import CleanRoom.Library.X509Chain

/-!
# UVM endorsements of the attestation client

`UvmCoseSign1Message` and `Endorsements`, with the loop that builds certificate
chains. Cryptography, certificates and the parsers of CBOR and JSON are fields of
`Host`; a call that throws answers with the text of its exception. A string that may
be null is an `Option`.
-/

namespace CleanRoom.Attestation

open ByteFile BigEndian Encodings X509Chain

structure EcdsaKey where
  encoding : Bytes
  /-- The coordinate `Q.X` of the exported parameters. -/
  x : Option Bytes
deriving DecidableEq

structure Extension where
  oid : Option String
  enhancedKeyUsages : Except String (List (Option String))
deriving DecidableEq

structure Certificate where
  raw : Bytes
  subject : String
  rsaPublicKey : Option Bytes
  ecdsaPublicKey : Option EcdsaKey
  extensions : List Extension
deriving DecidableEq

/-- The header `x5chain` as the CBOR reader sees it. -/
inductive X5Chain where
  | array (length : Option Nat) (item : Nat → Except String Bytes)
  | byteString (bytes : Bytes)
  | unexpected (state : String)

structure CoseSign1Message where
  iss : Except String String
  feed : Except String String
  x5chain : Option X5Chain
  algorithm : Except String Int
  content : Option Bytes

inductive VerificationKey where
  | rsa (key : Bytes)
  | ecdsa (key : EcdsaKey)
deriving DecidableEq

structure Host where
  sha256 : Bytes → Bytes
  toUpper : String → String
  toLower : String → String
  loadPemCertificate : String → Except String Certificate
  loadCertificate : Bytes → Except String Certificate
  chain : ChainEngine Certificate
  /-- `JsonSerializer.Serialize` of the statuses of a chain. -/
  serializeStatus : List ChainStatus → String
  /-- `ImportFromPem` followed by `ExportRSAPublicKey`. -/
  importRsaPublicKey : String → Except String Bytes
  /-- `ECDsa.VerifyData` with SHA-384: key, data, signature. -/
  ecdsaVerifyData : EcdsaKey → Bytes → Bytes → Bool
  memoryAfter : Bytes → Bytes
  decodeSign1 : Bytes → Except String CoseSign1Message
  base64UrlEncode : Bytes → String
  verifyEmbedded : CoseSign1Message → VerificationKey → Except String Bool
  /-- `JsonSerializer.Deserialize` of a `UvmPayload`: null, or its launch
  measurement, which may be null. -/
  deserializeUvmPayload : String → Except String (Option (Option String))

def fromBase64 : Option String → Except String Bytes
  | none => .error "Value cannot be null. (Parameter 's')"
  | some text => fromBase64String text

/-- The loop over the certificates in reverse order. It gives the statuses of the
last chain that was built. -/
def buildChains (engine : ChainEngine Certificate) (flags : VerificationFlags)
    (invalid : Certificate → List ChainStatus → String) (store : List Certificate)
    (status : List ChainStatus) : List Certificate → Except String (List ChainStatus)
  | [] => .ok status
  | cert :: rest =>
      let found := engine.status store cert
      if engine.build flags store cert then
        buildChains engine flags invalid (store ++ [cert]) found rest
      else .error (invalid cert found)

/-- The first and the last certificate of a collection. An empty collection has an
index out of range. -/
def leafAndRoot (certs : List Certificate) : Except String (Certificate × Certificate) :=
  match certs.head?, certs.getLast? with
  | some leaf, some root => .ok (leaf, root)
  | _, _ => .error ("Index was out of range. Must be non-negative and less than the size of " ++
      "the collection. (Parameter 'index')")

def trustedMicrosoftIssValue : String :=
  "did:x509:0:sha256:I__iuL25oXEVFdTP_aBLx_eT1RPHbCQ_ECBQfYZpt9s::eku:1.3.6.1.4.1.311.76.59.1.2"

def trustedMicrosoftFeedValue : String := "ContainerPlat-AMD-UVM"

def ekuExtensionOidValue : String := "2.5.29.37"

/-- The fifth token of the issuer value. The fourth is `sha256`, as the source
requires. -/
def expectedRoot : String := "I__iuL25oXEVFdTP_aBLx_eT1RPHbCQ_ECBQfYZpt9s"

/-- The token behind `::eku:` of the issuer value. -/
def ekuPolicy : String := "1.3.6.1.4.1.311.76.59.1.2"

inductive SigningAlgorithm where
  | rsa
  | ecdsa
deriving DecidableEq

def SigningAlgorithm.name : SigningAlgorithm → String
  | .rsa => "RSA"
  | .ecdsa => "ECDsa"

def supportedAlgorithmsByHeaderValue (header : Int) : Option SigningAlgorithm :=
  if header ∈ [-259, -258, -257, -39, -38, -37] then some .rsa
  else if header ∈ [-36, -35, -7] then some .ecdsa
  else none

def uvmChainFlags : VerificationFlags := ⟨true, true⟩

def messageCertificates (host : Host) : X5Chain → Except String (List Certificate)
  | .array none _ => .error "Unreasonable number of certs '0' in COSE_Sign1 document."
  | .array (some length) item =>
      if length > 100 then
        .error ("Unreasonable number of certs '" ++ toString length ++
          "' in COSE_Sign1 document.")
      else (List.range length).mapM fun index => do
        let encoded ← item index
        host.loadCertificate encoded
  | .byteString bytes => do
      let cert ← host.loadCertificate bytes
      pure [cert]
  | .unexpected state => .error ("Unexpected x5chain type " ++ state ++ ".")

def uvmChainInvalid (host : Host) (cert : Certificate) (status : List ChainStatus) : String :=
  let text := "'" ++ cert.subject ++ "' certificate chain was not valid."
  if status.length > 0 then text ++ " chainStatus: " ++ host.serializeStatus status else text

def checkIssuer (message : CoseSign1Message) : Except String Unit := do
  let iss ← message.iss
  let feed ← message.feed
  if iss ≠ trustedMicrosoftIssValue then
    .error ("Unexpected iss value of " ++ iss ++ ". Expected value was " ++
      trustedMicrosoftIssValue ++ ".")
  else if feed ≠ trustedMicrosoftFeedValue then
    .error ("Unexpected feed value of " ++ feed ++ ". Expected value was " ++
      trustedMicrosoftFeedValue ++ ".")
  else .ok ()

def checkRootFingerprint (host : Host) (rootCert : Certificate) : Except String Unit :=
  let value := host.base64UrlEncode (host.sha256 rootCert.raw)
  if value ≠ expectedRoot then
    .error ("unexpected certificate fingerprint '" ++ value ++ "' when expecting '" ++
      expectedRoot ++ "'.")
  else .ok ()

def checkEnhancedKeyUsage (leafCert : Certificate) : Except String Unit :=
  match leafCert.extensions.find? fun extension => extension.oid == some ekuExtensionOidValue with
  | none => .error "No EKU extension in leaf cert."
  | some ekuExtension => do
      let usages ← ekuExtension.enhancedKeyUsages
      if usages.any fun eku => eku == some ekuPolicy then .ok ()
      else .error ("Expected EKU " ++ ekuPolicy ++ " not found on leaf cert.")

def verificationKey (message : CoseSign1Message) (leafCert : Certificate) :
    Except String VerificationKey := do
  let algHeader ← message.algorithm
  match supportedAlgorithmsByHeaderValue algHeader with
  | none =>
      .error ("Unsupported signing algorithm by header value: " ++ toString algHeader ++ " ")
  | some algorithm =>
      let key := match algorithm with
        | .rsa => leafCert.rsaPublicKey.map VerificationKey.rsa
        | .ecdsa => leafCert.ecdsaPublicKey.map VerificationKey.ecdsa
      match key with
      | none =>
          .error ("Expected to find public key of type " ++ algorithm.name ++ " but found none.")
      | some key => .ok key

def verifyUvmBody (host : Host) (message : CoseSign1Message) : Except String Unit := do
  checkIssuer message
  match message.x5chain with
  | none => .error "x5chain missing in uvm cose sign1 message."
  | some x5chain => do
      let certs ← messageCertificates host x5chain
      let (leafCert, rootCert) ← leafAndRoot certs
      -- The statuses of the last chain are not looked at.
      let _ ← buildChains host.chain uvmChainFlags (uvmChainInvalid host) [] [] certs.reverse
      checkRootFingerprint host rootCert
      checkEnhancedKeyUsage leafCert
      let key ← verificationKey message leafCert
      let valid ← host.verifyEmbedded message key
      if valid then .ok ()
      else .error "VerifyEmbedded failed for uvm cose sign1 message."

def verifyUvm (host : Host) (message : CoseSign1Message) : Except String Unit :=
  match verifyUvmBody host message with
  | .ok () => .ok ()
  | .error error => .error ("Verification of UVM endorsement failed: " ++ error ++ ".")

def getUvmPayload (host : Host) (message : CoseSign1Message) : Except String (Option String) :=
  match message.content with
  | none => .error "Uvm endorsement cose message content is empty."
  | some content =>
      match host.deserializeUvmPayload (utf8GetString content) with
      | .error error => .error ("Uvm payload deserialization failed: " ++ error)
      | .ok none => .error "Got empty UvmPayload."
      | .ok (some launchMeasurement) => .ok launchMeasurement

def getDecodedUvmEndorsement (host : Host) (endorsementValue : String) :
    Except String CoseSign1Message :=
  match fromBase64String endorsementValue with
  | .error error => .error ("Endorsements does not have expected base64 format: " ++ error)
  | .ok decoded =>
      match host.decodeSign1 decoded with
      | .error error =>
          .error ("Endorsements does not have expected CBOR payload format: " ++ error)
      | .ok message => .ok message

end CleanRoom.Attestation
