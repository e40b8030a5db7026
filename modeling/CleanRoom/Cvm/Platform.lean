import CleanRoom.Library.BigEndian
import CleanRoom.Library.Throwing
import Mathlib.Data.List.AList
import Mathlib.Data.List.Sort

/-!
# What the attestation verifier is given

The values that the verifier of confidential VMs handles, and the library calls it
makes on them: hashing, signature checks, and the parsers for PEM, X.509, JSON and
TPM structures. These calls are fields of `Host`. A parser that fails answers with
the text of its error.
-/

namespace CleanRoom.Cvm

open ByteFile BigEndian

structure RsaPublicKey where
  modulus : Nat
  exponent : Int
deriving DecidableEq

inductive Curve where
  | p224
  | p256
  | p384
  | p521
deriving DecidableEq

structure EcdsaPublicKey where
  curve : Curve
  x : Nat
  y : Nat
deriving DecidableEq

inductive PublicKey where
  | rsa (key : RsaPublicKey)
  | ecdsa (key : EcdsaPublicKey)
  | other (encoding : Bytes)
deriving DecidableEq

structure Certificate where
  raw : Bytes
  commonName : String
  publicKey : PublicKey
deriving DecidableEq

/-- A JSON Web Key; `n` and `e` are base64url texts. -/
structure Jwk where
  kid : String
  kty : String
  n : String
  e : String
deriving DecidableEq

inductive TpmAlg where
  | sha1
  | sha256
  | sha384
  | sha512
deriving DecidableEq

def TpmAlg.digestSize : TpmAlg → Nat
  | .sha1 => 20
  | .sha256 => 32
  | .sha384 => 48
  | .sha512 => 64

/-- `TPMS_PCR_SELECTION`: one bank, and a bit for each of its registers. -/
structure PcrSelection where
  hash : TpmAlg
  pcrSelect : Bytes
deriving DecidableEq

/-- The attested part of a `TPMS_ATTEST`. For one that is not a quote, the error of
asking for the quote. -/
inductive Attested where
  | quote (pcrSelect : List PcrSelection) (pcrDigest : Bytes)
  | other (error : String)
deriving DecidableEq

structure TpmsAttest where
  extraData : Bytes
  attested : Attested
deriving DecidableEq

inductive TpmtSignature where
  | rsassa (sig : Bytes)
  | other (error : String)
deriving DecidableEq

structure Host where
  sha256 : Bytes → Bytes
  sha384 : Bytes → Bytes
  /-- `rsa.VerifyPKCS1v15` with SHA-256: key, hash, signature. -/
  verifyPKCS1v15 : RsaPublicKey → Bytes → Bytes → Except String Unit
  ecdsaVerify : EcdsaPublicKey → Bytes → Nat → Nat → Bool
  /-- `pem.Decode`: the bytes of the next block of a text, and the text after it. -/
  pemDecode : String → Option (Bytes × String)
  parseCertificate : Bytes → Except String Certificate
  /-- `child.CheckSignatureFrom(parent)` -/
  checkSignatureFrom : Certificate → Certificate → Except String Unit
  parsePKIXPublicKey : Bytes → Except String PublicKey
  marshalPKIXPublicKey : PublicKey → Except String Bytes
  /-- `json.Unmarshal` into `runtimeClaimsKeys`: the raw elements of `keys`. -/
  unmarshalClaimsKeys : Bytes → Except String (List Bytes)
  unmarshalJwk : Bytes → Except String Jwk
  /-- `base64.RawURLEncoding.DecodeString` -/
  decodeRawURL : String → Except String Bytes
  unmarshalAttest : Bytes → Except String TpmsAttest
  unmarshalSignature : Bytes → Except String TpmtSignature
  /-- The text of a string under `%q`. -/
  quoted : String → String

private def hexDigit (value : Nat) : Char := "0123456789abcdef".toList.getD value '0'

def hex (bytes : Bytes) : String :=
  String.ofList (bytes.flatMap fun byte => [hexDigit (byte.toNat / 16), hexDigit (byte.toNat % 16)])

def littleEndian (bytes : Bytes) : Nat := decode bytes.reverse

/-- The evidence for one verification. The AIK certificate is decoded by the caller
but no check reads it. -/
structure EvidenceInput where
  tpmQuote : Bytes
  hclReport : Bytes
  snpReport : Bytes
  pcrValues : AList fun _ : Int => Bytes
  nonce : Bytes
  amdProduct : String
  platformCertificates : String

inductive CheckId where
  | platformCertsParsing
  | arkRootTrust
  | runtimeClaimsParsing
  | akKeyExtraction
  | quoteFormat
  | tpmQuoteSignature
  | nonce
  | pcrDigest
  | reportDataBinding
  | snpReportFormat
  | certChainValidation
  | snpSignature
deriving DecidableEq

structure CheckResult where
  passed : Bool
  detail : String
  error : String
deriving DecidableEq

structure NamedCheck where
  id : CheckId
  result : CheckResult
deriving DecidableEq

structure VerifyResult where
  verified : Bool
  checks : List NamedCheck
  runtimeClaims : Option Bytes
deriving DecidableEq

def CheckResult.pass (detail : String) : CheckResult := ⟨true, detail, ""⟩

def CheckResult.fail (error : String) : CheckResult := ⟨false, "", error⟩

def checkOf {Value : Type} (id : CheckId) (detail : Value → String) :
    Except String Value → NamedCheck
  | .ok value => ⟨id, .pass (detail value)⟩
  | .error error => ⟨id, .fail error⟩

theorem check_of_passed {Value : Type} (id : CheckId) (detail : Value → String)
    (result : Except String Value) :
    (checkOf id detail result).result.passed = true ↔ ∃ value, result = .ok value := by
  cases result with
  | ok value => simp [checkOf, CheckResult.pass]
  | error error => simp [checkOf, CheckResult.fail]

@[simp] theorem check_of_id {Value : Type} (id : CheckId) (detail : Value → String)
    (result : Except String Value) : (checkOf id detail result).id = id := by
  cases result <;> rfl

end CleanRoom.Cvm
