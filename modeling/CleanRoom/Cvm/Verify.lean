import CleanRoom.Cvm.Platform

/-!
# Verification of confidential VM evidence

The packages `hcl` and `verify`: the layout of the HCL report, the platform
certificates, the SNP report, the TPM quote, and `VerifyAll` over them. Certificates
are told apart by their place in the bundle, which stands for the pointers that the
source compares.
-/

namespace CleanRoom.Cvm

open ByteFile BigEndian

def headerSize : Nat := 32
def snpReportSize : Nat := 1184
def runtimeDataHeaderSize : Nat := 20
def runtimeDataOffset : Nat := headerSize + snpReportSize

/-- `ParseRuntimeDataHeader`. Of the five words of the header only the last, the
size of the claims, is used. -/
def parseRuntimeDataHeader (hclBlob : Bytes) : Except String Nat :=
  if hclBlob.length < runtimeDataOffset + runtimeDataHeaderSize then
    .error ("HCL report too small for runtime data header: " ++ toString hclBlob.length ++
      " bytes")
  else .ok (littleEndian (slice hclBlob (runtimeDataOffset + 16) 4))

def extractRuntimeClaimsRaw (hclBlob : Bytes) : Except String Bytes := do
  let claimSize ← parseRuntimeDataHeader hclBlob
  let claimsStart := runtimeDataOffset + runtimeDataHeaderSize
  let claimsEnd := claimsStart + claimSize
  if claimsEnd > hclBlob.length then
    .error ("runtime claims exceed HCL blob: need " ++ toString claimsEnd ++ ", have " ++
      toString hclBlob.length)
  else .ok (slice hclBlob claimsStart claimSize)

def arkMilanPublicKeyPEM : String := "-----BEGIN PUBLIC KEY-----
MIICIjANBgkqhkiG9w0BAQEFAAOCAg8AMIICCgKCAgEA0Ld52RJOdeiJlqK2JdsV
mD7FktuotWwX1fNgW41XY9Xz1HEhSUmhLz9Cu9DHRlvgJSNxbeYYsnJfvyjx1MfU
0V5tkKiU1EesNFta1kTA0szNisdYc9isqk7mXT5+KfGRbfc4V/9zRIcE8jlHN61S
1ju8X93+6dxDUrG2SzxqJ4BhqyYmUDruPXJSX4vUc01P7j98MpqOS95rORdGHeI5
2Naz5m2B+O+vjsC060d37jY9LFeuOP4Meri8qgfi2S5kKqg/aF6aPtuAZQVR7u3K
FYXP59XmJgtcog05gmI0T/OitLhuzVvpZcLph0odh/1IPXqx3+MnjD97A7fXpqGd
/y8KxX7jksTEzAOgbKAeam3lm+3yKIcTYMlsRMXPcjNbIvmsBykD//xSniusuHBk
gnlENEWx1UcbQQrs+gVDkuVPhsnzIRNgYvM48Y+7LGiJYnrmE8xcrexekBxrva2V
9TJQqnN3Q53kt5viQi3+gCfmkwC0F0tirIZbLkXPrPwzZ0M9eNxhIySb2npJfgnq
z55I0u33wh4r0ZNQeTGfw03MBUtyuzGesGkcw+loqMaq1qR4tjGbPYxCvpCq7+Og
pCCoMNit2uLo9M18fHz10lOMT8nWAUvRZFzteXCm+7PHdYPlmQwUw3LvenJ/ILXo
QPHfbkH0CyPfhl1jWhJFZasCAwEAAQ==
-----END PUBLIC KEY-----"

def arkGenoaPublicKeyPEM : String := "-----BEGIN PUBLIC KEY-----
MIICIjANBgkqhkiG9w0BAQEFAAOCAg8AMIICCgKCAgEA3Cd95S/uFOuRIskW9vz9
VDBF69NDQF79oRhL/L2PVQGhK3YdfEBgpF/JiwWFBsT/fXDhzA01p3LkcT/7Ldjc
RfKXjHl+0Qq/M4dZkh6QDoUeKzNBLDcBKDDGWo3v35NyrxbA1DnkYwUKU5AAk4P9
4tKXLp80oxt84ahyHoLmc/LqsGsp+oq1Bz4PPsYLwTG4iMKVaaT90/oZ4I8oibSr
u92vJhlqWO27d/Rxc3iUMyhNeGToOvgx/iUo4gGpG61NDpkEUvIzuKcaMx8IdTpW
g2DF6SwF0IgVMffnvtJmA68BwJNWo1E4PLJdaPfBifcJpuBFwNVQIPQEVX3aP89H
JSp8YbY9lySS6PlVEqTBBtaQmi4ATGmMR+n2K/e+JAhU2Gj7jIpJhOkdH9firQDn
mlA2SFfJ/Cc0mGNzW9RmIhyOUnNFoclmkRhl3/AQU5Ys9Qsan1jT/EiyT+pCpmnA
+y9edvhDCbOG8F2oxHGRdTBkylungrkXJGYiwGrR8kaiqv7NN8QhOBMqYjcbrkEr
0f8QMKklIS5ruOfqlLMCBw8JLB3LkjpWgtD7OpxkzSsohN47Uom86RY6lp72g8eX
HP1qYrnvhzaG1S70vw6OkbaaC9EjiH/uHgAJQGxon7u0Q7xgoREWA/e7JcBQwLg8
0Hq/sbRuqesxz7wBWSY254cCAwEAAQ==
-----END PUBLIC KEY-----"

def arkTurinPublicKeyPEM : String := "-----BEGIN PUBLIC KEY-----
MIICIjANBgkqhkiG9w0BAQEFAAOCAg8AMIICCgKCAgEAwaAriB7EIuVc4ZB1wD3Y
fDx+9eyS7+izm0Jj3W772NINCWl8Bj3w/JD2ZjmbRxWdIq/4d9iarCKorXloJUB
1jRdgxqccTx1aOoig42w1XhVVJT7K457wT5ZLNJgQaxqa9Etkwjd6+9sOhlCDE9
l43kQ0R2BikVJa/uyyVOSwEk5w5tXKOuGjvq6QtAMJasW38wlqRDaKEGtZ9VUgG
on27ZuL4sTJuC/azz9/iQBw8kEilzOl95AiTkeY5jSEBDWbAnZk5qlM7kISKG20
kgQm14mhNKDI2p2oua+zuAG7i52epoRF2GfU0TYk/yf+vCNB2tnechFQuP2e8bL
95ZdqPi9/UWw4JXjtdEA4u2JYplSSUPQVAXKt6LVqujtJcM59JKr2u0XQ75KwxcM
p15gSXhBfInvPwuAY4dEwwGqT8oIg4esPHwEsmChhYeDIxPG9R4fx9O0q6p8Gb+
HXlTiS47P9YNeOpidOUKzDl/S1OvhDtSL8LJc24QATFydo/iD/KUdvFTRlD0crk
AMkZLoWQ8hLDGc6BZJXsdd7Zf2e4UW3tI/1oh/2t23O3zyhTcv5gDbABu0LjVe9
8uRnS15SMwK//lJt9e5BqKvgABkSoABf+B4VFtPVEX0ygrYaFaI9i5ABrxnVBmzX
pRb21iI1NlNCfOGUPIhVpWECAwEAAQ==
-----END PUBLIC KEY-----"

def wellKnownARKPublicKeys (product : String) : Option String :=
  if product = "Milan" then some arkMilanPublicKeyPEM
  else if product = "Genoa" then some arkGenoaPublicKeyPEM
  else if product = "Turin" then some arkTurinPublicKeyPEM
  else none

/-- The loop over `pem.Decode`. Every block takes part of the text, so as many
rounds as it has characters are enough. -/
def parsePEMBlocks (host : Host) : Nat → String → Except String (List Certificate)
  | 0, _ => .ok []
  | rounds + 1, rest =>
      match host.pemDecode rest with
      | none => .ok []
      | some (block, after) =>
          match host.parseCertificate block with
          | .error error => .error ("parse cert from PEM: " ++ error)
          | .ok certificate => do
              let certificates ← parsePEMBlocks host rounds after
              pure (certificate :: certificates)

def parsePEMCertificates (host : Host) (pemData : String) : Except String (List Certificate) :=
  parsePEMBlocks host (pemData.length + 1) pemData

def signedBy (host : Host) (child parent : Certificate) : Bool :=
  match host.checkSignatureFrom child parent with
  | .ok _ => true
  | .error _ => false

def lastSignedBy (host : Host) (placed : List (Certificate × Nat)) (skipped : List Nat)
    (parent : Certificate) : Option (Certificate × Nat) :=
  placed.foldl (fun found candidate =>
    if candidate.2 ∈ skipped then found
    else if signedBy host candidate.1 parent then some candidate else found) none

structure ChainCerts where
  vcek : Certificate
  ask : Certificate
  ark : Certificate
deriving DecidableEq

def classifyCerts (host : Host) (certs : List Certificate) : Except String ChainCerts :=
  if certs.length < 3 then
    .error ("expected at least 3 certificates (VCEK, ASK, ARK), got " ++ toString certs.length)
  else
    let placed := certs.zipIdx
    match placed.find? fun candidate => signedBy host candidate.1 candidate.1 with
    | none => .error "no self-signed root (ARK) found in platform certificates"
    | some ark =>
        match lastSignedBy host placed [ark.2] ark.1 with
        | none => .error "no intermediate (ASK) signed by ARK found"
        | some ask =>
            match lastSignedBy host placed [ark.2, ask.2] ask.1 with
            | none => .error "no leaf (VCEK) signed by ASK found"
            | some vcek => .ok ⟨vcek.1, ask.1, ark.1⟩

/-- `fmt.Errorf` with `%w` at the end of a text. -/
def wrapError {Value : Type} (text : String) : Except String Value → Except String Value
  | .ok value => .ok value
  | .error error => .error (text ++ error)

def verifySNPCertChain (host : Host) (chain : ChainCerts) : Except String Unit := do
  wrapError "ARK is not self-signed: " (host.checkSignatureFrom chain.ark chain.ark)
  wrapError "ASK not signed by ARK: " (host.checkSignatureFrom chain.ask chain.ark)
  wrapError "VCEK not signed by ASK: " (host.checkSignatureFrom chain.vcek chain.ask)

def detectAMDProduct (ark : Certificate) : String :=
  if "ARK-".toList.isPrefixOf ark.commonName.toList then
    String.ofList (ark.commonName.toList.drop 4)
  else "Milan"

def verifyARKMatchesWellKnown (host : Host) (ark : Certificate) (product : String) :
    Except String Unit :=
  match wellKnownARKPublicKeys product with
  | none => .error ("no well-known ARK public key for product " ++ host.quoted product)
  | some wellKnownPEM =>
      match host.pemDecode wellKnownPEM with
      | none =>
          .error ("failed to decode well-known ARK public key PEM for " ++ host.quoted product)
      | some (block, _) => do
          let wellKnownPub ← wrapError
            ("parse well-known ARK public key for " ++ host.quoted product ++ ": ")
            (host.parsePKIXPublicKey block)
          let expectedDER ← wrapError "marshal well-known ARK public key: "
            (host.marshalPKIXPublicKey wellKnownPub)
          let actualDER ← wrapError "marshal provided ARK public key: "
            (host.marshalPKIXPublicKey ark.publicKey)
          if actualDER ≠ expectedDER then
            .error ("provided ARK public key (" ++ ark.commonName ++
              ") does not match well-known key for " ++ host.quoted product)
          else .ok ()

def snpReportDataOffset : Nat := 0x50
def snpReportDataSize : Nat := 64
def snpSignatureOffset : Nat := 0x2A0
def snpSignedRegionEnd : Nat := 0x2A0
def snpSigComponentBytes : Nat := 48
def snpSigPaddedSize : Nat := 72

def verifySNPReportSignature (host : Host) (snpReport : Bytes) (vcek : Certificate) :
    Except String Unit :=
  if snpReport.length < snpReportSize then
    .error ("SNP report too small: " ++ toString snpReport.length ++ " bytes")
  else
    match vcek.publicKey with
    | .ecdsa ecKey =>
        if ecKey.curve ≠ .p384 then .error "VCEK key curve is not P-384"
        else
          let hash := host.sha384 (snpReport.take snpSignedRegionEnd)
          let r := littleEndian (slice snpReport snpSignatureOffset snpSigComponentBytes)
          let s := littleEndian
            (slice snpReport (snpSignatureOffset + snpSigPaddedSize) snpSigComponentBytes)
          if host.ecdsaVerify ecKey hash r s then .ok ()
          else .error "ECDSA-P384-SHA384 signature invalid"
    | _ => .error "VCEK public key is not ECDSA"

/-- `VerifySNPReport`: a report that is too small is not looked at further. -/
def verifySNPReport (host : Host) (snpReport : Bytes) (chain : ChainCerts) : List NamedCheck :=
  if snpReport.length < snpReportSize then
    [⟨.snpReportFormat, .fail ("SNP report too small: " ++ toString snpReport.length ++
      " bytes (need " ++ toString snpReportSize ++ ")")⟩]
  else
    [⟨.snpReportFormat, .pass (toString snpReport.length ++
      " bytes, signed region 0x000–0x29F")⟩,
     checkOf .certChainValidation (fun _ => "ARK → ASK → VCEK chain valid")
      (verifySNPCertChain host chain),
     checkOf .snpSignature (fun _ => "ECDSA-P384-SHA384 signature valid")
      (verifySNPReportSignature host snpReport chain.vcek)]

/-- `parseRSAPublicKey`. The exponent is an `int` that wraps. -/
def parseRSAPublicKey (host : Host) (nB64 eB64 : String) : Except String RsaPublicKey := do
  let nBytes ← wrapError "decode modulus: " (host.decodeRawURL nB64)
  let eBytes ← wrapError "decode exponent: " (host.decodeRawURL eB64)
  pure ⟨decode nBytes, eBytes.foldl (fun e byte => int64 (e * 256 + byte.toNat)) 0⟩

/-- The loop over the keys of the claims. A key that cannot be parsed is passed
over, and the first with the right name and type decides. -/
def findAKPubKey (host : Host) : List Bytes → Except String RsaPublicKey
  | [] => .error "HCLAkPub key not found in runtime claims"
  | raw :: rest =>
      match host.unmarshalJwk raw with
      | .error _ => findAKPubKey host rest
      | .ok key =>
          if key.kid = "HCLAkPub" ∧ key.kty = "RSA" then parseRSAPublicKey host key.n key.e
          else findAKPubKey host rest

def extractAKPubKey (host : Host) (claimsJSON : Bytes) : Except String RsaPublicKey :=
  if claimsJSON = [] then .error "no runtime claims provided"
  else do
    let keys ← wrapError "unmarshal runtime claims: " (host.unmarshalClaimsKeys claimsJSON)
    findAKPubKey host keys

structure ParsedQuote where
  attestBytes : Bytes
  nonce : Bytes
  pcrDigest : Bytes
  rsaSig : Bytes
deriving DecidableEq

def quoteInfo (attest : TpmsAttest) : Except String (List PcrSelection × Bytes) :=
  match attest.attested with
  | .quote pcrSelect pcrDigest => .ok (pcrSelect, pcrDigest)
  | .other error => .error ("extract TPMS_QUOTE_INFO: " ++ error)

def rsassaSignature (signature : TpmtSignature) : Except String Bytes :=
  match signature with
  | .rsassa sig => .ok sig
  | .other error => .error ("extract RSASSA signature: " ++ error)

def parseTPMQuote (host : Host) (quoteBlob : Bytes) : Except String ParsedQuote :=
  let attestSize := decode (quoteBlob.take 2)
  if quoteBlob.length < 6 then
    .error ("quote blob too small: " ++ toString quoteBlob.length ++ " bytes")
  else if 2 + attestSize > quoteBlob.length then
    .error ("TPM2B_ATTEST size " ++ toString attestSize ++ " exceeds blob length")
  else do
    let attestBytes := slice quoteBlob 2 attestSize
    let sigBytes := quoteBlob.drop (2 + attestSize)
    let attest ← wrapError "unmarshal TPMS_ATTEST: " (host.unmarshalAttest attestBytes)
    let info ← quoteInfo attest
    if sigBytes = [] then .error "no signature data after TPMS_ATTEST"
    else do
      let sig ← wrapError "unmarshal TPMT_SIGNATURE: " (host.unmarshalSignature sigBytes)
      let rsaSig ← rsassaSignature sig
      pure ⟨attestBytes, attest.extraData, info.2, rsaSig⟩

def verifyQuoteSignature (host : Host) (attestBytes rsaSig : Bytes) (pubKey : RsaPublicKey) :
    Except String Unit :=
  host.verifyPKCS1v15 pubKey (host.sha256 attestBytes) rsaSig

def concatPCRs (pcrValues : AList fun _ : Int => Bytes) : Bytes :=
  (pcrValues.keys.insertionSort (· ≤ ·)).flatMap fun index => (pcrValues.lookup index).getD []

def verifyPCRDigest (host : Host) (pcrValues : AList fun _ : Int => Bytes)
    (expectedDigest : Bytes) : Except String Unit :=
  let computed := host.sha256 (concatPCRs pcrValues)
  if computed ≠ expectedDigest then
    .error ("PCR digest mismatch: computed " ++ hex computed ++ ", expected " ++
      hex expectedDigest)
  else .ok ()

def verifyNonce (found expected : Bytes) : Except String Unit :=
  if found = expected then .ok ()
  else .error ("nonce mismatch: got " ++ hex found ++ ", expected " ++ hex expected)

def verifyReportDataBinding (host : Host) (hclReport snpReport : Bytes) : Except String Unit :=
  if snpReport.length < snpReportDataOffset + snpReportDataSize then
    .error ("SNP report too small: " ++ toString snpReport.length ++ " bytes")
  else do
    let claimsJSON ← extractRuntimeClaimsRaw hclReport
    let claimsHash := host.sha256 claimsJSON
    let reportData := slice snpReport snpReportDataOffset 32
    if claimsHash ≠ reportData then
      .error ("VarData hash mismatch: SHA256(claims)=" ++ hex claimsHash ++
        ", report_data[0:32]=" ++ hex reportData)
    else .ok ()

def productFor (input : EvidenceInput) (ark : Certificate) : String :=
  if input.amdProduct = "" then detectAMDProduct ark else input.amdProduct

def claimsOf (hclReport : Bytes) : Bytes :=
  match extractRuntimeClaimsRaw hclReport with
  | .ok claims => claims
  | .error _ => []

def bitLen (value : Nat) : Nat := if value = 0 then 0 else value.log2 + 1

def certAndClaimChecks (host : Host) (input : EvidenceInput) (chain : ChainCerts) :
    List NamedCheck :=
  let product := productFor input chain.ark
  [⟨.platformCertsParsing, .pass ("VCEK (" ++ chain.vcek.commonName ++ "), ASK (" ++
      chain.ask.commonName ++ "), ARK (" ++ chain.ark.commonName ++
      ") parsed from platform certificates")⟩,
   checkOf .arkRootTrust (fun _ => "ARK matches well-known AMD root for " ++ product)
    (verifyARKMatchesWellKnown host chain.ark product),
   checkOf .runtimeClaimsParsing (fun _ => "runtime claims extracted from HCL report")
    (extractRuntimeClaimsRaw input.hclReport),
   checkOf .akKeyExtraction (fun key : RsaPublicKey =>
      "HCLAkPub RSA-" ++ toString (bitLen key.modulus) ++ " extracted from runtime claims")
    (extractAKPubKey host (claimsOf input.hclReport))]

/-- The signature check is skipped, and counts as failed, without a key. -/
def quoteSignatureCheck (host : Host) (quote : ParsedQuote)
    (akPubKey : Except String RsaPublicKey) : NamedCheck :=
  match akPubKey with
  | .ok key => checkOf .tpmQuoteSignature (fun _ => "RSA-SHA256 signature valid")
      (verifyQuoteSignature host quote.attestBytes quote.rsaSig key)
  | .error _ => ⟨.tpmQuoteSignature, .fail "skipped: AK public key not available"⟩

def quoteAndReportChecks (host : Host) (input : EvidenceInput) (chain : ChainCerts)
    (quote : ParsedQuote) : List NamedCheck :=
  [⟨.quoteFormat, .pass "TPM quote parsed successfully"⟩,
   quoteSignatureCheck host quote (extractAKPubKey host (claimsOf input.hclReport)),
   checkOf .nonce (fun _ => "nonce matches expected value")
    (verifyNonce quote.nonce input.nonce),
   checkOf .pcrDigest (fun _ => "SHA256(PCR values) matches quote digest (" ++
      toString input.pcrValues.keys.length ++ " PCRs)")
    (verifyPCRDigest host input.pcrValues quote.pcrDigest),
   checkOf .reportDataBinding (fun _ => "SHA256(runtime claims) == report_data[0:32]")
    (verifyReportDataBinding host input.hclReport input.snpReport)] ++
  verifySNPReport host input.snpReport chain

def rejected (checks : List NamedCheck) : VerifyResult := ⟨false, checks, none⟩

/-- `VerifyAll` from the point where the certificates are known. -/
def verifyWithCerts (host : Host) (input : EvidenceInput) (chain : ChainCerts) : VerifyResult :=
  let before := certAndClaimChecks host input chain
  match parseTPMQuote host input.tpmQuote with
  | .error error => rejected (before ++ [⟨.quoteFormat, .fail error⟩])
  | .ok quote =>
      let checks := before ++ quoteAndReportChecks host input chain quote
      let verified := checks.all fun check => check.result.passed
      let claimsJSON := claimsOf input.hclReport
      ⟨verified, checks, if verified = true ∧ 0 < claimsJSON.length then some claimsJSON else none⟩

def verifyAll (host : Host) (input : EvidenceInput) : VerifyResult :=
  if input.platformCertificates = "" then
    rejected [⟨.platformCertsParsing, .fail "platformCertificates is required"⟩]
  else
    match parsePEMCertificates host input.platformCertificates with
    | .error error => rejected [⟨.platformCertsParsing, .fail error⟩]
    | .ok certs =>
        match classifyCerts host certs with
        | .error error => rejected [⟨.platformCertsParsing, .fail error⟩]
        | .ok chain => verifyWithCerts host input chain

end CleanRoom.Cvm
