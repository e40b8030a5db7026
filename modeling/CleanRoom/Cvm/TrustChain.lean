import CleanRoom.Cvm.Verify

/-!
# The trust chain behind a positive verdict

Each step of the verifier is inverted once: what its success says about the bytes
it was given. A verdict of `Verified` then carries every link from the root key of
the product down to the values of the platform configuration registers.
-/

namespace CleanRoom.Cvm

open ByteFile BigEndian Throwing

/-- Three different entries of the bundle: a self-signed root, a certificate the
root has signed, and one that this has signed. -/
structure CertLink (host : Host) (certs : List Certificate) (chain : ChainCerts) : Prop where
  places : ∃ root middle leaf : Nat, root ≠ middle ∧ root ≠ leaf ∧ middle ≠ leaf ∧
    certs[root]? = some chain.ark ∧ certs[middle]? = some chain.ask ∧
    certs[leaf]? = some chain.vcek
  rootSigned : host.checkSignatureFrom chain.ark chain.ark = .ok ()
  middleSigned : host.checkSignatureFrom chain.ask chain.ark = .ok ()
  leafSigned : host.checkSignatureFrom chain.vcek chain.ask = .ok ()

def IsWellKnownKey (host : Host) (product : String) (key : PublicKey) : Prop :=
  ∃ pem block rest known der, wellKnownARKPublicKeys product = some pem ∧
    host.pemDecode pem = some (block, rest) ∧
    host.parsePKIXPublicKey block = .ok known ∧
    host.marshalPKIXPublicKey known = .ok der ∧ host.marshalPKIXPublicKey key = .ok der

structure ReportSigned (host : Host) (snpReport : Bytes) (vcek : Certificate) : Prop where
  size : snpReportSize ≤ snpReport.length
  signed : ∃ key : EcdsaPublicKey, vcek.publicKey = .ecdsa key ∧ key.curve = .p384 ∧
    host.ecdsaVerify key (host.sha384 (snpReport.take 0x2A0))
      (littleEndian (slice snpReport 0x2A0 48)) (littleEndian (slice snpReport 0x2E8 48)) = true

/-- The runtime claims of an HCL report: behind its headers, as long as the last
word of the second header says. -/
structure ClaimsIn (hclReport claims : Bytes) : Prop where
  header : 1236 ≤ hclReport.length
  inside : 1236 + littleEndian (slice hclReport 1232 4) ≤ hclReport.length
  claimBytes : claims = slice hclReport 1236 (littleEndian (slice hclReport 1232 4))

def FirstNamed (host : Host) (keys : List Bytes) (key : RsaPublicKey) : Prop :=
  ∃ before raw after jwk, keys = before ++ raw :: after ∧
    host.unmarshalJwk raw = .ok jwk ∧ jwk.kid = "HCLAkPub" ∧ jwk.kty = "RSA" ∧
    parseRSAPublicKey host jwk.n jwk.e = .ok key ∧
    ∀ earlier ∈ before, ∀ other, host.unmarshalJwk earlier = .ok other →
      ¬(other.kid = "HCLAkPub" ∧ other.kty = "RSA")

def NamedKey (host : Host) (claims : Bytes) (key : RsaPublicKey) : Prop :=
  ∃ keys, host.unmarshalClaimsKeys claims = .ok keys ∧ FirstNamed host keys key

/-- The blob is an attestation structure with its size in front, and behind it a
signature of that structure under the key. -/
structure QuoteSigned (host : Host) (key : RsaPublicKey) (quoteBlob : Bytes)
    (attestBytes : Bytes) (attest : TpmsAttest) : Prop where
  size : 2 + decode (quoteBlob.take 2) ≤ quoteBlob.length
  attestIs : attestBytes = slice quoteBlob 2 (decode (quoteBlob.take 2))
  parsed : host.unmarshalAttest attestBytes = .ok attest
  signed : ∃ sig, host.unmarshalSignature (quoteBlob.drop (2 + decode (quoteBlob.take 2))) =
      .ok (.rsassa sig) ∧ host.verifyPKCS1v15 key (host.sha256 attestBytes) sig = .ok ()

/-- Every link, over the bytes of one evidence bundle. -/
structure TrustChain (host : Host) (input : EvidenceInput) (certs : List Certificate)
    (chain : ChainCerts) (claims : Bytes) (key : RsaPublicKey) (attestBytes : Bytes)
    (selection : List PcrSelection) : Prop where
  bundle : parsePEMCertificates host input.platformCertificates = .ok certs
  certificates : CertLink host certs chain
  root : IsWellKnownKey host (productFor input chain.ark) chain.ark.publicKey
  report : ReportSigned host input.snpReport chain.vcek
  runtimeClaims : ClaimsIn input.hclReport claims
  reportData : slice input.snpReport 0x50 32 = host.sha256 claims
  attestationKey : NamedKey host claims key
  quote : QuoteSigned host key input.tpmQuote attestBytes
    ⟨input.nonce, .quote selection (host.sha256 (concatPCRs input.pcrValues))⟩

section Steps

variable {host : Host}

theorem wrap_error_ok {Value : Type} (text : String) (result : Except String Value)
    (value : Value) : wrapError text result = .ok value ↔ result = .ok value := by
  cases result <;> simp [wrapError]

theorem signed_by_iff (child parent : Certificate) :
    signedBy host child parent = true ↔ host.checkSignatureFrom child parent = .ok () := by
  unfold signedBy
  cases host.checkSignatureFrom child parent <;> simp

theorem last_signed_by_some (placed : List (Certificate × Nat)) (skipped : List Nat)
    (parent : Certificate) (found : Certificate × Nat)
    (ended : lastSignedBy host placed skipped parent = some found) :
    found ∈ placed ∧ found.2 ∉ skipped ∧ signedBy host found.1 parent = true := by
  refine List.foldlRecOn placed _ (motive := fun kept => ∀ matched, kept = some matched →
    matched ∈ placed ∧ matched.2 ∉ skipped ∧ signedBy host matched.1 parent = true)
    ?_ ?_ found ended
  · intro matched absent
    cases absent
  · intro kept good candidate member matched same
    split_ifs at same with skip signs
    · exact good matched same
    · cases same
      exact ⟨member, skip, signs⟩
    · exact good matched same

variable {key : RsaPublicKey} {quote : ParsedQuote} {chain : ChainCerts} {snpReport : Bytes}

theorem classify_certs_ok (certs : List Certificate)
    (classified : classifyCerts host certs = .ok chain) : CertLink host certs chain := by
  simp only [classifyCerts] at classified
  split_ifs at classified
  split at classified
  · cases classified
  next ark first =>
    split at classified
    · cases classified
    next ask second =>
      split at classified
      · cases classified
      next vcek third =>
        cases classified
        have arkMember := List.mem_of_find?_eq_some first
        have arkSigned := List.find?_some first
        obtain ⟨askMember, askPlace, askSigned⟩ := last_signed_by_some _ _ _ _ second
        obtain ⟨vcekMember, vcekPlace, vcekSigned⟩ := last_signed_by_some _ _ _ _ third
        simp only [List.mem_cons, List.not_mem_nil, or_false, not_or] at askPlace vcekPlace
        exact {
          places := ⟨ark.2, ask.2, vcek.2, Ne.symm askPlace, Ne.symm vcekPlace.1,
            Ne.symm vcekPlace.2, List.mem_zipIdx_iff_getElem?.mp arkMember,
            List.mem_zipIdx_iff_getElem?.mp askMember, List.mem_zipIdx_iff_getElem?.mp vcekMember⟩
          rootSigned := (signed_by_iff _ _).mp arkSigned
          middleSigned := (signed_by_iff _ _).mp askSigned
          leafSigned := (signed_by_iff _ _).mp vcekSigned }

theorem ark_matches_ok (ark : Certificate) (product : String)
    (matched : verifyARKMatchesWellKnown host ark product = .ok ()) :
    IsWellKnownKey host product ark.publicKey := by
  simp only [verifyARKMatchesWellKnown] at matched
  split at matched
  · cases matched
  next pem listed =>
    split at matched
    · cases matched
    next block rest decoded =>
      obtain ⟨known, parsed, matched⟩ := of_bind matched
      obtain ⟨expected, marshalled, matched⟩ := of_bind matched
      obtain ⟨actual, provided, matched⟩ := of_bind matched
      rw [wrap_error_ok] at parsed marshalled provided
      split_ifs at matched with different
      rw [not_not.mp different] at provided
      exact ⟨pem, block, rest, known, expected, listed, decoded, parsed, marshalled, provided⟩

theorem report_signature_ok (vcek : Certificate)
    (verified : verifySNPReportSignature host snpReport vcek = .ok ()) :
    ReportSigned host snpReport vcek := by
  simp only [verifySNPReportSignature] at verified
  split_ifs at verified with small
  split at verified
  next ecKey isEcdsa =>
    split_ifs at verified with curve valid
    exact ⟨Nat.le_of_not_lt small, ecKey, isEcdsa, not_not.mp curve, valid⟩
  · cases verified

theorem extract_claims_ok (hclReport claims : Bytes)
    (extracted : extractRuntimeClaimsRaw hclReport = .ok claims) : ClaimsIn hclReport claims := by
  obtain ⟨claimSize, header, extracted⟩ := of_bind extracted
  simp only [parseRuntimeDataHeader] at header
  split_ifs at header with small
  cases header
  simp only at extracted
  split_ifs at extracted with beyond
  cases extracted
  exact ⟨Nat.le_of_not_lt small, Nat.le_of_not_lt beyond, rfl⟩

theorem report_data_ok (hclReport snpReport claims : Bytes)
    (extracted : extractRuntimeClaimsRaw hclReport = .ok claims)
    (bound : verifyReportDataBinding host hclReport snpReport = .ok ()) :
    slice snpReport 0x50 32 = host.sha256 claims := by
  simp only [verifyReportDataBinding] at bound
  split_ifs at bound
  obtain ⟨found, again, bound⟩ := of_bind bound
  rw [extracted] at again
  cases again
  split_ifs at bound with different
  exact (not_not.mp different).symm

theorem find_ak_ok (keys : List Bytes) (found : findAKPubKey host keys = .ok key) :
    FirstNamed host keys key := by
  induction keys with
  | nil => cases found
  | cons first rest ih =>
      -- A first key that is passed over joins those before the one that is found.
      have later (passed : findAKPubKey host rest = .ok key)
          (other : ∀ other, host.unmarshalJwk first = .ok other →
            ¬(other.kid = "HCLAkPub" ∧ other.kty = "RSA")) :
          FirstNamed host (first :: rest) key := by
        obtain ⟨before, raw, after, jwk, same, parsed, kid, kty, isKey, earlier⟩ := ih passed
        exact ⟨first :: before, raw, after, jwk, by rw [same]; rfl, parsed, kid, kty, isKey,
          List.forall_mem_cons.mpr ⟨other, earlier⟩⟩
      simp only [findAKPubKey] at found
      split at found
      next error unparsed =>
        apply later found
        intro other parsed
        rw [unparsed] at parsed
        cases parsed
      next jwk parsed =>
        split_ifs at found with named
        · exact ⟨[], first, rest, jwk, rfl, parsed, named.1, named.2, found, by simp⟩
        · apply later found
          intro other again
          rw [parsed] at again
          cases again
          exact named

theorem extract_ak_ok (claims : Bytes) (extracted : extractAKPubKey host claims = .ok key) :
    NamedKey host claims key := by
  simp only [extractAKPubKey] at extracted
  split_ifs at extracted
  obtain ⟨keys, parsed, found⟩ := of_bind extracted
  rw [wrap_error_ok] at parsed
  exact ⟨keys, parsed, find_ak_ok keys found⟩

theorem parse_quote_ok (quoteBlob : Bytes) (parsed : parseTPMQuote host quoteBlob = .ok quote)
    (signed : verifyQuoteSignature host quote.attestBytes quote.rsaSig key = .ok ()) :
    ∃ selection, QuoteSigned host key quoteBlob quote.attestBytes
      ⟨quote.nonce, .quote selection quote.pcrDigest⟩ := by
  simp only [parseTPMQuote] at parsed
  split at parsed
  · cases parsed
  split at parsed
  · cases parsed
  next beyond =>
  obtain ⟨attest, unmarshalled, parsed⟩ := of_bind parsed
  obtain ⟨⟨selection, digest⟩, isQuote, parsed⟩ := of_bind parsed
  split at parsed
  · cases parsed
  obtain ⟨signature, sigParsed, parsed⟩ := of_bind parsed
  obtain ⟨sig, isRsassa, parsed⟩ := of_bind parsed
  cases parsed
  rw [wrap_error_ok] at unmarshalled sigParsed
  obtain ⟨extraData, attested⟩ := attest
  cases attested with
  | other error => cases isQuote
  | quote pcrSelect pcrDigest =>
      cases isQuote
      cases signature with
      | other error => cases isRsassa
      | rsassa found =>
          cases isRsassa
          exact ⟨_, Nat.le_of_not_lt beyond, rfl, unmarshalled, _, sigParsed, signed⟩

theorem snp_report_ok
    (passed : ∀ check ∈ verifySNPReport host snpReport chain, check.result.passed = true) :
    (verifySNPReport host snpReport chain).map NamedCheck.id =
        [.snpReportFormat, .certChainValidation, .snpSignature] ∧
      ReportSigned host snpReport chain.vcek := by
  simp only [verifySNPReport] at passed ⊢
  split_ifs at passed ⊢ with small
  · have failed := passed _ List.mem_cons_self
    cases failed
  · simp only [List.forall_mem_cons, check_of_passed] at passed
    obtain ⟨_, _, ⟨_, signature⟩, _⟩ := passed
    exact ⟨by simp, report_signature_ok chain.vcek signature⟩

theorem quote_signature_ok (akPubKey : Except String RsaPublicKey)
    (passed : (quoteSignatureCheck host quote akPubKey).result.passed = true) :
    ∃ key, akPubKey = .ok key ∧
      verifyQuoteSignature host quote.attestBytes quote.rsaSig key = .ok () := by
  cases akPubKey with
  | error error => cases passed
  | ok key =>
      simp only [quoteSignatureCheck, check_of_passed] at passed
      obtain ⟨_, verified⟩ := passed
      exact ⟨key, rfl, verified⟩

theorem pcr_digest_ok (pcrValues : AList fun _ : Int => Bytes) (digest : Bytes)
    (verified : verifyPCRDigest host pcrValues digest = .ok ()) :
    digest = host.sha256 (concatPCRs pcrValues) := by
  simp only [verifyPCRDigest] at verified
  split_ifs at verified with different
  exact (not_not.mp different).symm

theorem nonce_ok (found expected : Bytes) (verified : verifyNonce found expected = .ok ()) :
    found = expected := by
  simp only [verifyNonce] at verified
  split_ifs at verified with same
  exact same

end Steps

/-- The checks of a positive verdict, in their order. -/
def allCheckIds : List CheckId :=
  [.platformCertsParsing, .arkRootTrust, .runtimeClaimsParsing, .akKeyExtraction, .quoteFormat,
    .tpmQuoteSignature, .nonce, .pcrDigest, .reportDataBinding, .snpReportFormat,
    .certChainValidation, .snpSignature]

theorem verified_cases (host : Host) (input : EvidenceInput)
    (verified : (verifyAll host input).verified = true) :
    ∃ certs chain quote,
      parsePEMCertificates host input.platformCertificates = .ok certs ∧
      classifyCerts host certs = .ok chain ∧ parseTPMQuote host input.tpmQuote = .ok quote ∧
      (verifyAll host input).checks =
        certAndClaimChecks host input chain ++ quoteAndReportChecks host input chain quote ∧
      ∀ check ∈ (verifyAll host input).checks, check.result.passed = true := by
  by_cases supplied : input.platformCertificates = ""
  · simp [verifyAll, supplied, rejected] at verified
  cases parsed : parsePEMCertificates host input.platformCertificates with
  | error error => simp [verifyAll, supplied, parsed, rejected] at verified
  | ok certs =>
      cases classified : classifyCerts host certs with
      | error error => simp [verifyAll, supplied, parsed, classified, rejected] at verified
      | ok chain =>
          have result : verifyAll host input = verifyWithCerts host input chain := by
            simp only [verifyAll, supplied, if_false, parsed, classified]
          rw [result] at verified ⊢
          cases quoted : parseTPMQuote host input.tpmQuote with
          | error error => simp [verifyWithCerts, quoted, rejected] at verified
          | ok quote =>
              simp only [verifyWithCerts, quoted] at verified ⊢
              exact ⟨certs, chain, quote, rfl, classified, rfl, rfl, List.all_eq_true.mp verified⟩

theorem passed_checks (host : Host) (input : EvidenceInput) (chain : ChainCerts)
    (quote : ParsedQuote) (passed : ∀ check ∈ certAndClaimChecks host input chain ++
      quoteAndReportChecks host input chain quote, check.result.passed = true) :
    verifyARKMatchesWellKnown host chain.ark (productFor input chain.ark) = .ok () ∧
    (∃ claims key, extractRuntimeClaimsRaw input.hclReport = .ok claims ∧
      extractAKPubKey host claims = .ok key ∧
      verifyQuoteSignature host quote.attestBytes quote.rsaSig key = .ok ()) ∧
    verifyNonce quote.nonce input.nonce = .ok () ∧
    verifyPCRDigest host input.pcrValues quote.pcrDigest = .ok () ∧
    verifyReportDataBinding host input.hclReport input.snpReport = .ok () ∧
    ∀ check ∈ verifySNPReport host input.snpReport chain, check.result.passed = true := by
  simp only [certAndClaimChecks, quoteAndReportChecks, List.forall_mem_append,
    List.forall_mem_cons, check_of_passed] at passed
  obtain ⟨⟨_, ⟨_, root⟩, ⟨claims, extracted⟩, _⟩,
    ⟨_, signature, ⟨_, nonce⟩, ⟨_, digest⟩, ⟨_, binding⟩, _⟩, report⟩ := passed
  have same : claimsOf input.hclReport = claims := by
    simp only [claimsOf, extracted]
  obtain ⟨key, named, signed⟩ := quote_signature_ok _ signature
  rw [same] at named
  exact ⟨root, ⟨claims, key, extracted, named, signed⟩, nonce, digest, binding, report⟩

theorem trust_chain_of_passed (host : Host) (input : EvidenceInput) (certs : List Certificate)
    (chain : ChainCerts) (quote : ParsedQuote)
    (bundle : parsePEMCertificates host input.platformCertificates = .ok certs)
    (classified : classifyCerts host certs = .ok chain)
    (quoted : parseTPMQuote host input.tpmQuote = .ok quote)
    (passed : ∀ check ∈ certAndClaimChecks host input chain ++
      quoteAndReportChecks host input chain quote, check.result.passed = true) :
    ∃ claims key selection,
      TrustChain host input certs chain claims key quote.attestBytes selection := by
  obtain ⟨root, ⟨claims, key, extracted, named, signed⟩, nonce, digest, binding, report⟩ :=
    passed_checks host input chain quote passed
  obtain ⟨_, reportSigned⟩ := snp_report_ok report
  obtain ⟨selection, quoteSigned⟩ := parse_quote_ok input.tpmQuote quoted signed
  rw [nonce_ok _ _ nonce, pcr_digest_ok _ _ digest] at quoteSigned
  exact ⟨claims, key, selection, {
    bundle := bundle
    certificates := classify_certs_ok certs classified
    root := ark_matches_ok chain.ark _ root
    report := reportSigned
    runtimeClaims := extract_claims_ok input.hclReport claims extracted
    reportData := report_data_ok input.hclReport input.snpReport claims extracted binding
    attestationKey := extract_ak_ok claims named
    quote := quoteSigned }⟩

/-- A positive verdict carries every link of the trust chain, and all twelve checks
were made and passed. -/
theorem verified_carries_trust_chain (host : Host) (input : EvidenceInput)
    (verified : (verifyAll host input).verified = true) :
    (∃ certs chain claims key attestBytes selection,
      TrustChain host input certs chain claims key attestBytes selection) ∧
    (verifyAll host input).checks.map NamedCheck.id = allCheckIds ∧
    ∀ check ∈ (verifyAll host input).checks, check.result.passed = true := by
  obtain ⟨certs, chain, quote, bundle, classified, quoted, checks, passed⟩ :=
    verified_cases host input verified
  rw [checks] at passed ⊢
  obtain ⟨claims, key, selection, links⟩ :=
    trust_chain_of_passed host input certs chain quote bundle classified quoted passed
  refine ⟨⟨certs, chain, claims, key, quote.attestBytes, selection, links⟩, ?_, passed⟩
  have reportIds := (snp_report_ok (passed_checks host input chain quote passed).2.2.2.2.2).1
  have signatureId : (quoteSignatureCheck host quote
      (extractAKPubKey host (claimsOf input.hclReport))).id = .tpmQuoteSignature := by
    unfold quoteSignatureCheck
    split <;> simp
  simp only [certAndClaimChecks, quoteAndReportChecks, List.map_append, List.map_cons,
    List.map_nil, check_of_id, signatureId, reportIds]
  rfl

def ones : Bytes := List.replicate 32 1
def twos : Bytes := List.replicate 32 2

def smallAttest : Bytes := [9, 3] ++ ones ++ twos

/-- Hashing keeps the bytes, the only signature is that of `smallAttest`, a block of
PEM is one letter, and `A` has signed itself and `B`, which has signed `C`. -/
def smallHost : Host where
  sha256 bytes := bytes
  sha384 bytes := bytes
  verifyPKCS1v15 _ hash sig :=
    if hash = smallAttest ∧ sig = [7] then .ok () else .error "crypto/rsa: verification error"
  ecdsaVerify _ _ _ _ := true
  pemDecode text :=
    if text = "CBA" then some ([67], "BA")
    else if text = "BA" then some ([66], "A")
    else if text = "A" then some ([65], "")
    else if text = "" then none else some ([0], "")
  parseCertificate block := .ok ⟨block, "ARK-Milan",
    if block = [65] then .rsa ⟨3, 3⟩ else .ecdsa ⟨.p384, 1, 1⟩⟩
  checkSignatureFrom child parent :=
    if (child.raw, parent.raw) ∈ [([65], [65]), ([66], [65]), ([67], ([66] : Bytes))] then .ok ()
    else .error "x509: invalid signature"
  parsePKIXPublicKey _ := .ok (.rsa ⟨3, 3⟩)
  marshalPKIXPublicKey
    | .rsa key => .ok (encode 4 key.modulus)
    | _ => .error "x509: unsupported public key type"
  unmarshalClaimsKeys claims := .ok [claims]
  unmarshalJwk _ := .ok ⟨"HCLAkPub", "RSA", "AQ", "AQ"⟩
  decodeRawURL _ := .ok [1]
  unmarshalAttest
    | nonce :: selection :: digest => .ok ⟨[nonce], .quote [⟨.sha256, [selection]⟩] digest⟩
    | _ => .error "unexpected EOF"
  unmarshalSignature bytes := .ok (.rsassa bytes)
  quoted text := text

def smallEvidence (pcrValues : AList fun _ : Int => Bytes) : EvidenceInput where
  tpmQuote := encode 2 smallAttest.length ++ smallAttest ++ [7]
  hclReport := List.replicate 1232 0 ++ [32, 0, 0, 0] ++ List.replicate 32 0
  snpReport := List.replicate 1184 0
  pcrValues := pcrValues
  nonce := [9]
  amdProduct := ""
  platformCertificates := "CBA"

def quotedValues : AList fun _ : Int => Bytes :=
  ((∅ : AList fun _ : Int => Bytes).insert 1 twos).insert 0 ones

theorem small_evidence_verified :
    (verifyAll smallHost (smallEvidence quotedValues)).verified = true := by
  decide +kernel

theorem small_evidence_trust_chain :
    ∃ certs chain claims key attestBytes selection,
      TrustChain smallHost (smallEvidence quotedValues) certs chain claims key attestBytes
        selection :=
  (verified_carries_trust_chain smallHost (smallEvidence quotedValues)
    small_evidence_verified).1

end CleanRoom.Cvm
