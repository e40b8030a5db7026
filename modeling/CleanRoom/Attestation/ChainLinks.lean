import CleanRoom.Attestation.SnpReport

/-!
# What the chain loops establish

Both verifiers build a chain for each supplied certificate, the last one first, and
then trust that certificate. The flags mask a chain without a trusted root, so a
certificate can enter the trust store with no connection to the last one. The leaf is
connected to the root when no certificate that it leads to was trusted by this masking.
-/

namespace CleanRoom.Attestation

open ByteFile Encodings Throwing X509Chain
open X509Chain.ChainEngine

section Loop

variable (engine : ChainEngine Certificate) (flags : VerificationFlags)
  (invalid : Certificate → List ChainStatus → String)

theorem build_chains_step (store rest : List Certificate) (status final : List ChainStatus)
    (cert : Certificate)
    (built : buildChains engine flags invalid store status (cert :: rest) = .ok final) :
    engine.build flags store cert = true ∧
      buildChains engine flags invalid (store ++ [cert]) (engine.status store cert) rest =
        .ok final := by
  rw [buildChains] at built
  cases cleared : engine.build flags store cert with
  | false => simp [cleared] at built
  | true => exact ⟨rfl, by simpa [cleared] using built⟩

theorem build_chains_builds (certs store : List Certificate) (status final : List ChainStatus)
    (built : buildChains engine flags invalid store status certs = .ok final)
    (before : List Certificate) (cert : Certificate) (after : List Certificate)
    (turn : certs = before ++ cert :: after) :
    engine.build flags (store ++ before) cert = true := by
  induction before generalizing certs store status with
  | nil =>
      subst turn
      rw [List.append_nil]
      exact (build_chains_step engine flags invalid store after status final cert built).1
  | cons first before ih =>
      subst turn
      obtain ⟨_, continued⟩ :=
        build_chains_step engine flags invalid store _ status final first built
      have later := ih _ (store ++ [first]) _ continued rfl
      rwa [List.append_assoc] at later

theorem build_chains_status (certs store : List Certificate) (status final : List ChainStatus)
    (last : Certificate)
    (built : buildChains engine flags invalid store status (certs ++ [last]) = .ok final) :
    final = engine.status (store ++ certs) last := by
  induction certs generalizing store status with
  | nil =>
      obtain ⟨_, finished⟩ :=
        build_chains_step engine flags invalid store [] status final last built
      rw [List.append_nil]
      exact (Except.ok.inj finished).symm
  | cons first certs ih =>
      obtain ⟨_, continued⟩ :=
        build_chains_step engine flags invalid store _ status final first built
      have later := ih (store ++ [first]) _ continued
      rwa [List.append_assoc] at later

theorem builds_in_turn (certs : List Certificate) (status final : List ChainStatus)
    (built : buildChains engine flags invalid [] status certs = .ok final) :
    engine.BuildsInTurn flags certs :=
  fun before cert after turn =>
    build_chains_builds engine flags invalid certs [] status final built before cert after turn

end Loop

variable {host : Host} {message : CoseSign1Message} {certs : List Certificate}
  {leaf root : Certificate} {decodedReport : Bytes} {text : String}

theorem leaf_and_root_ok (found : leafAndRoot certs = .ok (leaf, root)) :
    certs.head? = some leaf ∧ certs.getLast? = some root := by
  unfold leafAndRoot at found
  split at found
  · next first last headIs lastIs =>
      cases found
      exact ⟨headIs, lastIs⟩
  · cases found

theorem turns_of_ends
    (headIs : certs.head? = some leaf) (lastIs : certs.getLast? = some root) :
    (∃ rest, certs.reverse = root :: rest) ∧ ∃ before, certs.reverse = before ++ [leaf] := by
  constructor
  · rw [List.getLast?_eq_head?_reverse] at lastIs
    exact List.head?_eq_some_iff.mp lastIs
  · obtain ⟨rest, rfl⟩ := List.head?_eq_some_iff.mp headIs
    exact ⟨rest.reverse, List.reverse_cons⟩

theorem leaf_linked_to_root (documented : host.chain.Documented) (flags : VerificationFlags)
    (headIs : certs.head? = some leaf) (lastIs : certs.getLast? = some root)
    (builds : host.chain.BuildsInTurn flags certs.reverse)
    (anchored : host.chain.Anchored certs.reverse leaf) : host.chain.Linked certs leaf root := by
  obtain ⟨⟨rest, rootFirst⟩, before, leafLast⟩ := turns_of_ends headIs lastIs
  have subset : certs.reverse ⊆ certs := fun _ member => List.mem_reverse.mp member
  apply Linked.mono subset
  rw [rootFirst] at builds anchored leafLast ⊢
  exact linked_to_first documented flags root leaf rest builds anchored before leaf [] leafLast
    .refl

def presentedCertificates (host : Host) (platformCertificates : Option String) :
    Except String (List Certificate) := do
  let decodedCertChain ← fromBase64 platformCertificates
  suppliedCertificates host (utf8GetString decodedCertChain)

def HasTrustedRootKey (host : Host) (cert : Certificate) : Prop :=
  ∃ pem ∈ trustedAmdRootPublicKeys, ∃ key, host.importRsaPublicKey pem = .ok key ∧
    cert.rsaPublicKey = some key

def VerifiesReport (host : Host) (decodedReport : Bytes) (cert : Certificate) : Prop :=
  ∃ key keyParameters, cert.ecdsaPublicKey = some key ∧ key.x = some keyParameters ∧
    host.ecdsaVerifyData key (decodedReport.take signatureOffset)
      (reportSignature (marshall host decodedReport) keyParameters.length) = true

theorem compare_public_key_true (cert : Certificate) (pem : String)
    (same : comparePublicKey host cert pem = .ok true) :
    ∃ key, host.importRsaPublicKey pem = .ok key ∧ cert.rsaPublicKey = some key := by
  unfold comparePublicKey at same
  obtain ⟨_, same⟩ := of_guard same
  obtain ⟨key, imported, compared⟩ := of_bind same
  cases own : cert.rsaPublicKey with
  | none => simp [own] at compared
  | some publicKeyBuffer =>
      simp only [own, Except.ok.injEq, beq_iff_eq] at compared
      exact ⟨key, imported, congrArg some compared.symm⟩

theorem check_report_key_ok
    (checked : checkReportKey host (marshall host decodedReport) decodedReport leaf = .ok ()) :
    VerifiesReport host decodedReport leaf := by
  unfold checkReportKey at checked
  cases own : leaf.ecdsaPublicKey with
  | none => simp [own] at checked
  | some key =>
      cases parameters : key.x with
      | none => simp [own, parameters] at checked
      | some keyParameters =>
          simp only [own, parameters] at checked
          split at checked
          · next valid => exact ⟨key, keyParameters, own, parameters, valid⟩
          · cases checked

theorem verify_certificate_chain_ok
    (verified : verifyCertificateChain host text = .ok (leaf, root)) :
    ∃ certs, suppliedCertificates host text = .ok certs ∧ certs.head? = some leaf ∧
      certs.getLast? = some root ∧ host.chain.BuildsInTurn snpChainFlags certs.reverse ∧
      ∀ before, certs.reverse = before ++ [leaf] → host.chain.Rooted before leaf := by
  obtain ⟨certs, supplied, rest⟩ := of_bind verified
  obtain ⟨ends, found, rest⟩ := of_bind rest
  obtain ⟨status, built, rest⟩ := of_bind rest
  obtain ⟨clean, rest⟩ := of_guard rest
  cases rest
  obtain ⟨headIs, lastIs⟩ := leaf_and_root_ok found
  refine ⟨certs, supplied, headIs, lastIs, builds_in_turn _ _ _ _ _ _ built, ?_⟩
  intro before leafLast
  rw [leafLast] at built
  have final := build_chains_status _ _ _ before [] [] status leaf built
  have none : host.chain.status before leaf = [] := by
    rw [← List.nil_append before, ← final]
    exact List.length_eq_zero_iff.mp (Nat.eq_zero_of_not_pos clean)
  simp [Rooted, none]

theorem verify_report_signature_ok
    (verified : verifyReportSignature host (marshall host decodedReport) text decodedReport =
      .ok ()) :
    ∃ leaf root, verifyCertificateChain host text = .ok (leaf, root) ∧
      HasTrustedRootKey host root ∧ VerifiesReport host decodedReport leaf := by
  obtain ⟨⟨leaf, root⟩, chained, rest⟩ := of_bind verified
  obtain ⟨trusted, compared, rest⟩ := of_bind rest
  cases trusted with
  | false => cases rest
  | true =>
      obtain ⟨pem, listed, same⟩ := anyM_true _ _ compared
      exact ⟨leaf, root, chained, ⟨pem, listed, compare_public_key_true root pem same⟩,
        check_report_key_ok rest⟩

theorem verify_snp_attestation_ok
    (evidence platformCertificates uvmEndorsements : Option String) (report : SnpReport)
    (verified : verifySnpAttestation host evidence platformCertificates uvmEndorsements =
      .ok report) :
    ∃ decodedReport decodedCertChain uvmEndorsement,
      fromBase64 evidence = .ok decodedReport ∧
      fromBase64 platformCertificates = .ok decodedCertChain ∧
      verifyReportSignature host (marshall host decodedReport)
        (utf8GetString decodedCertChain) decodedReport = .ok () ∧
      verifyUvmEndosement host (marshall host decodedReport) (presentText uvmEndorsements) =
        .ok uvmEndorsement ∧
      report = SnpReport.ofFields (marshall host decodedReport) uvmEndorsement := by
  obtain ⟨decodedReport, readReport, rest⟩ := of_bind verified
  obtain ⟨decodedCertChain, readChain, rest⟩ := of_bind rest
  obtain ⟨_, signed, rest⟩ := of_bind rest
  obtain ⟨uvmEndorsement, endorsed, rest⟩ := of_bind rest
  exact ⟨decodedReport, decodedCertChain, uvmEndorsement, readReport, readChain, signed,
    endorsed, (Except.ok.inj rest).symm⟩

/-- The key that verified an accepted report belongs to the first supplied
certificate, and the last one has a trusted key. The two are connected if no certificate in
between that the first leads to is trusted with a chain that is not rooted. -/
theorem verified_report_leaf_linked (host : Host) (documented : host.chain.Documented)
    (evidence platformCertificates uvmEndorsements : Option String) (report : SnpReport)
    (verified : verifySnpAttestation host evidence platformCertificates uvmEndorsements =
      .ok report) :
    ∃ decodedReport certs leaf root, fromBase64 evidence = .ok decodedReport ∧
      presentedCertificates host platformCertificates = .ok certs ∧
      certs.head? = some leaf ∧ certs.getLast? = some root ∧
      VerifiesReport host decodedReport leaf ∧ HasTrustedRootKey host root ∧
      (host.chain.AnchoredBetween certs.reverse leaf → host.chain.Linked certs leaf root) := by
  obtain ⟨decodedReport, decodedCertChain, _, readReport, readChain, signed, _, _⟩ :=
    verify_snp_attestation_ok _ _ _ report verified
  obtain ⟨leaf, root, chained, trusted, verifies⟩ :=
    verify_report_signature_ok signed
  obtain ⟨certs, supplied, headIs, lastIs, builds, leafRooted⟩ :=
    verify_certificate_chain_ok chained
  have presented : presentedCertificates host platformCertificates = .ok certs :=
    bind_eq_ok.mpr ⟨decodedCertChain, readChain, supplied⟩
  refine ⟨decodedReport, certs, leaf, root, readReport, presented, headIs, lastIs, verifies,
    trusted, ?_⟩
  intro between
  apply leaf_linked_to_root documented snpChainFlags headIs lastIs builds
  obtain ⟨_, before, leafLast⟩ := turns_of_ends headIs lastIs
  rw [leafLast] at between ⊢
  exact between.anchored (leafRooted before leafLast)

/-! A host with few certificates. The first byte of a certificate is its own key and
the second one the key that signed it. -/

def smallSignedBy (child parent : Certificate) : Bool :=
  child.raw.drop 1 == parent.raw.take 1

def smallCertificate (subject : String) (key signer : UInt8) : Certificate where
  raw := [key, signer]
  subject := subject
  rsaPublicKey := some [key]
  ecdsaPublicKey := some ⟨[key, key], some [key]⟩
  extensions := [⟨some ekuExtensionOidValue, .ok [some ekuPolicy]⟩]

def smallRoot : Certificate := smallCertificate "root" 1 1
def smallIssuer : Certificate := smallCertificate "issuer" 2 1
def smallLeaf : Certificate := smallCertificate "leaf" 0 2
def smallStranger : Certificate := smallCertificate "stranger" 3 3
def smallImpostor : Certificate := smallCertificate "impostor" 0 3
def smallSigner : Certificate := smallCertificate "signer" 0 1
def smallForger : Certificate := smallCertificate "forger" 0 0

def smallCertificates : List Certificate :=
  [smallRoot, smallIssuer, smallLeaf, smallStranger, smallImpostor, smallSigner, smallForger]

def smallBlock (cert : Certificate) : List Char :=
  beginCertificate ++ cert.subject.toList ++ endCertificate

def smallHash (bytes : Bytes) : Bytes := (bytes ++ List.replicate 32 0).take 32

def smallLoad (matching : Certificate → Bool) : Except String Certificate :=
  match smallCertificates.find? matching with
  | some cert => .ok cert
  | none => .error "Cannot find the requested object."

def smallLoadPem (text : String) : Except String Certificate :=
  smallLoad fun cert => String.ofList (smallBlock cert) == text

def smallImportRsa (pem : String) : Except String Bytes :=
  .ok (if pem = amdMilanRootPublicKey then smallRoot.raw.take 1 else [])

def smallHost (report : Bytes) : Host where
  sha256 := smallHash
  toUpper := id
  toLower := id
  loadPemCertificate := smallLoadPem
  loadCertificate bytes := smallLoad fun cert => cert.raw == bytes
  chain := direct smallSignedBy
  serializeStatus _ := "[]"
  importRsaPublicKey := smallImportRsa
  ecdsaVerifyData key data signature :=
    data == report.take signatureOffset && signature == key.encoding
  memoryAfter _ := []
  decodeSign1 _ := .error "Error while decoding CBOR encoded data."
  base64UrlEncode bytes := if bytes = smallHash smallRoot.raw then expectedRoot else ""
  verifyEmbedded _ key := .ok (key == .rsa [0])
  deserializeUvmPayload _ := .ok none

def smallReport : Bytes := List.replicate reportSize 0

def smallEvidence (report : Bytes) : Option String := some (toBase64String report)

def smallChainBytes (certs : List Certificate) : Bytes :=
  (certs.flatMap smallBlock).map fun char => UInt8.ofNat char.toNat

def smallPlatform (certs : List Certificate) : Option String :=
  some (toBase64String (smallChainBytes certs))

theorem small_supplied (load : host.loadPemCertificate = smallLoadPem)
    (loaded : (certificateMatches (utf8Chars (smallChainBytes certs).length
      (smallChainBytes certs))).mapM smallLoadPem = .ok certs) :
    suppliedCertificates host (utf8GetString (smallChainBytes certs)) = .ok certs := by
  rw [suppliedCertificates, utf8GetString, String.toList_ofList, load]
  exact loaded

theorem small_presented
    (supplied : suppliedCertificates host (utf8GetString (smallChainBytes certs)) = .ok certs) :
    presentedCertificates host (smallPlatform certs) = .ok certs :=
  bind_eq_ok.mpr ⟨_, from_base64_to_base64 _, supplied⟩

theorem small_root_compared (imports : host.importRsaPublicKey = smallImportRsa) :
    comparePublicKey host smallRoot amdMilanRootPublicKey = .ok true := by
  rw [comparePublicKey, if_neg (by decide +kernel), imports]
  decide +kernel

theorem small_report_signed (host : Host) (report : Bytes) (certs : List Certificate)
    (leaf : Certificate) (imports : host.importRsaPublicKey = smallImportRsa)
    (supplied : suppliedCertificates host (utf8GetString (smallChainBytes certs)) = .ok certs)
    (ends : leafAndRoot certs = .ok (leaf, smallRoot))
    (built : buildChains host.chain snpChainFlags snpChainInvalid [] [] certs.reverse = .ok [])
    (checked : checkReportKey host (marshall host report) report leaf = .ok ()) :
    verifyReportSignature host (marshall host report) (utf8GetString (smallChainBytes certs))
      report = .ok () := by
  have chained : verifyCertificateChain host (utf8GetString (smallChainBytes certs)) =
      .ok (leaf, smallRoot) := by
    refine bind_eq_ok.mpr ⟨certs, supplied, bind_eq_ok.mpr ⟨_, ends, ?_⟩⟩
    exact bind_eq_ok.mpr ⟨[], built, rfl⟩
  have trusted : trustedAmdRootPublicKeys.anyM (comparePublicKey host smallRoot) = .ok true :=
    bind_eq_ok.mpr ⟨true, small_root_compared imports, rfl⟩
  exact bind_eq_ok.mpr ⟨_, chained, bind_eq_ok.mpr ⟨true, trusted, checked⟩⟩

theorem small_report_accepted (host : Host) (report : Bytes) (certs : List Certificate)
    (uvmEndorsements : Option String) (uvmEndorsement : Option CoseSign1Message)
    (signed : verifyReportSignature host (marshall host report)
      (utf8GetString (smallChainBytes certs)) report = .ok ())
    (endorsed : verifyUvmEndosement host (marshall host report) (presentText uvmEndorsements) =
      .ok uvmEndorsement) :
    verifySnpAttestation host (smallEvidence report) (smallPlatform certs) uvmEndorsements =
      .ok (SnpReport.ofFields (marshall host report) uvmEndorsement) := by
  refine bind_eq_ok.mpr ⟨report, from_base64_to_base64 report, ?_⟩
  refine bind_eq_ok.mpr ⟨_, from_base64_to_base64 (smallChainBytes certs), ?_⟩
  refine bind_eq_ok.mpr ⟨(), signed, ?_⟩
  exact bind_eq_ok.mpr ⟨uvmEndorsement, endorsed, rfl⟩

def smallChain : List Certificate := [smallLeaf, smallIssuer, smallRoot]

def strangerChain : List Certificate := [smallImpostor, smallStranger, smallRoot]

theorem small_chain_supplied (host : Host) (load : host.loadPemCertificate = smallLoadPem) :
    suppliedCertificates host (utf8GetString (smallChainBytes smallChain)) = .ok smallChain :=
  small_supplied load (by decide +kernel)

theorem stranger_chain_supplied (load : host.loadPemCertificate = smallLoadPem) :
    suppliedCertificates host (utf8GetString (smallChainBytes strangerChain)) =
      .ok strangerChain :=
  small_supplied load (by decide +kernel)

/-- The whole chain is supplied, and the leaf is connected to the root. -/
theorem small_report_leaf_linked :
    let host := smallHost smallReport
    ∃ leaf root, VerifiesReport host smallReport leaf ∧ HasTrustedRootKey host root ∧
      host.chain.Linked smallChain leaf root := by
  have signed := small_report_signed (smallHost smallReport) smallReport smallChain smallLeaf
    rfl (small_chain_supplied _ rfl) rfl (by decide +kernel) (by decide +kernel)
  have verified := small_report_accepted (smallHost smallReport) smallReport smallChain none none
    signed rfl
  obtain ⟨decodedReport, certs, leaf, root, readReport, presented, _, _, verifies, trusted,
    linked⟩ :=
    verified_report_leaf_linked _ (direct_documented smallSignedBy) _ _ _ _ verified
  rw [smallEvidence, fromBase64, from_base64_to_base64] at readReport
  cases readReport
  rw [small_presented (small_chain_supplied _ rfl)] at presented
  cases presented
  refine ⟨leaf, root, verifies, trusted, linked ?_⟩
  intro before cert after turn started ended _
  -- Only the issuer has a certificate before it and one behind it.
  rcases before with _ | ⟨first, _ | ⟨second, rest⟩⟩
  · exact absurd rfl started
  · obtain ⟨rfl, rfl, rfl⟩ : smallRoot = first ∧ smallIssuer = cert ∧ [smallLeaf] = after := by
      simpa [smallChain] using turn
    decide
  · have tail : [smallLeaf] = rest ++ cert :: after :=
      (List.cons.inj (List.cons.inj turn).2).2
    have count := congrArg List.length tail
    have positive := List.length_pos_iff.mpr ended
    simp only [List.length_append, List.length_cons, List.length_nil] at count
    omega

/-- A certificate that signed itself stands between the leaf and the root. Its chain
has an untrusted root, which is masked, and then the leaf is rooted in it. -/
theorem stranger_chain_verified :
    let host := smallHost smallReport
    host.chain.Documented ∧
      (∃ report, verifySnpAttestation host (smallEvidence smallReport)
        (smallPlatform strangerChain) none = .ok report) ∧
      presentedCertificates host (smallPlatform strangerChain) = .ok strangerChain ∧
      VerifiesReport host smallReport smallImpostor ∧
      ¬host.chain.Linked strangerChain smallImpostor smallRoot := by
  have signed := small_report_signed (smallHost smallReport) smallReport strangerChain
    smallImpostor rfl (stranger_chain_supplied rfl) rfl (by decide +kernel) (by decide +kernel)
  refine ⟨direct_documented smallSignedBy,
    ⟨_, small_report_accepted _ smallReport strangerChain none none signed rfl⟩,
    small_presented (stranger_chain_supplied rfl), ?_, ?_⟩
  · exact ⟨_, _, rfl, rfl, by decide +kernel⟩
  · intro linked
    have inside : smallRoot ∈ [smallImpostor, smallStranger] :=
      linked.stays (by decide) (by decide)
    exact absurd inside (by decide)

def CarriedBy (host : Host) (message : CoseSign1Message) (certs : List Certificate) : Prop :=
  ∃ x5chain, message.x5chain = some x5chain ∧ messageCertificates host x5chain = .ok certs

def HasPinnedFingerprint (host : Host) (cert : Certificate) : Prop :=
  host.base64UrlEncode (host.sha256 cert.raw) = expectedRoot

def HasRequiredUsage (cert : Certificate) : Prop :=
  ∃ extension ∈ cert.extensions, extension.oid = some ekuExtensionOidValue ∧
    ∃ usages, extension.enhancedKeyUsages = .ok usages ∧ some ekuPolicy ∈ usages

def VerifiesMessage (host : Host) (message : CoseSign1Message) (cert : Certificate) : Prop :=
  ∃ key, (cert.rsaPublicKey.map VerificationKey.rsa = some key ∨
      cert.ecdsaPublicKey.map VerificationKey.ecdsa = some key) ∧
    host.verifyEmbedded message key = .ok true

theorem check_root_fingerprint_ok (root : Certificate)
    (checked : checkRootFingerprint host root = .ok ()) : HasPinnedFingerprint host root := by
  simp only [checkRootFingerprint] at checked
  exact not_not.mp (of_guard checked).1

theorem check_enhanced_key_usage_ok (checked : checkEnhancedKeyUsage leaf = .ok ()) :
    HasRequiredUsage leaf := by
  unfold checkEnhancedKeyUsage at checked
  split at checked
  · cases checked
  · next extension found =>
      obtain ⟨usages, decoded, rest⟩ := of_bind checked
      split at rest
      · next listed =>
          obtain ⟨usage, member, same⟩ := List.any_eq_true.mp listed
          have oid := List.find?_some found
          exact ⟨extension, List.mem_of_find?_eq_some found, beq_iff_eq.mp oid, usages, decoded,
            beq_iff_eq.mp same ▸ member⟩
      · cases rest

theorem verification_key_ok
    (key : VerificationKey) (chosen : verificationKey message leaf = .ok key) :
    leaf.rsaPublicKey.map VerificationKey.rsa = some key ∨
      leaf.ecdsaPublicKey.map VerificationKey.ecdsa = some key := by
  obtain ⟨header, _, rest⟩ := of_bind chosen
  cases supported : supportedAlgorithmsByHeaderValue header with
  | none => simp [supported] at rest
  | some algorithm =>
      cases algorithm with
      | rsa =>
          left
          cases own : leaf.rsaPublicKey <;> simp_all
      | ecdsa =>
          right
          cases own : leaf.ecdsaPublicKey <;> simp_all

theorem verify_uvm_ok (verified : verifyUvm host message = .ok ()) :
    ∃ certs leaf root, CarriedBy host message certs ∧ certs.head? = some leaf ∧
      certs.getLast? = some root ∧ host.chain.BuildsInTurn uvmChainFlags certs.reverse ∧
      HasPinnedFingerprint host root ∧ HasRequiredUsage leaf ∧
      VerifiesMessage host message leaf := by
  unfold verifyUvm at verified
  split at verified
  · next body =>
      obtain ⟨_, _, rest⟩ := of_bind body
      split at rest
      · cases rest
      · next x5chain carried =>
          obtain ⟨certs, loaded, rest⟩ := of_bind rest
          obtain ⟨⟨leaf, root⟩, found, rest⟩ := of_bind rest
          obtain ⟨status, built, rest⟩ := of_bind rest
          obtain ⟨_, pinned, rest⟩ := of_bind rest
          obtain ⟨_, usage, rest⟩ := of_bind rest
          obtain ⟨key, chosen, rest⟩ := of_bind rest
          obtain ⟨valid, tried, rest⟩ := of_bind rest
          cases valid with
          | false => cases rest
          | true =>
              obtain ⟨headIs, lastIs⟩ := leaf_and_root_ok found
              exact ⟨certs, leaf, root, ⟨x5chain, carried, loaded⟩, headIs, lastIs,
                builds_in_turn _ _ _ _ _ _ built, check_root_fingerprint_ok root pinned,
                check_enhanced_key_usage_ok usage, key,
                verification_key_ok key chosen, tried⟩
  · cases verified

/-- The certificate whose key verified an accepted message has the required usage,
and the last certificate of the message the pinned fingerprint. The two are connected
if no certificate but the last that the first leads to has a chain that is not rooted. -/
theorem verified_endorsement_leaf_linked (host : Host) (documented : host.chain.Documented)
    (message : CoseSign1Message) (verified : verifyUvm host message = .ok ()) :
    ∃ certs leaf root, CarriedBy host message certs ∧ certs.head? = some leaf ∧
      certs.getLast? = some root ∧ VerifiesMessage host message leaf ∧ HasRequiredUsage leaf ∧
      HasPinnedFingerprint host root ∧
      (host.chain.Anchored certs.reverse leaf → host.chain.Linked certs leaf root) := by
  obtain ⟨certs, leaf, root, carried, headIs, lastIs, builds, pinned, usage, verifies⟩ :=
    verify_uvm_ok verified
  exact ⟨certs, leaf, root, carried, headIs, lastIs, verifies, usage, pinned,
    leaf_linked_to_root documented uvmChainFlags headIs lastIs builds⟩

def smallMessage (certs : List Certificate) : CoseSign1Message where
  iss := .ok trustedMicrosoftIssValue
  feed := .ok trustedMicrosoftFeedValue
  x5chain := some (.array (some certs.length) fun index =>
    match certs[index]? with
    | some cert => .ok cert.raw
    | none => .error "There is no more data to read.")
  algorithm := .ok (-37)
  content := none

theorem carried_by_unique (x5chain : X5Chain)
    (certs other : List Certificate) (header : message.x5chain = some x5chain)
    (loaded : messageCertificates host x5chain = .ok certs)
    (carried : CarriedBy host message other) : other = certs := by
  obtain ⟨found, present, read⟩ := carried
  rw [Option.some.inj (present.symm.trans header), loaded] at read
  exact (Except.ok.inj read).symm

/-- The leaf was signed by the pinned root. -/
theorem small_endorsement_leaf_linked :
    let host := smallHost smallReport
    let certs := [smallSigner, smallRoot]
    ∃ leaf root, VerifiesMessage host (smallMessage certs) leaf ∧ HasRequiredUsage leaf ∧
      HasPinnedFingerprint host root ∧ host.chain.Linked certs leaf root := by
  obtain ⟨certs, leaf, root, carried, _, _, verifies, usage, pinned, linked⟩ :=
    verified_endorsement_leaf_linked (smallHost smallReport) (direct_documented smallSignedBy)
      (smallMessage [smallSigner, smallRoot]) (by decide +kernel)
  cases carried_by_unique _ [smallSigner, smallRoot] certs rfl (by rfl) carried
  refine ⟨leaf, root, verifies, usage, pinned, linked ?_⟩
  intro before cert after turn started _
  rcases before with _ | ⟨first, rest⟩
  · exact absurd rfl started
  · obtain ⟨rfl, tail⟩ : smallRoot = first ∧ [smallSigner] = rest ++ cert :: after := by
      simpa using turn
    obtain ⟨rfl, same⟩ : rest = [] ∧ cert :: after = [smallSigner] := by
      rcases List.append_eq_singleton_iff.mp tail.symm with only | other
      · exact only
      · exact absurd other.2 (List.cons_ne_nil _ _)
    rw [(List.cons.inj same).1]
    decide

/-- A certificate that nobody signed but itself, with the pinned root beside it. -/
theorem impostor_endorsement_verified :
    let host := smallHost smallReport
    let certs := [smallForger, smallRoot]
    host.chain.Documented ∧ verifyUvm host (smallMessage certs) = .ok () ∧
      CarriedBy host (smallMessage certs) certs ∧
      VerifiesMessage host (smallMessage certs) smallForger ∧
      ¬host.chain.Linked certs smallForger smallRoot := by
  refine ⟨direct_documented smallSignedBy, by decide +kernel, ⟨_, rfl, by rfl⟩,
    ⟨.rsa [0], Or.inl rfl, rfl⟩, ?_⟩
  intro linked
  have inside : smallRoot ∈ [smallForger] := linked.stays (by decide) (by decide)
  exact absurd inside (by decide)

end CleanRoom.Attestation
