import CleanRoom.Attestation.SnpReport
import CleanRoom.Library.DotNetText

/-!
# Signed governance messages

`Cose` signs the messages that members send to the governance of the network and to the
recovery agent. Headers are a dictionary of texts, and a text that can be read as an
integer is sent as one. The recovery agent reads the content as UTF-8. The COSE library
encodes a message as it is given; the signature is its own.
-/

namespace CleanRoom.Cose

open Attestation ByteFile DotNetText Encodings
open Hex Throwing

inductive CoseHeaderLabel where
  | algorithm
  | keyIdentifier
  | named (label : String)
deriving DecidableEq

inductive CoseHeaderValue where
  | integer (value : Int)
  | text (value : String)
  | bytes (value : Bytes)
deriving DecidableEq

abbrev CoseHeaderMap := List (CoseHeaderLabel × CoseHeaderValue)

structure CoseSign1Message where
  protectedHeaders : CoseHeaderMap
  unprotectedHeaders : CoseHeaderMap
  content : Bytes
  signature : Bytes
deriving DecidableEq

structure CoseHost where
  sha256 : Bytes → Bytes
  createFromPem : String → Except String Bytes
  /-- `ECDsa.ImportFromPem` -/
  importFromPem : String → Except String Bytes
  signEmbedded : Bytes → CoseHeaderMap → CoseHeaderMap → Bytes → Except String Bytes
  /-- `Cose.Verify` with the certificate of a member. -/
  verifyEmbedded : CoseSign1Message → String → Except String Bool

structure CoseSignKey where
  certificate : String
  privateKey : String
deriving DecidableEq

structure CoseSignRequest where
  algorithm : String := "ES384"
  signKey : CoseSignKey
  protectedHeaders : Option (List (String × String))
  unprotectedHeaders : Option (List (String × String))
  payload : Option String
deriving DecidableEq

/-- The members of the enumeration `Algorithms`, with their values. -/
def algorithms : List (String × Int) :=
  [("ES256", -7), ("ES384", -35), ("ES512", -36), ("EdDSA", -8)]

def headerValue (value : String) : CoseHeaderValue :=
  match int32TryParse value with
  | some parsedValue => .integer parsedValue
  | none => .text value

def addHeaders (headers : List (String × String)) : CoseHeaderMap :=
  headers.map fun header => (.named header.1, headerValue header.2)

def fingerprintCertificate (host : CoseHost) (raw : Bytes) : Bytes :=
  asciiGetBytes ((hexString (host.sha256 raw)).map Char.toLower)

def sign (host : CoseHost) (request : CoseSignRequest) : Except String CoseSign1Message := do
  let protectedHeaders := (request.protectedHeaders.map addHeaders).getD []
  let unprotectedHeaders := (request.unprotectedHeaders.map addHeaders).getD []
  let cert ← host.createFromPem request.signKey.certificate
  match algorithms.lookup request.algorithm with
  | none => throw (request.algorithm ++ " is not supported, supported algorithms are: ES384.")
  | some algorithm => do
      let signedHeaders := protectedHeaders ++ [(.algorithm, .integer algorithm),
        (.keyIdentifier, .bytes (fingerprintCertificate host cert))]
      match presentText (some request.signKey.privateKey) with
      | none => throw "request.SignKey.PrivateKey not set."
      | some pem => do
          let privateKey ← host.importFromPem pem
          let content := asciiGetBytes (request.payload.getD "")
          let signature ← host.signEmbedded privateKey signedHeaders unprotectedHeaders content
          pure ⟨signedHeaders, unprotectedHeaders, content, signature⟩

inductive GovMessageType where
  | proposal
  | ack
  | stateDigest
  | ballot
  | recoveryShare
  | withdrawal
deriving DecidableEq

def GovMessageType.value : GovMessageType → String
  | .proposal => "proposal"
  | .ack => "ack"
  | .stateDigest => "state_digest"
  | .ballot => "ballot"
  | .recoveryShare => "recovery_share"
  | .withdrawal => "withdrawal"

def govHeaders (messageType : GovMessageType) (createdAt : String) (proposalId : Option String) :
    List (String × String) :=
  [("ccf.gov.msg.type", messageType.value), ("ccf.gov.msg.created_at", createdAt)] ++
    match presentText proposalId with
    | none => []
    | some proposalId => [("ccf.gov.msg.proposal_id", proposalId)]

/-- The signing time is `ToUnixTimeSeconds` of the clock. -/
def createGovCoseSign1Message (host : CoseHost) (signingTime : Int) (signKey : CoseSignKey)
    (messageType : GovMessageType) (payload proposalId : Option String) :
    Except String CoseSign1Message :=
  sign host {
    signKey := signKey
    protectedHeaders := some (govHeaders messageType (toString signingTime) proposalId)
    unprotectedHeaders := none
    payload := payload }

def CoseSign1Message.body (message : CoseSign1Message) : String := utf8GetString message.content

theorem sign_ok (host : CoseHost) (request : CoseSignRequest) (message : CoseSign1Message)
    (signed : sign host request = .ok message) :
    message.content = asciiGetBytes (request.payload.getD "") ∧
      ∃ own : CoseHeaderMap, (∀ header ∈ own, ∀ label, header.1 ≠ .named label) ∧
        message.protectedHeaders = (request.protectedHeaders.map addHeaders).getD [] ++ own := by
  unfold sign at signed
  obtain ⟨cert, _, signed⟩ := of_bind signed
  split at signed
  next => exact absurd signed (by rintro ⟨⟩)
  next algorithm _ =>
    split at signed
    next => exact absurd signed (by rintro ⟨⟩)
    next pem _ =>
      obtain ⟨privateKey, _, signed⟩ := of_bind signed
      obtain ⟨signature, _, signed⟩ := of_bind signed
      cases signed
      refine ⟨rfl, _, ?_, rfl⟩
      intro header own label
      rcases List.mem_cons.mp own with rfl | own
      · simp
      · cases List.mem_singleton.mp own
        simp

theorem signed_body_iff (host : CoseHost) (request : CoseSignRequest) (message : CoseSign1Message)
    (signed : sign host request = .ok message) :
    message.body = request.payload.getD "" ↔
      ∀ char ∈ (request.payload.getD "").toList, isAscii char = true := by
  rw [CoseSign1Message.body, (sign_ok host request message signed).1, ascii_read_back_iff]

theorem lookup_add_headers (headers : List (String × String)) (own : CoseHeaderMap)
    (label value : String) (found : headers.lookup label = some value) :
    (addHeaders headers ++ own).lookup (.named label) = some (headerValue value) := by
  induction headers with
  | nil => simp at found
  | cons header headers ih =>
      rw [List.lookup_cons] at found
      change ((CoseHeaderLabel.named header.1, headerValue header.2) ::
        (addHeaders headers ++ own)).lookup (.named label) = _
      rw [List.lookup_cons]
      by_cases same : label = header.1
      · subst same
        simp only [beq_self_eq_true] at found ⊢
        rw [Option.some.inj found]
      · have otherLabel : (CoseHeaderLabel.named label == .named header.1) = false := by
          simpa using same
        have otherName : (label == header.1) = false := by simpa using same
        rw [otherName] at found
        rw [otherLabel]
        exact ih found

theorem header_value_number (number value : Int) :
    headerValue (toString number) = .integer value ↔ IsInt32 number ∧ value = number := by
  unfold headerValue
  rw [int32_try_parse_number]
  by_cases fits : IsInt32 number
  · rw [if_pos fits]
    simp only [CoseHeaderValue.integer.injEq, fits, true_and]
    exact eq_comm
  · rw [if_neg fits]
    simp [fits]

theorem header_value_text (text : String) :
    headerValue text = .text text ↔ int32TryParse text = none := by
  unfold headerValue
  cases int32TryParse text <;> simp

/-- The message says what the sender gave: the payload, the type, the signing time as an
integer, and the proposal id, if there is one, as a text. -/
structure FaithfulMessage (signingTime : Int) (messageType : GovMessageType)
    (payload proposalId : Option String) (message : CoseSign1Message) : Prop where
  payload : message.body = payload.getD ""
  messageType : message.protectedHeaders.lookup (.named "ccf.gov.msg.type") =
    some (.text messageType.value)
  createdAt : message.protectedHeaders.lookup (.named "ccf.gov.msg.created_at") =
    some (.integer signingTime)
  proposalId : ∀ given, presentText proposalId = some given →
    message.protectedHeaders.lookup (.named "ccf.gov.msg.proposal_id") = some (.text given)

theorem gov_message_type (messageType : GovMessageType) :
    headerValue messageType.value = .text messageType.value := by
  rw [header_value_text]
  cases messageType <;> decide

/-- A governance message is faithful exactly if the payload is ASCII, the signing time has
32 bits and the proposal id does not read as an integer of 32 bits. -/
theorem gov_message_faithful_iff (host : CoseHost) (signingTime : Int) (signKey : CoseSignKey)
    (messageType : GovMessageType) (payload proposalId : Option String)
    (message : CoseSign1Message)
    (produced : createGovCoseSign1Message host signingTime signKey messageType payload
      proposalId = .ok message) :
    FaithfulMessage signingTime messageType payload proposalId message ↔
      (∀ char ∈ (payload.getD "").toList, isAscii char = true) ∧ IsInt32 signingTime ∧
        ∀ given, presentText proposalId = some given → int32TryParse given = none := by
  have body := signed_body_iff host _ message produced
  obtain ⟨_, own, _, headers⟩ := sign_ok host _ message produced
  have carried : message.protectedHeaders =
      addHeaders (govHeaders messageType (toString signingTime) proposalId) ++ own := headers
  have typed : message.protectedHeaders.lookup (.named "ccf.gov.msg.type") =
      some (headerValue messageType.value) := by
    rw [carried]
    exact lookup_add_headers _ own _ _ rfl
  have created : message.protectedHeaders.lookup (.named "ccf.gov.msg.created_at") =
      some (headerValue (toString signingTime)) := by
    rw [carried]
    exact lookup_add_headers _ own _ _ rfl
  have proposed (given : String) (present : presentText proposalId = some given) :
      message.protectedHeaders.lookup (.named "ccf.gov.msg.proposal_id") =
        some (headerValue given) := by
    rw [carried]
    apply lookup_add_headers
    unfold govHeaders
    rw [present]
    rfl
  constructor
  · intro faithful
    have time := Option.some.inj (created.symm.trans faithful.createdAt)
    refine ⟨body.mp faithful.payload, ((header_value_number _ _).mp time).1, ?_⟩
    intro given present
    have value := (proposed given present).symm.trans (faithful.proposalId given present)
    exact (header_value_text given).mp (Option.some.inj value)
  · rintro ⟨ascii, fits, notInteger⟩
    refine ⟨body.mpr ascii, ?_, ?_, ?_⟩
    · rw [typed, gov_message_type]
    · rw [created, (header_value_number _ _).mpr ⟨fits, rfl⟩]
    · intro given present
      rw [proposed given present, (header_value_text given).mpr (notInteger given present)]

/-- A host that accepts every certificate and every key. -/
def sampleHost : CoseHost where
  sha256 _ := List.replicate 32 0
  createFromPem pem := .ok (utf8GetBytes pem)
  importFromPem pem := .ok (utf8GetBytes pem)
  signEmbedded privateKey _ _ content := .ok (privateKey ++ content)
  verifyEmbedded _ _ := .ok true

def sampleKey : CoseSignKey := ⟨"certificate", "private key"⟩

def sampleMessage (signingTime : Int) (payload proposalId : String) : CoseSign1Message where
  protectedHeaders := addHeaders (govHeaders .ballot (toString signingTime) (some proposalId)) ++
    [(.algorithm, .integer (-35)),
      (.keyIdentifier, .bytes (fingerprintCertificate sampleHost (utf8GetBytes "certificate")))]
  unprotectedHeaders := []
  content := asciiGetBytes payload
  signature := utf8GetBytes "private key" ++ asciiGetBytes payload

theorem sample_message_produced (signingTime : Int) (payload proposalId : String) :
    createGovCoseSign1Message sampleHost signingTime sampleKey .ballot (some payload)
      (some proposalId) = .ok (sampleMessage signingTime payload proposalId) := rfl

theorem ascii_ballot_faithful :
    FaithfulMessage 1700000000 .ballot (some "yes") (some "5f3c")
      (sampleMessage 1700000000 "yes" "5f3c") := by
  apply (gov_message_faithful_iff sampleHost 1700000000 sampleKey .ballot (some "yes")
    (some "5f3c") _ (sample_message_produced _ _ _)).mpr
  refine ⟨List.all_eq_true.mp (by decide), by decide +kernel, ?_⟩
  intro given present
  cases (show some "5f3c" = some given from present)
  decide

/-- A payload with an accent, a signing time in 2038 and a proposal id of digits: each of
them is changed. -/
theorem accented_ballot_changed :
    createGovCoseSign1Message sampleHost 2147483648 sampleKey .ballot (some "é") (some "42") =
        .ok (sampleMessage 2147483648 "é" "42") ∧
      (sampleMessage 2147483648 "é" "42").body = "?" ∧
      (sampleMessage 2147483648 "é" "42").protectedHeaders.lookup
        (.named "ccf.gov.msg.created_at") = some (.text "2147483648") ∧
      (sampleMessage 2147483648 "é" "42").protectedHeaders.lookup
        (.named "ccf.gov.msg.proposal_id") = some (.integer 42) ∧
      ¬ FaithfulMessage 2147483648 .ballot (some "é") (some "42")
        (sampleMessage 2147483648 "é" "42") := by
  have changed : (sampleMessage 2147483648 "é" "42").body = "?" := by decide
  refine ⟨rfl, changed, by decide, by decide, ?_⟩
  intro faithful
  have same : "?" = "é" := changed.symm.trans faithful.payload
  exact absurd same (by decide)

end CleanRoom.Cose
