import CleanRoom.Governance.Ledger

/-!
# The CCF runtime and the argument checks of the constitution

`CcfHost` collects what the constitution calls but does not define: the
cryptographic helpers and the node operations of CCF. A host call that changes
a table CCF owns is given that table and returns it. The checks below are the
helper functions at the top of `actions.js`, with their error texts.
-/

namespace CleanRoom.Governance

open JavaScript

structure CcfHost where
  pemToId : String → Except String String
  isValidX509CertBundle : String → Bool
  /-- `ccf.crypto.digest("SHA-256", ccf.strToBuf(text))` -/
  sha256Digest : String → List UInt8
  bufToStr : List UInt8 → String
  triggerRecoverySharesRefresh : Except String Unit
  triggerLedgerRekey : Except String Unit
  triggerLedgerChunk : Except String Unit
  triggerSnapshot : Except String Unit
  triggerACMERefresh : JsValue → Except String Unit
  /-- Acts on `public:ccf.gov.service.info`. -/
  transitionServiceToOpen : Option String → String → Table JsValue →
    Except String (Table JsValue)
  generateNetworkCertificate : JsValue → JsValue → Except String String
  generateEndorsedCertificate : JsValue → JsValue → JsValue → Except String String
  getLatestLedgerSecretSeqno : JsValue
  tcbHexToPolicy : String → String → Except String JsValue
  /-- Acts on `public:ccf.gov.modules_quickjs_bytecode` and on
  `public:ccf.gov.modules_quickjs_version`. -/
  refreshAppBytecodeCache : Table JsValue → Table JsValue →
    Except String (Table JsValue × Table JsValue)
  setJwtPublicSigningKeys : String → JsValue → JsValue → Table JsValue →
    Except String (Table JsValue)
  removeJwtPublicSigningKeys : String → Table JsValue → Table JsValue
  /-- `ccf.consensus.getViewForSeqno` -/
  getViewForSeqno : Nat → Option Nat
  numberText : Rat → String
  /-- `Number` of a text, `none` for `NaN`. -/
  numberOfText : String → Option Rat

def idleHost : CcfHost where
  pemToId _ := .error "Failed to parse PEM"
  isValidX509CertBundle _ := false
  sha256Digest _ := []
  bufToStr _ := ""
  triggerRecoverySharesRefresh := .ok ()
  triggerLedgerRekey := .ok ()
  triggerLedgerChunk := .ok ()
  triggerSnapshot := .ok ()
  triggerACMERefresh _ := .ok ()
  transitionServiceToOpen _ _ rows := .ok rows
  generateNetworkCertificate _ _ := .ok ""
  generateEndorsedCertificate _ _ _ := .ok ""
  getLatestLedgerSecretSeqno := .number 0
  tcbHexToPolicy _ _ := .ok .null
  refreshAppBytecodeCache bytecode version := .ok (bytecode, version)
  setJwtPublicSigningKeys _ _ _ rows := .ok rows
  removeJwtPublicSigningKeys _ rows := rows
  getViewForSeqno _ := some 2
  numberText _ := ""
  numberOfText _ := none

def certHost : CcfHost :=
  { idleHost with pemToId := .ok, isValidX509CertBundle := fun _ => true }

/-- A value inside a template literal. -/
def CcfHost.text (host : CcfHost) (value : JsValue) : String := value.display host.numberText

/-- `ccf.strToBuf` accepts only a string. The buffer is named by the string. -/
def strToBuf : JsValue → Except String String
  | .string text => .ok text
  | _ => .error "TypeError: Argument must be a string"

/-- `ccf.pemToId` of a value that is not a string converts it and then fails to
parse the text as a certificate. -/
def CcfHost.idOfPem (host : CcfHost) : JsValue → Except String String
  | .string pem => host.pemToId pem
  | _ => .error "Failed to parse PEM"

inductive ExpectedType where
  | string
  | object
  | boolean
  | array
  | integer
deriving DecidableEq

def ExpectedType.name : ExpectedType → String
  | .string => "string"
  | .object => "object"
  | .boolean => "boolean"
  | .array => "array"
  | .integer => "integer"

def checkType (value : JsValue) (type : ExpectedType) (field : String) : Except String Unit :=
  match type with
  | .array => if value.isArray then .ok () else .error s!"{field} must be an array"
  | .integer => if value.isInteger then .ok () else .error s!"{field} must be an integer"
  | _ =>
      if value.typeOf.name = type.name then .ok ()
      else
        let expected := type.name
        let actual := value.typeOf.name
        .error s!"{field} must be of type {expected} but is {actual}"

theorem check_type_string (value : JsValue) (field : String)
    (checked : checkType value .string field = .ok ()) : ∃ text, value = .string text := by
  have sameName : value.typeOf.name = ExpectedType.string.name := by
    by_contra different
    simp [checkType, different] at checked
  cases value with
  | string text => exact ⟨text, rfl⟩
  | undefined => exact absurd sameName (by decide)
  | null => exact absurd sameName (by decide)
  | bool flag | number value | array items | object fields =>
      exact absurd sameName (by simp [JsValue.typeOf, JsType.name, ExpectedType.name])

/-- `checkType` with a type that ends in `?`. -/
def checkTypeOptional (value : JsValue) (type : ExpectedType) (field : String) :
    Except String Unit :=
  match value with
  | .undefined => .ok ()
  | .null => .ok ()
  | present => checkType present type field

def checkEnum (value : JsValue) (members : List String) (field : String) : Except String Unit :=
  if members.any fun member => value.isString member then .ok ()
  else
    let allowed := String.intercalate "," members
    .error s!"{field} must be one of {allowed}"

/-- The number a relational operator compares, or `none` for `NaN`. The values
compared here are numbers, `null` or `undefined`. -/
def toNumber : JsValue → Option Rat
  | .null => some 0
  | .bool value => some (if value then 1 else 0)
  | .number value => some value
  | _ => none

def lessThan (left right : JsValue) : Bool :=
  match toNumber left, toNumber right with
  | some leftNumber, some rightNumber => leftNumber < rightNumber
  | _, _ => false

def checkBounds (value : JsValue) (low high : Option Nat) (field : String) :
    Except String Unit := do
  if let some bound := low then
    if lessThan value (.number bound) then throw s!"{field} must be greater than {bound}"
  if let some bound := high then
    if lessThan (.number bound) value then throw s!"{field} must be lower than {bound}"

def checkNone (host : CcfHost) : JsValue → Except String Unit
  | .undefined => .ok ()
  | .null => .ok ()
  | args =>
      let found := host.text args
      .error s!"Proposal does not accept any argument, found \"{found}\""

def isHexChar (char : Char) : Bool :=
  ('a' ≤ char && char ≤ 'f') || ('A' ≤ char && char ≤ 'F') || ('0' ≤ char && char ≤ '9')

def checkEntityId (value : JsValue) (field : String) : Except String Unit := do
  checkType value .string field
  if let .string text := value then
    if jsLength text ≠ 64 then throw s!"{field} must contain exactly 64 characters"
    if !text.toList.all isHexChar then throw s!"{field} contains non-hexadecimal character"

def checkX509CertBundle (host : CcfHost) (value : JsValue) (field : String) :
    Except String Unit :=
  match value with
  | .string pem =>
      if host.isValidX509CertBundle pem then .ok ()
      else .error s!"{field} must be a valid X509 certificate (bundle) in PEM format"
  | _ => .error s!"{field} must be a valid X509 certificate (bundle) in PEM format"

def checkJwk (host : CcfHost) (field : String) (entry : JsValue × Nat) : Except String Unit := do
  let (jwk, index) := entry
  checkType (← jwk.get "kid") .string s!"{field}.keys[{index}].kid"
  checkType (← jwk.get "kty") .string s!"{field}.keys[{index}].kty"
  let chain ← jwk.get "x5c"
  checkType chain .array s!"{field}.keys[{index}].x5c"
  if let .array certs := chain then
    if certs.length < 1 then
      throw s!"{field}.keys[{index}].x5c must be an array of minimum 1 elements"
    for (b64der, position) in certs.zipIdx do
      checkType b64der .string s!"{field}.keys[{index}].x5c[{position}]"
      if let .string body := b64der then
        checkX509CertBundle host
          (.string ("-----BEGIN CERTIFICATE-----\n" ++ body ++ "\n-----END CERTIFICATE-----"))
          s!"{field}.keys[{index}].x5c[{position}]"

def checkJwks (host : CcfHost) (value : JsValue) (field : String) : Except String Unit := do
  checkType value .object field
  let keys ← value.get "keys"
  checkType keys .array s!"{field}.keys"
  if let .array items := keys then
    for entry in items.zipIdx do
      checkJwk host field entry

structure ParsedUrl where
  scheme : Option String
  query : Option String
  fragment : Option String

def parseUrl (url : String) : ParsedUrl :=
  let text := url.toList
  let (head, afterHead) := text.span fun char => !":/?#".toList.contains char
  let (scheme, afterScheme) :=
    match head, afterHead with
    | [], _ => (none, text)
    | _, ':' :: rest => (some (String.ofList head), rest)
    | _, _ => (none, text)
  let afterAuthority :=
    match afterScheme with
    | '/' :: '/' :: rest => rest.dropWhile fun char => !"/?#".toList.contains char
    | other => other
  let afterPath := afterAuthority.dropWhile fun char => !"?#".toList.contains char
  let (query, afterQuery) :=
    match afterPath with
    | '?' :: rest =>
        let (found, remaining) := rest.span fun char => char != '#'
        (some (String.ofList found), remaining)
    | other => (none, other)
  let fragment :=
    match afterQuery with
    | '#' :: rest => some (String.ofList (rest.takeWhile fun char => char != '\n'))
    | _ => none
  { scheme, query, fragment }

def hexDigit? (unit : Nat) : Option Nat :=
  if 0x30 ≤ unit ∧ unit ≤ 0x39 then some (unit - 0x30)
  else if 0x61 ≤ unit ∧ unit ≤ 0x66 then some (unit - 0x61 + 10)
  else if 0x41 ≤ unit ∧ unit ≤ 0x46 then some (unit - 0x41 + 10)
  else none

/-- The class `[G-Z\s]` without regard to case. -/
def isRefusedInHex (unit : Nat) : Bool :=
  (0x47 ≤ unit && unit ≤ 0x5A) || (0x67 ≤ unit && unit ≤ 0x7A) ||
    (9 ≤ unit && unit ≤ 13) || (0x2000 ≤ unit && unit ≤ 0x200A) ||
    [0x20, 0xA0, 0x1680, 0x2028, 0x2029, 0x202F, 0x205F, 0x3000, 0xFEFF].contains unit

/-- `parseInt(octet, 16)` as the byte that a `Uint8Array` makes of it. The
longest prefix that is a number counts, and `NaN` becomes zero. -/
def parseOctet (high low : Nat) : UInt8 :=
  match hexDigit? high, hexDigit? low with
  | some first, some second => UInt8.ofNat (16 * first + second)
  | some first, none => UInt8.ofNat first
  | none, some second =>
      if high = 0x2D then UInt8.ofNat (256 - second)
      else if high = 0x2B then UInt8.ofNat second
      else 0
  | none, none => 0

def hexStrToBuf : List Nat → Except String (List UInt8)
  | [] => .ok []
  | [_] => .error "Hex string invalid"
  | high :: low :: rest => do
      if isRefusedInHex high || isRefusedInHex low then throw "Hex string invalid"
      let tail ← hexStrToBuf rest
      return parseOctet high low :: tail

/-- What `ccf.jsonCompatibleToBuf` keeps of an object literal: a property whose
value is `undefined` is not serialised. -/
def jsonObject (fields : List (String × JsValue)) : JsValue :=
  .object (fields.filter fun entry => entry.2.typeOf != .undefined)

def getActiveRecoveryMembersCount (ledger : Ledger) : Except String Nat :=
  Throwing.countM (fun row => do
    let some info := ledger.members.lookup row.1
      | throw s!"Recovery member {row.1} has no information"
    return info.status == .active)
    (ledger.gov (.fixed .membersEncryptionPublicKeys)).entries

def invalidateOtherOpenProposals (proposalIdToRetain : String) (proposals : Table Proposal) :
    Table Proposal where
  entries := proposals.entries.map fun row =>
    if row.1 ≠ proposalIdToRetain ∧ row.2.state = .opened then
      ⟨row.1, { row.2 with state := .dropped }⟩
    else row
  nodupKeys := by
    have sameKeys : (proposals.entries.map fun row =>
        if row.1 ≠ proposalIdToRetain ∧ row.2.state = .opened then
          (⟨row.1, { row.2 with state := .dropped }⟩ : Sigma fun _ : String => Proposal)
        else row).keys = proposals.entries.keys := by
      simp only [List.keys, List.map_map]
      apply List.map_congr_left
      intro row _
      simp only [Function.comp_apply]
      split_ifs <;> rfl
    rw [List.NodupKeys, sameKeys]
    exact proposals.nodupKeys

theorem lookup_invalidated (proposalId otherId : String) (proposals : Table Proposal)
    (proposal : Proposal)
    (found : (invalidateOtherOpenProposals proposalId proposals).lookup otherId = some proposal) :
    ∃ old, proposals.lookup otherId = some old ∧
      (proposal = old ∨ proposal = { old with state := .dropped }) := by
  have member := entry_of_lookup _ _ _ found
  obtain ⟨row, rowMember, same⟩ := List.mem_map.mp member
  split_ifs at same with dropped
  · cases same
    exact ⟨row.2, lookup_of_entry proposals row rowMember, Or.inr rfl⟩
  · subst same
    exact ⟨proposal, lookup_of_entry proposals ⟨otherId, proposal⟩ rowMember, Or.inl rfl⟩

end CleanRoom.Governance
