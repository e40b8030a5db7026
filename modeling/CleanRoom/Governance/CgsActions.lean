import CleanRoom.Governance.CcfActions

/-!
# The clean room governance actions of the constitution

`validate` and `apply` of the actions that the governance service adds to the
CCF table. Request ids are decimal numerals in the tables, counted up to where a
double counts.
-/

namespace CleanRoom.Governance

open JavaScript

def validateSetContract (args : JsValue) : Except String Unit := do
  checkType (← args.get "contractId") .string "contractId"
  checkType (← args.get "contract") .object "contract"

def finalVotesValue : Option (List Vote) → JsValue
  | none => .undefined
  | some votes => .object (votes.map fun vote => (vote.memberId, .bool vote.vote))

def proposalInfo (ledger : Ledger) (proposalId : String) : Except String Proposal :=
  match ledger.proposals.lookup proposalId with
  | some proposal => .ok proposal
  | none => .error s!"Can't find proposal info for {proposalId}"

def applySetContract (args : JsValue) (proposalId : String) (ledger : Ledger) :
    Except String Ledger := do
  let data ← (← args.get "contract").get "data"
  let info ← proposalInfo ledger proposalId
  let contractId ← strToBuf (← args.get "contractId")
  return ledger.kvSet (.fixed .acceptedContracts) contractId
    (jsonObject [("data", data), ("proposalId", .string proposalId),
      ("finalVotes", finalVotesValue info.finalVotes)])

def validateSetMemberDocument (args : JsValue) : Except String Unit := do
  checkType (← args.get "documentId") .string "documentId"
  checkType (← args.get "document") .object "document"

def applySetMemberDocument (args : JsValue) (proposalId : String) (ledger : Ledger) :
    Except String Ledger := do
  let document ← args.get "document"
  let data ← document.get "data"
  let contractId ← document.get "contractId"
  let info ← proposalInfo ledger proposalId
  let documentId ← strToBuf (← args.get "documentId")
  return ledger.kvSet (.fixed .acceptedMemberDocuments) documentId
    (jsonObject [("data", data), ("contractId", contractId), ("proposalId", .string proposalId),
      ("finalVotes", finalVotesValue info.finalVotes)])

def checkContractAccepted (subject : String) (ledger : Ledger) (args : JsValue) :
    Except String Unit := do
  let contractId ← strToBuf (← args.get "contractId")
  if !ledger.kvHas (.fixed .acceptedContracts) contractId then
    throw s!"{subject} can only be proposed once contract '{contractId}' has been accepted."

def validateDeployment (key subject : String) (ledger : Ledger) (args : JsValue) :
    Except String Unit := do
  checkType (← args.get "contractId") .string "contractId"
  checkType (← args.get key) .object key
  checkContractAccepted subject ledger args

def applyDeployment (key : String) (table : GovTable) (args : JsValue) (ledger : Ledger) :
    Except String Ledger := do
  let data ← (← args.get key).get "data"
  let contractId ← strToBuf (← args.get "contractId")
  return ledger.kvSet (.fixed table) contractId (jsonObject [("data", data)])

def validateSetDeploymentSpec := validateDeployment "spec" "Deployment spec"

def applySetDeploymentSpec := applyDeployment "spec" .deploymentSpecs

def validateSetDeploymentInfo := validateDeployment "info" "Deployment info"

def applySetDeploymentInfo := applyDeployment "info" .deploymentInfo

def validateContractOption (ledger : Ledger) (args : JsValue) : Except String Unit := do
  checkType (← args.get "contractId") .string "contractId"
  checkContractAccepted "Action" ledger args

def applyContractOption (table : GovTable) (status : String) (args : JsValue) (ledger : Ledger) :
    Except String Ledger := do
  let contractId ← strToBuf (← args.get "contractId")
  return ledger.kvSet (.fixed table) contractId (jsonObject [("status", .string status)])

def applyEnableTelemetry := applyContractOption .contractsTelemetryStatus "enabled"

def applyDisableTelemetry := applyContractOption .contractsTelemetryStatus "disabled"

def applyEnableLogging := applyContractOption .contractsLoggingStatus "enabled"

def applyDisableLogging := applyContractOption .contractsLoggingStatus "disabled"

/-- `Number` of a decimal numeral. -/
def parseDecimal (text : String) : Option Nat :=
  if text.toList = [] then none
  else text.toList.foldlM (fun value char =>
    if '0' ≤ char ∧ char ≤ '9' then some (10 * value + (char.toNat - '0'.toNat)) else none) 0

/-- `reqId++` of a number. Above `Number.MAX_SAFE_INTEGER` the sum is rounded back. -/
def countedUp (value : Nat) : Nat := if value ≤ 9007199254740991 then value + 1 else value

def nextRequestId (text : String) : String :=
  match parseDecimal text with
  | some value => toString (countedUp value)
  | none => "NaN"

def validateKid (args : JsValue) : Except String Unit := do
  checkType (← args.get "kid") .string "kid"

/-- `enable_oidc_issuer` and `enable_signing`: only the first call has an
effect. -/
def applyEnableKey (table : GovTable) (args : JsValue) (ledger : Ledger) :
    Except String Ledger := do
  if ledger.kvHas (.fixed table) "enabled" then return ledger
  let kid ← strToBuf (← args.get "kid")
  return ((ledger.kvSet (.fixed table) "enabled" (.string "true")).kvSet (.fixed table)
    "generateSigningKeyRequestId" (.string "1")).kvSet (.fixed table) "generateSigningKeyKid"
      (.string kid)

def applyEnableOidcIssuer := applyEnableKey .oidcIssuer

def applyEnableSigning := applyEnableKey .signing

def applyRotateKey (table : GovTable) (ledger : Ledger) : Except String Ledger :=
  match ledger.kvGet (.fixed table) "generateSigningKeyRequestId" with
  | none => .ok ledger
  | some stored => do
      let requestId ← strToBuf stored
      return ledger.kvSet (.fixed table) "generateSigningKeyRequestId"
        (.string (nextRequestId requestId))

def applyOidcIssuerEnableRotateSigningKey := applyRotateKey .oidcIssuer

def applySigningEnableRotateSigningKey := applyRotateKey .signing

def validateSetOidcIssuerUrl := validateStringArgument "issuer_url"

def applySetOidcIssuerUrl (args : JsValue) (ledger : Ledger) : Except String Ledger := do
  let url ← strToBuf (← args.get "issuer_url")
  return ledger.kvSet (.fixed .oidcIssuer) "issuerUrl" (.string url)

def validateEnableCa (ledger : Ledger) (args : JsValue) : Except String Unit := do
  checkType (← args.get "contractId") .string "contractId"
  checkContractAccepted "Enabling the CA" ledger args

def applyEnableCa (args : JsValue) (ledger : Ledger) : Except String Ledger := do
  let contractId ← strToBuf (← args.get "contractId")
  let config := (ledger.kvGet (.fixed .ca) contractId).getD (.object [])
  if (← config.get "enabled").isString "true" then return ledger
  let enabled := (config.setField "enabled" (.string "true")).setField "requestId" (.string "1")
  return ledger.kvSet (.fixed .ca) contractId enabled

def validateCaEnableRotateSigningKey (host : CcfHost) (ledger : Ledger) (args : JsValue) :
    Except String Unit := do
  validateEnableCa ledger args
  let contractId ← strToBuf (← args.get "contractId")
  let some config := ledger.kvGet (.fixed .ca) contractId
    | throw "Cannot rotate the CA signing key as CA is not enabled for the contract."
  let enabled ← config.get "enabled"
  if !enabled.isString "true" then
    let status := host.text enabled
    throw s!"Cannot rotate the CA signing key as CA status is '{status}' for the contract."

def applyCaEnableRotateSigningKey (args : JsValue) (ledger : Ledger) : Except String Ledger := do
  let contractId ← strToBuf (← args.get "contractId")
  let some config := ledger.kvGet (.fixed .ca) contractId
    | throw "TypeError: Argument must be an ArrayBuffer"
  let next := match ← config.get "requestId" with
    | .string text => nextRequestId text
    | _ => "NaN"
  return ledger.kvSet (.fixed .ca) contractId (config.setField "requestId" (.string next))

def claimItems : JsValue → List JsValue
  | .array items => items
  | single => [single]

/-- `typeof items[0] === "boolean"` -/
def startsWithBoolean : List JsValue → Bool
  | .bool _ :: _ => true
  | _ => false

def addMissing (items added : List JsValue) : List JsValue :=
  added.foldl (fun seen item =>
    if seen.any fun other => other.sameValueZero item then seen else seen ++ [item]) items

theorem mem_add_missing (items added : List JsValue) (value : JsValue) :
    value ∈ addMissing items added ↔ value ∈ items ∨ value ∈ added := by
  unfold addMissing
  induction added generalizing items with
  | nil => simp
  | cons item added ih =>
      rw [List.foldl_cons, ih, List.mem_cons]
      split
      next already =>
        obtain ⟨present, listed, equal⟩ := List.any_eq_true.mp already
        rw [JsValue.same_value_eq present item equal] at listed
        grind
      · rw [List.mem_append, List.mem_singleton, or_assoc]

/-- The stored values of a claim, which `JSON.parse` gives back. -/
def storedItems : JsValue → Except String (List JsValue)
  | .array items => .ok items
  | _ => .error "TypeError: not a function"

def addClaim (table : TableName) (claims : JsValue) (ledger : Ledger) (key : String) :
    Except String Ledger := do
  let added := claimItems (claims.field key)
  match ledger.kvGet table key with
  | none => return ledger.kvSet table key (.array (addMissing [] added))
  | some stored =>
      let items ← storedItems stored
      -- A boolean claim has a single value, so the new one replaces it.
      let updated := if startsWithBoolean added then added else addMissing items added
      return ledger.kvSet table key (.array updated)

def removeItem (host : CcfHost) (items : List JsValue) (item : JsValue) :
    Except String (List JsValue) :=
  if items.any fun other => other.sameValueZero item then
    .ok (items.eraseP fun other => other.sameValueZero item)
  else
    let value := host.text item
    let present := host.text (.array items)
    .error s!"Trying to remove value '{value}' from {present} and it does not exist"

def removeClaim (host : CcfHost) (owner : String) (table : TableName) (claims : JsValue)
    (ledger : Ledger) (key : String) : Except String Ledger := do
  let removed := claimItems (claims.field key)
  let some stored := ledger.kvGet table key
    | throw s!"Cannot remove values of {key} because the key does not exist in the {owner} claims"
  if startsWithBoolean removed then return ledger.kvDelete table key
  let items ← removed.foldlM (removeItem host) (← storedItems stored)
  if items.length = 0 then return ledger.kvDelete table key
  else return ledger.kvSet table key (.array items)

/-- `Object.keys`, which refuses `null` and `undefined`. -/
def objectKeys : JsValue → Except String (List String)
  | .undefined => .error "TypeError: cannot convert to object"
  | .null => .error "TypeError: cannot convert to object"
  | present => .ok present.keys

def caciSnpPolicyClaims : List String :=
  ["x-ms-attestation-type", "x-ms-compliance-status", "x-ms-policy-hash",
    "vm-configuration-secure-boot", "vm-configuration-secure-boot-template-id",
    "vm-configuration-tpm-enabled", "vm-configuration-vmUniqueId",
    "x-ms-sevsnpvm-authorkeydigest", "x-ms-sevsnpvm-bootloader-svn", "x-ms-sevsnpvm-familyId",
    "x-ms-sevsnpvm-guestsvn", "x-ms-sevsnpvm-hostdata", "x-ms-sevsnpvm-idkeydigest",
    "x-ms-sevsnpvm-imageId", "x-ms-sevsnpvm-is-debuggable", "x-ms-sevsnpvm-launchmeasurement",
    "x-ms-sevsnpvm-microcode-svn", "x-ms-sevsnpvm-migration-allowed",
    "x-ms-sevsnpvm-reportdata", "x-ms-sevsnpvm-reportid", "x-ms-sevsnpvm-smt-allowed",
    "x-ms-sevsnpvm-snpfw-svn", "x-ms-sevsnpvm-tee-svn", "x-ms-sevsnpvm-vmpl", "x-ms-ver"]

def jwtPolicyClaims : List String := ["oid", "appid", "tid", "sub", "iss"]

def cvmSnpPolicyClaims : List String :=
  (List.range 24).map fun index => "pcr" ++ toString index

def userClaims : List String := ["preferred_username", "email", "appid", "tid", "sub", "upn"]

/-- Every claim must be one that the table defines. `kind` is the word before
`claim` in the error, with its blank. -/
def checkClaims (names : List String) (kind : String) (claims : JsValue) :
    Except String Unit := do
  for key in ← objectKeys claims do
    if !literalDefines names key then
      throw s!"The claim '{key}' is not an allowed {kind}claim"

def validateSetCleanRoomPolicy (host : CcfHost) (ledger : Ledger) (args : JsValue) :
    Except String Unit := do
  checkType (← args.get "contractId") .string "contractId"
  let type ← args.get "type"
  checkType type .string "type"
  let policyType ← args.get "policyType"
  checkTypeOptional policyType .string "policyType"
  let claims ← args.get "claims"
  checkType claims .object "claims"
  if !type.isString "add" && !type.isString "remove" then
    let found := host.text type
    throw s!"Clean Room Policy with type '{found}' is not supported"
  if policyType.typeOf == .undefined || policyType.isString "snp-caci" then
    checkClaims caciSnpPolicyClaims "snp-caci " claims
  else if policyType.isString "jwt" then checkClaims jwtPolicyClaims "jwt " claims
  else if policyType.isString "snp-cvm" then checkClaims cvmSnpPolicyClaims "snp-cvm " claims
  else
    let found := host.text policyType
    throw s!"Unknown policyType '{found}'"
  checkContractAccepted "Clean Room Policy" ledger args

def applySetCleanRoomPolicy (host : CcfHost) (args : JsValue) (ledger : Ledger) :
    Except String Ledger := do
  let table := TableName.cleanRoomPolicy (host.text (← args.get "contractId"))
  let type ← args.get "type"
  let claims ← args.get "claims"
  if type.isString "add" then (← objectKeys claims).foldlM (addClaim table claims) ledger
  else if type.isString "remove" then
    (← objectKeys claims).foldlM (removeClaim host "clean room policy" table claims) ledger
  else
    let found := host.text type
    throw s!"Clean Room Policy with type '{found}' is not supported"

def validateSetUserInvitationByJwtClaims (host : CcfHost) (ledger : Ledger) (args : JsValue) :
    Except String Unit := do
  checkType (← args.get "invitationId") .string "invitationId"
  let type ← args.get "type"
  checkType type .string "type"
  let accountType ← args.get "accountType"
  checkType accountType .string "accountType"
  let claims ← args.get "claims"
  checkType claims .object "claims"
  if !type.isString "add" && !type.isString "remove" then
    let found := host.text type
    throw s!"Invitation with type '{found}' is not supported"
  if !accountType.isString "microsoft" then
    let found := host.text accountType
    throw s!"Invitation with account type '{found}' is not supported"
  checkClaims userClaims "" claims
  let invitationId ← strToBuf (← args.get "invitationId")
  if ledger.kvHas (.fixed .acceptedUserInvitations) invitationId then
    throw s!"Invitation with Id '{invitationId}' has already been accepted."

def applySetUserInvitationByJwtClaims (host : CcfHost) (args : JsValue) (ledger : Ledger) :
    Except String Ledger := do
  let invitation ← args.get "invitationId"
  let table := TableName.userInvitationClaims (host.text invitation)
  let type ← args.get "type"
  let claims ← args.get "claims"
  if type.isString "add" then
    let added ← (← objectKeys claims).foldlM (addClaim table claims) ledger
    let accountType ← args.get "accountType"
    return added.kvSet (.fixed .userInvitations) (← strToBuf invitation)
      (jsonObject [("accountType", accountType)])
  else if type.isString "remove" then
    (← objectKeys claims).foldlM (removeClaim host "invitation" table claims) ledger
  else
    let found := host.text type
    throw s!"Invitation with type '{found}' is not supported"

def applyRemoveUserInvitationByJwtClaims (args : JsValue) (ledger : Ledger) :
    Except String Ledger := do
  let invitationId ← strToBuf (← args.get "invitationId")
  return (ledger.kvDelete (.fixed .userInvitations) invitationId).kvClear
    (.userInvitationClaims invitationId)

def runtimeOptions : List String :=
  ["autoapprove-constitution-proposal", "autoapprove-jsapp-proposal",
    "autoapprove-deploymentspec-proposal", "autoapprove-deploymentinfo-proposal",
    "autoapprove-cleanroompolicy-proposal"]

def validateSetCgsRuntimeOptions (host : CcfHost) (args : JsValue) : Except String Unit := do
  let option ← args.get "option"
  checkType option .string "option"
  let status ← args.get "status"
  checkType status .string "status"
  if !runtimeOptions.any fun allowed => option.isString allowed then
    let found := host.text option
    throw s!"The option '{found}' is not an allowed option"
  if !status.isString "enabled" && !status.isString "disabled" then
    let found := host.text status
    throw s!"The value '{found}' is not supported"

def applySetCgsRuntimeOptions (args : JsValue) (ledger : Ledger) : Except String Ledger := do
  let status ← args.get "status"
  let option ← strToBuf (← args.get "option")
  return ledger.kvSet (.fixed .cgsRuntimeOptions) option (jsonObject [("status", status)])

def validateSetUserIdentity (host : CcfHost) (args : JsValue) : Except String Unit := do
  checkType (← args.get "id") .string "id"
  let accountType ← args.get "accountType"
  checkType accountType .string "accountType"
  checkTypeOptional (← args.get "invitationId") .string "invitationId"
  let data ← args.get "data"
  checkType data .object "data"
  checkType (← data.get "tenantId") .string "data.tenantId"
  checkTypeOptional (← data.get "identifier") .string "data.identifier"
  if !accountType.isString "microsoft" then
    let found := host.text accountType
    throw s!"User identity with account type '{found}' is not supported"

def acceptInvitation (ledger : Ledger) (invitation : JsValue) : Except String Ledger := do
  if !invitation.truthy then return ledger
  let invitationId ← strToBuf invitation
  return ledger.kvSet (.fixed .acceptedUserInvitations) invitationId (jsonObject [])

def applySetUserIdentity (args : JsValue) (ledger : Ledger) : Except String Ledger := do
  let accountType ← args.get "accountType"
  let invitation ← args.get "invitationId"
  let data ← args.get "data"
  let marked ← acceptInvitation ledger invitation
  let userId ← strToBuf (← args.get "id")
  return marked.kvSet (.fixed .userIdentities) userId
    (jsonObject [("accountType", accountType), ("invitationId", invitation), ("data", data)])

end CleanRoom.Governance
