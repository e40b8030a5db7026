import CleanRoom.Governance.AttestedRequests
import CleanRoom.Governance.CgsActions

/-!
# The endpoints for clean rooms

The endpoints that accept a request on the strength of its attestation: they
store a secret or an event, set the policy of a delegate, or release a secret,
a token, a signature or a certificate. The tables of the app are opened by a
name that is put together from ids, so they are kept here by that name. A
request that fails writes nothing.
-/

namespace CleanRoom.Governance

open JavaScript ByteFile

/-- The governance tables, and the tables of the app by their names. -/
structure AppStore where
  ledger : Ledger
  kv : String → Table JsValue

namespace AppStore

def get (store : AppStore) (map key : String) : Option JsValue := (store.kv map).lookup key

def setMap (store : AppStore) (map : String) (rows : Table JsValue) : AppStore :=
  { store with kv := Function.update store.kv map rows }

def set (store : AppStore) (map key : String) (value : JsValue) : AppStore :=
  store.setMap map ((store.kv map).insert key value)

def delete (store : AppStore) (map key : String) : AppStore :=
  store.setMap map ((store.kv map).erase key)

theorem set_map_other (store : AppStore) (map other : String) (rows : Table JsValue)
    (different : other ≠ map) : (store.setMap map rows).kv other = store.kv other := by
  simp [setMap, different]

@[simp] theorem set_map_same (store : AppStore) (map : String) (rows : Table JsValue) :
    (store.setMap map rows).kv map = rows := by
  simp [setMap]

@[simp] theorem set_map_twice (store : AppStore) (map : String) (first second : Table JsValue) :
    (store.setMap map first).setMap map second = store.setMap map second := by
  simp [setMap]

@[simp] theorem set_map_self (store : AppStore) (map : String) :
    store.setMap map (store.kv map) = store := by
  simp [setMap]

@[simp] theorem get_set_same (store : AppStore) (map key : String) (value : JsValue) :
    (store.set map key value).get map key = some value := by
  simp [get, set]

theorem get_set_other_key (store : AppStore) (map key other : String) (value : JsValue)
    (different : other ≠ key) : (store.set map key value).get map other = store.get map other := by
  simp [get, set, AList.lookup_insert_ne different]

end AppStore

def toDelegatePolicyKey (contractId delegateType delegateId : String) : Except String String :=
  if contractId = "" then .error "contractId must be specified."
  else if delegateType = "" then .error "delegateType must be specified."
  else if delegateId = "" then .error "delegateId must be specified."
  else .ok s!"{contractId}_{delegateType}_{delegateId}"

def getDelegateCleanRoomPolicyMapName (key : String) : String :=
  "public:policies.cleanroom-delegates-" ++ key

def delegateListName (contractId : String) : String :=
  "public:policies.cleanroom-delegates-list-" ++ contractId

def AppStore.policySource (store : AppStore) : PolicySource where
  contract contractId := store.ledger.gov (.cleanRoomPolicy contractId)
  delegate key := store.kv (getDelegateCleanRoomPolicyMapName key)

def addDelegateClaim (map : String) (claims : JsValue) (store : AppStore) (key : String) :
    Except String AppStore := do
  let added := claimItems (claims.field key)
  match store.get map key with
  | none => return store.set map key (.array (addMissing [] added))
  | some stored =>
      let items ← storedItems stored
      let updated := if startsWithBoolean added then added else addMissing items added
      return store.set map key (.array updated)

def removeDelegateClaim (host : CcfHost) (map : String) (claims : JsValue) (store : AppStore)
    (key : String) : Except String AppStore := do
  let removed := claimItems (claims.field key)
  match store.get map key with
  | none =>
      .error <| s!"Cannot remove values of {key} because the key does not exist in the " ++
        "clean room policy claims"
  | some stored =>
      if startsWithBoolean removed then return store.delete map key
      else
        let items ← removed.foldlM (removeItem host) (← storedItems stored)
        if items.length = 0 then return store.delete map key
        else return store.set map key (.array items)

/-- The payload of `setDelegatePolicy`. -/
structure DelegatePolicyData where
  delegateType : JsValue
  claims : JsValue
  policyType : JsValue

def validateDelegatePolicy (host : CcfHost) (args : DelegatePolicyData) : Except String Unit :=
  if !args.delegateType.isString "add" && !args.delegateType.isString "remove" then
    let found := host.text args.delegateType
    .error s!"Clean Room Policy with type '{found}' is not supported"
  else if args.policyType.typeOf == .undefined || args.policyType.isString "snp-caci" then
    checkClaims caciSnpPolicyClaims "snp-caci " args.claims
  else if args.policyType.isString "snp-cvm" then
    checkClaims cvmSnpPolicyClaims "snp-cvm " args.claims
  else
    let found := host.text args.policyType
    .error s!"Unknown policyType '{found}'"

def setDelegateCleanRoomPolicyMap (host : CcfHost) (contractId delegateType delegateId : String)
    (args : DelegatePolicyData) (store : AppStore) : Except String AppStore := do
  let key ← toDelegatePolicyKey contractId delegateType delegateId
  let mapName := getDelegateCleanRoomPolicyMapName key
  let listed := store.set (delegateListName contractId) key
    (jsonObject [("delegateType", .string delegateType), ("delegateId", .string delegateId)])
  validateDelegatePolicy host args
  if args.delegateType.isString "add" then
    (← objectKeys args.claims).foldlM (addDelegateClaim mapName args.claims) listed
  else
    (← objectKeys args.claims).foldlM (removeDelegateClaim host mapName args.claims) listed

def requirePart (body : JsValue) (part code message : String) : Except RequestFailure Unit := do
  if (← bodyField body part).truthy then return ()
  else refuse 400 code message

def requireAttestation (body : JsValue) : Except RequestFailure Unit :=
  requirePart body "attestation" "AttestationMissing" "Attestation payload must be supplied."

def requireEncryption (body : JsValue) : Except RequestFailure Unit :=
  requirePart body "encrypt" "EncryptionMissing" "Encrypt payload must be supplied."

def verifiedPayload (host : CleanRoomHost) (body : JsValue) : Except RequestFailure Bytes := do
  let data ← orThrow (decodedBytes host (body.field "data"))
  orRefuse "SignatureMismatch" (verifySignature host (body.field "sign") data)
  return data

def maxSecretLength : Nat := 25600

def getSecretId (callerId secretName : String) : String := callerId ++ "_" ++ secretName

def secretsMapName (contractId : String) : String := "secrets-" ++ contractId

def putSecretInternal (host : CleanRoomHost) (contractId secretPrefix secretName : String)
    (value : JsValue) (store : AppStore) : Except RequestFailure (AppStore × String) :=
  if !value.truthy then refuse 400 "ValueMissing" "Value must be supplied."
  else if lessThan (.number maxSecretLength) (lengthProperty value) then
    let length := host.ccf.text (lengthProperty value)
    refuse 400 "ValueTooLarge" <|
      s!"Length of the value should not exceed {maxSecretLength} characters. " ++
        s!"Input is {length} characters."
  else
    let secretId := getSecretId secretPrefix secretName
    .ok (store.set (secretsMapName contractId) secretId (jsonObject [("value", value)]), secretId)

def putSecretByCleanRoom (host : CleanRoomHost) (contractId secretName : String) (body : JsValue)
    (store : AppStore) : Except RequestFailure (AppStore × String) := do
  requireAttestation body
  let _ ← verifyAttestationAndReportData host store.policySource contractId body
    (publicKeyOf host body "encrypt") none
  let data ← verifiedPayload host body
  let requestData ← orThrow (host.parseJson data)
  let value ← bodyField requestData "value"
  putSecretInternal host contractId "cleanroom" secretName value store

def setDelegatePolicy (host : CleanRoomHost) (contractId delegateType delegateId : String)
    (body : JsValue) (store : AppStore) : Except RequestFailure AppStore := do
  requireAttestation body
  let _ ← verifyAttestationAndReportData host store.policySource contractId body
    (publicKeyOf host body "encrypt") none
  let data ← verifiedPayload host body
  let rawData ← orThrow (host.parseJson data)
  let type ← bodyField rawData "type"
  let requestData : DelegatePolicyData :=
    { delegateType := type
      claims := rawData.field "claims"
      policyType := rawData.field "policyType" }
  orThrow (setDelegateCleanRoomPolicyMap host.ccf contractId delegateType delegateId requestData
    store)

def toEndorsedCertPolicyKey (contractId : String) : Except String String :=
  toDelegatePolicyKey contractId "ca" "endorsed-cert"

def caSigningKeysMapName : String := "ca.signing_keys"

def generateEndorsedCert (host : CleanRoomHost) (contractId : String) (body : JsValue)
    (store : AppStore) : Except RequestFailure String := do
  requireAttestation body
  requireEncryption body
  let delegatePolicyKey ← orThrow (toEndorsedCertPolicyKey contractId)
  let _ ← verifyAttestationAndReportData host store.policySource contractId body
    (publicKeyOf host body "encrypt") (some [delegatePolicyKey])
  let data ← verifiedPayload host body
  match store.get caSigningKeysMapName contractId with
  | none =>
      refuse 404 "NoCASigningKey" <| "Cannot generate endorsed certificate as there is no CA " ++
        "signing key for this contract."
  | some item =>
      let requestData ← orThrow (host.parseJson data)
      let publicKey ← bodyField requestData "publicKey"
      let serializedItem ← orThrow (host.generateEndorsedCert publicKey
        (requestData.field "subjectName") (requestData.field "subjectAlternateNames")
        (requestData.field "validityPeriodDays") (item.field "privateKey") (item.field "caCert"))
      orThrow do host.wrapKey serializedItem (← publicKeyOf host body "encrypt")

def toEventsPolicyKey (contractId : String) : Except String String :=
  toDelegatePolicyKey contractId "events" "writer"

/-- `parseRequestQuery`: the last value of a name is the one that is kept. A
part without `=` leaves `undefined`. -/
def queryValue (query : String) (name : String) : JsValue :=
  (query.splitOn "&").foldl (fun found part =>
    match part.splitOn "=" with
    | key :: value :: _ => if key = name then .string value else found
    | key :: [] => if key = name then .undefined else found
    | [] => found) .undefined

def getIdFromQuery (query contractId : String) : String :=
  match queryValue query "id" with
  | .string id => id
  | _ => contractId

def getEventsMapName (contractId : String) (scope : JsValue) : String :=
  match scope with
  | .string text =>
      if text = "" then "public:events-" ++ contractId
      else "public:events-" ++ contractId ++ "-" ++ text
  | _ => "public:events-" ++ contractId

/-- `Number(value)` of a timestamp. -/
def timestampNumber (host : CcfHost) : JsValue → Option Rat
  | .null => some 0
  | .undefined => none
  | other => numericOperand host other

/-- `body.timestamp.padStart(13, "0")` -/
def paddedTimestamp : JsValue → Except RequestFailure String
  | .string text => .ok (String.ofList (List.replicate (13 - jsLength text) '0') ++ text)
  | _ => raise "TypeError: not a function"

def isTooLarge : Option Rat → Bool
  | some value => decide (9999999999999 < value)
  | none => false

def verifyEventCaller (host : CleanRoomHost) (caller : Caller) (contractId : String)
    (body : JsValue) (delegatePolicyKey : String) (store : AppStore) :
    Except RequestFailure Unit :=
  match caller with
  | .noAuth => do
      let _ ← verifyAttestationAndReportData host store.policySource contractId body
        (publicKeyOf host body "sign") (some [delegatePolicyKey])
      return ()
  | .jwt payload =>
      let claims := match payload with
        | .object fields => fields
        | _ => []
      orRefuse "VerifyJwtAttestationFailed"
        (verifyPolicyClaims store.policySource contractId claims (some [delegatePolicyKey]))
  | .memberCert _ =>
      refuse 400 "UnsupportedAuthPolicy" "Auth policy type member_cert is not supported."
  | .userCert _ =>
      refuse 400 "UnsupportedAuthPolicy" "Auth policy type user_cert is not supported."

def Caller.isNoAuth : Caller → Bool
  | .noAuth => true
  | _ => false

def putEvent (host : CleanRoomHost) (caller : Caller) (contractId query : String)
    (body : JsValue) (store : AppStore) : Except RequestFailure AppStore := do
  if caller.isNoAuth then requireAttestation body
  requirePart body "sign" "SignatureMissing" "Signature payload must be supplied."
  requirePart body "timestamp" "TimestampMissing" "Timestamp must be supplied."
  if isTooLarge (timestampNumber host.ccf (body.field "timestamp")) then
    refuse 400 "TimestampTooLarge" "Timestamp value is too large."
  else
    let delegatePolicyKey ← orThrow (toEventsPolicyKey contractId)
    verifyEventCaller host caller contractId body delegatePolicyKey store
    let data ← verifiedPayload host body
    let jsonValue ← orThrow (host.parseJson data)
    let timestamp ← paddedTimestamp (body.field "timestamp")
    let map := getEventsMapName contractId (queryValue query "scope")
    return store.set map (getIdFromQuery query contractId)
      (jsonObject [("timestamp", .string timestamp), ("data", jsonValue)])

def toSecretDelegatePolicyKey (contractId secretId : String) : Except String String :=
  toDelegatePolicyKey contractId "secrets" secretId

def getSecret (host : CleanRoomHost) (contractId secretId : String) (body : JsValue)
    (store : AppStore) : Except RequestFailure String := do
  requireAttestation body
  requireEncryption body
  let policyKey ← orThrow (toSecretDelegatePolicyKey contractId secretId)
  let _ ← verifyAttestationAndReportData host store.policySource contractId body
    (publicKeyOf host body "encrypt") (some [policyKey])
  match store.get (secretsMapName contractId) secretId with
  | none =>
      refuse 404 "SecretNotFound" s!"A secret with the specified id '{secretId}' was not found."
  | some secretItem =>
      match secretItem.field "value" with
      | .string value => orThrow do host.wrapKey value (← publicKeyOf host body "encrypt")
      | _ => raise "TypeError: Argument must be a string"

def toSubjectPolicyKey (contractId sub : String) : Except String String :=
  toDelegatePolicyKey contractId "oauth-federation-subjects" sub

def requiredParam (query name : String) : Except RequestFailure String :=
  match queryValue query name with
  | .string value =>
      if value = "" then refuse 400 "InvalidInput" s!"Value for {name} '' is invalid."
      else .ok value
  | _ => refuse 400 "InvalidInput" s!"Value for {name} 'undefined' is invalid."

def oidcSigningKeysMapName : String := "oidc_issuer.signing_keys"

/-- `iss ?? member's url ?? user's url ?? url of the governance`. -/
def issuerUrl (query tid : String) (store : AppStore) : JsValue :=
  match queryValue query "iss" with
  | .string iss => .string iss
  | _ =>
      ((store.get "public:oidc_issuer.tenantid_issuer_url" tid).orElse fun _ =>
        (store.get "public:oidc_issuer.user_tenantid_issuer_url" tid).orElse fun _ =>
          store.ledger.kvGet (.fixed .oidcIssuer) "issuerUrl").getD .null

def getToken (host : CleanRoomHost) (contractId query : String) (body : JsValue)
    (store : AppStore) : Except RequestFailure String := do
  requireAttestation body
  requireEncryption body
  let exp ← requiredParam query "exp"
  let iat ← requiredParam query "iat"
  let jti ← requiredParam query "jti"
  let sub ← requiredParam query "sub"
  let tid ← requiredParam query "tid"
  let aud ← requiredParam query "aud"
  let delegatePolicyKey ← orThrow (toSubjectPolicyKey contractId sub)
  let _ ← verifyAttestationAndReportData host store.policySource contractId body
    (publicKeyOf host body "encrypt") (some [delegatePolicyKey])
  match store.get oidcSigningKeysMapName "signingKey" with
  | none =>
      refuse 405 "SigningKeyNotAvailable" <| "Propose enable_oidc_issuer and generate signing " ++
        "key before attempting to fetch it."
  | some signingKey =>
      let issValue := issuerUrl query tid store
      if !issValue.truthy then
        refuse 405 "IssuerUrlNotSet" <|
          s!"Issuer url has not been supplied nor configured for tenant {tid}. Either pass in " ++
            "the 'iss' value or propose set_oidc_issuer_url or set the issuer at the tenant level."
      else
        let token ← orThrow (host.signToken signingKey
          [("aud", .string aud), ("exp", .string exp), ("iss", issValue), ("jti", .string jti),
            ("nbf", queryValue query "nbf"), ("sub", .string sub), ("iat", .string iat)])
        orThrow do host.wrapKey token (← publicKeyOf host body "encrypt")

def toPodPoliciesKey (contractId : String) : Except String String :=
  toDelegatePolicyKey contractId "podpolicies" "admin"

def signingKeysMapName : String := "signing.signing_keys"

def signPayload (host : CleanRoomHost) (contractId : String) (body : JsValue) (store : AppStore) :
    Except RequestFailure String := do
  requireAttestation body
  requireEncryption body
  requirePart body "payload" "PayloadMissing" "Payload to sign must be supplied."
  let toSign ← match decodedBytes host (body.field "payload") with
    | .ok bytes => .ok bytes
    | .error _ => refuse 400 "PayloadInvalid" "Payload must be a valid base64 encoded string."
  let delegatePolicyKey ← orThrow (toPodPoliciesKey contractId)
  let _ ← verifyAttestationAndReportData host store.policySource contractId body
    (publicKeyOf host body "encrypt") (some [delegatePolicyKey])
  match store.get signingKeysMapName "signingKey" with
  | none =>
      refuse 405 "SigningKeyNotAvailable" <| "Propose enable_signing and generate signing key " ++
        "before attempting to sign."
  | some signingKey =>
      let signature ← orThrow (host.sign (signingKey.field "privateKey") toSign)
      orThrow do host.wrapKey signature (← publicKeyOf host body "encrypt")

end CleanRoom.Governance
