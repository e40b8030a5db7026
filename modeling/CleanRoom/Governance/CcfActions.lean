import CleanRoom.Governance.Host

/-!
# The CCF actions of the constitution

`validate` and `apply` of every action in the table at the end of CCF's
`actions.js`. An `apply` returns the ledger it leaves behind; an exception
leaves none, because CCF discards the transaction. Member and user records are
removed by id and added by certificate, as in the source.
-/

namespace CleanRoom.Governance

open JavaScript

def validateSetConstitution (args : JsValue) : Except String Unit := do
  checkType (← args.get "constitution") .string "undefined"

def applySetConstitution (args : JsValue) (proposalId : String) (ledger : Ledger) :
    Except String Ledger := do
  let constitution ← args.get "constitution"
  let written := ledger.kvSet (.fixed .constitution) singletonKvKey constitution
  return { written with proposals := invalidateOtherOpenProposals proposalId written.proposals }

def validateSetMember (host : CcfHost) (args : JsValue) : Except String Unit := do
  checkX509CertBundle host (← args.get "cert") "cert"
  checkTypeOptional (← args.get "member_data") .object "member_data"
  let recoveryRole ← args.get "recovery_role"
  if recoveryRole.typeOf ≠ .undefined then
    checkEnum recoveryRole ["NonParticipant", "Participant", "Owner"] "recovery_role"
  let noKey := match ← args.get "encryption_pub_key" with
    | .undefined => true
    | .null => true
    | _ => false
  let roleGiven := match recoveryRole with
    | .undefined => false
    | .null => false
    | role => !role.isString "NonParticipant"
  if noKey && roleGiven then
    throw "Cannot specify a recovery_role value when encryption_pub_key is not specified"

/-- The encryption key of a new member, where `null` and an absent key remove
the one that was there. -/
def setEncryptionKey (ledger : Ledger) (memberId : String) (key : JsValue) :
    Except String Ledger :=
  match key with
  | .undefined => .ok (ledger.kvDelete (.fixed .membersEncryptionPublicKeys) memberId)
  | .null => .ok (ledger.kvDelete (.fixed .membersEncryptionPublicKeys) memberId)
  | .string text =>
      .ok (ledger.kvSet (.fixed .membersEncryptionPublicKeys) memberId (.string text))
  | _ => .error "TypeError: Argument must be a string"

def setAck (ledger : Ledger) (memberId : String) : Except String Ledger :=
  match ledger.kvGet (.fixed .internalSignatures) singletonKvKey with
  | none => .ok (ledger.kvSet (.fixed .membersAcks) memberId .undefined)
  | some signature => do
      let root ← signature.get "root"
      return ledger.kvSet (.fixed .membersAcks) memberId (jsonObject [("state_digest", root)])

def applySetMember (host : CcfHost) (args : JsValue) (ledger : Ledger) :
    Except String Ledger := do
  let cert ← args.get "cert"
  let memberId ← host.idOfPem cert
  let certified := ledger.kvSet (.fixed .membersCerts) memberId cert
  let keyed ← setEncryptionKey certified memberId (← args.get "encryption_pub_key")
  let memberData ← args.get "member_data"
  let recoveryRole ← args.get "recovery_role"
  let info : MemberInfo := { status := .accepted, memberData, recoveryRole }
  setAck { keyed with members := keyed.members.insert memberId info } memberId

def validateRemoveMember (args : JsValue) : Except String Unit := do
  checkEntityId (← args.get "member_id") "member_id"

/-- An active recovery member may go only while enough of them are left. -/
def checkRecoveryMembersLeft (host : CcfHost) (ledger : Ledger) : Except String Unit := do
  let some config := ledger.kvGet (.fixed .serviceConfig) singletonKvKey
    | throw "Service configuration could not be found"
  let count ← getActiveRecoveryMembersCount ledger
  let countAfter := JsValue.number ((count : Rat) - 1)
  let threshold ← config.get "recovery_threshold"
  if lessThan countAfter threshold then
    let left := host.text countAfter
    let needed := host.text threshold
    throw (s!"Number of active recovery members ({left}) would be less than recovery " ++
      s!"threshold ({needed})")

def applyRemoveMember (host : CcfHost) (args : JsValue) (ledger : Ledger) :
    Except String Ledger := do
  let memberId ← strToBuf (← args.get "member_id")
  let some info := ledger.members.lookup memberId | return ledger
  let isActiveRecoveryMember := info.status == .active &&
    ledger.kvHas (.fixed .membersEncryptionPublicKeys) memberId
  if isActiveRecoveryMember then checkRecoveryMembersLeft host ledger
  let unlisted := { ledger with members := ledger.members.erase memberId }
  let removed := (((unlisted.kvDelete (.fixed .membersEncryptionPublicKeys) memberId).kvDelete
    (.fixed .membersCerts) memberId).kvDelete (.fixed .membersAcks) memberId).kvDelete
      (.fixed .history) memberId
  if isActiveRecoveryMember then host.triggerLedgerRekey
  return removed

def validateSetMemberData (args : JsValue) : Except String Unit := do
  checkEntityId (← args.get "member_id") "member_id"
  checkType (← args.get "member_data") .object "member_data"

def applySetMemberData (args : JsValue) (ledger : Ledger) : Except String Ledger := do
  let memberId ← strToBuf (← args.get "member_id")
  let some info := ledger.members.lookup memberId
    | throw s!"Member {memberId} does not exist"
  let memberData ← args.get "member_data"
  return { ledger with members := ledger.members.insert memberId { info with memberData } }

def validateSetUser (host : CcfHost) (args : JsValue) : Except String Unit := do
  checkX509CertBundle host (← args.get "cert") "cert"
  checkTypeOptional (← args.get "user_data") .object "user_data"

/-- User data is kept only where it is neither `null` nor absent. -/
def setUserInfo (ledger : Ledger) (userId : String) (userData : JsValue) : Ledger :=
  match userData with
  | .undefined => ledger.kvDelete (.fixed .usersInfo) userId
  | .null => ledger.kvDelete (.fixed .usersInfo) userId
  | present => ledger.kvSet (.fixed .usersInfo) userId (jsonObject [("user_data", present)])

def applySetUser (host : CcfHost) (args : JsValue) (ledger : Ledger) : Except String Ledger := do
  let cert ← args.get "cert"
  let userId ← host.idOfPem cert
  return setUserInfo (ledger.kvSet (.fixed .usersCerts) userId cert) userId
    (← args.get "user_data")

def validateRemoveUser (args : JsValue) : Except String Unit := do
  checkEntityId (← args.get "user_id") "user_id"

def applyRemoveUser (args : JsValue) (ledger : Ledger) : Except String Ledger := do
  let userId ← strToBuf (← args.get "user_id")
  return (ledger.kvDelete (.fixed .usersCerts) userId).kvDelete (.fixed .usersInfo) userId

def validateSetUserData (args : JsValue) : Except String Unit := do
  checkEntityId (← args.get "user_id") "user_id"
  checkTypeOptional (← args.get "user_data") .object "user_data"

def applySetUserData (args : JsValue) (ledger : Ledger) : Except String Ledger := do
  let userId ← strToBuf (← args.get "user_id")
  return setUserInfo ledger userId (← args.get "user_data")

def checkReconfigurationType (host : CcfHost) (config newConfig : JsValue) :
    Except String Unit := do
  let current ← config.get "reconfiguration_type"
  let wanted ← newConfig.get "reconfiguration_type"
  if !current.sameValueZero wanted && wanted.typeOf != .undefined then
    let allowed := (current.typeOf == .undefined || current.isString "OneTransaction") &&
      wanted.isString "TwoTransaction"
    if !allowed then
      let source := host.text current
      let target := host.text wanted
      throw s!"Cannot change reconfiguration type from {source} to {target}."

def checkRecoveryThreshold (host : CcfHost) (ledger : Ledger) (config newConfig : JsValue) :
    Except String Unit := do
  let current ← config.get "recovery_threshold"
  let wanted ← newConfig.get "recovery_threshold"
  if wanted.typeOf == .undefined || current.sameValueZero wanted then return ()
  let some service := ledger.kvGet (.fixed .serviceInfo) singletonKvKey
    | throw "Service information could not be found"
  let status ← service.get "status"
  if status.isString "WaitingForRecoveryShares" then
    throw "Cannot set recovery threshold if service is WaitingForRecoveryShares"
  else if status.isString "Open" then
    let count ← getActiveRecoveryMembersCount ledger
    if lessThan (.number count) wanted then
      let threshold := host.text wanted
      let members := host.text (.number count)
      throw (s!"Cannot set recovery threshold to {threshold}: recovery threshold would be " ++
        s!"greater than the number of recovery members {members}")

def overrideSetting (key : String) (newConfig config : JsValue) : JsValue :=
  if (newConfig.field key).typeOf == .undefined then config
  else config.setField key (newConfig.field key)

def updateServiceConfig (host : CcfHost) (newConfig : JsValue) (ledger : Ledger) :
    Except String Ledger := do
  let some config := ledger.kvGet (.fixed .serviceConfig) singletonKvKey
    | throw "Service configuration could not be found"
  checkReconfigurationType host config newConfig
  checkRecoveryThreshold host ledger config newConfig
  let wanted ← newConfig.get "recovery_threshold"
  let refresh := wanted.typeOf != .undefined &&
    !wanted.sameValueZero (config.field "recovery_threshold")
  let updated := overrideSetting "recent_cose_proposals_window_size" newConfig
    (overrideSetting "recovery_threshold" newConfig
      (overrideSetting "reconfiguration_type" newConfig config))
  let written := ledger.kvSet (.fixed .serviceConfig) singletonKvKey updated
  if refresh then host.triggerRecoverySharesRefresh
  return written

def validateSetRecoveryThreshold (args : JsValue) : Except String Unit := do
  checkType (← args.get "recovery_threshold") .integer "threshold"
  checkBounds (← args.get "recovery_threshold") (some 1) (some 254) "threshold"

def validateSetServiceConfiguration (args : JsValue) : Except String Unit := do
  let settable := ["reconfiguration_type", "recovery_threshold",
    "recent_cose_proposals_window_size"]
  for key in args.keys do
    if !settable.contains key then
      throw s!"Cannot change {key} via set_service_configuration."
  checkTypeOptional (← args.get "reconfiguration_type") .string "reconfiguration type"
  checkTypeOptional (← args.get "recovery_threshold") .integer "recovery threshold"
  checkBounds (← args.get "recovery_threshold") (some 1) (some 254) "recovery threshold"
  checkTypeOptional (← args.get "recent_cose_proposals_window_size") .integer
    "recent cose proposals window size"
  checkBounds (← args.get "recent_cose_proposals_window_size") (some 1) (some 10000)
    "recent cose proposals window size"

def applyTriggerRecoverySharesRefresh (host : CcfHost) (ledger : Ledger) :
    Except String Ledger := do
  host.triggerRecoverySharesRefresh
  return ledger

def applyTriggerLedgerRekey (host : CcfHost) (ledger : Ledger) : Except String Ledger := do
  host.triggerLedgerRekey
  return ledger

def applyTriggerLedgerChunk (host : CcfHost) (ledger : Ledger) : Except String Ledger := do
  host.triggerLedgerChunk
  return ledger

def applyTriggerSnapshot (host : CcfHost) (ledger : Ledger) : Except String Ledger := do
  host.triggerSnapshot
  return ledger

def validateTriggerAcmeRefresh (args : JsValue) : Except String Unit := do
  checkTypeOptional (← args.get "interfaces") .array
    "interfaces to refresh the certificates for"

def applyTriggerAcmeRefresh (host : CcfHost) (args : JsValue) (ledger : Ledger) :
    Except String Ledger := do
  host.triggerACMERefresh (← args.get "interfaces")
  return ledger

def validateAssertServiceIdentity (host : CcfHost) (ledger : Ledger) (args : JsValue) :
    Except String Unit := do
  let identity ← args.get "service_identity"
  checkX509CertBundle host identity "service_identity"
  let some service := ledger.kvGet (.fixed .serviceInfo) singletonKvKey
    | throw "Service information could not be found"
  if !(← service.get "cert").sameValueZero identity then
    throw "Service identity certificate mismatch"

def validateTransitionServiceToOpen (host : CcfHost) (args : JsValue) : Except String Unit := do
  checkType (← args.get "next_service_identity") .string "next service identity (PEM certificate)"
  checkX509CertBundle host (← args.get "next_service_identity") "next_service_identity"
  let previous ← args.get "previous_service_identity"
  checkTypeOptional previous .string "previous service identity (PEM certificate)"
  if previous.typeOf ≠ .undefined then
    checkX509CertBundle host previous "previous_service_identity"

def applyTransitionServiceToOpen (host : CcfHost) (args : JsValue) (ledger : Ledger) :
    Except String Ledger := do
  let some service := ledger.kvGet (.fixed .serviceInfo) singletonKvKey
    | throw "Service information could not be found"
  let previous ← args.get "previous_service_identity"
  let next ← args.get "next_service_identity"
  if (← service.get "status").isString "Recovering" &&
      (previous.typeOf == .undefined || next.typeOf == .undefined) then
    throw ("Opening a recovering network requires both, the previous and the next service " ++
      "identity")
  let previousIdentity ← if previous.typeOf == .undefined then pure none
    else some <$> strToBuf previous
  let nextIdentity ← strToBuf next
  let rows ← host.transitionServiceToOpen previousIdentity nextIdentity
    (ledger.gov (.fixed .serviceInfo))
  return ledger.setTable (.fixed .serviceInfo) rows

/-- `Object.entries` of a value whose `typeof` is `"object"`. -/
def objectEntries : JsValue → Except String (List (String × JsValue))
  | .object fields => .ok fields
  | .array items => .ok (items.zipIdx.map fun item => (toString item.2, item.1))
  | _ => .error "TypeError: cannot convert to object"

def checkAuthnPolicy (label : String) (policy : JsValue) : Except String Unit := do
  match policy.typeOf with
  | .string => return ()
  | .object =>
      let constituents ← policy.get "all_of"
      checkType constituents .array s!"{label}.all_of"
      if let .array items := constituents then
        for (subPolicy, index) in items.zipIdx do
          checkType subPolicy .string s!"{label}.all_of[{index}]"
  | other =>
      let found := other.name
      throw s!"{label} must be of type string or object but is {found}"

def checkEndpoint (host : CcfHost) (modules : List JsValue) (label : String) (info : JsValue) :
    Except String Unit := do
  checkType info .object label
  let jsModule ← info.get "js_module"
  checkType jsModule .string s!"{label}.js_module"
  checkType (← info.get "js_function") .string s!"{label}.js_function"
  checkEnum (← info.get "mode") ["readwrite", "readonly", "historical"] s!"{label}.mode"
  checkEnum (← info.get "forwarding_required") ["sometimes", "always", "never"]
    s!"{label}.forwarding_required"
  let strategy ← info.get "redirection_strategy"
  if strategy.typeOf ≠ .undefined then
    checkEnum strategy ["none", "to_primary", "to_backup"] s!"{label}.redirection_strategy"
  checkTypeOptional (← info.get "openapi") .object s!"{label}.openapi"
  checkTypeOptional (← info.get "openapi_hidden") .boolean s!"{label}.openapi_hidden"
  let policies ← info.get "authn_policies"
  checkType policies .array s!"{label}.authn_policies"
  if let .array items := policies then
    for (policy, index) in items.zipIdx do
      checkAuthnPolicy s!"{label}.authn_policies[{index}]" policy
  if !modules.any fun entry => (entry.field "name").sameValueZero jsModule then
    let missing := host.text jsModule
    throw s!"module '{missing}' not found in bundle"

def validateSetJsApp (host : CcfHost) (args : JsValue) : Except String Unit := do
  let bundle ← args.get "bundle"
  checkType bundle .object "bundle"
  let moduleList ← bundle.get "modules"
  checkType moduleList .array "bundle.modules"
  let modules := match moduleList with
    | .array items => items
    | _ => []
  for (entry, index) in modules.zipIdx do
    checkType entry .object s!"bundle.modules[{index}]"
    checkType (← entry.get "name") .string s!"bundle.modules[{index}].name"
    checkType (← entry.get "module") .string s!"bundle.modules[{index}].module"
  let metadata ← bundle.get "metadata"
  checkType metadata .object "bundle.metadata"
  let endpoints ← metadata.get "endpoints"
  checkType endpoints .object "bundle.metadata.endpoints"
  for (url, endpoint) in ← objectEntries endpoints do
    checkType endpoint .object s!"bundle.metadata.endpoints[\"{url}\"]"
    for (method, info) in ← objectEntries endpoint do
      checkEndpoint host modules s!"bundle.metadata.endpoints[\"{url}\"][\"{method}\"]" info
  checkTypeOptional (← args.get "disable_bytecode_cache") .boolean "disable_bytecode_cache"

def setModule (host : CcfHost) (ledger : Ledger) (entry : JsValue) : Except String Ledger := do
  let path := "/" ++ host.text (← entry.get "name")
  let body ← strToBuf (← entry.get "module")
  return ledger.kvSet (.fixed .modules) path (.string body)

def setEndpoint (host : CcfHost) (url : String) (ledger : Ledger) (entry : String × JsValue) :
    Except String Ledger := do
  let jsModule := host.text (← entry.2.get "js_module")
  return ledger.kvSet (.fixed .endpoints) (entry.1.toUpper ++ " " ++ url)
    (entry.2.setField "js_module" (.string ("/" ++ jsModule)))

def setEndpoints (host : CcfHost) (ledger : Ledger) (entry : String × JsValue) :
    Except String Ledger := do
  (← objectEntries entry.2).foldlM (setEndpoint host entry.1) ledger

def refreshBytecode (host : CcfHost) (ledger : Ledger) : Except String Ledger := do
  let (bytecode, version) ← host.refreshAppBytecodeCache
    (ledger.gov (.fixed .modulesQuickjsBytecode)) (ledger.gov (.fixed .modulesQuickjsVersion))
  return (ledger.setTable (.fixed .modulesQuickjsBytecode) bytecode).setTable
    (.fixed .modulesQuickjsVersion) version

def applySetJsApp (host : CcfHost) (args : JsValue) (ledger : Ledger) :
    Except String Ledger := do
  let bundle ← args.get "bundle"
  let .array modules ← bundle.get "modules" | throw "TypeError: value is not iterable"
  let cleared := (ledger.kvClear (.fixed .modules)).kvClear (.fixed .endpoints)
  let loaded ← modules.foldlM (setModule host) cleared
  let cached ←
    if (← args.get "disable_bytecode_cache").truthy then
      pure ((loaded.kvClear (.fixed .modulesQuickjsBytecode)).kvClear
        (.fixed .modulesQuickjsVersion))
    else refreshBytecode host loaded
  let flushed := cached.kvSet (.fixed .interpreterFlush) singletonKvKey (.bool true)
  let endpoints ← (← bundle.get "metadata").get "endpoints"
  (← objectEntries endpoints).foldlM (setEndpoints host) flushed

def applyRemoveJsApp (ledger : Ledger) : Except String Ledger :=
  .ok (((((ledger.kvClear (.fixed .modules)).kvClear (.fixed .modulesQuickjsBytecode)).kvClear
    (.fixed .modulesQuickjsVersion)).kvClear (.fixed .interpreterFlush)).kvClear
      (.fixed .endpoints))

def validateSetJsRuntimeOptions (args : JsValue) : Except String Unit := do
  checkType (← args.get "max_heap_bytes") .integer "max_heap_bytes"
  checkType (← args.get "max_stack_bytes") .integer "max_stack_bytes"
  checkType (← args.get "max_execution_time_ms") .integer "max_execution_time_ms"
  checkTypeOptional (← args.get "log_exception_details") .boolean "log_exception_details"
  checkTypeOptional (← args.get "return_exception_details") .boolean "return_exception_details"
  checkTypeOptional (← args.get "max_cached_interpreters") .integer "max_cached_interpreters"

def applySetJsRuntimeOptions (args : JsValue) (ledger : Ledger) : Except String Ledger :=
  .ok (ledger.kvSet (.fixed .jsRuntimeOptions) singletonKvKey args)

def validateSetCaCertBundle (host : CcfHost) (args : JsValue) : Except String Unit := do
  checkType (← args.get "name") .string "name"
  checkX509CertBundle host (← args.get "cert_bundle") "cert_bundle"

def applySetCaCertBundle (args : JsValue) (ledger : Ledger) : Except String Ledger := do
  let name ← strToBuf (← args.get "name")
  return ledger.kvSet (.fixed .tlsCaCertBundles) name (← args.get "cert_bundle")

/-- The actions whose only argument is a string that names the row concerned. -/
def validateStringArgument (key : String) (args : JsValue) : Except String Unit := do
  checkType (← args.get key) .string key

def applyRemoveRow (table : GovTable) (key : String) (args : JsValue) (ledger : Ledger) :
    Except String Ledger := do
  let row ← strToBuf (← args.get key)
  return ledger.kvDelete (.fixed table) row

def validateSetJwtIssuer (host : CcfHost) (args : JsValue) : Except String Unit := do
  checkType (← args.get "issuer") .string "issuer"
  checkTypeOptional (← args.get "auto_refresh") .boolean "auto_refresh"
  checkTypeOptional (← args.get "ca_cert_bundle_name") .string "ca_cert_bundle_name"
  checkTypeOptional (← args.get "jwks") .object "jwks"
  if (← args.get "jwks").truthy then checkJwks host (← args.get "jwks") "jwks"
  if (← args.get "auto_refresh").truthy then
    if !(← args.get "ca_cert_bundle_name").truthy then
      throw "ca_cert_bundle_name is missing but required if auto_refresh is true"
    let url := parseUrl (← strToBuf (← args.get "issuer"))
    if url.scheme ≠ some "https" then
      throw "issuer must be a URL starting with https:// if auto_refresh is true"
    if (url.query.getD "" ≠ "") || (url.fragment.getD "" ≠ "") then
      throw "issuer must be a URL without query/fragment if auto_refresh is true"

def storeJwtKeys (host : CcfHost) (issuer : String) (metadata jwks : JsValue) (ledger : Ledger) :
    Except String Ledger := do
  let rows ← host.setJwtPublicSigningKeys issuer metadata jwks
    (ledger.gov (.fixed .jwtPublicSigningKeys))
  return ledger.setTable (.fixed .jwtPublicSigningKeys) rows

def checkCaCertBundle (args : JsValue) (ledger : Ledger) : Except String Unit := do
  if (← args.get "auto_refresh").truthy then
    let bundleName ← strToBuf (← args.get "ca_cert_bundle_name")
    if !ledger.kvHas (.fixed .tlsCaCertBundles) bundleName then
      throw s!"No CA cert bundle found with name '{bundleName}'"

def storeGivenJwtKeys (host : CcfHost) (issuer : String) (metadata jwks : JsValue)
    (ledger : Ledger) : Except String Ledger :=
  if jwks.truthy then storeJwtKeys host issuer metadata jwks ledger else .ok ledger

def applySetJwtIssuer (host : CcfHost) (args : JsValue) (ledger : Ledger) :
    Except String Ledger := do
  checkCaCertBundle args ledger
  let issuer ← strToBuf (← args.get "issuer")
  let jwks ← args.get "jwks"
  let metadata := args.deleteField "jwks"
  let stored ← storeGivenJwtKeys host issuer metadata jwks ledger
  return stored.kvSet (.fixed .jwtIssuers) issuer metadata

def validateSetJwtPublicSigningKeys (host : CcfHost) (args : JsValue) : Except String Unit := do
  checkType (← args.get "issuer") .string "issuer"
  checkJwks host (← args.get "jwks") "jwks"

def applySetJwtPublicSigningKeys (host : CcfHost) (args : JsValue) (ledger : Ledger) :
    Except String Ledger := do
  let issuer ← strToBuf (← args.get "issuer")
  let some metadata := ledger.kvGet (.fixed .jwtIssuers) issuer
    | throw s!"issuer {issuer} not found"
  storeJwtKeys host issuer metadata (← args.get "jwks") ledger

def applyRemoveJwtIssuer (host : CcfHost) (args : JsValue) (ledger : Ledger) :
    Except String Ledger := do
  let issuer ← strToBuf (← args.get "issuer")
  if !ledger.kvHas (.fixed .jwtIssuers) issuer then return ledger
  let removed := ledger.kvDelete (.fixed .jwtIssuers) issuer
  return removed.setTable (.fixed .jwtPublicSigningKeys)
    (host.removeJwtPublicSigningKeys issuer (removed.gov (.fixed .jwtPublicSigningKeys)))

def applyAllowToJoin (table : GovTable) (key : String) (args : JsValue) (proposalId : String)
    (ledger : Ledger) : Except String Ledger := do
  let row ← strToBuf (← args.get key)
  let written := ledger.kvSet (.fixed table) row (.string "AllowedToJoin")
  return { written with proposals := invalidateOtherOpenProposals proposalId written.proposals }

def applyAddNodeCode := applyAllowToJoin .nodesCodeIds "code_id"

def applyAddSnpMeasurement := applyAllowToJoin .nodesSnpMeasurements "measurement"

def validateAddSnpUvmEndorsement (args : JsValue) : Except String Unit := do
  checkType (← args.get "did") .string "did"
  checkType (← args.get "feed") .string "feed"
  checkType (← args.get "svn") .string "svn"

def endorsementsOf (ledger : Ledger) (did : String) : JsValue :=
  (ledger.kvGet (.fixed .nodesSnpUvmEndorsements) did).getD (.object [])

def applyAddSnpUvmEndorsement (args : JsValue) (proposalId : String) (ledger : Ledger) :
    Except String Ledger := do
  let did ← strToBuf (← args.get "did")
  let feed ← strToBuf (← args.get "feed")
  let endorsements := (endorsementsOf ledger did).setField feed
    (jsonObject [("svn", ← args.get "svn")])
  let written := ledger.kvSet (.fixed .nodesSnpUvmEndorsements) did endorsements
  return { written with proposals := invalidateOtherOpenProposals proposalId written.proposals }

def applyAddExecutorNodeCode (args : JsValue) (ledger : Ledger) : Except String Ledger := do
  let codeId ← strToBuf (← args.get "executor_code_id")
  return ledger.kvSet (.fixed .nodesExecutorCodeIds) codeId (.string "AllowedToExecute")

def validateAddSnpHostData (host : CcfHost) (args : JsValue) : Except String Unit := do
  checkType (← args.get "security_policy") .string "security_policy"
  checkType (← args.get "host_data") .string "host_data"
  let policy ← strToBuf (← args.get "security_policy")
  if policy ≠ "" then
    let digest := host.bufToStr (host.sha256Digest policy)
    let hostData := host.bufToStr
      (← hexStrToBuf (utf16Units (← strToBuf (← args.get "host_data"))))
    if digest ≠ hostData then
      throw s!"The hash of raw policy {digest} does not match digest {hostData}"

def applyAddSnpHostData (args : JsValue) (proposalId : String) (ledger : Ledger) :
    Except String Ledger := do
  let hostData ← strToBuf (← args.get "host_data")
  let written := ledger.kvSet (.fixed .nodesSnpHostData) hostData (← args.get "security_policy")
  return { written with proposals := invalidateOtherOpenProposals proposalId written.proposals }

def validateRemoveSnpUvmEndorsement (args : JsValue) : Except String Unit := do
  checkType (← args.get "did") .string "did"
  checkType (← args.get "feed") .string "feed"

def applyRemoveSnpUvmEndorsement (args : JsValue) (ledger : Ledger) : Except String Ledger := do
  let did ← strToBuf (← args.get "did")
  let feed ← strToBuf (← args.get "feed")
  let endorsements := (endorsementsOf ledger did).deleteField feed
  if endorsements.keys.length = 0 then
    return ledger.kvDelete (.fixed .nodesSnpUvmEndorsements) did
  else return ledger.kvSet (.fixed .nodesSnpUvmEndorsements) did endorsements

def validateSetSnpMinimumTcbVersionHex (args : JsValue) : Except String Unit := do
  checkType (← args.get "cpuid") .string "cpuid"
  checkType (← args.get "tcb_version") .string "tcb_version"

def applySetSnpMinimumTcbVersionHex (host : CcfHost) (args : JsValue) (proposalId : String)
    (ledger : Ledger) : Except String Ledger := do
  let cpuid ← strToBuf (← args.get "cpuid")
  let tcbVersion ← strToBuf (← args.get "tcb_version")
  let policy ← host.tcbHexToPolicy cpuid tcbVersion
  let written := ledger.kvSet (.fixed .nodesSnpTcbVersions) cpuid policy
  return { written with proposals := invalidateOtherOpenProposals proposalId written.proposals }

def applyRemoveSnpMinimumTcbVersion (args : JsValue) (ledger : Ledger) :
    Except String Ledger := do
  let cpuid ← strToBuf (← args.get "cpuid")
  if ledger.kvHas (.fixed .nodesSnpTcbVersions) cpuid then
    return ledger.kvDelete (.fixed .nodesSnpTcbVersions) cpuid
  else throw s!"CPUID {cpuid} not found"

def validateNodeId (args : JsValue) : Except String Unit := do
  checkEntityId (← args.get "node_id") "node_id"

def applySetNodeData (args : JsValue) (ledger : Ledger) : Except String Ledger := do
  let nodeId ← strToBuf (← args.get "node_id")
  let some info := ledger.kvGet (.fixed .nodesInfo) nodeId
    -- The source prints the buffer it looked up, not the id.
    | throw "Node [object ArrayBuffer] does not exist"
  let updated := info.setField "node_data" (← args.get "node_data")
  return ledger.kvSet (.fixed .nodesInfo) nodeId updated

def checkValidity (args : JsValue) : Except String Unit := do
  checkType (← args.get "valid_from") .string "valid_from"
  let days ← args.get "validity_period_days"
  if days.typeOf ≠ .undefined then
    checkType days .integer "validity_period_days"
    checkBounds days (some 1) none "validity_period_days"

def validateNodeValidity (args : JsValue) : Except String Unit := do
  checkEntityId (← args.get "node_id") "node_id"
  checkValidity args

def periodRefusal (host : CcfHost) (days maximum : JsValue) : String :=
  let requested := host.text days
  let allowed := host.text maximum
  s!"Validity period {requested} (days) is not allowed: service max allowed is {allowed} (days)"

/-- The refusal of `transition_node_to_trusted`, which words it differently. -/
def trustedPeriodRefusal (host : CcfHost) (days maximum : JsValue) : String :=
  let requested := host.text days
  let allowed := host.text maximum
  s!"Validity period {requested} is not allowed: max allowed is {allowed}"

/-- The validity period that is used: the requested one, refused above the
maximum of the service, and that maximum when none is requested. The maximum is
365 days unless the service configuration names one. -/
def validityPeriod (refusal : JsValue → JsValue → String) (serviceConfig : JsValue)
    (maximumKey : String) (days : JsValue) : Except String JsValue := do
  let maximum := match ← serviceConfig.get maximumKey with
    | .undefined => .number 365
    | .null => .number 365
    | configured => configured
  if days.typeOf != .undefined && lessThan maximum days then
    throw (refusal days maximum)
  return match days with
    | .undefined => maximum
    | .null => maximum
    | requested => requested

def setNodeCertificateValidityPeriod (host : CcfHost) (nodeId : String)
    (nodeInfo validFrom days : JsValue) (ledger : Ledger) : Except String Ledger := do
  let request ← nodeInfo.get "certificate_signing_request"
  if request.typeOf = .undefined then throw s!"Node {nodeId} has no certificate signing request"
  let some config := ledger.kvGet (.fixed .serviceConfig) singletonKvKey
    | throw "Service configuration could not be found"
  let period ← validityPeriod (periodRefusal host) config
    "maximum_node_certificate_validity_days" days
  let cert ← host.generateEndorsedCertificate request validFrom period
  return ledger.kvSet (.fixed .nodesEndorsedCertificates) nodeId (.string cert)

/-- Endorses the certificate of a node that has just been trusted, if the node
sent a signing request. -/
def endorseTrustedNode (host : CcfHost) (args serviceConfig nodeInfo : JsValue) (nodeId : String)
    (ledger : Ledger) : Except String Ledger := do
  let request ← nodeInfo.get "certificate_signing_request"
  if request.typeOf = .undefined then return ledger
  let period ← validityPeriod (trustedPeriodRefusal host) serviceConfig
    "maximum_node_certificate_validity_days" (← args.get "validity_period_days")
  let cert ← host.generateEndorsedCertificate request (← args.get "valid_from") period
  return ledger.kvSet (.fixed .nodesEndorsedCertificates) nodeId (.string cert)

def applyTransitionNodeToTrusted (host : CcfHost) (args : JsValue) (ledger : Ledger) :
    Except String Ledger := do
  let some config := ledger.kvGet (.fixed .serviceConfig) singletonKvKey
    | throw "Service configuration could not be found"
  let nodeId ← strToBuf (← args.get "node_id")
  let some nodeInfo := ledger.kvGet (.fixed .nodesInfo) nodeId
    | throw s!"No such node: {nodeId}"
  if !(← nodeInfo.get "status").isString "Pending" then return ledger
  let trusted := (nodeInfo.setField "status" (.string "Trusted")).setField
    "ledger_secret_seqno" host.getLatestLedgerSecretSeqno
  endorseTrustedNode host args config trusted nodeId
    (ledger.kvSet (.fixed .nodesInfo) nodeId trusted)

def applyRemoveNode (args : JsValue) (ledger : Ledger) : Except String Ledger := do
  let some _ := ledger.kvGet (.fixed .serviceConfig) singletonKvKey
    | throw "Service configuration could not be found"
  let nodeId ← strToBuf (← args.get "node_id")
  let some nodeInfo := ledger.kvGet (.fixed .nodesInfo) nodeId | return ledger
  if (← nodeInfo.get "status").isString "Pending" then
    return ledger.kvDelete (.fixed .nodesInfo) nodeId
  else
    return ledger.kvSet (.fixed .nodesInfo) nodeId (nodeInfo.setField "status" (.string "Retired"))

def applySetNodeCertificateValidity (host : CcfHost) (args : JsValue) (ledger : Ledger) :
    Except String Ledger := do
  let nodeId ← strToBuf (← args.get "node_id")
  let some nodeInfo := ledger.kvGet (.fixed .nodesInfo) nodeId
    | throw s!"No such node: {nodeId}"
  if !(← nodeInfo.get "status").isString "Trusted" then throw s!"Node {nodeId} is not trusted"
  setNodeCertificateValidityPeriod host nodeId nodeInfo (← args.get "valid_from")
    (← args.get "validity_period_days") ledger

def setTrustedNodeValidity (host : CcfHost) (args : JsValue) (ledger : Ledger)
    (row : Sigma fun _ : String => JsValue) : Except String Ledger := do
  if (← row.2.get "status").isString "Trusted" then
    setNodeCertificateValidityPeriod host row.1 row.2 (← args.get "valid_from")
      (← args.get "validity_period_days") ledger
  else return ledger

def applySetAllNodesCertificateValidity (host : CcfHost) (args : JsValue) (ledger : Ledger) :
    Except String Ledger :=
  (ledger.gov (.fixed .nodesInfo)).entries.foldlM (setTrustedNodeValidity host args) ledger

def applySetServiceCertificateValidity (host : CcfHost) (args : JsValue) (ledger : Ledger) :
    Except String Ledger := do
  let some config := ledger.kvGet (.fixed .serviceConfig) singletonKvKey
    | throw "Service configuration could not be found"
  let period ← validityPeriod (periodRefusal host) config
    "maximum_service_certificate_validity_days" (← args.get "validity_period_days")
  let cert ← host.generateNetworkCertificate (← args.get "valid_from") period
  let some service := ledger.kvGet (.fixed .serviceInfo) singletonKvKey
    | throw "Service info could not be found"
  return ledger.kvSet (.fixed .serviceInfo) singletonKvKey (service.setField "cert" (.string cert))

end CleanRoom.Governance
