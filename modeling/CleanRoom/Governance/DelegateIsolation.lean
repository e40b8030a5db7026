import CleanRoom.Governance.AttestedKey

/-!
# Whose policy a delegate policy is

The policy of a delegate is kept in a table whose name is put together from the
contract, the type and the id of the delegate, which are arbitrary text, so two of
these names can be one. This module compares the tables with a registry that keeps
the policy of each triple by itself, and says for which triples the two agree.
-/

namespace CleanRoom.Governance

open JavaScript Throwing

structure DelegateTriple where
  contractId : String
  delegateType : String
  delegateId : String
deriving DecidableEq

namespace DelegateTriple

def key (triple : DelegateTriple) : Except String String :=
  toDelegatePolicyKey triple.contractId triple.delegateType triple.delegateId

/-- The policy that is read for the triple. No policy is read for a triple with
an empty part. -/
def policy (triple : DelegateTriple) (store : AppStore) : Table JsValue :=
  match triple.key with
  | .ok key => store.policySource.delegate key
  | .error _ => ∅

def setPolicy (triple : DelegateTriple) (host : CcfHost) (args : DelegatePolicyData)
    (store : AppStore) : Except String AppStore :=
  setDelegateCleanRoomPolicyMap host triple.contractId triple.delegateType triple.delegateId args
    store

end DelegateTriple

def addPolicyClaim (claims : JsValue) (rows : Table JsValue) (key : String) :
    Except String (Table JsValue) := do
  let added := claimItems (claims.field key)
  match rows.lookup key with
  | none => return rows.insert key (.array (addMissing [] added))
  | some stored =>
      let items ← storedItems stored
      let updated := if startsWithBoolean added then added else addMissing items added
      return rows.insert key (.array updated)

def removePolicyClaim (host : CcfHost) (claims : JsValue) (rows : Table JsValue) (key : String) :
    Except String (Table JsValue) := do
  let removed := claimItems (claims.field key)
  match rows.lookup key with
  | none =>
      .error <| s!"Cannot remove values of {key} because the key does not exist in the " ++
        "clean room policy claims"
  | some stored =>
      if startsWithBoolean removed then return rows.erase key
      else
        let items ← removed.foldlM (removeItem host) (← storedItems stored)
        if items.length = 0 then return rows.erase key
        else return rows.insert key (.array items)

def updatePolicy (host : CcfHost) (args : DelegatePolicyData) (rows : Table JsValue) :
    Except String (Table JsValue) := do
  validateDelegatePolicy host args
  if args.delegateType.isString "add" then
    (← objectKeys args.claims).foldlM (addPolicyClaim args.claims) rows
  else (← objectKeys args.claims).foldlM (removePolicyClaim host args.claims) rows

theorem add_delegate_claim_eq (store : AppStore) (map : String) (claims : JsValue)
    (rows : Table JsValue) (key : String) :
    addDelegateClaim map claims (store.setMap map rows) key =
      (addPolicyClaim claims rows key).map (store.setMap map) := by
  simp only [addDelegateClaim, addPolicyClaim, AppStore.get, AppStore.set, AppStore.set_map_same,
    AppStore.set_map_twice]
  cases rows.lookup key with
  | none => rfl
  | some stored =>
      cases stored <;> rfl

theorem remove_delegate_claim_eq (host : CcfHost) (store : AppStore) (map : String)
    (claims : JsValue) (rows : Table JsValue) (key : String) :
    removeDelegateClaim host map claims (store.setMap map rows) key =
      (removePolicyClaim host claims rows key).map (store.setMap map) := by
  simp only [removeDelegateClaim, removePolicyClaim, AppStore.get, AppStore.set, AppStore.delete,
    AppStore.set_map_same, AppStore.set_map_twice]
  cases rows.lookup key with
  | none => rfl
  | some stored =>
      simp only
      split
      · rfl
      · cases storedItems stored with
        | error message => rfl
        | ok items =>
            simp only [bind, Except.bind]
            cases (claimItems (claims.field key)).foldlM (removeItem host) items with
            | error message => rfl
            | ok left =>
                simp only
                split <;> rfl

private theorem list_name_literal : "public:policies.cleanroom-delegates-list-" =
    "public:policies.cleanroom-delegates-" ++ "list-" := by
  decide +kernel

variable {registry : DelegateTriple → Table JsValue} {host : CcfHost} {args : DelegatePolicyData}
  {contractId : String} {source : PolicySource} {delegated : Option (List String)}
  {read : DelegateTriple} {attestation : JsValue} {body : JsValue}

theorem list_name_eq :
    delegateListName contractId = getDelegateCleanRoomPolicyMapName ("list-" ++ contractId) := by
  unfold delegateListName getDelegateCleanRoomPolicyMapName
  rw [list_name_literal, String.append_assoc]

theorem policy_map_name_injective (left right : String)
    (same : getDelegateCleanRoomPolicyMapName left = getDelegateCleanRoomPolicyMapName right) :
    left = right :=
  (String.append_right_inj _).mp same

theorem DelegateTriple.key_ok (triple : DelegateTriple) (key : String)
    (named : triple.key = .ok key) :
    key = triple.contractId ++ "_" ++ triple.delegateType ++ "_" ++ triple.delegateId := by
  unfold DelegateTriple.key toDelegatePolicyKey at named
  split_ifs at named
  cases named
  rfl

theorem own_list_differs (triple : DelegateTriple) (key : String) (named : triple.key = .ok key) :
    getDelegateCleanRoomPolicyMapName key ≠ delegateListName triple.contractId := by
  intro same
  rw [list_name_eq] at same
  have keys := policy_map_name_injective _ _ same
  rw [triple.key_ok key named] at keys
  have counts := congrArg (fun text : String => text.toList.count '_') keys
  simp only [String.toList_append, List.count_append] at counts
  have underscore : "_".toList.count '_' = 1 := by decide
  have list : "list-".toList.count '_' = 0 := by decide
  omega

def DelegateTriple.listed (triple : DelegateTriple) (key : String) (store : AppStore) : AppStore :=
  store.set (delegateListName triple.contractId) key
    (jsonObject [("delegateType", .string triple.delegateType),
      ("delegateId", .string triple.delegateId)])

theorem fold_claims_eq (store : AppStore) (map : String)
    (step : Table JsValue → String → Except String (Table JsValue))
    (outer : AppStore → String → Except String AppStore)
    (commutes : ∀ rows key, outer (store.setMap map rows) key =
      (step rows key).map (store.setMap map)) (keys : List String) :
    keys.foldlM outer store = (keys.foldlM step (store.kv map)).map (store.setMap map) := by
  rw [← foldlM_map (store.setMap map) step outer commutes, AppStore.set_map_self]

theorem set_policy_eq (triple : DelegateTriple)
    (store : AppStore) (key : String) (named : triple.key = .ok key) :
    triple.setPolicy host args store =
      (updatePolicy host args (triple.policy store)).map
        ((triple.listed key store).setMap (getDelegateCleanRoomPolicyMapName key)) := by
  have own : triple.policy store =
      (triple.listed key store).kv (getDelegateCleanRoomPolicyMapName key) := by
    rw [DelegateTriple.policy, named]
    exact (AppStore.set_map_other _ _ _ _ (own_list_differs triple key named)).symm
  have named' : toDelegatePolicyKey triple.contractId triple.delegateType triple.delegateId =
      .ok key := named
  unfold DelegateTriple.setPolicy setDelegateCleanRoomPolicyMap updatePolicy
  rw [named', own]
  show (validateDelegatePolicy host args >>= fun _ => _) = _
  cases validateDelegatePolicy host args with
  | error message => rfl
  | ok valid =>
      simp only [bind, Except.bind]
      split
      · cases objectKeys args.claims with
        | error message => rfl
        | ok keys => exact fold_claims_eq _ _ _ _ (add_delegate_claim_eq _ _ _) keys
      · cases objectKeys args.claims with
        | error message => rfl
        | ok keys => exact fold_claims_eq _ _ _ _ (remove_delegate_claim_eq _ _ _ _) keys

theorem set_policy_ok (triple : DelegateTriple)
    (before after : AppStore) (returned : triple.setPolicy host args before = .ok after) :
    ∃ key rows, triple.key = .ok key ∧ updatePolicy host args (triple.policy before) = .ok rows ∧
      after = (triple.listed key before).setMap (getDelegateCleanRoomPolicyMapName key) rows := by
  cases named : triple.key with
  | error message =>
      have refused : toDelegatePolicyKey triple.contractId triple.delegateType
          triple.delegateId = .error message := named
      unfold DelegateTriple.setPolicy setDelegateCleanRoomPolicyMap at returned
      rw [refused] at returned
      cases returned
  | ok key =>
      rw [set_policy_eq triple before key named] at returned
      obtain ⟨rows, updated, same⟩ := of_map returned
      exact ⟨key, rows, rfl, updated, same.symm⟩

theorem set_policy_frame (triple : DelegateTriple) (before after : AppStore) (key map : String)
    (named : triple.key = .ok key) (returned : triple.setPolicy host args before = .ok after)
    (notPolicy : map ≠ getDelegateCleanRoomPolicyMapName key)
    (notList : map ≠ delegateListName triple.contractId) : after.kv map = before.kv map := by
  obtain ⟨key', rows, named', _, rfl⟩ := set_policy_ok triple before after returned
  cases named.symm.trans named'
  rw [AppStore.set_map_other _ _ _ _ notPolicy]
  exact AppStore.set_map_other _ _ _ _ notList

theorem set_policy_own (triple : DelegateTriple) (host : CcfHost) (args : DelegatePolicyData)
    (before after : AppStore) (returned : triple.setPolicy host args before = .ok after) :
    updatePolicy host args (triple.policy before) = .ok (triple.policy after) := by
  obtain ⟨key, rows, named, updated, rfl⟩ := set_policy_ok triple before after returned
  rw [updated, DelegateTriple.policy, named]
  exact congrArg _ (AppStore.set_map_same _ _ _).symm

theorem set_policy_ledger (triple : DelegateTriple)
    (before after : AppStore) (returned : triple.setPolicy host args before = .ok after) :
    after.ledger = before.ledger := by
  obtain ⟨_, _, _, _, rfl⟩ := set_policy_ok triple before after returned
  rfl

/-- The table of the policy that is read is neither of the two that a request
for the other triple writes. -/
def Separate (written read : DelegateTriple) : Prop :=
  ∀ key other, written.key = .ok key → read.key = .ok other →
    other ≠ key ∧ other ≠ "list-" ++ written.contractId

/-- The list of a contract is not the policy that a request for the triple writes. -/
def ListSeparate (written : DelegateTriple) (contractId : String) : Prop :=
  ∀ key, written.key = .ok key → key ≠ "list-" ++ contractId

theorem policy_unchanged (written read : DelegateTriple) (separate : Separate written read)
    (host : CcfHost) (args : DelegatePolicyData) (before after : AppStore)
    (returned : written.setPolicy host args before = .ok after) :
    read.policy after = read.policy before := by
  obtain ⟨key, _, named, _, _⟩ := set_policy_ok written before after returned
  cases readName : read.key with
  | error message => simp only [DelegateTriple.policy, readName]
  | ok other =>
      obtain ⟨notKey, notList⟩ := separate key other named readName
      simp only [DelegateTriple.policy, readName, AppStore.policySource]
      apply set_policy_frame written before after key _ named returned
      · intro same
        exact notKey (policy_map_name_injective _ _ same)
      · intro same
        rw [list_name_eq] at same
        exact notList (policy_map_name_injective _ _ same)

theorem list_unchanged (written : DelegateTriple) (contractId : String)
    (different : contractId ≠ written.contractId) (separate : ListSeparate written contractId)
    (host : CcfHost) (args : DelegatePolicyData) (before after : AppStore)
    (returned : written.setPolicy host args before = .ok after) :
    after.kv (delegateListName contractId) = before.kv (delegateListName contractId) := by
  obtain ⟨key, _, named, _, _⟩ := set_policy_ok written before after returned
  apply set_policy_frame written before after key _ named returned
  · intro same
    rw [list_name_eq] at same
    exact separate key named (policy_map_name_injective _ _ same).symm
  · intro same
    exact different ((String.append_right_inj _).mp same)

def oneClaim : DelegatePolicyData where
  delegateType := .string "add"
  claims := .object [("x-ms-sevsnpvm-hostdata", .array [.string "02"])]
  policyType := .undefined

def AppStore.empty : AppStore where
  ledger := sampleStore.ledger
  kv := fun _ => ∅

theorem insert_ne_empty (rows : Table JsValue) (key : String) (value : JsValue) :
    rows.insert key value ≠ ∅ := by
  intro same
  have found := AList.lookup_insert (a := key) (b := value) rows
  rw [same, AList.lookup_empty] at found
  cases found

theorem one_claim_fills (written : DelegateTriple) (key : String) (named : written.key = .ok key) :
    ∃ after, written.setPolicy idleHost oneClaim .empty = .ok after ∧
      after.kv (getDelegateCleanRoomPolicyMapName key) ≠ ∅ ∧
      after.kv (delegateListName written.contractId) ≠ ∅ := by
  have start : written.policy .empty = ∅ := by
    rw [DelegateTriple.policy, named]
    rfl
  have updated : updatePolicy idleHost oneClaim ∅ =
      .ok (AList.insert "x-ms-sevsnpvm-hostdata" (.array [.string "02"]) ∅) := rfl
  refine ⟨(written.listed key .empty).setMap (getDelegateCleanRoomPolicyMapName key)
    (AList.insert "x-ms-sevsnpvm-hostdata" (.array [.string "02"]) ∅), ?_, ?_, ?_⟩
  · rw [set_policy_eq written .empty key named, start, updated]
    rfl
  · rw [AppStore.set_map_same]
    exact insert_ne_empty _ _ _
  · rw [AppStore.set_map_other _ _ _ _ (own_list_differs written key named).symm,
      DelegateTriple.listed, AppStore.set, AppStore.set_map_same]
    exact insert_ne_empty _ _ _

theorem separate_of_unchanged (written read : DelegateTriple)
    (unchanged : ∀ host args before after, written.setPolicy host args before = .ok after →
      read.policy after = read.policy before) : Separate written read := by
  intro key other named readName
  obtain ⟨after, returned, policyFilled, listFilled⟩ := one_claim_fills written key named
  have same := unchanged idleHost oneClaim .empty after returned
  simp only [DelegateTriple.policy, readName, AppStore.policySource] at same
  constructor
  · rintro rfl
    exact policyFilled same
  · rintro rfl
    rw [← list_name_eq] at same
    exact listFilled same

theorem list_separate_of_unchanged (written : DelegateTriple) (contractId : String)
    (unchanged : ∀ host args before after, written.setPolicy host args before = .ok after →
      after.kv (delegateListName contractId) = before.kv (delegateListName contractId)) :
    ListSeparate written contractId := by
  rintro key named rfl
  obtain ⟨after, returned, policyFilled, _⟩ := one_claim_fills written _ named
  have same := unchanged idleHost oneClaim .empty after returned
  rw [list_name_eq] at same
  exact policyFilled same

structure DelegateCall where
  triple : DelegateTriple
  args : DelegatePolicyData

def delegateStep (host : CcfHost) (store : AppStore) (call : DelegateCall) : AppStore :=
  match call.triple.setPolicy host call.args store with
  | .ok after => after
  | .error _ => store

def delegateRun (host : CcfHost) (store : AppStore) (calls : List DelegateCall) : AppStore :=
  calls.foldl (delegateStep host) store

def registryStep (host : CcfHost) (registry : DelegateTriple → Table JsValue)
    (call : DelegateCall) : DelegateTriple → Table JsValue :=
  match call.triple.key, updatePolicy host call.args (registry call.triple) with
  | .ok _, .ok rows => Function.update registry call.triple rows
  | _, _ => registry

def registryRun (host : CcfHost) (registry : DelegateTriple → Table JsValue)
    (calls : List DelegateCall) : DelegateTriple → Table JsValue :=
  calls.foldl (registryStep host) registry

theorem registry_step_other (call : DelegateCall) (other : call.triple ≠ read) :
    registryStep host registry call read = registry read := by
  unfold registryStep
  cases call.triple.key with
  | error message => rfl
  | ok key =>
      cases updatePolicy host call.args (registry call.triple) with
      | error message => rfl
      | ok rows => exact Function.update_of_ne (Ne.symm other) _ _

theorem registry_step_own (store : AppStore) (call : DelegateCall)
    (agree : registry call.triple = call.triple.policy store) :
    registryStep host registry call call.triple =
      call.triple.policy (delegateStep host store call) := by
  unfold registryStep delegateStep
  rw [agree]
  cases named : call.triple.key with
  | error message =>
      cases returned : call.triple.setPolicy host call.args store with
      | error failure => exact agree
      | ok after =>
          obtain ⟨_, _, named', _, _⟩ := set_policy_ok _ _ _ returned
          cases named.symm.trans named'
  | ok key =>
      cases returned : call.triple.setPolicy host call.args store with
      | ok after =>
          rw [set_policy_own _ _ _ _ _ returned]
          exact Function.update_self _ _ _
      | error failure =>
          rw [set_policy_eq _ store key named] at returned
          cases updated : updatePolicy host call.args (call.triple.policy store) with
          | error message => exact agree
          | ok rows =>
              rw [updated] at returned
              cases returned

/-- As long as no request writes a table of another triple, the policy read for
a triple is the one that its own requests have made. -/
theorem delegate_run_refines (calls : List DelegateCall)
    (separate : ∀ call ∈ calls, call.triple ≠ read → Separate call.triple read) (store : AppStore)
    (agree : registry read = read.policy store) :
    registryRun host registry calls read = read.policy (delegateRun host store calls) := by
  induction calls generalizing store registry with
  | nil => exact agree
  | cons call calls ih =>
      apply ih (fun later member => separate later (List.mem_cons_of_mem _ member))
      by_cases own : call.triple = read
      · subst own
        exact registry_step_own store call agree
      · rw [registry_step_other call own, agree]
        unfold delegateStep
        cases returned : call.triple.setPolicy host call.args store with
        | error failure => rfl
        | ok after =>
            exact (policy_unchanged _ _ (separate call List.mem_cons_self own) host call.args
              store after returned).symm

theorem delegate_run_ledger (store : AppStore) (calls : List DelegateCall) :
    (delegateRun host store calls).ledger = store.ledger := by
  induction calls generalizing store with
  | nil => rfl
  | cons call calls ih =>
      rw [delegateRun, List.foldl_cons]
      refine (ih (delegateStep host store call)).trans ?_
      unfold delegateStep
      cases returned : call.triple.setPolicy host call.args store with
      | error failure => rfl
      | ok after => exact set_policy_ledger _ _ _ returned

def caciReport (host : CleanRoomHost) (attestation : JsValue) : Except String SnpAttestation := do
  let evidence ← decodedBytes host (← attestation.get "evidence")
  let endorsements ← decodedBytes host (← attestation.get "endorsements")
  let uvmEndorsements ← match attestation.field "uvm_endorsements" with
    | .undefined => .ok none
    | present => (decodedBytes host present).map some
  host.verifySnpEvidence evidence endorsements uvmEndorsements (attestation.field "endorsed_tcb")

def attestedClaims (host : CleanRoomHost) (platform : TeePlatform) (attestation : JsValue) :
    Except String (List (String × JsValue)) :=
  match platform with
  | .snpCaci => (caciReport host attestation).map SnpAttestation.getClaims
  | .snpCvm => cvmClaims attestation

theorem verify_caci_attestation_eq (host : CleanRoomHost) :
    verifyCaciAttestation host source contractId attestation delegated = (do
      let report ← caciReport host attestation
      verifyPolicyClaims source contractId report.getClaims delegated
      return Hex.lowerHexString report.reportData) := by
  unfold verifyCaciAttestation caciReport
  simp only [bind_assoc]
  cases attestation.field "uvm_endorsements" <;> simp only [bind_assoc]

theorem verify_attestation_claims (host : CleanRoomHost)
    (platform : TeePlatform) (reportData : String)
    (verified : verifyAttestation host source platform contractId attestation delegated =
      .ok reportData) :
    ∃ claims, attestedClaims host platform attestation = .ok claims ∧
      verifyPolicyClaims source contractId claims delegated = .ok () := by
  cases platform with
  | snpCaci =>
      rw [verifyAttestation, verify_caci_attestation_eq] at verified
      obtain ⟨report, reported, checked⟩ := of_bind verified
      obtain ⟨_, matched, _⟩ := of_bind checked
      exact ⟨report.getClaims, map_eq_ok.mpr ⟨report, reported, rfl⟩, matched⟩
  | snpCvm =>
      obtain ⟨result, _, checked⟩ := of_bind verified
      obtain ⟨_, checked⟩ := of_guard checked
      obtain ⟨claims, read, rest⟩ := of_bind checked
      obtain ⟨_, matched, _⟩ := of_bind rest
      exact ⟨claims, read, matched⟩

/-- A policy that is there and lists every attested value it has a property for. -/
def Satisfies (claims : List (String × JsValue)) (rows : Table JsValue) : Prop :=
  policyProps rows ≠ [] ∧ matchPolicyClaims (policyProps rows) claims = .ok true

theorem verify_policy_claims_ok (contractId key : String) (claims : List (String × JsValue))
    (verified : verifyPolicyClaims source contractId claims (some [key]) = .ok ()) :
    Satisfies claims (source.contract contractId) ∨ Satisfies claims (source.delegate key) := by
  unfold verifyPolicyClaims at verified
  obtain ⟨present, verified⟩ := of_guard verified
  obtain ⟨matched, compared, rest⟩ := of_bind verified
  cases matched with
  | true => exact .inl ⟨fun empty => present (by rw [empty]; rfl), compared⟩
  | false =>
      obtain ⟨delegated, found, answer⟩ := of_bind rest
      cases delegated with
      | false => cases answer
      | true =>
          obtain ⟨other, member, matched⟩ := anyM_true _ _ found
          cases List.mem_singleton.mp member
          unfold matchDelegatedPolicy at matched
          simp only at matched
          split at matched
          · cases matched
          · rename_i filled
            exact .inr ⟨fun empty => filled (by rw [empty]; rfl), matched⟩

/-- The endpoints that release something to an attestation. -/
inductive ReleaseEndpoint where
  | getSecret (secretId : String)
  | getToken (query : String)
  | signPayload
  | generateEndorsedCert

def Releases (host : CleanRoomHost) (endpoint : ReleaseEndpoint) (contractId : String)
    (body : JsValue) (store : AppStore) : Prop :=
  match endpoint with
  | .getSecret secretId => ∃ result, getSecret host contractId secretId body store = .ok result
  | .getToken query => ∃ result, getToken host contractId query body store = .ok result
  | .signPayload => ∃ result, signPayload host contractId body store = .ok result
  | .generateEndorsedCert => ∃ result, generateEndorsedCert host contractId body store = .ok result

/-- The triple whose policy the endpoint reads beside that of the contract. -/
def ReleaseEndpoint.triple (endpoint : ReleaseEndpoint) (contractId : String) : DelegateTriple :=
  match endpoint with
  | .getSecret secretId => ⟨contractId, "secrets", secretId⟩
  | .getToken query =>
      ⟨contractId, "oauth-federation-subjects", match queryValue query "sub" with
        | .string sub => sub
        | _ => ""⟩
  | .signPayload => ⟨contractId, "podpolicies", "admin"⟩
  | .generateEndorsedCert => ⟨contractId, "ca", "endorsed-cert"⟩

theorem required_param_ok (query name value : String)
    (read : requiredParam query name = .ok value) : queryValue query name = .string value := by
  unfold requiredParam at read
  split at read
  · rename_i text found
    split at read
    · cases read
    · cases read
      exact found
  · cases read

theorem releases_verified (host : CleanRoomHost) (endpoint : ReleaseEndpoint) (store : AppStore)
    (released : Releases host endpoint contractId body store) :
    ∃ key reportData, (endpoint.triple contractId).key = .ok key ∧
      verifyAttestationAndReportData host store.policySource contractId body
        (publicKeyOf host body "encrypt") (some [key]) = .ok reportData := by
  cases endpoint with
  | getSecret secretId | generateEndorsedCert =>
      obtain ⟨result, returned⟩ := released
      obtain ⟨_, _, first⟩ := of_bind returned
      obtain ⟨_, _, second⟩ := of_bind first
      obtain ⟨key, keyed, third⟩ := of_bind second
      obtain ⟨reportData, attested, _⟩ := of_bind third
      exact ⟨key, reportData, or_throw_ok _ _ keyed, attested⟩
  | getToken query =>
      obtain ⟨result, returned⟩ := released
      obtain ⟨_, _, first⟩ := of_bind returned
      obtain ⟨_, _, second⟩ := of_bind first
      obtain ⟨_, _, third⟩ := of_bind second
      obtain ⟨_, _, fourth⟩ := of_bind third
      obtain ⟨_, _, fifth⟩ := of_bind fourth
      obtain ⟨sub, subject, sixth⟩ := of_bind fifth
      obtain ⟨_, _, seventh⟩ := of_bind sixth
      obtain ⟨_, _, eighth⟩ := of_bind seventh
      obtain ⟨key, keyed, ninth⟩ := of_bind eighth
      obtain ⟨reportData, attested, _⟩ := of_bind ninth
      refine ⟨key, reportData, ?_, attested⟩
      simp only [ReleaseEndpoint.triple, required_param_ok _ _ _ subject]
      exact or_throw_ok _ _ keyed
  | signPayload =>
      obtain ⟨result, returned⟩ := released
      obtain ⟨_, _, first⟩ := of_bind returned
      obtain ⟨_, _, second⟩ := of_bind first
      obtain ⟨_, _, third⟩ := of_bind second
      simp only at third
      split at third
      · obtain ⟨_, _, fourth⟩ := of_bind third
        obtain ⟨key, keyed, fifth⟩ := of_bind fourth
        obtain ⟨reportData, attested, _⟩ := of_bind fifth
        exact ⟨key, reportData, or_throw_ok _ _ keyed, attested⟩
      · cases third

theorem released_satisfies (host : CleanRoomHost) (endpoint : ReleaseEndpoint) (store : AppStore)
    (released : Releases host endpoint contractId body store) :
    ∃ platform claims, getAttestationVerifier host (body.field "platform") = .ok platform ∧
      attestedClaims host platform (body.field "attestation") = .ok claims ∧
      (Satisfies claims (store.ledger.gov (.cleanRoomPolicy contractId)) ∨
        Satisfies claims ((endpoint.triple contractId).policy store)) := by
  obtain ⟨key, reportData, named, verified⟩ := releases_verified host endpoint store released
  obtain ⟨platform, _, chosen, attested, _, _⟩ :=
    verify_attestation_and_report_data_ok _ _ _ _ _ _ _ verified
  obtain ⟨claims, read, matched⟩ := verify_attestation_claims _ _ _ attested
  refine ⟨platform, claims, chosen, read, ?_⟩
  rw [DelegateTriple.policy, named]
  exact verify_policy_claims_ok _ _ _ matched

/-- A request for one triple leaves the policy of another and the delegates of
another contract alone exactly when the names of their tables differ. In every
run of such requests an endpoint accepts only attestations that satisfy the policy
of the contract or the policy that the requests for its own triple have made. -/
theorem delegate_policies_isolated (written : DelegateTriple) :
    (∀ read, read ≠ written →
      ((∀ host args before after, written.setPolicy host args before = .ok after →
        read.policy after = read.policy before) ↔ Separate written read)) ∧
    (∀ contractId, contractId ≠ written.contractId →
      ((∀ host args before after, written.setPolicy host args before = .ok after →
        after.kv (delegateListName contractId) = before.kv (delegateListName contractId)) ↔
        ListSeparate written contractId)) ∧
    ∀ host endpoint contractId body store calls,
      (∀ call ∈ calls, call.triple ≠ endpoint.triple contractId →
        Separate call.triple (endpoint.triple contractId)) →
      Releases host endpoint contractId body (delegateRun host.ccf store calls) →
      ∃ platform claims, getAttestationVerifier host (body.field "platform") = .ok platform ∧
        attestedClaims host platform (body.field "attestation") = .ok claims ∧
        (Satisfies claims (store.ledger.gov (.cleanRoomPolicy contractId)) ∨
          Satisfies claims (registryRun host.ccf (fun triple => triple.policy store) calls
            (endpoint.triple contractId))) := by
  refine ⟨?_, ?_, ?_⟩
  · intro read _
    exact ⟨separate_of_unchanged written read, policy_unchanged written read⟩
  · intro contractId different
    exact ⟨list_separate_of_unchanged written contractId,
      list_unchanged written contractId different⟩
  · intro host endpoint contractId body store calls separate released
    obtain ⟨platform, claims, chosen, read, satisfied⟩ := released_satisfies _ _ _ released
    refine ⟨platform, claims, chosen, read, ?_⟩
    rw [delegate_run_refines calls separate store rfl]
    rw [delegate_run_ledger] at satisfied
    exact satisfied

def sampleCvmHost : CleanRoomHost :=
  { sampleCleanRoomHost with
    verifyCvmSnpAttestation := fun attestation =>
      .ok ⟨true, [], .object [("user-data", attestation.field "userData")]⟩ }

def sampleUserData : String :=
  Hex.lowerHexString (Encodings.utf8GetBytes attestedKey ++ List.replicate 32 0)

def registersRequest (pcrs : List (String × JsValue)) : JsValue :=
  .object [
    ("platform", .string "snp-cvm"),
    ("attestation", .object [
      ("evidence", .object [("pcrs", .object pcrs)]),
      ("userData", .string sampleUserData)]),
    ("encrypt", .object [("publicKey", encoded (Encodings.utf8GetBytes attestedKey))])]

def cvmRequest (register : String) : JsValue := registersRequest [("0", .string register)]

def secretStore : AppStore where
  ledger :=
    { sampleStore.ledger with
      gov := fun table =>
        if table = .cleanRoomPolicy "c1" then AList.insert "pcr0" (.array [.string "01"]) ∅
        else ∅ }
  kv := fun map =>
    if map = "secrets-c1" then
      AList.insert "cleanroom_key" (.object [("value", .string "s")]) ∅
    else ∅

def strangeDelegate : DelegateTriple := ⟨"c1_secrets", "cleanroom", "key"⟩

def admitRegister (register : String) : DelegatePolicyData where
  delegateType := .string "add"
  claims := .object [("pcr0", .array [.string register])]
  policyType := .string "snp-cvm"

theorem sample_report_data_verified :
    verifyReportData sampleCvmHost .snpCvm sampleUserData attestedKey = .ok () :=
  verify_report_data_of_digest sampleCvmHost .snpCvm attestedKey (by decide +kernel)

theorem registers_request_key (pcrs : List (String × JsValue)) :
    publicKeyOf sampleCvmHost (registersRequest pcrs) "encrypt" = .ok attestedKey :=
  sample_decodes_key attestedKey attested_key_plain

theorem registers_request_released (pcrs claims : List (String × JsValue)) (store : AppStore)
    (item : JsValue) (stored : store.get "secrets-c1" "cleanroom_key" = some item)
    (valued : item.field "value" = .string "s")
    (read : cvmClaims ((registersRequest pcrs).field "attestation") = .ok claims)
    (matched : verifyPolicyClaims store.policySource "c1" claims
      (some ["c1_secrets_cleanroom_key"]) = .ok ()) :
    Releases sampleCvmHost (.getSecret "cleanroom_key") "c1" (registersRequest pcrs) store := by
  have attested : verifyAttestation sampleCvmHost store.policySource .snpCvm "c1"
      ((registersRequest pcrs).field "attestation") (some ["c1_secrets_cleanroom_key"]) =
      .ok sampleUserData :=
    bind_eq_ok.mpr ⟨_, rfl, bind_eq_ok.mpr ⟨claims, read, bind_eq_ok.mpr
      ⟨(), matched, rfl⟩⟩⟩
  have verified : verifyAttestationAndReportData sampleCvmHost store.policySource "c1"
      (registersRequest pcrs) (publicKeyOf sampleCvmHost (registersRequest pcrs) "encrypt")
      (some ["c1_secrets_cleanroom_key"]) = .ok sampleUserData := by
    have compared : (publicKeyOf sampleCvmHost (registersRequest pcrs) "encrypt" >>= fun key =>
        verifyReportData sampleCvmHost .snpCvm sampleUserData key) = .ok () :=
      bind_eq_ok.mpr ⟨attestedKey, registers_request_key pcrs, sample_report_data_verified⟩
    unfold verifyAttestationAndReportData
    refine bind_eq_ok.mpr ⟨.snpCvm, rfl, bind_eq_ok.mpr ⟨sampleUserData, ?_,
      bind_eq_ok.mpr ⟨(), ?_, rfl⟩⟩⟩
    · exact congrArg (orRefuse _) attested
    · exact congrArg (orRefuse _) compared
  refine ⟨attestedKey ++ "s", bind_eq_ok.mpr ⟨(), rfl, bind_eq_ok.mpr ⟨(), rfl,
    bind_eq_ok.mpr ⟨"c1_secrets_cleanroom_key", rfl, bind_eq_ok.mpr
      ⟨_, verified, ?_⟩⟩⟩⟩⟩
  rw [show secretsMapName "c1" = "secrets-c1" from rfl, stored]
  simp only [valued, registers_request_key]
  rfl

theorem cvm_request_released (register : String) (store : AppStore)
    (stored : store.get "secrets-c1" "cleanroom_key" = some (.object [("value", .string "s")]))
    (matched : verifyPolicyClaims store.policySource "c1" [("pcr0", .string register)]
      (some ["c1_secrets_cleanroom_key"]) = .ok ()) :
    Releases sampleCvmHost (.getSecret "cleanroom_key") "c1" (cvmRequest register) store :=
  registers_request_released [("0", .string register)] _ store _ stored rfl rfl matched

/-- The policy set for a delegate of one contract opens a secret of another. -/
theorem strange_delegate_reads_secret :
    (ReleaseEndpoint.getSecret "cleanroom_key").triple "c1" ≠ strangeDelegate ∧
      ¬ Releases sampleCvmHost (.getSecret "cleanroom_key") "c1" (cvmRequest "02") secretStore ∧
      Releases sampleCvmHost (.getSecret "cleanroom_key") "c1" (cvmRequest "02")
        (delegateRun sampleCvmHost.ccf secretStore [⟨strangeDelegate, admitRegister "02"⟩]) := by
  refine ⟨by decide, ?_, ?_⟩
  · intro released
    obtain ⟨platform, claims, chosen, read, satisfied⟩ := released_satisfies _ _ _ released
    cases chosen
    cases read
    rcases satisfied with ⟨_, matched⟩ | ⟨present, _⟩
    · exact absurd matched (by decide +kernel)
    · exact present rfl
  · apply cvm_request_released
    · rfl
    · decide +kernel

def distantDelegate : DelegateTriple := ⟨"c2", "secrets", "cleanroom_key"⟩

theorem distant_delegate_is_separate :
    Separate distantDelegate ((ReleaseEndpoint.getSecret "cleanroom_key").triple "c1") := by
  intro key other named readName
  cases named
  cases readName
  decide +kernel

theorem distant_delegate_leaves_secret :
    (∀ host args before after, distantDelegate.setPolicy host args before = .ok after →
      DelegateTriple.policy ⟨"c1", "secrets", "cleanroom_key"⟩ after =
        DelegateTriple.policy ⟨"c1", "secrets", "cleanroom_key"⟩ before) ∧
    ∃ platform claims,
      getAttestationVerifier sampleCvmHost ((cvmRequest "01").field "platform") = .ok platform ∧
      attestedClaims sampleCvmHost platform ((cvmRequest "01").field "attestation") = .ok claims ∧
      (Satisfies claims (secretStore.ledger.gov (.cleanRoomPolicy "c1")) ∨
        Satisfies claims (registryRun sampleCvmHost.ccf (fun triple => triple.policy secretStore)
          [⟨distantDelegate, admitRegister "02"⟩] ⟨"c1", "secrets", "cleanroom_key"⟩)) := by
  obtain ⟨policies, _, accepted⟩ := delegate_policies_isolated distantDelegate
  constructor
  · exact (policies ⟨"c1", "secrets", "cleanroom_key"⟩ (by decide)).mpr
      distant_delegate_is_separate
  · apply accepted sampleCvmHost (.getSecret "cleanroom_key") "c1" (cvmRequest "01") secretStore
      [⟨distantDelegate, admitRegister "02"⟩]
    · intro call member _
      cases List.mem_singleton.mp member
      exact distant_delegate_is_separate
    · apply cvm_request_released
      · rfl
      · decide +kernel

end CleanRoom.Governance
