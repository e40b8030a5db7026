import CleanRoom.Governance.Constitution

/-!
# What an action may change

`footprint` lists the areas that the `apply` function of an action writes to.
The lemmas below show for each function that it writes nowhere else, and
`apply_action_confined` says it of all of them.
-/

namespace CleanRoom.Governance

open JavaScript Throwing

def ActionName.footprint : ActionName → List Area
  | .setConstitution => [.fixed .constitution, .proposals]
  | .setMember => [.members, .fixed .membersCerts, .fixed .membersEncryptionPublicKeys,
      .fixed .membersAcks]
  | .removeMember => [.members, .fixed .membersCerts, .fixed .membersEncryptionPublicKeys,
      .fixed .membersAcks, .fixed .history]
  | .setMemberData => [.members]
  | .setUser => [.fixed .usersCerts, .fixed .usersInfo]
  | .removeUser => [.fixed .usersCerts, .fixed .usersInfo]
  | .setUserData => [.fixed .usersInfo]
  | .setRecoveryThreshold => [.fixed .serviceConfig]
  | .transitionServiceToOpen => [.fixed .serviceInfo]
  | .setJsApp => [.fixed .modules, .fixed .modulesQuickjsBytecode,
      .fixed .modulesQuickjsVersion, .fixed .interpreterFlush, .fixed .endpoints]
  | .removeJsApp => [.fixed .modules, .fixed .modulesQuickjsBytecode,
      .fixed .modulesQuickjsVersion, .fixed .interpreterFlush, .fixed .endpoints]
  | .setJsRuntimeOptions => [.fixed .jsRuntimeOptions]
  | .refreshJsAppBytecodeCache => [.fixed .modulesQuickjsBytecode,
      .fixed .modulesQuickjsVersion]
  | .setCaCertBundle => [.fixed .tlsCaCertBundles]
  | .removeCaCertBundle => [.fixed .tlsCaCertBundles]
  | .setJwtIssuer => [.fixed .jwtIssuers, .fixed .jwtPublicSigningKeys]
  | .setJwtPublicSigningKeys => [.fixed .jwtPublicSigningKeys]
  | .removeJwtIssuer => [.fixed .jwtIssuers, .fixed .jwtPublicSigningKeys]
  | .addNodeCode => [.fixed .nodesCodeIds, .proposals]
  | .addSnpMeasurement => [.fixed .nodesSnpMeasurements, .proposals]
  | .addSnpUvmEndorsement => [.fixed .nodesSnpUvmEndorsements, .proposals]
  | .addExecutorNodeCode => [.fixed .nodesExecutorCodeIds]
  | .addSnpHostData => [.fixed .nodesSnpHostData, .proposals]
  | .removeSnpHostData => [.fixed .nodesSnpHostData]
  | .removeSnpMeasurement => [.fixed .nodesSnpMeasurements]
  | .removeSnpUvmEndorsement => [.fixed .nodesSnpUvmEndorsements]
  | .setSnpMinimumTcbVersionHex => [.fixed .nodesSnpTcbVersions, .proposals]
  | .removeSnpMinimumTcbVersion => [.fixed .nodesSnpTcbVersions]
  | .setNodeData => [.fixed .nodesInfo]
  | .transitionNodeToTrusted => [.fixed .nodesInfo, .fixed .nodesEndorsedCertificates]
  | .removeNodeCode => [.fixed .nodesCodeIds]
  | .removeExecutorNodeCode => [.fixed .nodesExecutorCodeIds]
  | .removeNode => [.fixed .nodesInfo]
  | .setNodeCertificateValidity => [.fixed .nodesEndorsedCertificates]
  | .setAllNodesCertificateValidity => [.fixed .nodesEndorsedCertificates]
  | .setServiceCertificateValidity => [.fixed .serviceInfo]
  | .setServiceConfiguration => [.fixed .serviceConfig]
  | .setContract => [.fixed .acceptedContracts]
  | .setDeploymentSpec => [.fixed .deploymentSpecs]
  | .setDeploymentInfo => [.fixed .deploymentInfo]
  | .enableOidcIssuer => [.fixed .oidcIssuer]
  | .setOidcIssuerUrl => [.fixed .oidcIssuer]
  | .oidcIssuerEnableRotateSigningKey => [.fixed .oidcIssuer]
  | .enableSigning => [.fixed .signing]
  | .signingEnableRotateSigningKey => [.fixed .signing]
  | .setCleanRoomPolicy => [.cleanRoomPolicies]
  | .enableCa => [.fixed .ca]
  | .caEnableRotateSigningKey => [.fixed .ca]
  | .setContractRuntimeOptionsEnableTelemetry => [.fixed .contractsTelemetryStatus]
  | .setContractRuntimeOptionsDisableTelemetry => [.fixed .contractsTelemetryStatus]
  | .setContractRuntimeOptionsEnableLogging => [.fixed .contractsLoggingStatus]
  | .setContractRuntimeOptionsDisableLogging => [.fixed .contractsLoggingStatus]
  | .setCgsRuntimeOptions => [.fixed .cgsRuntimeOptions]
  | .setMemberDocument => [.fixed .acceptedMemberDocuments]
  | .setUserIdentity => [.fixed .userIdentities, .fixed .acceptedUserInvitations]
  | .removeUserIdentity => [.fixed .userIdentities]
  | .setUserInvitationByJwtClaims => [.userInvitationClaims, .fixed .userInvitations]
  | .removeUserInvitationByJwtClaims => [.userInvitationClaims, .fixed .userInvitations]
  | .triggerRecoverySharesRefresh => []
  | .triggerLedgerRekey => []
  | .triggerLedgerChunk => []
  | .triggerSnapshot => []
  | .triggerAcmeRefresh => []
  | .assertServiceIdentity => []
  | .other _ => []

variable (host : CcfHost) (args : JsValue) (proposalId : String) (ledger : Ledger)

theorem set_encryption_key_confined (memberId : String) (key : JsValue) :
    Ensures (Confined [.fixed .membersEncryptionPublicKeys] ledger)
      (setEncryptionKey ledger memberId key) := by
  cases key <;> simp only [setEncryptionKey, ensures_ok, ensures_error]
  · exact (Confined.refl _ _).kvDelete _ _ (by decide)
  · exact (Confined.refl _ _).kvDelete _ _ (by decide)
  · exact (Confined.refl _ _).kvSet _ _ _ (by decide)

theorem set_ack_confined (memberId : String) :
    Ensures (Confined [.fixed .membersAcks] ledger) (setAck ledger memberId) := by
  unfold setAck
  split
  · simp only [ensures_ok]
    exact (Confined.refl _ _).kvSet _ _ _ (by decide)
  · simp only [ensures_bind, ensures_pure]
    intro root _
    exact (Confined.refl _ _).kvSet _ _ _ (by decide)

theorem apply_set_member_confined :
    Ensures (Confined ActionName.setMember.footprint ledger) (applySetMember host args ledger) := by
  simp only [applySetMember, ensures_bind]
  intro cert _ memberId _ key _ keyed keySet memberData _ recoveryRole _ after acked
  have certified : Confined ActionName.setMember.footprint ledger
      (ledger.kvSet (.fixed .membersCerts) memberId cert) :=
    (Confined.refl _ _).kvSet _ _ _ (by decide)
  have keyStep := (set_encryption_key_confined _ memberId key keyed keySet).mono
    ActionName.setMember.footprint (by decide)
  have ackStep := (set_ack_confined _ memberId after acked).mono
    ActionName.setMember.footprint (by decide)
  exact ((certified.trans keyStep).withMembers _ (by decide)).trans ackStep

theorem apply_remove_member_confined :
    Ensures (Confined ActionName.removeMember.footprint ledger)
      (applyRemoveMember host args ledger) := by
  simp only [applyRemoveMember, ensures_bind]
  intro given _ memberId _
  split
  · have removed : Confined ActionName.removeMember.footprint ledger
        (((({ ledger with members := ledger.members.erase memberId }.kvDelete
          (.fixed .membersEncryptionPublicKeys) memberId).kvDelete
            (.fixed .membersCerts) memberId).kvDelete (.fixed .membersAcks) memberId).kvDelete
              (.fixed .history) memberId) :=
      (((((Confined.refl _ _).withMembers _ (by decide)).kvDelete _ _ (by decide)).kvDelete _ _
        (by decide)).kvDelete _ _ (by decide)).kvDelete _ _ (by decide)
    split <;> simp only [ensures_bind, ensures_pure]
    · intro _ _ _ _
      exact removed
    · exact removed
  · simp only [ensures_pure]
    exact Confined.refl _ _

theorem apply_set_member_data_confined :
    Ensures (Confined ActionName.setMemberData.footprint ledger)
      (applySetMemberData args ledger) := by
  simp only [applySetMemberData, ensures_bind]
  intro given _ memberId _
  split
  · simp only [ensures_bind, ensures_pure]
    intro memberData _
    exact (Confined.refl _ _).withMembers _ (by decide)
  · simp only [ensures_throw]

theorem set_user_info_confined {areas : List Area} {before : Ledger}
    (confined : Confined areas before ledger) (listed : Area.fixed .usersInfo ∈ areas)
    (userId : String) (userData : JsValue) :
    Confined areas before (setUserInfo ledger userId userData) := by
  cases userData <;> first
    | exact confined.kvDelete _ _ listed
    | exact confined.kvSet _ _ _ listed

theorem update_service_config_confined :
    Ensures (Confined [.fixed .serviceConfig] ledger) (updateServiceConfig host args ledger) := by
  unfold updateServiceConfig
  split
  · simp only [ensures_bind]
    intro _ _ _ _ wanted _
    split <;> simp only [ensures_bind, ensures_pure]
    · intro _ _
      exact (Confined.refl _ _).kvSet _ _ _ (by decide)
    · exact (Confined.refl _ _).kvSet _ _ _ (by decide)
  · simp only [ensures_throw]

theorem refresh_bytecode_confined :
    Ensures (Confined ActionName.refreshJsAppBytecodeCache.footprint ledger)
      (refreshBytecode host ledger) := by
  simp only [refreshBytecode, ensures_bind, ensures_pure]
  intro tables _
  exact ((Confined.refl _ _).setTable _ _ (by decide)).setTable _ _ (by decide)

theorem set_endpoints_confined (entry : String × JsValue) :
    Ensures (Confined [.fixed .endpoints] ledger) (setEndpoints host ledger entry) := by
  simp only [setEndpoints, ensures_bind]
  intro entries _
  apply ensures_foldlM (Confined [.fixed .endpoints] ledger)
  · exact Confined.refl _ _
  · intro current item _ confined
    simp only [setEndpoint, ensures_bind, ensures_pure]
    intro jsModule _
    exact confined.kvSet _ _ _ (by decide)

theorem apply_set_js_app_confined :
    Ensures (Confined ActionName.setJsApp.footprint ledger) (applySetJsApp host args ledger) := by
  simp only [applySetJsApp, ensures_bind]
  intro bundle _ moduleList _
  split
  · simp only [ensures_bind]
    intro loaded load disabled _
    have loadStep : Confined ActionName.setJsApp.footprint ledger loaded := by
      refine ensures_foldlM (Confined ActionName.setJsApp.footprint ledger) _ _ _ ?_ ?_ loaded load
      · exact ((Confined.refl _ _).kvClear _ (by decide)).kvClear _ (by decide)
      · intro current entry _ confined
        simp only [setModule, ensures_bind, ensures_pure]
        intro _ _ _ _ _ _
        exact confined.kvSet _ _ _ (by decide)
    have endpointStep : ∀ (cached : Ledger) (entries : List (String × JsValue)),
        Confined ActionName.setJsApp.footprint ledger cached →
        Ensures (Confined ActionName.setJsApp.footprint ledger)
          (entries.foldlM (setEndpoints host)
            (cached.kvSet (.fixed .interpreterFlush) singletonKvKey (.bool true))) := by
      intro cached entries confined
      apply ensures_foldlM
      · exact confined.kvSet _ _ _ (by decide)
      · intro current entry _ kept after written
        exact kept.trans ((set_endpoints_confined host current entry after written).mono _
          (by decide))
    split <;> simp only [ensures_bind]
    · intro cached cleared metadata _ endpoints _ entries _
      cases cleared
      exact endpointStep _ _ ((loadStep.kvClear (.fixed .modulesQuickjsBytecode)
        (by decide)).kvClear (.fixed .modulesQuickjsVersion) (by decide))
    · intro cached refreshed metadata _ endpoints _ entries _
      exact endpointStep _ _ (loadStep.trans
        ((refresh_bytecode_confined host loaded cached refreshed).mono _ (by decide)))
  · simp only [ensures_throw]

theorem store_jwt_keys_confined (issuer : String) (metadata jwks : JsValue) :
    Ensures (Confined [.fixed .jwtPublicSigningKeys] ledger)
      (storeJwtKeys host issuer metadata jwks ledger) := by
  simp only [storeJwtKeys, ensures_bind, ensures_pure]
  intro rows _
  exact (Confined.refl _ _).setTable _ _ (by decide)

theorem set_node_validity_confined (nodeId : String) (nodeInfo validFrom days : JsValue) :
    Ensures (Confined [.fixed .nodesEndorsedCertificates] ledger)
      (setNodeCertificateValidityPeriod host nodeId nodeInfo validFrom days ledger) := by
  simp only [setNodeCertificateValidityPeriod, ensures_bind]
  intro request _
  split
  · simp
  · split
    · simp only [ensures_bind, ensures_pure]
      intro _ _ _ _
      exact (Confined.refl _ _).kvSet _ _ _ (by decide)
    · simp only [ensures_throw]

theorem endorse_trusted_node_confined (serviceConfig nodeInfo : JsValue) (nodeId : String) :
    Ensures (Confined [.fixed .nodesEndorsedCertificates] ledger)
      (endorseTrustedNode host args serviceConfig nodeInfo nodeId ledger) := by
  simp only [endorseTrustedNode, ensures_bind]
  intro request _
  split
  · simp only [ensures_pure]
    exact Confined.refl _ _
  · simp only [ensures_bind, ensures_pure]
    intro _ _ _ _ _ _ _ _
    exact (Confined.refl _ _).kvSet _ _ _ (by decide)

variable {ledger} in
theorem add_claim_confined {areas : List Area} {before : Ledger} (table : TableName)
    (claims : JsValue) (key : String) (listed : table.area ∈ areas)
    (confined : Confined areas before ledger) :
    Ensures (Confined areas before) (addClaim table claims ledger key) := by
  simp only [addClaim]
  split <;> simp only [ensures_bind, ensures_pure]
  · exact confined.kvSet _ _ _ listed
  · intro items _
    exact confined.kvSet _ _ _ listed

variable {ledger} in
theorem remove_claim_confined {areas : List Area} {before : Ledger} (owner : String)
    (table : TableName) (claims : JsValue) (key : String) (listed : table.area ∈ areas)
    (confined : Confined areas before ledger) :
    Ensures (Confined areas before) (removeClaim host owner table claims ledger key) := by
  simp only [removeClaim]
  split
  · split
    · simp only [ensures_pure]
      exact confined.kvDelete _ _ listed
    · simp only [ensures_bind]
      intro stored _ items _
      split <;> simp only [ensures_pure]
      · exact confined.kvDelete _ _ listed
      · exact confined.kvSet _ _ _ listed
  · simp only [ensures_throw]

theorem add_claims_confined {areas : List Area} (table : TableName) (claims : JsValue)
    (keys : List String) (listed : table.area ∈ areas) :
    Ensures (Confined areas ledger) (keys.foldlM (addClaim table claims) ledger) := by
  apply ensures_foldlM
  · exact Confined.refl _ _
  · intro current key _ confined
    exact add_claim_confined table claims key listed confined

theorem remove_claims_confined {areas : List Area} (owner : String) (table : TableName)
    (claims : JsValue) (keys : List String) (listed : table.area ∈ areas) :
    Ensures (Confined areas ledger)
      (keys.foldlM (removeClaim host owner table claims) ledger) := by
  apply ensures_foldlM
  · exact Confined.refl _ _
  · intro current key _ confined
    exact remove_claim_confined host owner table claims key listed confined

theorem apply_set_clean_room_policy_confined :
    Ensures (Confined ActionName.setCleanRoomPolicy.footprint ledger)
      (applySetCleanRoomPolicy host args ledger) := by
  simp only [applySetCleanRoomPolicy, ensures_bind]
  intro contract _ type _ claims _
  split
  · simp only [ensures_bind]
    intro keys _
    exact add_claims_confined ledger _ claims keys (by simp [TableName.area, ActionName.footprint])
  · split
    · simp only [ensures_bind]
      intro keys _
      exact remove_claims_confined host ledger _ _ claims keys
        (by simp [TableName.area, ActionName.footprint])
    · simp only [ensures_throw]

theorem apply_set_user_invitation_confined :
    Ensures (Confined ActionName.setUserInvitationByJwtClaims.footprint ledger)
      (applySetUserInvitationByJwtClaims host args ledger) := by
  simp only [applySetUserInvitationByJwtClaims, ensures_bind]
  intro invitation _ type _ claims _
  split
  · simp only [ensures_bind, ensures_pure]
    intro keys _ added adding accountType _ invitationId _
    have claimStep : Confined ActionName.setUserInvitationByJwtClaims.footprint ledger added :=
      add_claims_confined ledger _ claims keys (by simp [TableName.area, ActionName.footprint])
        added adding
    exact claimStep.kvSet _ _ _ (by decide)
  · split
    · simp only [ensures_bind]
      intro keys _
      exact remove_claims_confined host ledger _ _ claims keys
        (by simp [TableName.area, ActionName.footprint])
    · simp only [ensures_throw]

theorem apply_remove_row_confined (table : GovTable) (key : String) :
    Ensures (Confined [.fixed table] ledger) (applyRemoveRow table key args ledger) := by
  simp only [applyRemoveRow, ensures_bind, ensures_pure]
  intro _ _ row _
  exact (Confined.refl _ _).kvDelete _ _ (by simp [TableName.area])

theorem apply_allow_to_join_confined (table : GovTable) (key : String) :
    Ensures (Confined [.fixed table, .proposals] ledger)
      (applyAllowToJoin table key args proposalId ledger) := by
  simp only [applyAllowToJoin, ensures_bind, ensures_pure]
  intro _ _ row _
  exact ((Confined.refl _ _).kvSet _ _ _ (by simp [TableName.area])).withProposals _ (by simp)

theorem apply_deployment_confined (key : String) (table : GovTable) :
    Ensures (Confined [.fixed table] ledger) (applyDeployment key table args ledger) := by
  simp only [applyDeployment, ensures_bind, ensures_pure]
  intro _ _ _ _ _ _ contractId _
  exact (Confined.refl _ _).kvSet _ _ _ (by simp [TableName.area])

theorem apply_contract_option_confined (table : GovTable) (status : String) :
    Ensures (Confined [.fixed table] ledger) (applyContractOption table status args ledger) := by
  simp only [applyContractOption, ensures_bind, ensures_pure]
  intro _ _ contractId _
  exact (Confined.refl _ _).kvSet _ _ _ (by simp [TableName.area])

theorem apply_enable_key_confined (table : GovTable) :
    Ensures (Confined [.fixed table] ledger) (applyEnableKey table args ledger) := by
  simp only [applyEnableKey]
  split <;> simp only [ensures_bind, ensures_pure]
  · exact Confined.refl _ _
  · intro _ _ kid _
    exact (((Confined.refl _ _).kvSet _ _ _ (by simp [TableName.area])).kvSet _ _ _
      (by simp [TableName.area])).kvSet _ _ _ (by simp [TableName.area])

theorem apply_rotate_key_confined (table : GovTable) :
    Ensures (Confined [.fixed table] ledger) (applyRotateKey table ledger) := by
  unfold applyRotateKey
  split <;> simp only [ensures_bind, ensures_pure, ensures_ok]
  · exact Confined.refl _ _
  · intro requestId _
    exact (Confined.refl _ _).kvSet _ _ _ (by simp [TableName.area])

theorem apply_set_jwt_issuer_confined :
    Ensures (Confined ActionName.setJwtIssuer.footprint ledger)
      (applySetJwtIssuer host args ledger) := by
  simp only [applySetJwtIssuer, ensures_bind, ensures_pure]
  intro _ _ _ _ issuer _ jwks _ stored storing
  have keyStep : Confined [.fixed .jwtPublicSigningKeys] ledger stored := by
    unfold storeGivenJwtKeys at storing
    split at storing
    · exact store_jwt_keys_confined host ledger issuer _ jwks stored storing
    · cases storing
      exact Confined.refl _ _
  exact (keyStep.mono _ (by decide)).kvSet _ _ _ (by decide)

theorem apply_transition_service_confined :
    Ensures (Confined ActionName.transitionServiceToOpen.footprint ledger)
      (applyTransitionServiceToOpen host args ledger) := by
  unfold applyTransitionServiceToOpen
  split
  · simp only [ensures_bind]
    intro previous _ next _ status _
    split
    · simp
    · split <;> simp only [ensures_bind, ensures_pure]
      all_goals
        intros
        exact (Confined.refl _ _).setTable _ _ (by decide)
  · simp only [ensures_throw]

theorem apply_transition_node_confined :
    Ensures (Confined ActionName.transitionNodeToTrusted.footprint ledger)
      (applyTransitionNodeToTrusted host args ledger) := by
  unfold applyTransitionNodeToTrusted
  split
  · simp only [ensures_bind]
    intro _ _ nodeId _
    split
    · simp only [ensures_bind]
      intro status _
      split
      · simp only [ensures_pure]
        exact Confined.refl _ _
      · intro after endorsed
        have endorseStep := (endorse_trusted_node_confined host args _ _ _ nodeId after
          endorsed).mono ActionName.transitionNodeToTrusted.footprint (by decide)
        exact ((Confined.refl _ ledger).kvSet (.fixed .nodesInfo) nodeId _ (by decide)).trans
          endorseStep
    · simp only [ensures_throw]
  · simp only [ensures_throw]

theorem apply_remove_node_confined :
    Ensures (Confined ActionName.removeNode.footprint ledger) (applyRemoveNode args ledger) := by
  unfold applyRemoveNode
  split
  · simp only [ensures_bind]
    intro _ _ nodeId _
    split
    · simp only [ensures_bind]
      intro status _
      split <;> simp only [ensures_pure]
      · exact (Confined.refl _ _).kvDelete _ _ (by decide)
      · exact (Confined.refl _ _).kvSet _ _ _ (by decide)
    · simp only [ensures_pure]
      exact Confined.refl _ _
  · simp only [ensures_throw]

theorem apply_set_all_nodes_validity_confined :
    Ensures (Confined ActionName.setAllNodesCertificateValidity.footprint ledger)
      (applySetAllNodesCertificateValidity host args ledger) := by
  unfold applySetAllNodesCertificateValidity
  apply ensures_foldlM
  · exact Confined.refl _ _
  · intro current row _ confined
    simp only [setTrustedNodeValidity, ensures_bind]
    intro status _
    split
    · simp only [ensures_bind]
      intro validFrom _ days _ after renewed
      exact confined.trans
        (set_node_validity_confined host current row.1 row.2 validFrom days after renewed)
    · simp only [ensures_pure]
      exact confined

theorem apply_action_confined (name : ActionName) :
    Ensures (Confined name.footprint ledger)
      (applyAction host args proposalId ledger name) := by
  cases name with
  | setConstitution | addSnpUvmEndorsement | addSnpHostData | setSnpMinimumTcbVersionHex =>
      simp only [applyAction, applySetConstitution, applyAddSnpUvmEndorsement, applyAddSnpHostData,
        applySetSnpMinimumTcbVersionHex, ensures_bind, ensures_pure]
      intros
      exact ((Confined.refl _ _).kvSet _ _ _ (by decide)).withProposals _ (by decide)
  | setMember => exact apply_set_member_confined host args ledger
  | removeMember => exact apply_remove_member_confined host args ledger
  | setMemberData => exact apply_set_member_data_confined args ledger
  | setUser =>
      simp only [applyAction, applySetUser, ensures_bind, ensures_pure]
      intros
      exact set_user_info_confined _ ((Confined.refl _ _).kvSet _ _ _ (by decide)) (by decide) _ _
  | removeUser =>
      simp only [applyAction, applyRemoveUser, ensures_bind, ensures_pure]
      intros
      exact ((Confined.refl _ _).kvDelete _ _ (by decide)).kvDelete _ _ (by decide)
  | setUserData =>
      simp only [applyAction, applySetUserData, ensures_bind, ensures_pure]
      intros
      exact set_user_info_confined _ (Confined.refl _ _) (by decide) _ _
  | setRecoveryThreshold | setServiceConfiguration =>
      exact update_service_config_confined host args ledger
  | triggerRecoverySharesRefresh | triggerLedgerRekey | triggerLedgerChunk | triggerSnapshot
  | triggerAcmeRefresh =>
      simp only [applyAction, applyTriggerRecoverySharesRefresh, applyTriggerLedgerRekey,
        applyTriggerLedgerChunk, applyTriggerSnapshot, applyTriggerAcmeRefresh, ensures_bind,
        ensures_pure]
      intros
      exact Confined.refl _ _
  | transitionServiceToOpen => exact apply_transition_service_confined host args ledger
  | setJsApp => exact apply_set_js_app_confined host args ledger
  | removeJsApp =>
      simp only [applyAction, applyRemoveJsApp, ensures_ok]
      exact (((((Confined.refl _ _).kvClear _ (by decide)).kvClear _ (by decide)).kvClear _
        (by decide)).kvClear _ (by decide)).kvClear _ (by decide)
  | setJsRuntimeOptions =>
      simp only [applyAction, applySetJsRuntimeOptions, ensures_ok]
      exact (Confined.refl _ _).kvSet _ _ _ (by decide)
  | refreshJsAppBytecodeCache => exact refresh_bytecode_confined host ledger
  | setCaCertBundle | addExecutorNodeCode | setContract | setOidcIssuerUrl
  | setCgsRuntimeOptions | setMemberDocument =>
      simp only [applyAction, applySetCaCertBundle, applyAddExecutorNodeCode, applySetContract,
        applySetOidcIssuerUrl, applySetCgsRuntimeOptions, applySetMemberDocument, ensures_bind,
        ensures_pure]
      intros
      exact (Confined.refl _ _).kvSet _ _ _ (by decide)
  | removeCaCertBundle | removeSnpHostData | removeSnpMeasurement | removeNodeCode
  | removeExecutorNodeCode | removeUserIdentity =>
      exact apply_remove_row_confined args ledger _ _
  | setJwtIssuer => exact apply_set_jwt_issuer_confined host args ledger
  | setJwtPublicSigningKeys =>
      simp only [applyAction, applySetJwtPublicSigningKeys, ensures_bind]
      intro _ _ issuer _
      split
      · simp only [ensures_bind]
        intro jwks _
        exact store_jwt_keys_confined host ledger issuer _ jwks
      · simp only [ensures_throw]
  | removeJwtIssuer =>
      simp only [applyAction, applyRemoveJwtIssuer, ensures_bind]
      intro _ _ issuer _
      split <;> simp only [ensures_pure]
      · exact Confined.refl _ _
      · exact ((Confined.refl _ _).kvDelete _ _ (by decide)).setTable _ _ (by decide)
  | addNodeCode | addSnpMeasurement =>
      exact apply_allow_to_join_confined args proposalId ledger _ _
  | removeSnpUvmEndorsement =>
      simp only [applyAction, applyRemoveSnpUvmEndorsement, ensures_bind]
      intro _ _ did _ _ _ feed _
      split <;> simp only [ensures_pure]
      · exact (Confined.refl _ _).kvDelete _ _ (by decide)
      · exact (Confined.refl _ _).kvSet _ _ _ (by decide)
  | removeSnpMinimumTcbVersion =>
      simp only [applyAction, applyRemoveSnpMinimumTcbVersion, ensures_bind]
      intro _ _ cpuid _
      split
      · simp only [ensures_pure]
        exact (Confined.refl _ _).kvDelete _ _ (by decide)
      · simp only [ensures_throw]
  | setNodeData =>
      simp only [applyAction, applySetNodeData, ensures_bind]
      intro _ _ nodeId _
      split
      · simp only [ensures_bind, ensures_pure]
        intro nodeData _
        exact (Confined.refl _ _).kvSet _ _ _ (by decide)
      · simp only [ensures_throw]
  | transitionNodeToTrusted => exact apply_transition_node_confined host args ledger
  | removeNode => exact apply_remove_node_confined args ledger
  | setNodeCertificateValidity =>
      simp only [applyAction, applySetNodeCertificateValidity, ensures_bind]
      intro _ _ nodeId _
      split
      · simp only [ensures_bind]
        intro status _
        split
        · simp
        · simp only [ensures_bind]
          intro validFrom _ days _
          exact set_node_validity_confined host ledger nodeId _ validFrom days
      · simp only [ensures_throw]
  | setAllNodesCertificateValidity => exact apply_set_all_nodes_validity_confined host args ledger
  | setServiceCertificateValidity =>
      simp only [applyAction, applySetServiceCertificateValidity]
      split
      · simp only [ensures_bind]
        intro _ _ _ _ _ _ cert _
        split
        · simp only [ensures_pure]
          exact (Confined.refl _ _).kvSet _ _ _ (by decide)
        · simp only [ensures_throw]
      · simp only [ensures_throw]
  | assertServiceIdentity =>
      simp only [applyAction, ensures_ok]
      exact Confined.refl _ _
  | setDeploymentSpec | setDeploymentInfo =>
      exact apply_deployment_confined args ledger _ _
  | enableOidcIssuer | enableSigning =>
      exact apply_enable_key_confined args ledger _
  | oidcIssuerEnableRotateSigningKey | signingEnableRotateSigningKey =>
      exact apply_rotate_key_confined ledger _
  | setCleanRoomPolicy => exact apply_set_clean_room_policy_confined host args ledger
  | enableCa =>
      simp only [applyAction, applyEnableCa, ensures_bind]
      intro _ _ contractId _ enabled _
      split <;> simp only [ensures_pure]
      · exact Confined.refl _ _
      · exact (Confined.refl _ _).kvSet _ _ _ (by decide)
  | caEnableRotateSigningKey =>
      simp only [applyAction, applyCaEnableRotateSigningKey, ensures_bind]
      intro _ _ contractId _
      split
      · simp only [ensures_bind, ensures_pure]
        intro requestId _
        exact (Confined.refl _ _).kvSet _ _ _ (by decide)
      · simp only [ensures_throw]
  | setContractRuntimeOptionsEnableTelemetry | setContractRuntimeOptionsDisableTelemetry
  | setContractRuntimeOptionsEnableLogging | setContractRuntimeOptionsDisableLogging =>
      exact apply_contract_option_confined args ledger _ _
  | setUserIdentity =>
      simp only [applyAction, applySetUserIdentity, ensures_bind, ensures_pure]
      intro _ _ invitation _ _ _ marked marking _ _ userId _
      have markStep : Confined ActionName.setUserIdentity.footprint ledger marked := by
        unfold acceptInvitation at marking
        split at marking
        · cases marking
          exact Confined.refl _ _
        · obtain ⟨invitationId, _, written⟩ := of_bind marking
          cases written
          exact (Confined.refl _ _).kvSet _ _ _ (by decide)
      exact markStep.kvSet _ _ _ (by decide)
  | setUserInvitationByJwtClaims => exact apply_set_user_invitation_confined host args ledger
  | removeUserInvitationByJwtClaims =>
      simp only [applyAction, applyRemoveUserInvitationByJwtClaims, ensures_bind, ensures_pure]
      intros
      exact ((Confined.refl _ _).kvDelete _ _ (by decide)).kvClear _
        (by simp [TableName.area, ActionName.footprint])
  | other _ =>
      exact ensures_error _ _

end CleanRoom.Governance
