import CleanRoom.Governance.CgsActions

/-!
# Validating and applying a proposal

The constitution looks each action of a proposal up in one table. `validate`
collects the errors of all actions, while `apply` runs them in order and stops
at the first exception.
-/

namespace CleanRoom.Governance

open JavaScript

def ActionName.name : ActionName → String
  | .setConstitution => "set_constitution"
  | .setMember => "set_member"
  | .removeMember => "remove_member"
  | .setMemberData => "set_member_data"
  | .setUser => "set_user"
  | .removeUser => "remove_user"
  | .setUserData => "set_user_data"
  | .setRecoveryThreshold => "set_recovery_threshold"
  | .triggerRecoverySharesRefresh => "trigger_recovery_shares_refresh"
  | .triggerLedgerRekey => "trigger_ledger_rekey"
  | .transitionServiceToOpen => "transition_service_to_open"
  | .setJsApp => "set_js_app"
  | .removeJsApp => "remove_js_app"
  | .setJsRuntimeOptions => "set_js_runtime_options"
  | .refreshJsAppBytecodeCache => "refresh_js_app_bytecode_cache"
  | .setCaCertBundle => "set_ca_cert_bundle"
  | .removeCaCertBundle => "remove_ca_cert_bundle"
  | .setJwtIssuer => "set_jwt_issuer"
  | .setJwtPublicSigningKeys => "set_jwt_public_signing_keys"
  | .removeJwtIssuer => "remove_jwt_issuer"
  | .addNodeCode => "add_node_code"
  | .addSnpMeasurement => "add_snp_measurement"
  | .addSnpUvmEndorsement => "add_snp_uvm_endorsement"
  | .addExecutorNodeCode => "add_executor_node_code"
  | .addSnpHostData => "add_snp_host_data"
  | .removeSnpHostData => "remove_snp_host_data"
  | .removeSnpMeasurement => "remove_snp_measurement"
  | .removeSnpUvmEndorsement => "remove_snp_uvm_endorsement"
  | .setSnpMinimumTcbVersionHex => "set_snp_minimum_tcb_version_hex"
  | .removeSnpMinimumTcbVersion => "remove_snp_minimum_tcb_version"
  | .setNodeData => "set_node_data"
  | .transitionNodeToTrusted => "transition_node_to_trusted"
  | .removeNodeCode => "remove_node_code"
  | .removeExecutorNodeCode => "remove_executor_node_code"
  | .removeNode => "remove_node"
  | .setNodeCertificateValidity => "set_node_certificate_validity"
  | .setAllNodesCertificateValidity => "set_all_nodes_certificate_validity"
  | .setServiceCertificateValidity => "set_service_certificate_validity"
  | .setServiceConfiguration => "set_service_configuration"
  | .triggerLedgerChunk => "trigger_ledger_chunk"
  | .triggerSnapshot => "trigger_snapshot"
  | .triggerAcmeRefresh => "trigger_acme_refresh"
  | .assertServiceIdentity => "assert_service_identity"
  | .setContract => "set_contract"
  | .setDeploymentSpec => "set_deployment_spec"
  | .setDeploymentInfo => "set_deployment_info"
  | .enableOidcIssuer => "enable_oidc_issuer"
  | .setOidcIssuerUrl => "set_oidc_issuer_url"
  | .oidcIssuerEnableRotateSigningKey => "oidc_issuer_enable_rotate_signing_key"
  | .enableSigning => "enable_signing"
  | .signingEnableRotateSigningKey => "signing_enable_rotate_signing_key"
  | .setCleanRoomPolicy => "set_clean_room_policy"
  | .enableCa => "enable_ca"
  | .caEnableRotateSigningKey => "ca_enable_rotate_signing_key"
  | .setContractRuntimeOptionsEnableTelemetry =>
      "set_contract_runtime_options_enable_telemetry"
  | .setContractRuntimeOptionsDisableTelemetry =>
      "set_contract_runtime_options_disable_telemetry"
  | .setContractRuntimeOptionsEnableLogging => "set_contract_runtime_options_enable_logging"
  | .setContractRuntimeOptionsDisableLogging => "set_contract_runtime_options_disable_logging"
  | .setCgsRuntimeOptions => "set_cgs_runtime_options"
  | .setMemberDocument => "set_member_document"
  | .setUserIdentity => "set_user_identity"
  | .removeUserIdentity => "remove_user_identity"
  | .setUserInvitationByJwtClaims => "set_user_invitation_by_jwt_claims"
  | .removeUserInvitationByJwtClaims => "remove_user_invitation_by_jwt_claims"
  | .other name => name

def validateAction (host : CcfHost) (ledger : Ledger) (args : JsValue) :
    ActionName → Except String Unit
  | .setConstitution => validateSetConstitution args
  | .setMember => validateSetMember host args
  | .removeMember => validateRemoveMember args
  | .setMemberData => validateSetMemberData args
  | .setUser => validateSetUser host args
  | .removeUser => validateRemoveUser args
  | .setUserData => validateSetUserData args
  | .setRecoveryThreshold => validateSetRecoveryThreshold args
  | .triggerRecoverySharesRefresh => checkNone host args
  | .triggerLedgerRekey => checkNone host args
  | .transitionServiceToOpen => validateTransitionServiceToOpen host args
  | .setJsApp => validateSetJsApp host args
  | .removeJsApp => .ok ()
  | .setJsRuntimeOptions => validateSetJsRuntimeOptions args
  | .refreshJsAppBytecodeCache => .ok ()
  | .setCaCertBundle => validateSetCaCertBundle host args
  | .removeCaCertBundle => validateStringArgument "name" args
  | .setJwtIssuer => validateSetJwtIssuer host args
  | .setJwtPublicSigningKeys => validateSetJwtPublicSigningKeys host args
  | .removeJwtIssuer => validateStringArgument "issuer" args
  | .addNodeCode => validateStringArgument "code_id" args
  | .addSnpMeasurement => validateStringArgument "measurement" args
  | .addSnpUvmEndorsement => validateAddSnpUvmEndorsement args
  | .addExecutorNodeCode => validateStringArgument "executor_code_id" args
  | .addSnpHostData => validateAddSnpHostData host args
  | .removeSnpHostData => validateStringArgument "host_data" args
  | .removeSnpMeasurement => validateStringArgument "measurement" args
  | .removeSnpUvmEndorsement => validateRemoveSnpUvmEndorsement args
  | .setSnpMinimumTcbVersionHex => validateSetSnpMinimumTcbVersionHex args
  | .removeSnpMinimumTcbVersion => validateStringArgument "cpuid" args
  | .setNodeData => validateNodeId args
  | .transitionNodeToTrusted => validateNodeValidity args
  | .removeNodeCode => validateStringArgument "code_id" args
  | .removeExecutorNodeCode => validateStringArgument "executor_code_id" args
  | .removeNode => validateNodeId args
  | .setNodeCertificateValidity => validateNodeValidity args
  | .setAllNodesCertificateValidity => checkValidity args
  | .setServiceCertificateValidity => checkValidity args
  | .setServiceConfiguration => validateSetServiceConfiguration args
  | .triggerLedgerChunk => .ok ()
  | .triggerSnapshot => .ok ()
  | .triggerAcmeRefresh => validateTriggerAcmeRefresh args
  | .assertServiceIdentity => validateAssertServiceIdentity host ledger args
  | .setContract => validateSetContract args
  | .setDeploymentSpec => validateSetDeploymentSpec ledger args
  | .setDeploymentInfo => validateSetDeploymentInfo ledger args
  | .enableOidcIssuer => validateKid args
  | .setOidcIssuerUrl => validateSetOidcIssuerUrl args
  | .oidcIssuerEnableRotateSigningKey => .ok ()
  | .enableSigning => validateKid args
  | .signingEnableRotateSigningKey => .ok ()
  | .setCleanRoomPolicy => validateSetCleanRoomPolicy host ledger args
  | .enableCa => validateEnableCa ledger args
  | .caEnableRotateSigningKey => validateCaEnableRotateSigningKey host ledger args
  | .setContractRuntimeOptionsEnableTelemetry => validateContractOption ledger args
  | .setContractRuntimeOptionsDisableTelemetry => validateContractOption ledger args
  | .setContractRuntimeOptionsEnableLogging => validateContractOption ledger args
  | .setContractRuntimeOptionsDisableLogging => validateContractOption ledger args
  | .setCgsRuntimeOptions => validateSetCgsRuntimeOptions host args
  | .setMemberDocument => validateSetMemberDocument args
  | .setUserIdentity => validateSetUserIdentity host args
  | .removeUserIdentity => validateStringArgument "id" args
  | .setUserInvitationByJwtClaims => validateSetUserInvitationByJwtClaims host ledger args
  | .removeUserInvitationByJwtClaims => validateStringArgument "invitationId" args
  | .other _ => .ok ()

/-- The error of one action, if it has one. The stack trace that the source
appends to the text is left out. -/
def actionError (host : CcfHost) (ledger : Ledger) (entry : ProposedAction × Nat) :
    Option String :=
  let name := entry.1.name.name
  match entry.1.name with
  | .other _ => some s!"{name}: no such action"
  | known =>
      match validateAction host ledger entry.1.args known with
      | .ok _ => none
      | .error error => some s!"{name} at position {entry.2} failed validation: {error}"

def validationErrors (host : CcfHost) (ledger : Ledger) (actions : List ProposedAction) :
    List String :=
  actions.zipIdx.filterMap (actionError host ledger)

structure Validation where
  valid : Bool
  description : String

def validate (host : CcfHost) (ledger : Ledger) (actions : List ProposedAction) : Validation :=
  let errors := validationErrors host ledger actions
  { valid := errors.length == 0, description := String.intercalate ", " errors }

def applyAction (host : CcfHost) (args : JsValue) (proposalId : String) (ledger : Ledger) :
    ActionName → Except String Ledger
  | .setConstitution => applySetConstitution args proposalId ledger
  | .setMember => applySetMember host args ledger
  | .removeMember => applyRemoveMember host args ledger
  | .setMemberData => applySetMemberData args ledger
  | .setUser => applySetUser host args ledger
  | .removeUser => applyRemoveUser args ledger
  | .setUserData => applySetUserData args ledger
  | .setRecoveryThreshold => updateServiceConfig host args ledger
  | .triggerRecoverySharesRefresh => applyTriggerRecoverySharesRefresh host ledger
  | .triggerLedgerRekey => applyTriggerLedgerRekey host ledger
  | .transitionServiceToOpen => applyTransitionServiceToOpen host args ledger
  | .setJsApp => applySetJsApp host args ledger
  | .removeJsApp => applyRemoveJsApp ledger
  | .setJsRuntimeOptions => applySetJsRuntimeOptions args ledger
  | .refreshJsAppBytecodeCache => refreshBytecode host ledger
  | .setCaCertBundle => applySetCaCertBundle args ledger
  | .removeCaCertBundle => applyRemoveRow .tlsCaCertBundles "name" args ledger
  | .setJwtIssuer => applySetJwtIssuer host args ledger
  | .setJwtPublicSigningKeys => applySetJwtPublicSigningKeys host args ledger
  | .removeJwtIssuer => applyRemoveJwtIssuer host args ledger
  | .addNodeCode => applyAddNodeCode args proposalId ledger
  | .addSnpMeasurement => applyAddSnpMeasurement args proposalId ledger
  | .addSnpUvmEndorsement => applyAddSnpUvmEndorsement args proposalId ledger
  | .addExecutorNodeCode => applyAddExecutorNodeCode args ledger
  | .addSnpHostData => applyAddSnpHostData args proposalId ledger
  | .removeSnpHostData => applyRemoveRow .nodesSnpHostData "host_data" args ledger
  | .removeSnpMeasurement => applyRemoveRow .nodesSnpMeasurements "measurement" args ledger
  | .removeSnpUvmEndorsement => applyRemoveSnpUvmEndorsement args ledger
  | .setSnpMinimumTcbVersionHex => applySetSnpMinimumTcbVersionHex host args proposalId ledger
  | .removeSnpMinimumTcbVersion => applyRemoveSnpMinimumTcbVersion args ledger
  | .setNodeData => applySetNodeData args ledger
  | .transitionNodeToTrusted => applyTransitionNodeToTrusted host args ledger
  | .removeNodeCode => applyRemoveRow .nodesCodeIds "code_id" args ledger
  | .removeExecutorNodeCode =>
      applyRemoveRow .nodesExecutorCodeIds "executor_code_id" args ledger
  | .removeNode => applyRemoveNode args ledger
  | .setNodeCertificateValidity => applySetNodeCertificateValidity host args ledger
  | .setAllNodesCertificateValidity => applySetAllNodesCertificateValidity host args ledger
  | .setServiceCertificateValidity => applySetServiceCertificateValidity host args ledger
  | .setServiceConfiguration => updateServiceConfig host args ledger
  | .triggerLedgerChunk => applyTriggerLedgerChunk host ledger
  | .triggerSnapshot => applyTriggerSnapshot host ledger
  | .triggerAcmeRefresh => applyTriggerAcmeRefresh host args ledger
  | .assertServiceIdentity => .ok ledger
  | .setContract => applySetContract args proposalId ledger
  | .setDeploymentSpec => applySetDeploymentSpec args ledger
  | .setDeploymentInfo => applySetDeploymentInfo args ledger
  | .enableOidcIssuer => applyEnableOidcIssuer args ledger
  | .setOidcIssuerUrl => applySetOidcIssuerUrl args ledger
  | .oidcIssuerEnableRotateSigningKey => applyOidcIssuerEnableRotateSigningKey ledger
  | .enableSigning => applyEnableSigning args ledger
  | .signingEnableRotateSigningKey => applySigningEnableRotateSigningKey ledger
  | .setCleanRoomPolicy => applySetCleanRoomPolicy host args ledger
  | .enableCa => applyEnableCa args ledger
  | .caEnableRotateSigningKey => applyCaEnableRotateSigningKey args ledger
  | .setContractRuntimeOptionsEnableTelemetry => applyEnableTelemetry args ledger
  | .setContractRuntimeOptionsDisableTelemetry => applyDisableTelemetry args ledger
  | .setContractRuntimeOptionsEnableLogging => applyEnableLogging args ledger
  | .setContractRuntimeOptionsDisableLogging => applyDisableLogging args ledger
  | .setCgsRuntimeOptions => applySetCgsRuntimeOptions args ledger
  | .setMemberDocument => applySetMemberDocument args proposalId ledger
  | .setUserIdentity => applySetUserIdentity args ledger
  | .removeUserIdentity => applyRemoveRow .userIdentities "id" args ledger
  | .setUserInvitationByJwtClaims => applySetUserInvitationByJwtClaims host args ledger
  | .removeUserInvitationByJwtClaims => applyRemoveUserInvitationByJwtClaims args ledger
  | .other _ => .error "TypeError: cannot read property 'apply' of undefined"

def apply (host : CcfHost) (actions : List ProposedAction) (proposalId : String)
    (ledger : Ledger) : Except String Ledger :=
  actions.foldlM (fun current action =>
    applyAction host action.args proposalId current action.name) ledger

end CleanRoom.Governance
