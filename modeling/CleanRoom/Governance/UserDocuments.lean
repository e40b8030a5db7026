import CleanRoom.Governance.UserProposals
import CleanRoom.Governance.AttestedRequests

/-!
# User documents and their runtime options

`putUserDocument` writes drafts, `getAcceptedUserDocument` gives an accepted
document to a clean room, and the runtime options let each approver of an
accepted document give or take back consent. Consent is on record per document
and option as a map from approvers to their last word; an approver who never
spoke counts as consenting.
-/

namespace CleanRoom.Governance

open JavaScript Throwing

def putUserDocument (host : CcfHost) (caller : Caller) (id : String) (body : JsValue)
    (store : UserStore) : Except RequestFailure UserStore := do
  validateCallerAuthorized host store.ledger caller
  if (store.acceptedUserDocuments.lookup id).isSome then
    refuse 405 "UserDocumentAlreadyAccepted" "The specified document has already been accepted."
  else
    let contractId ← bodyField body "contractId"
    if !contractId.truthy then
      refuse 400 "ContractIdMissing" "ContractId must be specified in UserDocument payload."
    else
      let data ← bodyField body "data"
      if !data.truthy then
        refuse 400 "DataMissing" "data key must be present in UserDocument payload."
      else if !(← contractDraftExists store.ledger contractId) then
        refuse 404 "ContractNotFound" "A contract with the specified id was not found."
      else
        let incomingVersion ← bodyField body "version"
        checkVersion host ⟨"UserDocumentAlreadyExists", "document"⟩ store.userDocuments id
          incomingVersion
        let item := jsonObject [("contractId", contractId), ("data", data),
          ("labels", body.field "labels"), ("approvers", body.field "approvers")]
        let draft : Versioned := ⟨item, store.ledger.nextSeqno⟩
        return { store with userDocuments := store.userDocuments.insert id draft }

def UserStore.policySource (store : UserStore) : PolicySource where
  contract contractId := store.ledger.gov (.cleanRoomPolicy contractId)
  delegate _ := ∅

def isRuntimeOption (option : String) : Bool := option = "execution" || option = "telemetry"

def refuseRuntimeOption {Value : Type} : Except RequestFailure Value :=
  refuse 400 "InvalidUserDocumentRuntimeOption"
    "UserDocument runtime option must be either 'execution' or 'telemetry'."

def runtimeOptionKey (documentId option : String) : String := documentId ++ "_" ++ option

structure OptionStatus where
  status : RuntimeOptionStatus
  reason : Option (String × String)

/-- `Map.set`: a key that is there keeps its place. -/
def mapSet (entries : List (String × RuntimeOptionStatus)) (key : String)
    (value : RuntimeOptionStatus) : List (String × RuntimeOptionStatus) :=
  if (entries.lookup key).isSome then
    entries.map fun entry => if entry.1 = key then (key, value) else entry
  else entries ++ [(key, value)]

def disabledBy (entries : List (String × RuntimeOptionStatus)) : List String :=
  (entries.filter fun entry => decide (entry.2 = .disabled)).map Prod.fst

def runtimeOptionStatusOf (documentId option : String) (store : UserStore) : OptionStatus :=
  match store.runtimeOptionStatus.lookup (runtimeOptionKey documentId option) with
  | none => ⟨.enabled, none⟩
  | some entries =>
      if (disabledBy entries).isEmpty then ⟨.enabled, none⟩
      else
        let names := String.intercalate "," (disabledBy entries)
        ⟨.disabled, some ("UserDocumentRuntimeOptionDisabled",
          s!"UserDocument runtime option '{option}' for document {documentId} has been disabled " ++
            s!"by the following approver(s): m[{names}].")⟩

/-- `verifySnpAttestation(contractId, body.attestation)` of a consent check. -/
def checkConsentAttestation (host : CleanRoomHost) (contractId : String) (body : JsValue)
    (store : UserStore) : Except RequestFailure Unit := do
  if !(← bodyField body "attestation").truthy then
    refuse 400 "AttestationMissing" "Attestation payload must be supplied."
  else
    let _ ← orRefuse "VerifySnpAttestationFailed"
      (verifyCaciAttestation host store.policySource contractId (body.field "attestation") none)
    return ()

def checkUserDocumentRuntimeOption (host : CleanRoomHost) (caller : Caller)
    (contractId documentId option : String) (body : JsValue) (store : UserStore) :
    Except RequestFailure OptionStatus := do
  match caller with
  | .noAuth => checkConsentAttestation host contractId body store
  | _ => validateCallerAuthorized host.ccf store.ledger caller
  match store.acceptedUserDocuments.lookup documentId with
  | none =>
      return ⟨.disabled, some ("UserDocumentNotAccepted",
        s!"UserDocument {documentId} does not exist or has not been accepted.")⟩
  | some item =>
      if !isRuntimeOption option then refuseRuntimeOption
      else if !looselyEquals host.ccf contractId item.contractId then
        let found := host.ccf.text item.contractId
        refuse 400 "ContractIdMismatch" <|
          s!"The contractId value specified in the URL {contractId} and that in the " ++
            s!"UserDocument {found} don't match."
      else return runtimeOptionStatusOf documentId option store

def setUserDocumentRuntimeOptionStatus (host : CcfHost) (caller : Caller)
    (documentId option : String) (newStatus : RuntimeOptionStatus) (store : UserStore) :
    Except RequestFailure UserStore := do
  validateCallerAuthorized host store.ledger caller
  match store.acceptedUserDocuments.lookup documentId with
  | none =>
      refuse 400 "UserDocumentNotAccepted"
        s!"UserDocument {documentId} does not exist or has not been accepted."
  | some item =>
      if item.approvers.typeOf == .undefined then
        refuse 400 "ApproversNotFound" "An accepted UserDocument must have its approvers set."
      else
        let callerId ← getCallerId caller
        if !(← isApprover item.approvers callerId) then
          refuse 403 "NotUserDocumentApprover"
            "The caller is not an approver for this UserDocument."
        else if !isRuntimeOption option then refuseRuntimeOption
        else
          let key := runtimeOptionKey documentId option
          let entries := (store.runtimeOptionStatus.lookup key).getD []
          return { store with
            runtimeOptionStatus :=
              store.runtimeOptionStatus.insert key (mapSet entries callerId newStatus) }

end CleanRoom.Governance
