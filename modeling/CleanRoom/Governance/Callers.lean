import CleanRoom.Governance.Endpoints

/-!
# Who calls an endpoint of the governance app

`getCallerId` and `validateCallerAuthorized` of `utils.ts`. A certificate is
checked by CCF before the app runs, so it needs no further check here; a token
has to belong to a registered user of the same tenant.
-/

namespace CleanRoom.Governance

open JavaScript

/-- `request.caller`, by the policy that authenticated it. -/
inductive Caller where
  | memberCert (id : String)
  | userCert (id : String)
  | jwt (payload : JsValue)
  | noAuth

def raise {Value : Type} (message : String) : Except RequestFailure Value :=
  .error (.thrown message)

/-- `value.length` of a value that is neither `undefined` nor `null`. -/
def lengthProperty : JsValue → JsValue
  | .array items => .number items.length
  | .string text => .number (jsLength text)
  | other => other.field "length"

/-- The number that an operand of `==` is converted to. -/
def numericOperand (host : CcfHost) : JsValue → Option Rat
  | .number value => some value
  | .bool value => some (if value then 1 else 0)
  | .string text => host.numberOfText text
  | other => host.numberOfText (host.text other)

/-- `left == right`. Two arrays or objects of parsed documents are different
references. -/
def looseEqual (host : CcfHost) : JsValue → JsValue → Bool
  | .undefined, .undefined => true
  | .undefined, .null => true
  | .null, .undefined => true
  | .null, .null => true
  | .undefined, _ => false
  | .null, _ => false
  | .string text, right => looselyEquals host text right
  | left, .string text => looselyEquals host text left
  | .array _, .array _ => false
  | .array _, .object _ => false
  | .object _, .array _ => false
  | .object _, .object _ => false
  | _, .undefined => false
  | _, .null => false
  | left, right =>
      (numericOperand host left).isSome && numericOperand host left == numericOperand host right

def getCallerId : Caller → Except RequestFailure String
  | .memberCert id => .ok id
  | .userCert id => .ok id
  | .jwt payload => do
      match ← bodyField payload "oid" with
      | .undefined =>
          raise "OID claim is not present in the JWT token. Cannot get caller ID."
      | .string oid => return oid
      -- Every endpoint looks the id up among the identities first, and the key
      -- converter of that table takes nothing but a string.
      | _ => raise "TypeError: Argument must be a string"
  | .noAuth => raise "Unknown authentication policy: no_auth. Cannot get caller ID."

def validateCallerAuthorized (host : CcfHost) (ledger : Ledger) (caller : Caller) :
    Except RequestFailure Unit :=
  match caller with
  | .memberCert _ => .ok ()
  | .userCert _ => .ok ()
  | .jwt payload => do
      let callerId ← getCallerId caller
      match ledger.kvGet (.fixed .userIdentities) callerId with
      | none =>
          refuse 403 "CallerNotAuthorized"
            s!"User {callerId} is not authorized to invoke this endpoint."
      | some user =>
          let data ← bodyField user "data"
          let tenantId ← bodyField data "tenantId"
          let incomingTenantId := payload.field "tid"
          if looseEqual host tenantId incomingTenantId then .ok ()
          else
            let incoming := host.text incomingTenantId
            let expected := host.text tenantId
            refuse 403 "CallerTenantNotAuthorized" <|
              s!"Tenant {incoming} is not authorized to invoke this endpoint. " ++
                s!"Expected tenant ID is {expected}."
  | .noAuth =>
      refuse 400 "UnknownAuthenticationPolicy" "Validation for no_auth is not supported."

@[simp] theorem loosely_equals_string (host : CcfHost) (text other : String) :
    looselyEquals host text (.string other) = (text == other) := rfl

end CleanRoom.Governance
