import CleanRoom.ApiServerProxy.Admission
import CleanRoom.Library.GoStruct
import CleanRoom.Library.Throwing

/-!
# Verification of pod policies

The controller reads a policy and its signature from the annotations of a pod,
checks the signature over the decoded policy and compares the containers and
the init containers of the pod with the entries of the policy. The pod is the
untyped document that the API server sent.
-/

namespace CleanRoom.ApiServerProxy

open JsonText GoJson GoStruct ByteFile Throwing

structure EnvVar where
  name : String
  value : String
  regex : Bool
deriving DecidableEq

structure VolumeMount where
  name : String
  mountPath : String
  mountType : String
  readOnly : Bool
deriving DecidableEq

structure ContainerProperties where
  image : String
  command : Slice String
  environmentVariables : Slice EnvVar
  volumeMounts : Slice VolumeMount
  privileged : Bool
  capabilities : Slice String
deriving DecidableEq

structure ContainerPolicy where
  name : String
  properties : ContainerProperties
deriving DecidableEq

def EnvVar.zero : EnvVar := ⟨"", "", false⟩

def VolumeMount.zero : VolumeMount := ⟨"", "", "", false⟩

def ContainerProperties.zero : ContainerProperties := ⟨"", .empty, .empty, .empty, false, .empty⟩

def ContainerPolicy.zero : ContainerPolicy := ⟨"", .zero⟩

def decodeEnvVar : Decoder EnvVar := struct [
  ("name", part EnvVar.name (fun env name => { env with name }) text),
  ("value", part EnvVar.value (fun env value => { env with value }) text),
  ("regex", part EnvVar.regex (fun env regex => { env with regex }) flag)]

def decodeVolumeMount : Decoder VolumeMount := struct [
  ("name", part VolumeMount.name (fun mount name => { mount with name }) text),
  ("mountPath", part VolumeMount.mountPath (fun mount mountPath => { mount with mountPath }) text),
  ("mountType", part VolumeMount.mountType (fun mount mountType => { mount with mountType }) text),
  ("readOnly", part VolumeMount.readOnly (fun mount readOnly => { mount with readOnly }) flag)]

def decodeContainerProperties : Decoder ContainerProperties := struct [
  ("image", part ContainerProperties.image
    (fun properties image => { properties with image }) text),
  ("command", part ContainerProperties.command
    (fun properties command => { properties with command }) (slice "" text)),
  ("environmentVariables", part ContainerProperties.environmentVariables
    (fun properties environmentVariables => { properties with environmentVariables })
    (slice .zero decodeEnvVar)),
  ("volumeMounts", part ContainerProperties.volumeMounts
    (fun properties volumeMounts => { properties with volumeMounts })
    (slice .zero decodeVolumeMount)),
  ("privileged", part ContainerProperties.privileged
    (fun properties privileged => { properties with privileged }) flag),
  ("capabilities", part ContainerProperties.capabilities
    (fun properties capabilities => { properties with capabilities }) (slice "" text))]

def decodeContainerPolicy : Decoder ContainerPolicy := struct [
  ("name", part ContainerPolicy.name (fun policy name => { policy with name }) text),
  ("properties", part ContainerPolicy.properties
    (fun policy properties => { policy with properties }) decodeContainerProperties)]

def decodePolicy (policyBytes : Bytes) : Option (List ContainerPolicy) :=
  (unmarshalInto (slice .zero decodeContainerPolicy) .empty policyBytes).map Slice.items

/-- `json.Unmarshal(policyBytes, &allowAllCheck)` gives the one text `allowall`. -/
def isAllowAll (policyBytes : Bytes) : Bool :=
  (unmarshalInto (slice "" text) .empty policyBytes).map Slice.items = some ["allowall"]

def asText : Json → String
  | .string value => value
  | _ => ""

def asFlag : Json → Bool
  | .bool value => value
  | _ => false

def asObject : Json → Option Fields
  | .object fields => some fields
  | _ => none

def asArray : Json → Option (List Json)
  | .array items => some items
  | _ => none

def isNil : Json → Bool
  | .null => true
  | _ => false

def stringItem : Json → Option String
  | .string value => some value
  | _ => none

def objectItems (value : Json) : List Fields := ((asArray value).getD []).filterMap asObject

def stringItems (value : Json) : List String := ((asArray value).getD []).filterMap stringItem

def getAnnotation (pod : Fields) (key : String) : Option String := do
  let metadata ← asObject (fieldOf pod "metadata")
  let annotations ← asObject (fieldOf metadata "annotations")
  stringItem (fieldOf annotations key)

/-- What the controller takes from outside: the key it was created with and the
libraries for hashing, matching and case conversion. -/
structure Verifier where
  sha256 : Bytes → Bytes
  verifySignature : Bytes → Bytes → Except String Unit
  /-- `regexp.MatchString` of a pattern and a text. -/
  regexMatch : String → String → Except String Bool
  /-- `unicode.ToUpper` of a character that is not ASCII. -/
  unicodeUpper : Char → Char
  /-- The text of the error with which a policy is not decoded. -/
  unmarshalError : Bytes → String

def Verifier.toUpper (verifier : Verifier) (value : String) : String :=
  value.map fun char => if char.toNat < 128 then char.toUpper else verifier.unicodeUpper char

/-- `%v` of a list of strings. -/
def formatStrings (values : List String) : String := "[" ++ " ".intercalate values ++ "]"

def checkCommand (container : Fields) (name containerType : String)
    (policy : ContainerProperties) : Except String Unit :=
  let podCommand := stringItems (fieldOf container "command")
  -- A policy without a command allows any command.
  if policy.command.items = [] then .ok ()
  else if podCommand ≠ policy.command.items then
    .error (s!"{containerType} '{name}': command {formatStrings podCommand} does not match " ++
      s!"policy command {formatStrings policy.command.items}")
  else .ok ()

def directEnv (env : Fields) : Option (String × String) :=
  if asText (fieldOf env "name") ≠ "" ∧ isNil (fieldOf env "valueFrom") then
    some (asText (fieldOf env "name"), asText (fieldOf env "value"))
  else none

def podEnvMap (container : Fields) : List (String × String) :=
  filled directEnv (objectItems (fieldOf container "env"))

def checkEnvVar (verifier : Verifier) (podEnv : List (String × String))
    (name containerType : String) (policyEnv : EnvVar) : Except String Unit :=
  match podEnv.lookup policyEnv.name with
  | none =>
      .error (s!"{containerType} '{name}': env var '{policyEnv.name}' required by policy but " ++
        "not found in pod")
  | some podValue =>
      if policyEnv.regex then
        match verifier.regexMatch ("^" ++ policyEnv.value ++ "$") podValue with
        | .ok true => .ok ()
        | _ =>
            .error (s!"{containerType} '{name}': env var '{policyEnv.name}' value '{podValue}' " ++
              s!"does not match policy regex '{policyEnv.value}'")
      else if podValue ≠ policyEnv.value then
        .error (s!"{containerType} '{name}': env var '{policyEnv.name}' value '{podValue}' " ++
          s!"does not match policy value '{policyEnv.value}'")
      else .ok ()

def checkEnvVars (verifier : Verifier) (container : Fields) (name containerType : String)
    (policy : ContainerProperties) : Except String Unit :=
  policy.environmentVariables.items.forM
    (checkEnvVar verifier (podEnvMap container) name containerType)

def readMount (mount : Fields) : VolumeMount where
  name := asText (fieldOf mount "name")
  mountPath := asText (fieldOf mount "mountPath")
  mountType := ""
  readOnly := asFlag (fieldOf mount "readOnly")

def isInjectedMount (mount : VolumeMount) : Bool :=
  mount.name.startsWith "kube-api-access-" ||
    mount.mountPath = "/var/run/secrets/kubernetes.io/serviceaccount"

def ownMount (mount : Fields) : Option (String × VolumeMount) :=
  if isInjectedMount (readMount mount) then none else some ((readMount mount).name, readMount mount)

def podMountsMap (container : Fields) : List (String × VolumeMount) :=
  filled ownMount (objectItems (fieldOf container "volumeMounts"))

def checkVolumeMount (podMounts : List (String × VolumeMount)) (name containerType : String)
    (policyMount : VolumeMount) : Except String Unit :=
  match podMounts.lookup policyMount.name with
  | none =>
      .error (s!"{containerType} '{name}': volume mount '{policyMount.name}' required by policy " ++
        "but not found in pod")
  | some podMount =>
      if podMount.mountPath ≠ policyMount.mountPath then
        .error (s!"{containerType} '{name}': volume mount '{policyMount.name}' mountPath " ++
          s!"'{podMount.mountPath}' does not match policy '{policyMount.mountPath}'")
      else if podMount.readOnly ≠ policyMount.readOnly then
        .error (s!"{containerType} '{name}': volume mount '{policyMount.name}' " ++
          s!"readOnly={podMount.readOnly} does not match policy readOnly={policyMount.readOnly}")
      else .ok ()

def checkVolumeMounts (container : Fields) (name containerType : String)
    (policy : ContainerProperties) : Except String Unit :=
  policy.volumeMounts.items.forM (checkVolumeMount (podMountsMap container) name containerType)

def capabilitySetsEqual (verifier : Verifier) (a b : List String) : Bool :=
  a.length = b.length && b.all fun capability =>
    (a.map verifier.toUpper).contains (verifier.toUpper capability)

/-- A container without a security context has none of its settings. -/
def securityContextOf (container : Fields) : Fields :=
  (asObject (fieldOf container "securityContext")).getD []

def addedCapabilities (container : Fields) : List String :=
  match asObject (fieldOf (securityContextOf container) "capabilities") with
  | some capabilities => stringItems (fieldOf capabilities "add")
  | none => []

def checkSecurityContext (verifier : Verifier) (container : Fields) (name containerType : String)
    (policy : ContainerProperties) : Except String Unit :=
  let privileged := asFlag (fieldOf (securityContextOf container) "privileged")
  let podCaps := addedCapabilities container
  if privileged ≠ policy.privileged then
    .error (s!"{containerType} '{name}': privileged={privileged} does not match policy " ++
      s!"privileged={policy.privileged}")
  else if capabilitySetsEqual verifier podCaps policy.capabilities.items = false then
    .error (s!"{containerType} '{name}': capabilities {formatStrings podCaps} do not match " ++
      s!"policy capabilities {formatStrings policy.capabilities.items}")
  else .ok ()

def checkContainer (verifier : Verifier) (containerType : String)
    (containerPolicies : List (String × ContainerProperties)) (container : Fields) :
    Except String Unit :=
  let name := asText (fieldOf container "name")
  if name = "" then
    .error s!"{containerType} has container without name"
  else
    match containerPolicies.lookup name with
    | none => .error s!"{containerType} '{name}' not found in policy"
    | some policy =>
        let image := asText (fieldOf container "image")
        if image ≠ policy.image then
          .error (s!"{containerType} '{name}': image '{image}' does not match policy image " ++
            s!"'{policy.image}'")
        else do
          checkCommand container name containerType policy
          checkEnvVars verifier container name containerType policy
          checkVolumeMounts container name containerType policy
          checkSecurityContext verifier container name containerType policy

def checkContainers (verifier : Verifier) (spec : Fields) (containerType : String)
    (containerPolicies : List (String × ContainerProperties)) : Except String Unit :=
  (objectItems (fieldOf spec containerType)).forM
    (checkContainer verifier containerType containerPolicies)

def policiesByName (policy : List ContainerPolicy) : List (String × ContainerProperties) :=
  filled (fun entry => some (entry.name, entry.properties)) policy

def checkPodAgainstPolicy (verifier : Verifier) (pod : Fields) (policy : List ContainerPolicy) :
    Except String Unit :=
  match asObject (fieldOf pod "spec") with
  | none => .error "pod has no spec"
  | some spec => do
      checkContainers verifier spec "containers" (policiesByName policy)
      checkContainers verifier spec "initContainers" (policiesByName policy)

def policyAnnotation : String := "api-server-proxy.io/policy"

def signatureAnnotation : String := "api-server-proxy.io/signature"

def checkSignature (verifier : Verifier) (policyBytes : Bytes) (signature : String) :
    Except String Unit :=
  match decodeBase64 signature with
  | none => .error "invalid signature encoding: must be base64"
  | some signatureBytes =>
      match verifier.verifySignature (verifier.sha256 policyBytes) signatureBytes with
      | .error message => .error s!"policy signature verification failed: {message}"
      | .ok () => .ok ()

def admitReason (verifier : Verifier) (pod : Fields) : Except String String :=
  match getAnnotation pod policyAnnotation with
  | none =>
      .error ("pod policy required but not found (missing annotation: " ++ policyAnnotation ++ ")")
  | some policyText =>
      match getAnnotation pod signatureAnnotation with
      | none =>
          .error ("pod signature required but not found (missing annotation: " ++
            signatureAnnotation ++ ")")
      | some signature =>
          match decodeBase64 policyText with
          | none => .error "invalid policy encoding: must be base64"
          | some policyBytes =>
              if isAllowAll policyBytes then do
                checkSignature verifier policyBytes signature
                return "pod has signed allowall policy"
              else
                match decodePolicy policyBytes with
                | none => .error s!"invalid policy JSON: {verifier.unmarshalError policyBytes}"
                | some policy => do
                    checkSignature verifier policyBytes signature
                    match checkPodAgainstPolicy verifier pod policy with
                    | .error message => .error s!"pod does not match policy: {message}"
                    | .ok () => return "pod matches signed policy"

def policyVerificationController (verifier : Verifier) : Controller where
  name := "policy-verification"
  admitRequest request :=
    match admitReason verifier request.pod with
    | .ok reason => allow reason
    | .error reason => deny reason

end CleanRoom.ApiServerProxy
