import CleanRoom.ApiServerProxy.PolicyVerification
import Mathlib.Data.List.Dedup
import Mathlib.Data.List.Perm.Subperm

/-!
# What an admitted pod satisfies

The entry of a policy says what the container of its name must be like. The
controller allows a pod exactly when its policy is signed and every container
and init container satisfies the entry of its name.
-/

namespace CleanRoom.ApiServerProxy

open JsonText GoJson GoStruct ByteFile Throwing

/-- The variable is given by its value, and the last time it is given the value
is the one of the entry or matches its expression. -/
def EnvSatisfied (verifier : Verifier) (container : Fields) (policyEnv : EnvVar) : Prop :=
  ∃ value, LastEntry directEnv (objectItems (fieldOf container "env")) policyEnv.name value ∧
    if policyEnv.regex then
      verifier.regexMatch ("^" ++ policyEnv.value ++ "$") value = .ok true
    else value = policyEnv.value

def MountSatisfied (container : Fields) (policyMount : VolumeMount) : Prop :=
  ∃ mount, LastEntry ownMount (objectItems (fieldOf container "volumeMounts"))
      policyMount.name mount ∧
    mount.mountPath = policyMount.mountPath ∧ mount.readOnly = policyMount.readOnly

/-- The container is as its entry asks for. -/
structure Satisfies (verifier : Verifier) (policy : ContainerProperties) (container : Fields) :
    Prop where
  image : asText (fieldOf container "image") = policy.image
  command : policy.command.items = [] ∨
    stringItems (fieldOf container "command") = policy.command.items
  environment : ∀ env ∈ policy.environmentVariables.items, EnvSatisfied verifier container env
  mounts : ∀ mount ∈ policy.volumeMounts.items, MountSatisfied container mount
  privileged : asFlag (fieldOf (securityContextOf container) "privileged") = policy.privileged
  as_many_capabilities :
    (addedCapabilities container).length = policy.capabilities.items.length
  capabilities : ∀ capability ∈ policy.capabilities.items,
    ∃ added ∈ addedCapabilities container, verifier.toUpper added = verifier.toUpper capability

def Covered (verifier : Verifier) (policy : List ContainerPolicy) (container : Fields) : Prop :=
  asText (fieldOf container "name") ≠ "" ∧
    ∃ entry, LastEntry (fun entry : ContainerPolicy => some (entry.name, entry.properties)) policy
        (asText (fieldOf container "name")) entry ∧
      Satisfies verifier entry container

variable {verifier : Verifier} {policy : ContainerProperties} {container : Fields}
  {name containerType : String}

theorem check_command_iff :
    checkCommand container name containerType policy = .ok () ↔
      policy.command.items = [] ∨
        stringItems (fieldOf container "command") = policy.command.items := by
  unfold checkCommand
  by_cases empty : policy.command.items = []
  · simp [empty]
  · by_cases same : stringItems (fieldOf container "command") = policy.command.items
    · simp [same]
    · simp [empty, same]

theorem check_env_var_iff (verifier : Verifier) (container : Fields) (name containerType : String)
    (policyEnv : EnvVar) :
    checkEnvVar verifier (podEnvMap container) name containerType policyEnv = .ok () ↔
      EnvSatisfied verifier container policyEnv := by
  unfold checkEnvVar EnvSatisfied podEnvMap
  simp only [← lookup_filled]
  cases (filled directEnv (objectItems (fieldOf container "env"))).lookup policyEnv.name with
  | none => simp
  | some podValue =>
      simp only [Option.some.injEq, exists_eq_left']
      cases policyEnv.regex with
      | false =>
          by_cases same : podValue = policyEnv.value <;> simp [same]
      | true =>
          cases verifier.regexMatch ("^" ++ policyEnv.value ++ "$") podValue with
          | error message => simp
          | ok matched => cases matched <;> simp

theorem check_volume_mount_iff (container : Fields) (name containerType : String)
    (policyMount : VolumeMount) :
    checkVolumeMount (podMountsMap container) name containerType policyMount = .ok () ↔
      MountSatisfied container policyMount := by
  unfold checkVolumeMount MountSatisfied podMountsMap
  simp only [← lookup_filled]
  cases (filled ownMount (objectItems (fieldOf container "volumeMounts"))).lookup
      policyMount.name with
  | none => simp
  | some podMount =>
      simp only [Option.some.injEq, exists_eq_left']
      by_cases path : podMount.mountPath = policyMount.mountPath
      · by_cases readOnly : podMount.readOnly = policyMount.readOnly <;> simp [path, readOnly]
      · simp [path]

theorem capability_sets_equal_iff (a b : List String) :
    capabilitySetsEqual verifier a b = true ↔
      a.length = b.length ∧
        ∀ capability ∈ b, ∃ added ∈ a, verifier.toUpper added = verifier.toUpper capability := by
  simp [capabilitySetsEqual]

theorem check_security_context_iff :
    checkSecurityContext verifier container name containerType policy = .ok () ↔
      asFlag (fieldOf (securityContextOf container) "privileged") = policy.privileged ∧
        (addedCapabilities container).length = policy.capabilities.items.length ∧
        ∀ capability ∈ policy.capabilities.items, ∃ added ∈ addedCapabilities container,
          verifier.toUpper added = verifier.toUpper capability := by
  unfold checkSecurityContext
  rw [← capability_sets_equal_iff]
  by_cases privileged :
      asFlag (fieldOf (securityContextOf container) "privileged") = policy.privileged
  · cases equal : capabilitySetsEqual verifier (addedCapabilities container)
        policy.capabilities.items <;>
      simp [privileged, equal]
  · simp [privileged]

theorem checks_iff (image : asText (fieldOf container "image") = policy.image) :
    (do
      checkCommand container name containerType policy
      checkEnvVars verifier container name containerType policy
      checkVolumeMounts container name containerType policy
      checkSecurityContext verifier container name containerType policy) = .ok () ↔
        Satisfies verifier policy container := by
  simp only [then_eq_ok, checkEnvVars, checkVolumeMounts, forM_eq_ok,
    check_command_iff, check_env_var_iff, check_volume_mount_iff, check_security_context_iff]
  constructor
  · rintro ⟨command, environment, mounts, privileged, asMany, capabilities⟩
    exact ⟨image, command, environment, mounts, privileged, asMany, capabilities⟩
  · rintro ⟨_, command, environment, mounts, privileged, asMany, capabilities⟩
    exact ⟨command, environment, mounts, privileged, asMany, capabilities⟩

theorem check_container_iff (containerType : String) (policy : List ContainerPolicy) :
    checkContainer verifier containerType (policiesByName policy) container = .ok () ↔
      Covered verifier policy container := by
  unfold checkContainer Covered policiesByName
  simp only [← lookup_filled]
  by_cases unnamed : asText (fieldOf container "name") = ""
  · simp [unnamed]
  · rw [if_neg unnamed]
    simp only [unnamed, ne_eq, not_false_eq_true, true_and]
    cases (filled (fun entry : ContainerPolicy => some (entry.name, entry.properties))
        policy).lookup (asText (fieldOf container "name")) with
    | none => simp
    | some entry =>
        simp only [Option.some.injEq, exists_eq_left']
        by_cases image : asText (fieldOf container "image") = entry.image
        · rw [if_neg (not_not_intro image)]
          exact checks_iff image
        · rw [if_pos image]
          exact iff_of_false (by simp) fun satisfied => image satisfied.image

def checkedSections : List String := ["containers", "initContainers"]

def PodMatches (verifier : Verifier) (policy : List ContainerPolicy) (pod : Fields) : Prop :=
  ∃ spec, asObject (fieldOf pod "spec") = some spec ∧
    ∀ containerType ∈ checkedSections, ∀ container ∈ objectItems (fieldOf spec containerType),
      Covered verifier policy container

theorem check_pod_iff (verifier : Verifier) (pod : Fields) (policy : List ContainerPolicy) :
    checkPodAgainstPolicy verifier pod policy = .ok () ↔ PodMatches verifier policy pod := by
  unfold checkPodAgainstPolicy PodMatches
  cases asObject (fieldOf pod "spec") with
  | none => simp
  | some spec =>
      simp only [then_eq_ok, checkContainers, forM_eq_ok, check_container_iff,
        Option.some.injEq, exists_eq_left', checkedSections, List.forall_mem_cons,
        List.not_mem_nil, false_implies, implies_true, and_true]

def Signed (verifier : Verifier) (pod : Fields) (policyBytes : Bytes) : Prop :=
  ∃ signature signatureBytes, getAnnotation pod signatureAnnotation = some signature ∧
    decodeBase64 signature = some signatureBytes ∧
    verifier.verifySignature (verifier.sha256 policyBytes) signatureBytes = .ok ()

theorem check_signature_iff (policyBytes : Bytes) (signature : String) :
    checkSignature verifier policyBytes signature = .ok () ↔
      ∃ signatureBytes, decodeBase64 signature = some signatureBytes ∧
        verifier.verifySignature (verifier.sha256 policyBytes) signatureBytes = .ok () := by
  unfold checkSignature
  cases decodeBase64 signature with
  | none => simp
  | some signatureBytes =>
      simp only [Option.some.injEq, exists_eq_left']
      cases verifier.verifySignature (verifier.sha256 policyBytes) signatureBytes <;> simp

theorem admit_allowed (request : Request) :
    ((policyVerificationController verifier).admitRequest request).allowed = true ↔
      ∃ reason, admitReason verifier request.pod = .ok reason := by
  simp only [policyVerificationController]
  cases admitReason verifier request.pod <;> simp [allow, deny]

theorem admit_allows_iff (verifier : Verifier) (request : Request) (policyText : String)
    (policyBytes : Bytes)
    (annotated : getAnnotation request.pod policyAnnotation = some policyText)
    (decoded : decodeBase64 policyText = some policyBytes) :
    ((policyVerificationController verifier).admitRequest request).allowed = true ↔
      Signed verifier request.pod policyBytes ∧
        (isAllowAll policyBytes = true ∨ ∃ policy, decodePolicy policyBytes = some policy ∧
          PodMatches verifier policy request.pod) := by
  rw [admit_allowed]
  unfold admitReason Signed
  simp only [annotated, decoded]
  cases getAnnotation request.pod signatureAnnotation with
  | none => simp
  | some signature =>
      simp only [Option.some.injEq, exists_and_left, exists_eq_left', ← check_signature_iff]
      cases allowAll : isAllowAll policyBytes with
      | true =>
          simp only [if_true, then_eq_ok, true_or, and_true, exists_and_left]
          exact and_iff_left ⟨_, rfl⟩
      | false =>
          cases decodePolicy policyBytes with
          | none => simp
          | some policy =>
              simp only [Bool.false_eq_true, if_false, then_eq_ok, exists_and_left, false_or,
                Option.some.injEq, exists_eq_left', ← check_pod_iff]
              refine and_congr Iff.rfl ?_
              cases checkPodAgainstPolicy verifier request.pod policy with
              | error message => simp
              | ok done => simp [Pure.pure, Except.pure]

/-- Two lists of capabilities name the same capabilities up to case. -/
def SameCapabilities (verifier : Verifier) (a b : List String) : Prop :=
  ∀ capability, capability ∈ a.map verifier.toUpper ↔ capability ∈ b.map verifier.toUpper

/-- As many capabilities as the entry has, among them those of the entry, are
those of the entry, provided that the entry names none twice. -/
theorem same_capabilities (satisfied : Satisfies verifier policy container)
    (distinct : (policy.capabilities.items.map verifier.toUpper).Nodup) :
    SameCapabilities verifier (addedCapabilities container) policy.capabilities.items := by
  have included : policy.capabilities.items.map verifier.toUpper ⊆
      (addedCapabilities container).map verifier.toUpper := by
    intro upper member
    obtain ⟨capability, listed, rfl⟩ := List.mem_map.mp member
    obtain ⟨added, addedMember, same⟩ := satisfied.capabilities capability listed
    exact List.mem_map.mpr ⟨added, addedMember, same⟩
  have permuted := (List.subperm_of_subset distinct included).perm_of_length_le
    (by simp [satisfied.as_many_capabilities])
  intro capability
  exact permuted.mem_iff.symm

/-- In an allowed pod with a policy that does not allow everything, every
container and init container satisfies the entry of its name. -/
theorem admitted_pod_matches_policy (verifier : Verifier) (request : Request) (policyText : String)
    (policyBytes : Bytes)
    (annotated : getAnnotation request.pod policyAnnotation = some policyText)
    (decoded : decodeBase64 policyText = some policyBytes)
    (restricts : isAllowAll policyBytes = false)
    (allowed : ((policyVerificationController verifier).admitRequest request).allowed = true) :
    Signed verifier request.pod policyBytes ∧
      ∃ policy spec, decodePolicy policyBytes = some policy ∧
        asObject (fieldOf request.pod "spec") = some spec ∧
        ∀ container, container ∈ objectItems (fieldOf spec "containers") ∨
            container ∈ objectItems (fieldOf spec "initContainers") →
          asText (fieldOf container "name") ≠ "" ∧
          ∃ entry, LastEntry (fun entry : ContainerPolicy => some (entry.name, entry.properties))
              policy (asText (fieldOf container "name")) entry ∧
            Satisfies verifier entry container ∧
            ((entry.capabilities.items.map verifier.toUpper).Nodup →
              SameCapabilities verifier (addedCapabilities container)
                entry.capabilities.items) := by
  obtain ⟨signed, allowAll | ⟨policy, policyRead, spec, specRead, covered⟩⟩ :=
    (admit_allows_iff verifier request policyText policyBytes annotated decoded).mp allowed
  · rw [restricts] at allowAll
    cases allowAll
  · refine ⟨signed, policy, spec, policyRead, specRead, ?_⟩
    intro container listed
    have isCovered : Covered verifier policy container := by
      rcases listed with listed | listed
      · exact covered "containers" (by simp [checkedSections]) container listed
      · exact covered "initContainers" (by simp [checkedSections]) container listed
    obtain ⟨named, entry, last, satisfied⟩ := isCovered
    exact ⟨named, entry, last, satisfied, same_capabilities satisfied⟩

/-- `[{"name":"web","properties":{"image":"web:1","command":["run"]}}]` -/
def samplePolicyText : String :=
  "W3sibmFtZSI6IndlYiIsInByb3BlcnRpZXMiOnsiaW1hZ2UiOiJ3ZWI6MSIsImNvbW1hbmQiOlsicnVuIl19fV0="

def samplePolicyBytes : Bytes := (decodeBase64 samplePolicyText).getD []

def samplePolicy : List ContainerPolicy :=
  [{ ContainerPolicy.zero with
    name := "web"
    properties := { ContainerProperties.zero with image := "web:1", command := ⟨["run"], []⟩ } }]

def samplePolicyHash : Bytes :=
  [0xba, 0x80, 0x98, 0x43, 0x18, 0xaa, 0x63, 0xc4, 0xb7, 0xc4, 0x89, 0x06, 0xae, 0xe4,
    0xbb, 0xc8, 0x49, 0x15, 0xb4, 0xd2, 0x88, 0x3f, 0x33, 0x94, 0xf9, 0x0d, 0x09, 0x9c,
    0x33, 0xe6, 0x0a, 0x5d]

def sampleVerifier : Verifier where
  sha256 _ := samplePolicyHash
  verifySignature hash signature :=
    if hash = samplePolicyHash ∧ signature = [0x73, 0x69, 0x67] then .ok ()
    else .error "crypto/rsa: verification error"
  regexMatch pattern value := .ok (pattern = "^" ++ value ++ "$")
  unicodeUpper char := char
  unmarshalError _ := "invalid policy"

def sampleContainer (more : Fields) : Json :=
  .object (more ++ [("command", .array [.string "run"]), ("image", .string "web:1"),
    ("name", .string "web")])

def policyAnnotations (policyText : String) : Fields :=
  [Prod.mk policyAnnotation (.string policyText), Prod.mk signatureAnnotation (.string "c2ln")]

def podOf (policyText : String) (spec : Fields) : Fields :=
  [("metadata", .object [("annotations", .object (policyAnnotations policyText))]),
    ("spec", .object spec)]

def samplePod (spec : Fields) : Fields := podOf samplePolicyText spec

def sampleRequest (spec : Fields) : Request := ⟨"default", "web", samplePod spec, []⟩

theorem sample_policy_decoded : decodeBase64 samplePolicyText = some samplePolicyBytes := by
  decide +kernel

theorem sample_policy_read : decodePolicy samplePolicyBytes = some samplePolicy := by
  decide +kernel

theorem sample_policy_restricts : isAllowAll samplePolicyBytes = false := by
  decide +kernel

theorem sample_pod_allowed (spec : Fields)
    (checked : checkPodAgainstPolicy sampleVerifier (samplePod spec) samplePolicy = .ok ()) :
    ((policyVerificationController sampleVerifier).admitRequest
      (sampleRequest spec)).allowed = true := by
  refine (admit_allows_iff sampleVerifier (sampleRequest spec) samplePolicyText samplePolicyBytes
    rfl sample_policy_decoded).mpr ⟨⟨"c2ln", [0x73, 0x69, 0x67], rfl, by decide, rfl⟩, .inr ?_⟩
  exact ⟨samplePolicy, sample_policy_read, (check_pod_iff _ _ _).mp checked⟩

/-- The policy of a container with two variables, one of them by a regular expression, a mount
and a capability, and of another one. -/
def webPolicyBytes : Bytes :=
  (print (.array [.object [("name", .string "setup"),
      ("properties", .object [("image", .string "setup:1")])],
    .object [("name", .string "web"), ("properties", .object [("image", .string "web:1"),
      ("command", .array [.string "run"]),
      ("environmentVariables", .array [
        .object [("name", .string "MODE"), ("value", .string "prod")],
        .object [("name", .string "PORT"), ("value", .string "80"), ("regex", .bool true)]]),
      ("volumeMounts", .array [.object [("name", .string "data"), ("mountPath", .string "/data"),
        ("readOnly", .bool true)]]),
      ("capabilities", .array [.string "NET_ADMIN"])])]])).map fun char => char.toNat.toUInt8

def webPolicyText : String := Encodings.toBase64String webPolicyBytes

def webProperties : ContainerProperties :=
  ⟨"web:1", ⟨["run"], []⟩, ⟨[⟨"MODE", "prod", false⟩, ⟨"PORT", "80", true⟩], []⟩,
    ⟨[⟨"data", "/data", "", true⟩], []⟩, false, ⟨["NET_ADMIN"], []⟩⟩

def webPolicy : List ContainerPolicy :=
  [⟨"setup", { ContainerProperties.zero with image := "setup:1" }⟩, ⟨"web", webProperties⟩]

def webContainer : Fields :=
  [("command", .array [.string "run"]),
    ("env", .array [.object [("name", .string "PORT"), ("value", .string "80")],
      .object [("name", .string "MODE"), ("value", .string "prod")]]),
    ("image", .string "web:1"), ("name", .string "web"),
    ("securityContext", .object
      [("capabilities", .object [("add", .array [.string "NET_ADMIN"])])]),
    ("volumeMounts", .array [.object [("mountPath", .string "/data"), ("name", .string "data"),
      ("readOnly", .bool true)]])]

def webSpec : Fields :=
  [("containers", .array [.object webContainer]),
    ("initContainers", .array
      [.object [("image", .string "setup:1"), ("name", .string "setup")]])]

theorem web_policy_read : decodePolicy webPolicyBytes = some webPolicy := by
  decide +kernel

def webRequest : Request := ⟨"default", "web", podOf webPolicyText webSpec, []⟩

theorem web_container_covered : Covered sampleVerifier webPolicy webContainer := by
  have environment : checkEnvVars sampleVerifier webContainer "web" "containers" webProperties =
      .ok () := by decide +kernel
  have mounts : checkVolumeMounts webContainer "web" "containers" webProperties = .ok () := by
    decide +kernel
  simp only [checkEnvVars, forM_eq_ok, check_env_var_iff] at environment
  simp only [checkVolumeMounts, forM_eq_ok, check_volume_mount_iff] at mounts
  exact ⟨by decide, webProperties, (lookup_filled _ _ _ _).mp rfl, rfl, .inr rfl, environment,
    mounts, rfl, rfl, fun capability listed => ⟨capability, listed, rfl⟩⟩

theorem web_request_allowed :
    ((policyVerificationController sampleVerifier).admitRequest webRequest).allowed = true := by
  refine (admit_allows_iff sampleVerifier webRequest webPolicyText webPolicyBytes rfl
    (decode_to_base64 _)).mpr ⟨⟨"c2ln", [0x73, 0x69, 0x67], rfl, by decide, rfl⟩,
      .inr ⟨webPolicy, web_policy_read, webSpec, rfl, ?_⟩⟩
  intro containerType checked container listed
  rcases List.mem_cons.mp checked with rfl | checked
  · cases List.mem_singleton.mp listed
    exact web_container_covered
  · cases List.mem_singleton.mp checked
    cases List.mem_singleton.mp listed
    exact (check_container_iff "initContainers" webPolicy).mp (by decide +kernel)

theorem matching_pod_satisfies_policy :
    ∃ entry, LastEntry (fun entry : ContainerPolicy => some (entry.name, entry.properties))
        webPolicy "web" entry ∧
      Satisfies sampleVerifier entry webContainer := by
  obtain ⟨_, policy, spec, policyRead, specRead, covered⟩ :=
    admitted_pod_matches_policy sampleVerifier webRequest webPolicyText webPolicyBytes rfl
      (decode_to_base64 _) (by decide +kernel) web_request_allowed
  have samePolicy := Option.some.inj (policyRead.symm.trans web_policy_read)
  have sameSpec : webSpec = spec := Option.some.inj specRead
  subst samePolicy sameSpec
  obtain ⟨_, entry, last, satisfied, _⟩ :=
    covered webContainer (.inl (List.mem_singleton.mpr rfl))
  exact ⟨entry, last, satisfied⟩

/-- The policy says nothing about arguments, ephemeral containers and the
namespaces of the host, and the controller does not look at them. -/
theorem unlisted_container_admitted :
    let spec : Fields := [
      ("containers", .array [sampleContainer [("args", .array [.string "--debug"])]]),
      ("ephemeralContainers", .array [.object
        [("image", .string "shell:1"), ("name", .string "shell")]]),
      ("hostIPC", .bool true), ("hostNetwork", .bool true), ("hostPID", .bool true)]
    isAllowAll samplePolicyBytes = false ∧
      Signed sampleVerifier (samplePod spec) samplePolicyBytes ∧
      ((policyVerificationController sampleVerifier).admitRequest
        (sampleRequest spec)).allowed = true ∧
      decodePolicy samplePolicyBytes = some samplePolicy ∧
      ∃ container ∈ objectItems (fieldOf spec "ephemeralContainers"),
        ∀ entry ∈ samplePolicy, entry.name ≠ asText (fieldOf container "name") := by
  refine ⟨sample_policy_restricts, ⟨"c2ln", [0x73, 0x69, 0x67], rfl, by decide, rfl⟩,
    sample_pod_allowed _ rfl, sample_policy_read, _, List.mem_singleton.mpr rfl, ?_⟩
  decide

/-- How many names a list of capabilities has, up to letter case. -/
def differentCapabilities (verifier : Verifier) (capabilities : List String) : Nat :=
  (capabilities.map verifier.toUpper).dedup.length

theorem no_more_capabilities_iff (verifier : Verifier) (a b : List String)
    (included : b.map verifier.toUpper ⊆ a.map verifier.toUpper) :
    a.map verifier.toUpper ⊆ b.map verifier.toUpper ↔
      differentCapabilities verifier a = differentCapabilities verifier b := by
  have fewer : (b.map verifier.toUpper).dedup.Subperm (a.map verifier.toUpper).dedup := by
    apply List.subperm_of_subset (List.nodup_dedup _)
    intro name member
    exact List.mem_dedup.mpr (included (List.mem_dedup.mp member))
  constructor
  · intro covered
    have more : (a.map verifier.toUpper).dedup.Subperm (b.map verifier.toUpper).dedup := by
      apply List.subperm_of_subset (List.nodup_dedup _)
      intro name member
      exact List.mem_dedup.mpr (covered (List.mem_dedup.mp member))
    exact Nat.le_antisymm more.length_le fewer.length_le
  · intro asMany name member
    have permuted := fewer.perm_of_length_le (Nat.le_of_eq asMany)
    exact List.mem_dedup.mp (permuted.mem_iff.mpr (List.mem_dedup.mpr member))

/-- The comparison is exact unless the lengths of the lists and the numbers of their names
disagree about whether the first has more. -/
theorem capability_comparison_exact_iff (verifier : Verifier) (a b : List String) :
    (capabilitySetsEqual verifier a b = true ↔ SameCapabilities verifier a b) ↔
      (b.map verifier.toUpper ⊆ a.map verifier.toUpper →
        (a.length = b.length ↔
          differentCapabilities verifier a = differentCapabilities verifier b)) := by
  have compared : capabilitySetsEqual verifier a b = true ↔
      a.length = b.length ∧ b.map verifier.toUpper ⊆ a.map verifier.toUpper := by
    rw [capability_sets_equal_iff]
    simp [List.subset_def]
  have same : SameCapabilities verifier a b ↔
      a.map verifier.toUpper ⊆ b.map verifier.toUpper ∧
        b.map verifier.toUpper ⊆ a.map verifier.toUpper := by
    constructor
    · intro names
      exact ⟨fun name => (names name).mp, fun name => (names name).mpr⟩
    · rintro ⟨covered, included⟩ name
      exact ⟨fun member => covered member, fun member => included member⟩
  rw [compared, same]
  rcases Classical.em (b.map verifier.toUpper ⊆ a.map verifier.toUpper) with included | missing
  · simp only [included, and_true, forall_const, no_more_capabilities_iff verifier a b included]
  · simp only [missing, and_false, iff_self, false_implies]

theorem sample_to_upper (value : String) :
    sampleVerifier.toUpper value = String.ofList (value.toList.map fun char =>
      if char.toNat < 128 then char.toUpper else char) := by
  apply String.toList_inj.mp
  simp [Verifier.toUpper, sampleVerifier, String.toList_map]

/-- A capability that the policy names twice makes room for another one in the pod. -/
theorem repeated_capability_equal :
    let added := ["NET_ADMIN", "SYS_ADMIN"]
    let listed := ["net_admin", "NET_ADMIN"]
    capabilitySetsEqual sampleVerifier added listed = true ∧
      ¬ SameCapabilities sampleVerifier added listed := by
  simp only [capabilitySetsEqual, SameCapabilities, sample_to_upper, List.map_cons, List.map_nil]
  refine ⟨by decide, ?_⟩
  intro same
  have missing : "SYS_ADMIN" ∉ ["NET_ADMIN", "NET_ADMIN"] := by decide
  exact missing ((same "SYS_ADMIN").mp (by decide))

end CleanRoom.ApiServerProxy
