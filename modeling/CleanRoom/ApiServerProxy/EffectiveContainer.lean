import CleanRoom.ApiServerProxy.PodAdmission

/-!
# What a checked container gets

The checks of variables and mounts read the lists of a container into maps, by name. The
kubelet goes through the lists: the last entry of a variable wins, whether it has a value or
a reference, and every mount is made. This module compares the two, for the names that the
policy lists.
-/

namespace CleanRoom.ApiServerProxy

open JsonText GoJson GoStruct Throwing

def envEntries (container : Fields) (name : String) : List Fields :=
  (objectItems (fieldOf container "env")).filter fun env => asText (fieldOf env "name") = name

def isReference (env : Fields) : Bool := !isNil (fieldOf env "valueFrom")

def effectiveEnv (container : Fields) (name : String) : Option Fields :=
  (envEntries container name).getLast?

def mountEntries (container : Fields) (name : String) : List Fields :=
  (objectItems (fieldOf container "volumeMounts")).filter fun mount =>
    (readMount mount).name = name

def Admits (verifier : Verifier) (policyEnv : EnvVar) (value : String) : Prop :=
  if policyEnv.regex then
    verifier.regexMatch ("^" ++ policyEnv.value ++ "$") value = .ok true
  else value = policyEnv.value

structure GivenAs (verifier : Verifier) (policyEnv : EnvVar) (env : Fields) : Prop where
  literal : isReference env = false
  admitted : Admits verifier policyEnv (asText (fieldOf env "value"))

structure EnvExact (verifier : Verifier) (container : Fields) (policyEnv : EnvVar) : Prop where
  effective : ∃ env, effectiveEnv container policyEnv.name = some env ∧
    GivenAs verifier policyEnv env
  each : ∀ env ∈ envEntries container policyEnv.name, GivenAs verifier policyEnv env

/-- The volume is mounted, and only where the policy says. -/
structure MountExact (container : Fields) (policyMount : VolumeMount) : Prop where
  mounted : mountEntries container policyMount.name ≠ []
  each : ∀ mount ∈ mountEntries container policyMount.name,
    (readMount mount).mountPath = policyMount.mountPath

structure ContainerExact (verifier : Verifier) (policy : ContainerProperties)
    (container : Fields) : Prop where
  environment : ∀ env ∈ policy.environmentVariables.items, EnvExact verifier container env
  mounts : ∀ mount ∈ policy.volumeMounts.items, MountExact container mount

def ownMountEntries (container : Fields) (name : String) : List Fields :=
  (mountEntries container name).filter fun mount => !isInjectedMount (readMount mount)

/-- What the maps leave out agrees with the policy: a listed variable has no reference, its
entries before the last are admitted too, and the other mounts of a listed volume are made
where the policy says. -/
structure LeftOutAgrees (verifier : Verifier) (policy : ContainerProperties)
    (container : Fields) : Prop where
  noReference : ∀ policyEnv ∈ policy.environmentVariables.items,
    ∀ env ∈ envEntries container policyEnv.name, isReference env = false
  earlier : ∀ policyEnv ∈ policy.environmentVariables.items,
    ∀ env ∈ (envEntries container policyEnv.name).dropLast,
      Admits verifier policyEnv (asText (fieldOf env "value"))
  injected : ∀ policyMount ∈ policy.volumeMounts.items,
    ∀ mount ∈ mountEntries container policyMount.name, isInjectedMount (readMount mount) = true →
      (readMount mount).mountPath = policyMount.mountPath
  earlierMounts : ∀ policyMount ∈ policy.volumeMounts.items,
    ∀ mount ∈ (ownMountEntries container policyMount.name).dropLast,
      (readMount mount).mountPath = policyMount.mountPath

theorem direct_env_named (env : Fields) (name : String) (named : name ≠ "")
    (same : asText (fieldOf env "name") = name) (literal : isReference env = false) :
    directEnv env = some (name, asText (fieldOf env "value")) := by
  have isDirect : isNil (fieldOf env "valueFrom") = true := by
    unfold isReference at literal
    simpa using literal
  unfold directEnv
  rw [same, if_pos ⟨named, isDirect⟩]

theorem direct_env_some (env : Fields) (name value : String)
    (read : directEnv env = some (name, value)) :
    name ≠ "" ∧ asText (fieldOf env "name") = name ∧ asText (fieldOf env "value") = value := by
  unfold directEnv at read
  split at read
  next both =>
    cases read
    exact ⟨both.1, rfl, rfl⟩
  · cases read

theorem own_mount_some (entry : Fields) (name : String) (mount : VolumeMount)
    (read : ownMount entry = some (name, mount)) :
    isInjectedMount (readMount entry) = false ∧ (readMount entry).name = name ∧
      mount = readMount entry := by
  unfold ownMount at read
  split at read
  · cases read
  next own =>
    cases read
    exact ⟨Bool.eq_false_iff.mpr own, rfl, rfl⟩

theorem env_entries_last (container : Fields) (name value : String)
    (last : LastEntry directEnv (objectItems (fieldOf container "env")) name value)
    (literal : ∀ env ∈ envEntries container name, isReference env = false) :
    ∃ before env, envEntries container name = before ++ [env] ∧
      asText (fieldOf env "value") = value := by
  obtain ⟨before, env, after, split, read, unread⟩ := last
  obtain ⟨named, same, given⟩ := direct_env_some env name value read
  have entries : envEntries container name =
      before.filter (fun env => asText (fieldOf env "name") = name) ++ env ::
        after.filter fun env => asText (fieldOf env "name") = name := by
    unfold envEntries
    rw [split, List.filter_append, List.filter_cons_of_pos (by simpa using same)]
  have nothing : after.filter (fun env => decide (asText (fieldOf env "name") = name)) = [] := by
    rw [List.filter_eq_nil_iff]
    intro later member isNamed
    have laterSame := of_decide_eq_true isNamed
    have listed : later ∈ envEntries container name := by
      rw [entries]
      apply List.mem_append_right
      apply List.mem_cons_of_mem
      exact List.mem_filter.mpr ⟨member, isNamed⟩
    exact unread later member _ (direct_env_named later name named laterSame (literal later listed))
  rw [nothing] at entries
  exact ⟨_, env, entries, given⟩

theorem own_mounts_last (container : Fields) (name : String) (mount : VolumeMount)
    (last : LastEntry ownMount (objectItems (fieldOf container "volumeMounts")) name mount) :
    ∃ before entry, ownMountEntries container name = before ++ [entry] ∧
      readMount entry = mount := by
  obtain ⟨before, entry, after, split, read, unread⟩ := last
  obtain ⟨own, same, given⟩ := own_mount_some entry name mount read
  have kept : (!isInjectedMount (readMount entry)) = true := by rw [own]; rfl
  have nothing : (after.filter fun mount => decide ((readMount mount).name = name)).filter
      (fun mount => !isInjectedMount (readMount mount)) = [] := by
    rw [List.filter_eq_nil_iff]
    intro later member isOwn
    obtain ⟨inAfter, isNamed⟩ := List.mem_filter.mp member
    apply unread later inAfter (readMount later)
    unfold ownMount
    rw [if_neg (by simpa using isOwn), of_decide_eq_true isNamed]
  refine ⟨(before.filter fun mount => decide ((readMount mount).name = name)).filter
    (fun mount => !isInjectedMount (readMount mount)), entry, ?_, given.symm⟩
  unfold ownMountEntries mountEntries
  rw [split, List.filter_append, List.filter_cons_of_pos (by simpa using same),
    List.filter_append, List.filter_cons_of_pos (by simpa using kept), nothing]

section Exact

variable {verifier : Verifier} {policy : ContainerProperties} {container : Fields}

theorem env_exact (policyEnv : EnvVar) (satisfied : EnvSatisfied verifier container policyEnv)
    (literal : ∀ env ∈ envEntries container policyEnv.name, isReference env = false)
    (earlier : ∀ env ∈ (envEntries container policyEnv.name).dropLast,
      Admits verifier policyEnv (asText (fieldOf env "value"))) :
    EnvExact verifier container policyEnv := by
  obtain ⟨value, last, admits⟩ := satisfied
  obtain ⟨before, env, entries, given⟩ := env_entries_last container _ value last literal
  have lastGiven : GivenAs verifier policyEnv env := by
    constructor
    · apply literal
      rw [entries]
      exact List.mem_append_right _ List.mem_cons_self
    · rw [given]
      exact admits
  constructor
  · refine ⟨env, ?_, lastGiven⟩
    unfold effectiveEnv
    rw [entries, List.getLast?_concat]
  · intro other member
    rw [entries, List.dropLast_concat] at earlier
    have isLiteral := literal other member
    rw [entries] at member
    rcases List.mem_append.mp member with inBefore | isLast
    · exact ⟨isLiteral, earlier other inBefore⟩
    · rw [List.mem_singleton.mp isLast]
      exact lastGiven

theorem mount_exact (policyMount : VolumeMount) (satisfied : MountSatisfied container policyMount)
    (injected : ∀ mount ∈ mountEntries container policyMount.name,
      isInjectedMount (readMount mount) = true →
        (readMount mount).mountPath = policyMount.mountPath)
    (earlier : ∀ mount ∈ (ownMountEntries container policyMount.name).dropLast,
      (readMount mount).mountPath = policyMount.mountPath) :
    MountExact container policyMount := by
  obtain ⟨mount, last, path, _⟩ := satisfied
  obtain ⟨before, entry, entries, given⟩ := own_mounts_last container _ mount last
  constructor
  · intro empty
    have none : ownMountEntries container policyMount.name = [] := by
      unfold ownMountEntries
      rw [empty, List.filter_nil]
    rw [none] at entries
    exact absurd entries.symm (by simp)
  · intro other member
    cases isInjected : isInjectedMount (readMount other) with
    | true => exact injected other member isInjected
    | false =>
        have own : other ∈ ownMountEntries container policyMount.name :=
          List.mem_filter.mpr ⟨member, by rw [isInjected]; rfl⟩
        rw [entries, List.dropLast_concat] at earlier
        rw [entries] at own
        rcases List.mem_append.mp own with inBefore | isLast
        · exact earlier other inBefore
        · rw [List.mem_singleton.mp isLast, given]
          exact path

end Exact

/-- A container that passes the two checks gets exactly what the policy lists if and only if
the entries that the checks do not look at agree with it. -/
theorem checked_container_exact_iff (verifier : Verifier) (container : Fields)
    (name containerType : String) (policy : ContainerProperties)
    (environment : checkEnvVars verifier container name containerType policy = .ok ())
    (mounts : checkVolumeMounts container name containerType policy = .ok ()) :
    ContainerExact verifier policy container ↔ LeftOutAgrees verifier policy container := by
  simp only [checkEnvVars, checkVolumeMounts, forM_eq_ok, check_env_var_iff,
    check_volume_mount_iff] at environment mounts
  constructor
  · intro exactly
    constructor
    · intro policyEnv listed env member
      exact ((exactly.environment policyEnv listed).each env member).literal
    · intro policyEnv listed env member
      exact ((exactly.environment policyEnv listed).each env
        (List.dropLast_subset _ member)).admitted
    · intro policyMount listed mount member _
      exact (exactly.mounts policyMount listed).each mount member
    · intro policyMount listed mount member
      exact (exactly.mounts policyMount listed).each mount
        (List.mem_of_mem_filter (List.dropLast_subset _ member))
  · intro agrees
    constructor
    · intro policyEnv listed
      exact env_exact policyEnv (environment policyEnv listed)
        (agrees.noReference policyEnv listed) (agrees.earlier policyEnv listed)
    · intro policyMount listed
      exact mount_exact policyMount (mounts policyMount listed)
        (agrees.injected policyMount listed) (agrees.earlierMounts policyMount listed)

def listedProperties : ContainerProperties :=
  { ContainerProperties.zero with
    environmentVariables := ⟨[⟨"MODE", "safe", false⟩], []⟩
    volumeMounts := ⟨[⟨"data", "/data", "", false⟩], []⟩ }

def envEntry (name value : String) : Json :=
  .object [("name", .string name), ("value", .string value)]

def mountEntry (name path : String) : Json :=
  .object [("name", .string name), ("mountPath", .string path)]

theorem listed_container_exact :
    ContainerExact sampleVerifier listedProperties
      [("env", .array [envEntry "MODE" "safe", envEntry "OTHER" "x"]),
        ("volumeMounts", .array [mountEntry "data" "/data"])] := by
  apply (checked_container_exact_iff sampleVerifier _ "app" "container" listedProperties
    (by decide) (by decide)).mpr
  constructor
  · decide
  · intro policyEnv listed
    cases List.mem_singleton.mp listed
    exact nofun
  · decide
  · decide

def overriddenContainer : Fields :=
  [("env", .array [envEntry "MODE" "safe", .object [("name", .string "MODE"),
      ("valueFrom", .object [("configMapKeyRef", .object [])])]]),
    ("volumeMounts", .array [mountEntry "data" "/etc", mountEntry "data" "/data"])]

/-- A reference after the value sets the variable, and a second mount of the volume is made
before the one that is checked: both checks pass. -/
theorem overridden_container_passes :
    checkEnvVars sampleVerifier overriddenContainer "app" "container" listedProperties = .ok () ∧
    checkVolumeMounts overriddenContainer "app" "container" listedProperties = .ok () ∧
    (effectiveEnv overriddenContainer "MODE").map isReference = some true ∧
    (mountEntries overriddenContainer "data").map (fun mount => (readMount mount).mountPath) =
      ["/etc", "/data"] ∧
    ¬ContainerExact sampleVerifier listedProperties overriddenContainer := by
  refine ⟨by decide, by decide, by decide, by decide, fun exactly => ?_⟩
  have path := (exactly.mounts _ List.mem_cons_self).each
    [("name", .string "data"), ("mountPath", .string "/etc")] List.mem_cons_self
  exact absurd path (by decide)

end CleanRoom.ApiServerProxy
