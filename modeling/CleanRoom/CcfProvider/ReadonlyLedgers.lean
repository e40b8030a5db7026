import Mathlib.Data.List.Nodup

/-!
# Read-only ledgers of a node

`GetReadWriteLedgerSnapshotsDir`, `GetReadonlyLedgerSnapshotsDirForNetwork` and
`UpdateCreateContainerGroupParams` of `AzureFileShareNodeStorageProvider.cs`. The first two
say where the file shares of a network are mounted, and the last one adds a volume and a
mount for each of them to the container group. The shares that were found are given.
-/

namespace CleanRoom.CcfProvider

structure AzFileShareDirectory where
  shareName : String
  mountPath : String
  volumeMountPath : String

structure ContainerVolume where
  name : String
  shareName : String
  accountName : String
  storageAccountKey : String

structure ContainerVolumeMount where
  name : String
  mountPath : String

structure Container where
  name : String
  volumeMounts : List ContainerVolumeMount

structure ContainerGroupData where
  volumes : List ContainerVolume
  containers : List Container

structure StorageAccount where
  accountName : String
  accountKey : String

def ccHost : String := "cchost"

def getReadWriteLedgerSnapshotsDir (toLower : String → String) (nodeName : String) :
    AzFileShareDirectory × AzFileShareDirectory :=
  (⟨toLower nodeName, "/mnt/storage/ledger", "/mnt/storage"⟩,
    ⟨toLower nodeName, "/mnt/storage/snapshots", "/mnt/storage"⟩)

/-- The directory of a share with ledger files. Its index is a variable of the loop that
stays what it was at the start. -/
def roLedgerDir (index : Nat) (shareName : String) : AzFileShareDirectory :=
  ⟨shareName, s!"/mnt/ro-ledgers-{index}/ledger", s!"/mnt/ro-ledgers-{index}"⟩

def roSnapshotsDir (shareName : String) : AzFileShareDirectory :=
  ⟨shareName, "/mnt/ro-snapshots/snapshots", "/mnt/ro-snapshots"⟩

def getReadonlyLedgerSnapshotsDirForNetwork (latestSnapshotShareName : Option String)
    (ledgerShares : List (String × String)) :
    List AzFileShareDirectory × Option AzFileShareDirectory :=
  (ledgerShares.map fun share => roLedgerDir 0 share.2,
    latestSnapshotShareName.map roSnapshotsDir)

variable (account : StorageAccount)

def volumeOf (volumeName : String) (directory : AzFileShareDirectory) :
    ContainerVolume × ContainerVolumeMount :=
  (⟨volumeName, directory.shareName, account.accountName, account.accountKey⟩,
    ⟨volumeName, directory.volumeMountPath⟩)

def roLedgerVolumeName (index : Nat) : String := s!"roledgervolume-{index}"

def roLedgerVolumes : Nat → List AzFileShareDirectory →
    List (ContainerVolume × ContainerVolumeMount)
  | _, [] => []
  | index, directory :: directories =>
      volumeOf account (roLedgerVolumeName index) directory ::
        roLedgerVolumes (index + 1) directories

def addedVolumes (rwLedgerDir : AzFileShareDirectory)
    (roLedgerDirs : List AzFileShareDirectory) (roSnapshotsDir : Option AzFileShareDirectory) :
    List (ContainerVolume × ContainerVolumeMount) :=
  volumeOf account "storagevolume" rwLedgerDir :: roLedgerVolumes account 0 roLedgerDirs ++
    (roSnapshotsDir.map (volumeOf account "rosnapshotsvolume")).toList

def Container.withMounts (added : List ContainerVolumeMount) (container : Container) :
    Container :=
  if container.name = ccHost then
    { container with volumeMounts := container.volumeMounts ++ added }
  else container

def updateCreateContainerGroupParams (rwLedgerDir rwSnapshotsDir : AzFileShareDirectory)
    (roLedgerDirs : List AzFileShareDirectory) (roSnapshotsDir : Option AzFileShareDirectory)
    (group : ContainerGroupData) : Except String ContainerGroupData :=
  if rwLedgerDir.volumeMountPath ≠ rwSnapshotsDir.volumeMountPath ∨
      rwLedgerDir.shareName ≠ rwSnapshotsDir.shareName then
    .error ("Both rw ledger and snapshots dir should point to the same " ++
      "volume mount path and backing file share. ")
  else if (group.containers.filter fun container => container.name = ccHost).length ≠ 1 then
    .error "Sequence contains no matching element, or more than one"
  else
    let added := addedVolumes account rwLedgerDir roLedgerDirs roSnapshotsDir
    .ok { volumes := group.volumes ++ added.map Prod.fst
          containers := group.containers.map (Container.withMounts (added.map Prod.snd)) }

def mountNetwork (toLower : String → String) (nodeName : String)
    (latestSnapshotShareName : Option String) (ledgerShares : List (String × String))
    (group : ContainerGroupData) : Except String ContainerGroupData :=
  let (rwLedgerDir, rwSnapshotsDir) := getReadWriteLedgerSnapshotsDir toLower nodeName
  let (roLedgerDirs, roSnapshotsDir) :=
    getReadonlyLedgerSnapshotsDirForNetwork latestSnapshotShareName ledgerShares
  updateCreateContainerGroupParams account rwLedgerDir rwSnapshotsDir roLedgerDirs
    roSnapshotsDir group

/-- What the container group should have: a volume and a mount of that volume for the
storage of the node, each share with ledger files and the share of the snapshots, with
distinct names and paths, and each ledger directory under the mount of its share. -/
structure SharesMounted (rwShare : String) (latestSnapshotShareName : Option String)
    (ledgerShares : List (String × String)) (before after : ContainerGroupData) where
  added : List (ContainerVolume × ContainerVolumeMount)
  volumes : after.volumes = before.volumes ++ added.map Prod.fst
  mounts : after.containers = before.containers.map (Container.withMounts (added.map Prod.snd))
  shares : added.map (fun entry => entry.1.shareName) =
    rwShare :: ledgerShares.map Prod.snd ++ latestSnapshotShareName.toList
  mounted : ∀ entry ∈ added, entry.2.name = entry.1.name
  names : (added.map fun entry => entry.1.name).Nodup
  paths : (added.map fun entry => entry.2.mountPath).Nodup
  under : List.Forall₂
    (fun directory entry => entry.1.shareName = directory.shareName ∧
      ∃ rest, directory.mountPath = entry.2.mountPath ++ "/" ++ rest)
    (getReadonlyLedgerSnapshotsDirForNetwork latestSnapshotShareName ledgerShares).1
    (added.tail.take ledgerShares.length)

theorem mount_network_ok (toLower : String → String) (nodeName : String)
    (latestSnapshotShareName : Option String) (ledgerShares : List (String × String))
    (group : ContainerGroupData)
    (single : (group.containers.filter fun container => container.name = ccHost).length = 1) :
    mountNetwork account toLower nodeName latestSnapshotShareName ledgerShares group =
      .ok { volumes := group.volumes ++ (addedVolumes account
              (getReadWriteLedgerSnapshotsDir toLower nodeName).1
              (getReadonlyLedgerSnapshotsDirForNetwork latestSnapshotShareName ledgerShares).1
              (latestSnapshotShareName.map roSnapshotsDir)).map Prod.fst
            containers := group.containers.map (Container.withMounts ((addedVolumes account
              (getReadWriteLedgerSnapshotsDir toLower nodeName).1
              (getReadonlyLedgerSnapshotsDirForNetwork latestSnapshotShareName ledgerShares).1
              (latestSnapshotShareName.map roSnapshotsDir)).map Prod.snd)) } := by
  simp [mountNetwork, updateCreateContainerGroupParams, getReadWriteLedgerSnapshotsDir,
    getReadonlyLedgerSnapshotsDirForNetwork, single]

theorem first_ledger_dir (shareName : String) :
    roLedgerDir 0 shareName = ⟨shareName, "/mnt/ro-ledgers-0/ledger", "/mnt/ro-ledgers-0"⟩ :=
  rfl

theorem first_ledger_volume : roLedgerVolumeName 0 = "roledgervolume-0" := rfl

theorem first_ledger_under : ∃ rest, "/mnt/ro-ledgers-0/ledger" = "/mnt/ro-ledgers-0/" ++ rest :=
  ⟨"ledger", by decide⟩

theorem shares_mounted_of_few (toLower : String → String) (nodeName : String)
    (latestSnapshotShareName : Option String) (ledgerShares : List (String × String))
    (before after : ContainerGroupData) (few : ledgerShares.length ≤ 1)
    (single : (before.containers.filter fun container => container.name = ccHost).length = 1)
    (mounted : mountNetwork account toLower nodeName latestSnapshotShareName ledgerShares before =
      .ok after) :
    Nonempty (SharesMounted (toLower nodeName) latestSnapshotShareName ledgerShares before
      after) := by
  rw [mount_network_ok account toLower nodeName latestSnapshotShareName ledgerShares before
    single] at mounted
  cases mounted
  rcases ledgerShares with _ | ⟨share, _ | ⟨other, rest⟩⟩
  · refine ⟨⟨_, rfl, rfl, ?_, ?_, ?_, ?_, ?_⟩⟩ <;> cases latestSnapshotShareName <;>
      simp [addedVolumes, volumeOf, roLedgerVolumes, getReadonlyLedgerSnapshotsDirForNetwork,
        getReadWriteLedgerSnapshotsDir, roSnapshotsDir]
  · refine ⟨⟨_, rfl, rfl, ?_, ?_, ?_, ?_, ?_⟩⟩ <;> cases latestSnapshotShareName <;>
      simp [addedVolumes, volumeOf, roLedgerVolumes, getReadonlyLedgerSnapshotsDirForNetwork,
        getReadWriteLedgerSnapshotsDir, roSnapshotsDir, first_ledger_dir, first_ledger_volume,
        first_ledger_under]
  · simp at few

theorem with_mounts_inj (containers : List Container) (left right : List ContainerVolumeMount)
    (single : (containers.filter fun container => container.name = ccHost).length = 1)
    (same : containers.map (Container.withMounts left) =
      containers.map (Container.withMounts right)) : left = right := by
  have some_host : 0 < (containers.filter fun container => container.name = ccHost).length := by
    omega
  obtain ⟨container, found⟩ := List.exists_mem_of_length_pos some_host
  obtain ⟨member, named⟩ := List.mem_filter.mp found
  have equal := List.map_inj_left.mp same container member
  simpa [Container.withMounts, of_decide_eq_true named] using equal

theorem few_of_shares_mounted (toLower : String → String) (nodeName : String)
    (latestSnapshotShareName : Option String) (ledgerShares : List (String × String))
    (before after : ContainerGroupData)
    (single : (before.containers.filter fun container => container.name = ccHost).length = 1)
    (mounted : mountNetwork account toLower nodeName latestSnapshotShareName ledgerShares before =
      .ok after)
    (sound : SharesMounted (toLower nodeName) latestSnapshotShareName ledgerShares before after) :
    ledgerShares.length ≤ 1 := by
  rw [mount_network_ok account toLower nodeName latestSnapshotShareName ledgerShares before
    single] at mounted
  cases mounted
  have same := with_mounts_inj before.containers _ _ single sound.mounts
  have paths := congrArg (List.map ContainerVolumeMount.mountPath) same
  rw [List.map_map, List.map_map] at paths
  have distinct : List.Nodup _ := paths ▸ sound.paths
  rcases ledgerShares with _ | ⟨share, _ | ⟨other, rest⟩⟩
  · simp
  · simp
  · simp [addedVolumes, getReadonlyLedgerSnapshotsDirForNetwork, roLedgerVolumes, volumeOf,
      first_ledger_dir] at distinct

/-- The shares of a network have mounts of their own exactly when at most one of them has
ledger files. -/
theorem readonly_mounts_distinct_iff (toLower : String → String) (nodeName : String)
    (latestSnapshotShareName : Option String) (ledgerShares : List (String × String))
    (before after : ContainerGroupData)
    (single : (before.containers.filter fun container => container.name = ccHost).length = 1)
    (mounted : mountNetwork account toLower nodeName latestSnapshotShareName ledgerShares before =
      .ok after) :
    Nonempty (SharesMounted (toLower nodeName) latestSnapshotShareName ledgerShares before
      after) ↔ ledgerShares.length ≤ 1 := by
  constructor
  · rintro ⟨sound⟩
    exact few_of_shares_mounted account toLower nodeName latestSnapshotShareName ledgerShares
      before after single mounted sound
  · intro few
    exact shares_mounted_of_few account toLower nodeName latestSnapshotShareName ledgerShares
      before after few single mounted

def sampleGroup : ContainerGroupData := ⟨[], [⟨ccHost, []⟩]⟩

theorem one_ledger_mounted :
    ∃ after, mountNetwork ⟨"account", "key"⟩ id "node-1" (some "node-0") [("node-0", "node-0")]
        sampleGroup = .ok after ∧
      Nonempty (SharesMounted "node-1" (some "node-0") [("node-0", "node-0")] sampleGroup
        after) :=
  ⟨_, rfl, (readonly_mounts_distinct_iff ⟨"account", "key"⟩ id "node-1" (some "node-0")
    [("node-0", "node-0")] sampleGroup _ rfl rfl).mpr (by decide)⟩

/-- The ledgers of two nodes get one mount path. -/
theorem two_ledgers_one_path :
    ∃ after, mountNetwork ⟨"account", "key"⟩ id "node-2" none
        [("node-0", "node-0"), ("node-1", "node-1")] sampleGroup = .ok after ∧
      after.containers.map (fun container =>
          container.volumeMounts.map ContainerVolumeMount.mountPath) =
        [["/mnt/storage", "/mnt/ro-ledgers-0", "/mnt/ro-ledgers-0"]] ∧
      IsEmpty (SharesMounted "node-2" none [("node-0", "node-0"), ("node-1", "node-1")]
        sampleGroup after) := by
  refine ⟨_, rfl, rfl, ⟨fun sound => ?_⟩⟩
  have few := few_of_shares_mounted ⟨"account", "key"⟩ id "node-2" none
    [("node-0", "node-0"), ("node-1", "node-1")] sampleGroup _ rfl rfl sound
  exact absurd few (by decide)

end CleanRoom.CcfProvider
