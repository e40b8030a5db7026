import CleanRoom.BlobFuse.Model

/-!
# Write sessions on one file

What each call does to the one file it is about, on a disk that works. A session
is open while the tables hold a handle and the metadata of the file; the first
stage or commit of a closed file opens one. The stored bytes and the metadata
after any list of stages are two folds over that list.
-/

namespace CleanRoom.BlobFuse

open ByteFile BigEndian GoFiles

def sealedChunk (gcm : AesGcm) (enc : Encryptor) (data : Bytes) (nonce : Nonce) : Bytes :=
  nonce.1 ++ gcm.encrypt enc.encryptionKey nonce.1 (padded enc.blockSize data)

def LastChunkMeta.see (known : LastChunkMeta) (index padding : Nat) : LastChunkMeta :=
  if (index : Int) > known.farthestBlockSeen then ⟨index, padding⟩ else known

structure Stores (enc : Encryptor) (name : String) (inode : Nat) (bytes : Bytes)
    (mount : Mount) : Prop where
  works : mount.disk.outcomes = []
  entry : mount.disk.entries.lookup (enc.path name) = some (.file inode)
  contents : mount.disk.contents inode = bytes

structure Writing (enc : Encryptor) (name : String) (handle : OsFile) (bytes : Bytes)
    (known : LastChunkMeta) (mount : Mount) : Prop extends
    Stores enc name handle.inode bytes mount where
  handled : mount.handleMap name = some handle
  isOpen : handle.id ∈ mount.disk.openHandles
  metaKnown : mount.lastChunkMetaMap name = some known

/-- No handle of the file is in the tables. -/
structure Closed (enc : Encryptor) (name : String) (inode : Nat) (bytes : Bytes)
    (mount : Mount) : Prop extends Stores enc name inode bytes mount where
  unhandled : mount.handleMap name = none

def Ready (enc : Encryptor) (name : String) (bytes : Bytes) (known : LastChunkMeta)
    (mount : Mount) : Prop :=
  ∃ handle opened, getFileHandleAndLastChunkMeta enc name mount = (.ok (handle, known), opened) ∧
    Writing enc name handle bytes known opened

section Calls

variable {gcm : AesGcm} {enc : Encryptor} {name : String} {handle : OsFile} {inode : Nat}
  {bytes : Bytes} {known : LastChunkMeta} {mount : Mount}

theorem on_disk_ok {Value : Type} {body : Go Disk Value} {mount : Mount} {value : Value}
    {disk : Disk} (ran : body mount.disk = (.ok value, disk)) :
    onDisk body mount = (.ok value, { mount with disk := disk }) :=
  Go.within_apply _ _ ran

theorem from_except_ok {Value : Type} (value : Value) (mount : Mount) :
    fromExcept (.ok value) mount = (.ok value, mount) := rfl

theorem Writing.ready (writing : Writing enc name handle bytes known mount) :
    Ready enc name bytes known mount := by
  refine ⟨handle, mount, ?_, writing⟩
  rw [getFileHandleAndLastChunkMeta, Go.get_bind]
  simp only [writing.handled, writing.metaKnown]
  rfl

theorem create_fresh (works : mount.disk.outcomes = [])
    (fresh : mount.disk.entries.lookup (enc.path name) = none) :
    ∃ handle created, createFile enc name mount = (.ok ⟨name, 0⟩, created) ∧
      Writing enc name handle [] .none created := by
  let handle : OsFile := ⟨mount.disk.nextHandle, mount.disk.nextInode⟩
  refine ⟨handle,
    { disk := (mount.disk.created (enc.path name)).opened
      handleMap := Function.update mount.handleMap name (some handle)
      lastChunkMetaMap := Function.update mount.lastChunkMetaMap name (some .none) }, ?_, ?_⟩
  · rw [createFile, Go.bind_ok (on_disk_ok (Disk.open_new works fresh))]
    rfl
  · constructor
    · constructor
      · exact works
      · exact AList.lookup_insert _
      · exact Function.update_self _ _ _
    · exact Function.update_self _ _ _
    · exact List.mem_cons_self
    · exact Function.update_self _ _ _

/-- A closed file with a trailer is opened with one block more than it has, and a
closed file of whole chunks as if nothing had been written. -/
def openedMeta (enc : Encryptor) (bytes : Bytes) : LastChunkMeta :=
  if bytes.length % enc.chunkSize = 0 then .none
  else ⟨(bytes.length / enc.chunkSize : Nat),
    getInt64 (slice bytes (bytes.length - paddingLengthSize) paddingLengthSize)⟩

private def reopened (mount : Mount) (name : String) (inode : Nat) : Mount :=
  { mount with
    disk := mount.disk.opened
    handleMap := Function.update mount.handleMap name (some ⟨mount.disk.nextHandle, inode⟩) }

private theorem read_padding_reopened (closed : Closed enc name inode bytes mount)
    (long : paddingLengthSize ≤ bytes.length) :
    readPaddingLength ⟨mount.disk.nextHandle, inode⟩ bytes.length mount.disk.opened =
      (.ok (getInt64 (slice bytes (bytes.length - paddingLengthSize) paddingLengthSize)),
        mount.disk.opened) := by
  have offset : (bytes.length : Int) - paddingLengthSize =
      ((bytes.length - paddingLengthSize : Nat) : Int) := by omega
  have read := @Disk.read_at_opened mount.disk inode closed.works
    (bytes.length - paddingLengthSize) paddingLengthSize (by
      rw [closed.contents]
      omega)
  rw [readPaddingLength, offset, Go.bind_ok read, closed.contents]
  rfl

theorem Closed.ready (closed : Closed enc name inode bytes mount)
    (shape : bytes.length % enc.chunkSize = 0 ∨ bytes.length % enc.chunkSize = paddingLengthSize) :
    Ready enc name bytes (openedMeta enc bytes) mount := by
  let handle : OsFile := ⟨mount.disk.nextHandle, inode⟩
  have stored : mount.disk.opened.contents inode = bytes := closed.contents
  have opening := on_disk_ok (Disk.open_existing closed.works false closed.entry)
  have size : onDisk (Disk.fileStat handle) (reopened mount name inode) =
      (.ok ⟨bytes.length, false⟩, reopened mount name inode) := by
    have measured := @Disk.file_stat_ok mount.disk.opened handle closed.works List.mem_cons_self
    rw [stored] at measured
    exact on_disk_ok measured
  refine ⟨handle, { reopened mount name inode with
    lastChunkMetaMap := Function.update mount.lastChunkMetaMap name (openedMeta enc bytes) },
    ?_, ?_⟩
  · rw [getFileHandleAndLastChunkMeta, Go.get_bind, closed.unhandled]
    refine (Go.bind_ok (Go.mapError_ok _ opening)).trans ?_
    refine (Go.bind_ok (Go.mapError_ok _ size)).trans ?_
    rcases shape with whole | trailed
    · simp only [whole, openedMeta]
      rfl
    · have long : paddingLengthSize ≤ bytes.length := by
        rw [← trailed]
        exact Nat.mod_le _ _
      have padding : onDisk (readPaddingLength handle bytes.length) (reopened mount name inode) =
          (.ok (getInt64 (slice bytes (bytes.length - paddingLengthSize) paddingLengthSize)),
            reopened mount name inode) := on_disk_ok (read_padding_reopened closed long)
      have nonzero : paddingLengthSize ≠ 0 := by decide
      simp only [trailed, openedMeta, if_neg nonzero, ne_eq, not_true_eq_false, if_false]
      exact Go.bind_ok (Go.mapError_ok _ padding)
  · constructor
    · exact ⟨closed.works, closed.entry, closed.contents⟩
    · exact Function.update_self _ _ _
    · exact List.mem_cons_self
    · exact Function.update_self _ _ _

private theorem store_seen (mount : Mount) (name : String) (known : LastChunkMeta)
    (index padding : Nat) (small : index < 2 ^ 63)
    (metaKnown : mount.lastChunkMetaMap name = known) :
    (if int64 index > known.farthestBlockSeen then storeMeta name ⟨int64 index, padding⟩
      else pure () : Go Mount Unit) mount =
      (.ok (), { mount with
        lastChunkMetaMap := Function.update mount.lastChunkMetaMap name
          (some (known.see index padding)) }) := by
  rw [int64_of_fits index (by omega) (by exact_mod_cast small), LastChunkMeta.see]
  split
  · rfl
  · rw [← metaKnown, Function.update_eq_self]
    rfl

theorem length_padded (blockSize : Nat) (data : Bytes) (short : data.length ≤ blockSize) :
    (padded blockSize data).length = blockSize := by
  simp only [padded, List.length_append, List.length_replicate]
  omega

theorem length_sealed_chunk (gcm : AesGcm) (enc : Encryptor) (data : Bytes) (nonce : Nonce)
    (key : isAesKey enc.encryptionKey = true) (short : data.length ≤ enc.blockSize) :
    (sealedChunk gcm enc data nonce).length = enc.chunkSize := by
  rw [sealedChunk, List.length_append, gcm.length_encrypt _ _ _ key nonce.2,
    length_padded enc.blockSize data short, nonce.2, Encryptor.chunkSize, metaSize]
  omega

theorem Ready.stage (ready : Ready enc name bytes known mount) (index : Nat) (data : Bytes)
    (nonce : Nonce) (key : isAesKey enc.encryptionKey = true)
    (fits : (index + 1) * enc.chunkSize < 2 ^ 63) :
    ∃ handle after,
      stageData gcm enc name (index * enc.blockSize) data nonce mount = (.ok (), after) ∧
      Writing enc name handle
        (overwrite bytes (index * enc.chunkSize) (sealedChunk gcm enc data nonce))
        (known.see index (enc.blockSize - data.length)) after := by
  obtain ⟨handle, opened, found, writing⟩ := ready
  have offsetFits : index * enc.chunkSize < 2 ^ 63 := by
    rw [Nat.succ_mul] at fits
    omega
  have indexFits : index < 2 ^ 63 := by
    have positive : 0 < enc.chunkSize := Nat.add_pos_left enc.positive _
    have wider := Nat.le_mul_of_pos_right index positive
    omega
  have offset : int64 (uint64 ((index * enc.blockSize / enc.blockSize : Nat) * enc.chunkSize)) =
      (index * enc.chunkSize : Nat) := by
    rw [Nat.mul_div_cancel _ enc.positive, ← Nat.cast_mul, uint64_of_fits _ (by omega)]
    exact int64_of_fits _ (by omega) (by exact_mod_cast offsetFits)
  have nonempty : nonce.1 ++ gcm.encrypt enc.encryptionKey nonce.1 (padded enc.blockSize data) ≠
      [] := by
    have length := nonce.2
    intro empty
    rw [(List.append_eq_nil_iff.mp empty).1] at length
    exact absurd length (by decide)
  have written := on_disk_ok (Disk.write_at_ok writing.works writing.isOpen _
    (index * enc.chunkSize) nonempty)
  rw [writing.contents] at written
  refine ⟨handle, { opened with
    disk := opened.disk.withContents handle.inode
      (overwrite bytes (index * enc.chunkSize) (sealedChunk gcm enc data nonce))
    lastChunkMetaMap := Function.update opened.lastChunkMetaMap name
      (some (known.see index (enc.blockSize - data.length))) }, ?_, ?_⟩
  · rw [stageData, Go.bind_ok found]
    simp only [encryptChunk, key, if_true]
    rw [Go.bind_ok (from_except_ok _ _), offset, Nat.mul_div_cancel _ enc.positive,
      Go.bind_ok written]
    exact store_seen _ name known index _ indexFits writing.metaKnown
  · constructor
    · exact ⟨writing.works, writing.entry, Function.update_self _ _ _⟩
    · exact writing.handled
    · exact writing.isOpen
    · exact Function.update_self _ _ _

def committedBytes (enc : Encryptor) (bytes : Bytes) (known : LastChunkMeta) : Bytes :=
  if known.farthestBlockSeen = -1 then bytes
  else overwrite bytes ((known.farthestBlockSeen + 1).toNat * enc.chunkSize)
    (putInt64 known.paddingLength)

private theorem write_padding_ok (writing : Writing enc name handle bytes known mount)
    (low : -1 ≤ known.farthestBlockSeen)
    (fits : (known.farthestBlockSeen + 1).toNat * enc.chunkSize < 2 ^ 63) :
    onDisk (writePaddingLength handle known enc.blockSize) mount =
      (.ok (), { mount with
        disk := mount.disk.withContents handle.inode
          (overwrite bytes ((known.farthestBlockSeen + 1).toNat * enc.chunkSize)
            (putInt64 known.paddingLength)) }) := by
  have offset : int64 ((known.farthestBlockSeen + 1) * (enc.blockSize + metaSize)) =
      ((known.farthestBlockSeen + 1).toNat * enc.chunkSize : Nat) := by
    have natural : (known.farthestBlockSeen + 1) * ((enc.blockSize : Int) + metaSize) =
        ((known.farthestBlockSeen + 1).toNat * enc.chunkSize : Nat) := by
      rw [Nat.cast_mul, Int.toNat_of_nonneg (by omega), Encryptor.chunkSize, Nat.cast_add]
    rw [natural]
    exact int64_of_fits _ (by omega) (by exact_mod_cast fits)
  have nonempty : putInt64 known.paddingLength ≠ [] := by
    intro empty
    have length := length_put_int64 known.paddingLength
    rw [empty] at length
    exact absurd length (by decide)
  apply on_disk_ok
  rw [writePaddingLength, offset, Disk.write_at_ok writing.works writing.isOpen _ _ nonempty,
    writing.contents]

private theorem deferred_close {Value : Type} {body : Go Mount Value}
    {result : Except GoError Value} (middle : Mount) (ran : body mount = (result, middle))
    (isOpen : handle.id ∈ middle.disk.openHandles) :
    Go.defer (onDisk (Disk.close handle)) body mount =
      (result, { middle with disk := middle.disk.withoutHandle handle.id }) := by
  rw [Go.defer_apply ran, on_disk_ok (Disk.close_ok isOpen)]

theorem Ready.commit (ready : Ready enc name bytes known mount)
    (low : -1 ≤ known.farthestBlockSeen)
    (fits : (known.farthestBlockSeen + 1).toNat * enc.chunkSize < 2 ^ 63) :
    ∃ inode after, commitData enc name mount = (.ok (), after) ∧
      Closed enc name inode (committedBytes enc bytes known) after := by
  obtain ⟨handle, opened, found, writing⟩ := ready
  refine ⟨handle.inode,
    { disk := (opened.disk.withContents handle.inode (committedBytes enc bytes known)).withoutHandle
        handle.id
      handleMap := Function.update opened.handleMap name none
      lastChunkMetaMap := Function.update opened.lastChunkMetaMap name none }, ?_, ?_⟩
  · rw [commitData, Go.bind_ok found]
    refine deferred_close
      { disk := opened.disk.withContents handle.inode (committedBytes enc bytes known)
        handleMap := Function.update opened.handleMap name none
        lastChunkMetaMap := Function.update opened.lastChunkMetaMap name none } ?_ writing.isOpen
    by_cases unseen : known.farthestBlockSeen = -1
    · have same : opened.disk.withContents handle.inode bytes = opened.disk := by
        rw [Disk.withContents, ← writing.contents, Function.update_eq_self]
      simp only [unseen, committedBytes, ne_eq, not_true_eq_false, if_false, if_true, same]
      rfl
    · simp only [ne_eq, unseen, not_false_eq_true, if_true, committedBytes, if_false]
      rw [Go.bind_ok (write_padding_ok writing low fits)]
      simp only [storeMeta, forget, Go.modify_bind, Go.modify_apply, Function.update_idem]
  · exact ⟨⟨writing.works, writing.entry, Function.update_self _ _ _⟩, Function.update_self _ _ _⟩

def LastChunkMeta.size (known : LastChunkMeta) (blockSize : Nat) : Int :=
  if known.farthestBlockSeen = -1 then 0
  else int64 ((known.farthestBlockSeen + 1) * blockSize - known.paddingLength)

theorem Writing.attr (writing : Writing enc name handle bytes known mount) :
    (getAttr enc name mount).1 = .ok ⟨name, known.size enc.blockSize, false⟩ := by
  rw [getAttr, Go.bind_ok (Go.mapError_ok _ (on_disk_ok
    (Disk.stat_file writing.works writing.entry)))]
  simp only [Bool.false_eq_true, if_false, Go.get_bind, writing.handled, writing.metaKnown,
    LastChunkMeta.size]
  split <;> rfl

end Calls

end CleanRoom.BlobFuse
