import CleanRoom.BlobFuse.Session

/-!
# Reading a stored file back

The size of a closed file as a function of its bytes, the plaintext of one stored
chunk, and how a write elsewhere in the file leaves it.
-/

namespace CleanRoom.BlobFuse

open ByteFile BigEndian GoFiles

def storedSize (enc : Encryptor) (bytes : Bytes) : Int :=
  if bytes.length < bytes.length / enc.chunkSize * enc.chunkSize + paddingLengthSize then 0
  else
    int64 (bytes.length -
      (getInt64 (slice bytes (bytes.length - paddingLengthSize) paddingLengthSize) +
        (bytes.length / enc.chunkSize : Nat) * metaSize + paddingLengthSize))

structure BlockIs (gcm : AesGcm) (enc : Encryptor) (bytes : Bytes) (index : Nat)
    (plain : Bytes) : Prop where
  inFile : (index + 1) * enc.chunkSize ≤ bytes.length
  opens : decryptChunk gcm ((slice bytes (index * enc.chunkSize) enc.chunkSize).drop nonceSize)
    ((slice bytes (index * enc.chunkSize) enc.chunkSize).take nonceSize) enc.encryptionKey =
      .ok plain

section Blocks

variable {gcm : AesGcm} {enc : Encryptor} {bytes : Bytes} {index : Nat} {plain : Bytes}

theorem chunks_disjoint (enc : Encryptor) (left right : Nat) (different : left ≠ right) :
    left * enc.chunkSize + enc.chunkSize ≤ right * enc.chunkSize ∨
      right * enc.chunkSize + enc.chunkSize ≤ left * enc.chunkSize := by
  rw [← Nat.succ_mul, ← Nat.succ_mul]
  rcases Nat.lt_or_gt_of_ne different with below | above
  · exact Or.inl (Nat.mul_le_mul_right _ below)
  · exact Or.inr (Nat.mul_le_mul_right _ above)

theorem BlockIs.overwrite_disjoint (block : BlockIs gcm enc bytes index plain) (offset : Nat)
    (data : Bytes) (disjoint : index * enc.chunkSize + enc.chunkSize ≤ offset ∨
      offset + data.length ≤ index * enc.chunkSize) :
    BlockIs gcm enc (overwrite bytes offset data) index plain := by
  have inFile := block.inFile
  have kept := slice_overwrite_disjoint offset (index * enc.chunkSize) enc.chunkSize
    (by rwa [← Nat.succ_mul]) disjoint
  constructor
  · rw [length_overwrite]
    omega
  · rw [kept]
    exact block.opens

theorem BlockIs.stage_other (block : BlockIs gcm enc bytes index plain) (other : Nat)
    (data : Bytes) (nonce : Nonce) (different : index ≠ other)
    (key : isAesKey enc.encryptionKey = true) (short : data.length ≤ enc.blockSize) :
    BlockIs gcm enc (overwrite bytes (other * enc.chunkSize) (sealedChunk gcm enc data nonce))
      index plain := by
  apply block.overwrite_disjoint
  rw [length_sealed_chunk gcm enc data nonce key short]
  exact chunks_disjoint enc index other different

theorem staged_block (gcm : AesGcm) (enc : Encryptor) (bytes : Bytes) (index : Nat)
    (data : Bytes) (nonce : Nonce) (key : isAesKey enc.encryptionKey = true)
    (short : data.length ≤ enc.blockSize) :
    BlockIs gcm enc (overwrite bytes (index * enc.chunkSize) (sealedChunk gcm enc data nonce))
      index (padded enc.blockSize data) := by
  have length := length_sealed_chunk gcm enc data nonce key short
  have chunk := slice_overwrite_same bytes (index * enc.chunkSize) (sealedChunk gcm enc data nonce)
  rw [length] at chunk
  constructor
  · rw [length_overwrite, length, Nat.succ_mul]
    omega
  · rw [chunk, sealedChunk, List.drop_left' nonce.2, List.take_left' nonce.2, decryptChunk,
      if_pos key, gcm.decrypt_encrypt _ _ _ key nonce.2]

end Blocks

section Calls

variable {gcm : AesGcm} {enc : Encryptor} {name : String} {inode : Nat} {bytes : Bytes}
  {mount : Mount}

theorem check_size_eq (handle : OsFile) (fits : bytes.length + paddingLengthSize < 2 ^ 63) :
    checkForActualFileSize handle bytes.length enc.blockSize =
      (if bytes.length < bytes.length / enc.chunkSize * enc.chunkSize + paddingLengthSize then
        pure 0
      else do
        let paddingLength ← readPaddingLength handle bytes.length
        pure (int64 (bytes.length - (paddingLength +
          (bytes.length / enc.chunkSize : Nat) * metaSize + paddingLengthSize)))) := by
  have blocks : (bytes.length : Int).tdiv (enc.blockSize + metaSize) =
      (bytes.length / enc.chunkSize : Nat) := by
    rw [← Nat.cast_add, ← Int.ofNat_tdiv]
    rfl
  have whole := Nat.div_mul_le_self bytes.length enc.chunkSize
  have bound : int64 ((bytes.length / enc.chunkSize : Nat) * (enc.blockSize + metaSize) +
      paddingLengthSize) =
      (bytes.length / enc.chunkSize * enc.chunkSize + paddingLengthSize : Nat) := by
    rw [← Nat.cast_add, ← Nat.cast_mul, ← Nat.cast_add]
    exact int64_of_fits _ (by omega) (by
      have natural : bytes.length / enc.chunkSize * enc.chunkSize + paddingLengthSize < 2 ^ 63 := by
        omega
      exact_mod_cast natural)
  simp only [checkForActualFileSize, blocks, bound, Nat.cast_lt]

private theorem check_size_ok {disk : Disk} {handle : OsFile} (works : disk.outcomes = [])
    (isOpen : handle.id ∈ disk.openHandles) (contents : disk.contents handle.inode = bytes)
    (fits : bytes.length + paddingLengthSize < 2 ^ 63) :
    checkForActualFileSize handle bytes.length enc.blockSize disk =
      (.ok (storedSize enc bytes), disk) := by
  rw [check_size_eq handle fits, storedSize]
  split_ifs with short
  · rfl
  · have offset : (bytes.length : Int) - paddingLengthSize =
        ((bytes.length - paddingLengthSize : Nat) : Int) := by omega
    have read := Disk.read_at_ok works isOpen (bytes.length - paddingLengthSize)
      paddingLengthSize (by
        rw [contents]
        omega)
    have padding : readPaddingLength handle bytes.length disk =
        (.ok (getInt64 (slice bytes (bytes.length - paddingLengthSize) paddingLengthSize)),
          disk) := by
      rw [readPaddingLength, offset, Go.bind_ok read, contents]
      rfl
    rw [Go.bind_ok padding]
    rfl

theorem Closed.attr (closed : Closed enc name inode bytes mount)
    (fits : bytes.length + paddingLengthSize < 2 ^ 63) :
    (getAttr enc name mount).1 = .ok ⟨name, storedSize enc bytes, false⟩ := by
  have opening := Disk.open_existing closed.works false closed.entry
  have size : closedFileSize enc name bytes.length mount.disk =
      (.ok (storedSize enc bytes),
        mount.disk.opened.withoutHandle mount.disk.nextHandle) := by
    rw [closedFileSize, Go.bind_ok opening]
    have checked : checkForActualFileSize ⟨mount.disk.nextHandle, inode⟩ bytes.length
        enc.blockSize mount.disk.opened = (.ok (storedSize enc bytes), mount.disk.opened) :=
      check_size_ok closed.works List.mem_cons_self closed.contents fits
    rw [Go.defer_apply checked, Disk.close_ok List.mem_cons_self]
  have measured := on_disk_ok (Disk.stat_file closed.works closed.entry)
  rw [closed.contents] at measured
  rw [getAttr, Go.bind_ok (Go.mapError_ok _ measured)]
  simp only [Bool.false_eq_true, if_false, Go.get_bind, closed.unhandled]
  rw [Go.bind_ok (on_disk_ok size)]
  rfl

private theorem read_chunk_ok (stores : Stores enc name inode bytes mount) (index : Nat)
    (plain data : Bytes) (count : Int) (block : BlockIs gcm enc bytes index plain)
    (fits : bytes.length < 2 ^ 63) :
    ((do
      let fileHandle ← onDisk (Disk.openFile (enc.path name) false)
      Go.defer (onDisk (Disk.close fileHandle)) (do
        let encryptedChunk ← onDisk (Disk.readAt fileHandle enc.chunkSize
          (int64 (((index * enc.blockSize : Nat) : Int).tdiv enc.blockSize * enc.chunkSize)))
        let plainText ← fromExcept (decryptChunk gcm (encryptedChunk.drop nonceSize)
          (encryptedChunk.take nonceSize) enc.encryptionKey)
        pure (count, copy data plainText)) : Go Mount (Int × Bytes)) mount).1 =
      .ok (count, copy data plain) := by
  have inFile := block.inFile
  rw [Nat.succ_mul] at inFile
  have offset : int64 (((index * enc.blockSize : Nat) : Int).tdiv enc.blockSize * enc.chunkSize) =
      (index * enc.chunkSize : Nat) := by
    have natural : index * enc.chunkSize < 2 ^ 63 := by omega
    rw [← Int.ofNat_tdiv, Nat.mul_div_cancel _ enc.positive, ← Nat.cast_mul]
    exact int64_of_fits _ (by omega) (by exact_mod_cast natural)
  have read := @Disk.read_at_opened mount.disk inode stores.works (index * enc.chunkSize)
    enc.chunkSize (by rwa [stores.contents])
  rw [stores.contents] at read
  rw [offset, Go.bind_ok (on_disk_ok (Disk.open_existing stores.works false stores.entry)),
    Go.defer, Go.bind_ok (on_disk_ok read), block.opens]
  rfl

/-- Reading at the start of a block counts the bytes up to the end of the file or
of the buffer, and the buffer then starts with the block. -/
theorem Stores.read (stores : Stores enc name inode bytes mount) (index size : Nat)
    (plain data : Bytes) (start : index * enc.blockSize ≤ size)
    (block : index * enc.blockSize < size → BlockIs gcm enc bytes index plain)
    (enough : data.length ≤ plain.length) (sizeFits : size + data.length < 2 ^ 63)
    (fits : bytes.length < 2 ^ 63) :
    ∃ buffer, (readInBuffer gcm enc ⟨name, size⟩ (index * enc.blockSize : Nat) data mount).1 =
        .ok ((min data.length (size - index * enc.blockSize) : Nat), buffer) ∧
      buffer.take (min data.length (size - index * enc.blockSize)) =
        plain.take (min data.length (size - index * enc.blockSize)) := by
  have count : (if (size : Int) < int64 ((index * enc.blockSize : Nat) + data.length) then
      int64 (size - (index * enc.blockSize : Nat)) else (data.length : Int)) =
      (min data.length (size - index * enc.blockSize) : Nat) := by
    rw [int64_of_fits _ (by omega) (by omega), int64_of_fits _ (by omega) (by omega)]
    split <;> omega
  simp only [readInBuffer]
  rw [if_neg (by omega), count]
  by_cases empty : min data.length (size - index * enc.blockSize) = 0
  · rw [if_pos (by exact_mod_cast empty), empty]
    exact ⟨data, rfl, by simp⟩
  · rw [if_neg (by exact_mod_cast empty)]
    refine ⟨copy data plain, read_chunk_ok stores index plain data _ (block (by omega)) fits, ?_⟩
    rw [copy, List.take_append_of_le_length]
    · rw [List.take_take, Nat.min_eq_left (Nat.min_le_left _ _)]
    · rw [List.length_take]
      omega

end Calls

end CleanRoom.BlobFuse
