import CleanRoom.BlobFuse.RoundTrip

/-!
# What the storage provider can make a reader see

The provider of the cipher mount may replace the stored bytes of any file at any
time. A chunk is sealed without additional data, so its tag vouches for the block
and not for the file or the position it was staged for: a chunk that opens is one
that was staged under the key, and it opens wherever the provider puts it.
-/

namespace CleanRoom.BlobFuse

open ByteFile BigEndian GoFiles

/-- A call of the mount, or the provider replacing what it stores. -/
inductive StorageEvent where
  | createFile (name : String)
  | stageData (name : String) (offset : Nat) (data : Bytes) (nonce : Nonce)
  | commitData (name : String)
  | deleteFile (name : String)
  | replace (contents : Nat → Bytes)

def perform (gcm : AesGcm) (enc : Encryptor) (mount : Mount) : StorageEvent → Mount
  | .createFile name => (createFile enc name mount).2
  | .stageData name offset data nonce => (stageData gcm enc name offset data nonce mount).2
  | .commitData name => (commitData enc name mount).2
  | .deleteFile name => (deleteFile enc name mount).2
  | .replace contents => { mount with disk := { mount.disk with contents := contents } }

def afterHistory (gcm : AesGcm) (enc : Encryptor) (mount : Mount) (history : List StorageEvent) :
    Mount :=
  history.foldl (perform gcm enc) mount

/-- A block that was handed to `StageData`, for the file and the index it was
meant for. -/
structure StagedBlock where
  name : String
  index : Nat
  data : Bytes
  nonce : Nonce
deriving DecidableEq

def StorageEvent.staged (enc : Encryptor) : StorageEvent → Option StagedBlock
  | .stageData name offset data nonce => some ⟨name, offset / enc.blockSize, data, nonce⟩
  | _ => none

def stagedBlocks (enc : Encryptor) (history : List StorageEvent) : List StagedBlock :=
  history.filterMap (StorageEvent.staged enc)

/-- AES-GCM taken as ideal: of what the storage holds, only what was sealed in the
history opens. -/
def OpensOnlySealed (gcm : AesGcm) (enc : Encryptor) (history : List StorageEvent)
    (contents : Nat → Bytes) : Prop :=
  ∀ inode position plain, position + enc.chunkSize ≤ (contents inode).length →
    gcm.decrypt enc.encryptionKey
        ((slice (contents inode) position enc.chunkSize).take nonceSize)
        ((slice (contents inode) position enc.chunkSize).drop nonceSize) = some plain →
      ∃ block ∈ stagedBlocks enc history,
        slice (contents inode) position enc.chunkSize = sealedChunk gcm enc block.data block.nonce

section Reads

variable {gcm : AesGcm} {enc : Encryptor} {mount after : Mount}

theorem decrypt_chunk_returned {cipherText nonce key plain : Bytes}
    (opened : decryptChunk gcm cipherText nonce key = .ok plain) :
    isAesKey key = true ∧ gcm.decrypt key nonce cipherText = some plain := by
  unfold decryptChunk at opened
  split at opened
  next valid =>
    split at opened
    next found =>
      cases opened
      exact ⟨valid, found⟩
    next => cases opened
  next => cases opened

theorem read_in_buffer_returned {handle : Handle} {offset count : Int} {data buffer : Bytes}
    (read : readInBuffer gcm enc handle offset data mount = (.ok (count, buffer), after))
    (some : count ≠ 0) :
    ∃ inode position plain,
      position + enc.chunkSize ≤ (mount.disk.contents inode).length ∧
      decryptChunk gcm
        ((slice (mount.disk.contents inode) position enc.chunkSize).drop nonceSize)
        ((slice (mount.disk.contents inode) position enc.chunkSize).take nonceSize)
        enc.encryptionKey = .ok plain ∧
      buffer = copy data plain := by
  by_cases beyond : offset > handle.size
  · rw [readInBuffer, if_pos beyond] at read
    cases read
  · rw [readInBuffer, if_neg beyond] at read
    dsimp only at read
    generalize (if handle.size < int64 (offset + data.length) then int64 (handle.size - offset)
      else (data.length : Int)) = dataLen at read
    by_cases nothing : dataLen = 0
    · rw [if_pos nothing] at read
      cases read
      exact absurd rfl some
    · rw [if_neg nothing] at read
      obtain ⟨fileHandle, _, opening, deferred⟩ := Go.bind_returned read
      obtain ⟨disk, openRan, rfl⟩ := Go.within_returned opening
      obtain ⟨_, body⟩ := Go.defer_returned deferred
      obtain ⟨chunk, _, reading, decrypting⟩ := Go.bind_returned body
      obtain ⟨_, readRan, rfl⟩ := Go.within_returned reading
      obtain ⟨plain, _, decrypted, returned⟩ := Go.bind_returned decrypting
      obtain ⟨found, full⟩ := Disk.read_at_returned readRan
      rw [Disk.open_file_contents openRan] at found
      have opened : decryptChunk gcm (chunk.drop nonceSize) (chunk.take nonceSize)
          enc.encryptionKey = .ok plain := congrArg Prod.fst decrypted
      cases returned
      rw [found] at opened full
      refine ⟨_, _, plain, ?_, opened, rfl⟩
      have wide := chunk_size_gt enc
      rw [length_slice] at full
      omega

/-- Every read that counts bytes fills the buffer from a block that was staged
under the key, for some file and some index. -/
theorem reads_return_staged_blocks (gcm : AesGcm) (enc : Encryptor) (mount after : Mount)
    (history : List StorageEvent) (handle : Handle) (offset count : Int) (data buffer : Bytes)
    (ideal : OpensOnlySealed gcm enc history (afterHistory gcm enc mount history).disk.contents)
    (read : readInBuffer gcm enc handle offset data (afterHistory gcm enc mount history) =
      (.ok (count, buffer), after)) (some : count ≠ 0) :
    ∃ block ∈ stagedBlocks enc history, buffer = copy data (padded enc.blockSize block.data) := by
  obtain ⟨inode, position, plain, inFile, opened, rfl⟩ := read_in_buffer_returned read some
  obtain ⟨key, decrypted⟩ := decrypt_chunk_returned opened
  obtain ⟨block, listed, chunk⟩ := ideal inode position plain inFile decrypted
  refine ⟨block, listed, ?_⟩
  rw [chunk, sealedChunk, List.drop_left' block.nonce.2, List.take_left' block.nonce.2,
    gcm.decrypt_encrypt _ _ _ key block.nonce.2] at decrypted
  rw [Option.some.inj decrypted]

end Reads

/-- A cipher that appends a fixed tag and checks it, for evaluating the model. -/
def checkingGcm : AesGcm where
  encrypt _ _ plain := plain ++ List.replicate authTagSize 255
  decrypt _ _ cipherText :=
    if cipherText.drop (cipherText.length - authTagSize) = List.replicate authTagSize 255 then
      some (cipherText.take (cipherText.length - authTagSize))
    else none
  decrypt_encrypt _ _ plain _ _ := by simp
  length_encrypt _ _ plain _ _ := by simp

def oneNonce : Nonce := ⟨List.replicate nonceSize 1, rfl⟩

def firstChunk : Bytes := sealedChunk checkingGcm smallEncryptor [1, 1, 1, 1] zeroNonce

def secondChunk : Bytes := sealedChunk checkingGcm smallEncryptor [2, 2, 2, 2] oneNonce

def exchangeHistory : List StorageEvent :=
  [.createFile "data", .stageData "data" 0 [1, 1, 1, 1] zeroNonce,
    .stageData "data" 4 [2, 2, 2, 2] oneNonce, .commitData "data",
    .replace fun inode => if inode = 0 then secondChunk ++ firstChunk ++ putInt64 0 else []]

def exchangedMount : Mount :=
  afterHistory checkingGcm smallEncryptor emptyMount exchangeHistory

theorem exchanged_opens_only_sealed :
    OpensOnlySealed checkingGcm smallEncryptor exchangeHistory exchangedMount.disk.contents := by
  intro inode position plain inFile opened
  by_cases stored : inode = 0
  · subst stored
    have elsewhere : ∀ place < 41, place ≠ 0 → place ≠ 32 → checkingGcm.decrypt
        smallEncryptor.encryptionKey
        ((slice (secondChunk ++ firstChunk ++ putInt64 0) place 32).take nonceSize)
        ((slice (secondChunk ++ firstChunk ++ putInt64 0) place 32).drop nonceSize) = none := by
      decide +kernel
    have bound : position < 41 := by
      change position + 32 ≤ 72 at inFile
      omega
    by_cases first : position = 0
    · subst first
      exact ⟨⟨"data", 1, [2, 2, 2, 2], oneNonce⟩, by decide, by decide⟩
    · by_cases second : position = 32
      · subst second
        exact ⟨⟨"data", 0, [1, 1, 1, 1], zeroNonce⟩, by decide, by decide⟩
      · have closed : some plain = none :=
          opened.symm.trans (elsewhere position bound first second)
        cases closed
  · have empty : exchangedMount.disk.contents inode = [] := if_neg stored
    rw [empty] at inFile
    cases inFile

/-- Block 0 is read as the block that was staged for index 1 only. -/
theorem exchanged_block_read :
    OpensOnlySealed checkingGcm smallEncryptor exchangeHistory exchangedMount.disk.contents ∧
      (readInBuffer checkingGcm smallEncryptor ⟨"data", 8⟩ 0 [0, 0, 0, 0] exchangedMount).1 =
        .ok (4, [2, 2, 2, 2]) ∧
      ∀ block ∈ stagedBlocks smallEncryptor exchangeHistory, block.name = "data" →
        block.index = 0 → block.data ≠ [2, 2, 2, 2] :=
  ⟨exchanged_opens_only_sealed, by decide, by decide⟩

/-- The block that was read had been staged, if for another index. -/
theorem exchanged_block_staged :
    ∃ block ∈ stagedBlocks smallEncryptor exchangeHistory,
      [2, 2, 2, 2] = copy [0, 0, 0, 0] (padded smallEncryptor.blockSize block.data) :=
  reads_return_staged_blocks checkingGcm smallEncryptor emptyMount _ exchangeHistory ⟨"data", 8⟩ 0
    4 [0, 0, 0, 0] [2, 2, 2, 2] exchanged_opens_only_sealed (Prod.ext (by decide) rfl) (by decide)

end CleanRoom.BlobFuse
