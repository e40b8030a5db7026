import CleanRoom.BlobFuse.RoundTrip

/-!
# The command line and the mount

`encrypt_file` and `decrypt_file` of the command line write and read the same
format as the mount, from the front to the end and with formulas of their own.
Files are byte lists here. The library calls exchange JSON with base64 texts;
what is modelled of them are the fields, where a missing one is `None` and cannot
be decoded.
-/

namespace CleanRoom.BlobFuse

open ByteFile BigEndian GoFiles

inductive PyError where
  | typeError
  | overflowError
deriving DecidableEq

/-- `base64.b64decode(jsonResponse.get(..))` -/
def b64decode : Option Bytes → Except PyError Bytes
  | some bytes => .ok bytes
  | none => .error .typeError

structure EncryptChunkReturn where
  cipherText : Option Bytes
  nonce : Option Bytes

def goEncryptChunk (gcm : AesGcm) (data key : Bytes) (nonce : Nonce) : EncryptChunkReturn :=
  match encryptChunk gcm data key nonce with
  | .ok cipherText => ⟨some cipherText, some nonce.1⟩
  | .error _ => ⟨none, none⟩

/-- The plaintext of the response. An empty one is a nil slice, which is written
as null. -/
def goDecryptChunk (gcm : AesGcm) (cipherText nonce key : Bytes) : Option Bytes :=
  match decryptChunk gcm cipherText nonce key with
  | .ok [] => none
  | .ok plainText => some plainText
  | .error _ => none

/-- The loop of `encrypt_file`: what is left to read, the padding so far and what
has been written. -/
def encryptBlocks (gcm : AesGcm) (key : Bytes) (blockSize : Nat) (nonces : Nat → Nonce)
    (index : Nat) (plaintext : Bytes) (paddingLength : Nat) (ciphertext : Bytes) :
    Except PyError (Nat × Bytes) :=
  if plaintext.take blockSize = [] then .ok (paddingLength, ciphertext)
  else do
    let buffer := plaintext.take blockSize
    let response := goEncryptChunk gcm (padded blockSize buffer) key (nonces index)
    let encryptedChunk ← b64decode response.cipherText
    let nonce ← b64decode response.nonce
    encryptBlocks gcm key blockSize nonces (index + 1) (plaintext.drop blockSize)
      (if buffer.length < blockSize then blockSize - buffer.length else paddingLength)
      (ciphertext ++ (nonce ++ encryptedChunk))
termination_by plaintext.length
decreasing_by
  rename_i more
  rw [List.take_eq_nil_iff, not_or] at more
  have some := List.length_pos_of_ne_nil more.2
  rw [List.length_drop]
  omega

/-- `value.to_bytes(8, byteorder="big")` -/
def toBytes (value : Nat) : Except PyError Bytes :=
  if value < 256 ^ paddingLengthSize then .ok (encode paddingLengthSize value)
  else .error .overflowError

def encryptFile (gcm : AesGcm) (plaintext key : Bytes) (blockSize : Nat) (nonces : Nat → Nonce) :
    Except PyError Bytes := do
  let (paddingLength, ciphertext) ← encryptBlocks gcm key blockSize nonces 0 plaintext 0 []
  let paddingLengthByte ← toBytes paddingLength
  return ciphertext ++ paddingLengthByte

/-- `bytes[:end]`, where a negative end counts from the back. -/
def sliceTo (bytes : Bytes) (finish : Int) : Bytes :=
  bytes.take (if finish < 0 then bytes.length + finish else finish).toNat

/-- The loop of `decrypt_file` over the block numbers: what is left to read and
what has been written. -/
def decryptBlocks (gcm : AesGcm) (key : Bytes) (blockSize totalBlocks : Nat) :
    List Nat → Bytes → Bytes → Except PyError Bytes
  | [], _, plaintext => .ok plaintext
  | i :: rest, ciphertext, plaintext =>
      let buffer := ciphertext.take (blockSize + metaSize)
      let unread := ciphertext.drop (blockSize + metaSize)
      if buffer.drop nonceSize = [] then .ok plaintext
      else do
        let decryptedChunk ← b64decode
          (goDecryptChunk gcm (buffer.drop nonceSize) (buffer.take nonceSize) key)
        if i = totalBlocks - 1 then
          let paddingLength := decode (unread.take paddingLengthSize)
          decryptBlocks gcm key blockSize totalBlocks rest (unread.drop paddingLengthSize)
            (plaintext ++ sliceTo decryptedChunk (decryptedChunk.length - paddingLength))
        else decryptBlocks gcm key blockSize totalBlocks rest unread (plaintext ++ decryptedChunk)

/-- The number of blocks is rounded down, to -1 for a file without a trailer. -/
def decryptFile (gcm : AesGcm) (ciphertext key : Bytes) (blockSize : Nat) :
    Except PyError Bytes :=
  let totalBlocks := ((ciphertext.length : Int) - paddingLengthSize).fdiv (blockSize + metaSize)
  decryptBlocks gcm key blockSize totalBlocks.toNat (List.range totalBlocks.toNat) ciphertext []

section Encryption

variable (gcm : AesGcm) (enc : Encryptor) (plain : Bytes) (nonces : Nat → Nonce)

def chunksUpTo (index : Nat) : Bytes :=
  bytesAfter gcm enc [] (blockStages enc plain nonces (List.range index))

variable {enc}

theorem chunks_up_to_succ (key : isAesKey enc.encryptionKey = true) (index : Nat) :
    (chunksUpTo gcm enc plain nonces index).length = index * enc.chunkSize ∧
      chunksUpTo gcm enc plain nonces (index + 1) = chunksUpTo gcm enc plain nonces index ++
        sealedChunk gcm enc (blockOf enc plain index) (nonces index) := by
  have next : ∀ count, chunksUpTo gcm enc plain nonces (count + 1) =
      overwrite (chunksUpTo gcm enc plain nonces count) (count * enc.chunkSize)
        (sealedChunk gcm enc (blockOf enc plain count) (nonces count)) := by
    intro count
    simp only [chunksUpTo, blockStages, List.range_succ, List.map_append, bytesAfter,
      List.foldl_append, List.map_cons, List.map_nil, List.foldl_cons, List.foldl_nil]
  have length : (chunksUpTo gcm enc plain nonces index).length = index * enc.chunkSize := by
    induction index with
    | zero => simp [chunksUpTo, blockStages, bytesAfter]
    | succ index ih =>
        rw [next, length_overwrite, length_sealed_chunk gcm enc _ _ key
          (length_block_le enc plain index), ih, ← Nat.succ_mul]
        exact max_eq_right (Nat.mul_le_mul_right _ (Nat.le_succ index))
  refine ⟨length, ?_⟩
  rw [next, ← length, overwrite_end]

def paddingBefore (enc : Encryptor) (plain : Bytes) (index : Nat) : Nat :=
  if index = blockCount enc plain then blockCount enc plain * enc.blockSize - plain.length else 0

theorem padding_before_succ (index : Nat) (inside : index < blockCount enc plain) :
    (if (blockOf enc plain index).length < enc.blockSize then
      enc.blockSize - (blockOf enc plain index).length
      else paddingBefore enc plain index) = paddingBefore enc plain (index + 1) := by
  have zero : paddingBefore enc plain index = 0 := if_neg (Nat.ne_of_lt inside)
  rw [zero]
  by_cases last : blockCount enc plain = index + 1
  · have same := last_block_padding enc plain index last
    rw [paddingBefore, if_pos last.symm, ← same]
    split <;> omega
  · have next := (lt_block_count enc plain (index + 1)).mp (by omega)
    have full : (blockOf enc plain index).length = enc.blockSize :=
      length_slice_of_le (by
        rw [Nat.succ_mul] at next
        omega)
    rw [full, if_neg (Nat.lt_irrefl _), paddingBefore, if_neg (by omega)]

theorem padding_lt_block (enc : Encryptor) (plain : Bytes) :
    blockCount enc plain * enc.blockSize - plain.length < enc.blockSize := by
  have positive := enc.positive
  by_cases empty : blockCount enc plain = 0
  · rw [empty]
    omega
  · have last := (lt_block_count enc plain (blockCount enc plain - 1)).mp (by omega)
    rw [Nat.sub_mul, Nat.one_mul] at last
    omega

theorem encrypt_blocks_step (key : isAesKey enc.encryptionKey = true) (index : Nat)
    (inside : index < blockCount enc plain) :
    encryptBlocks gcm enc.encryptionKey enc.blockSize nonces index
        (plain.drop (index * enc.blockSize)) (paddingBefore enc plain index)
        (chunksUpTo gcm enc plain nonces index) =
      encryptBlocks gcm enc.encryptionKey enc.blockSize nonces (index + 1)
        (plain.drop ((index + 1) * enc.blockSize)) (paddingBefore enc plain (index + 1))
        (chunksUpTo gcm enc plain nonces (index + 1)) := by
  have more : (plain.drop (index * enc.blockSize)).take enc.blockSize ≠ [] := by
    have positive := enc.positive
    have start := (lt_block_count enc plain index).mp inside
    rw [← List.length_pos_iff, List.length_take, List.length_drop]
    omega
  have response : goEncryptChunk gcm (padded enc.blockSize (blockOf enc plain index))
      enc.encryptionKey (nonces index) = ⟨some (gcm.encrypt enc.encryptionKey (nonces index).1
        (padded enc.blockSize (blockOf enc plain index))), some (nonces index).1⟩ := by
    simp [goEncryptChunk, encryptChunk, key]
  have chunks := (chunks_up_to_succ gcm plain nonces key index).2
  rw [sealedChunk] at chunks
  have block : (plain.drop (index * enc.blockSize)).take enc.blockSize =
      blockOf enc plain index := rfl
  conv_lhs => rw [encryptBlocks, if_neg more]
  simp only [block, response]
  rw [chunks, ← padding_before_succ plain index inside, Nat.succ_mul, ← List.drop_drop]
  rfl

theorem encrypt_blocks_ok (key : isAesKey enc.encryptionKey = true) (left index : Nat)
    (rest : index + left = blockCount enc plain) :
    encryptBlocks gcm enc.encryptionKey enc.blockSize nonces index
        (plain.drop (index * enc.blockSize)) (paddingBefore enc plain index)
        (chunksUpTo gcm enc plain nonces index) =
      .ok (blockCount enc plain * enc.blockSize - plain.length,
        chunksUpTo gcm enc plain nonces (blockCount enc plain)) := by
  induction left generalizing index with
  | zero =>
      have atEnd : index = blockCount enc plain := by omega
      subst atEnd
      have none : plain.drop (blockCount enc plain * enc.blockSize) = [] :=
        List.drop_eq_nil_iff.mpr (length_le_blocks enc plain)
      rw [encryptBlocks, none, if_pos (by simp), paddingBefore, if_pos rfl]
  | succ left ih =>
      rw [encrypt_blocks_step gcm plain nonces key index (by omega)]
      exact ih (index + 1) (by omega)

theorem encrypt_file_ok (key : isAesKey enc.encryptionKey = true) :
    encryptFile gcm plain enc.encryptionKey enc.blockSize nonces =
      .ok (chunksUpTo gcm enc plain nonces (blockCount enc plain) ++
        putInt64 (blockCount enc plain * enc.blockSize - plain.length : Nat)) := by
  have start : paddingBefore enc plain 0 = 0 := by
    rw [paddingBefore]
    split
    next empty => rw [← empty, Nat.zero_mul, Nat.zero_sub]
    next => rfl
  have blocks := encrypt_blocks_ok gcm plain nonces key (blockCount enc plain) 0 (by omega)
  rw [start, Nat.zero_mul, List.drop_zero] at blocks
  have short := padding_lt_block enc plain
  have fits := enc.fits
  rw [encryptFile]
  change (encryptBlocks gcm enc.encryptionKey enc.blockSize nonces 0 plain 0
    (chunksUpTo gcm enc plain nonces 0) >>= _) = _
  rw [blocks]
  change (toBytes _ >>= _) = _
  rw [toBytes, if_pos (by norm_num [paddingLengthSize]; omega), putInt64,
    uint64_of_fits _ (by omega)]
  rfl

theorem Closed.presents_encrypted {name : String} {inode : Nat} {mount : Mount}
    (closed : Closed enc name inode (chunksUpTo gcm enc plain nonces (blockCount enc plain) ++
      putInt64 (blockCount enc plain * enc.blockSize - plain.length : Nat)) mount)
    (key : isAesKey enc.encryptionKey = true)
    (fits : (blockCount enc plain + 1) * enc.chunkSize + paddingLengthSize < 2 ^ 63) :
    Presents gcm enc name plain mount := by
  have length := (chunks_up_to_succ gcm plain nonces key (blockCount enc plain)).1
  have plainShort := length_le_blocks enc plain
  rw [← overwrite_end, length] at closed
  apply closed.presents_trailed (by omega) (by omega) _ fits
  intro index inside
  exact staged_blocks _ nonces key index
    (List.mem_range.mpr ((lt_block_count enc plain index).mpr inside))

end Encryption

section Decryption

variable {gcm : AesGcm} {enc : Encryptor} {plain bytes : Bytes}

theorem go_decrypt_chunk_ok {cipherText nonce key block : Bytes}
    (opens : decryptChunk gcm cipherText nonce key = .ok block) (some : block ≠ []) :
    b64decode (goDecryptChunk gcm cipherText nonce key) = .ok block := by
  rw [goDecryptChunk, opens]
  cases block with
  | nil => exact absurd rfl some
  | cons byte rest => rfl

structure HoldsFile (gcm : AesGcm) (enc : Encryptor) (plain bytes : Bytes) : Prop where
  length : bytes.length = blockCount enc plain * enc.chunkSize + paddingLengthSize
  blocks : ∀ index < blockCount enc plain,
    BlockIs gcm enc bytes index (window plain (index * enc.blockSize) enc.blockSize)
  trailer : slice bytes (blockCount enc plain * enc.chunkSize) paddingLengthSize =
    putInt64 (blockCount enc plain * enc.blockSize - plain.length : Nat)

theorem HoldsFile.padding (holds : HoldsFile gcm enc plain bytes) :
    decode (slice bytes (blockCount enc plain * enc.chunkSize) paddingLengthSize) =
      blockCount enc plain * enc.blockSize - plain.length := by
  have short := padding_lt_block enc plain
  have fits := enc.fits
  rw [holds.trailer, putInt64, decode_encode, uint64_of_fits _ (by omega)]
  exact Nat.mod_eq_of_lt (by norm_num; omega)

theorem take_block (enc : Encryptor) (plain : Bytes) (index : Nat) :
    plain.take (index * enc.blockSize) ++ blockOf enc plain index =
      plain.take ((index + 1) * enc.blockSize) := by
  rw [Nat.succ_mul, List.take_add]
  rfl

theorem take_block_window (enc : Encryptor) (plain : Bytes) (index : Nat) :
    (window plain (index * enc.blockSize) enc.blockSize).take (blockOf enc plain index).length =
      blockOf enc plain index := by
  rw [← padded_block, padded, List.take_left']
  rfl

theorem HoldsFile.decrypt_step (holds : HoldsFile gcm enc plain bytes) (index : Nat)
    (rest : List Nat) (inside : index < blockCount enc plain) :
    ∃ unread,
      (index + 1 < blockCount enc plain → unread = bytes.drop ((index + 1) * enc.chunkSize)) ∧
      decryptBlocks gcm enc.encryptionKey enc.blockSize (blockCount enc plain) (index :: rest)
          (bytes.drop (index * enc.chunkSize)) (plain.take (index * enc.blockSize)) =
        decryptBlocks gcm enc.encryptionKey enc.blockSize (blockCount enc plain) rest unread
          (plain.take ((index + 1) * enc.blockSize)) := by
  have block := holds.blocks index inside
  have inFile := block.inFile
  have positive := enc.positive
  have more : (slice bytes (index * enc.chunkSize) enc.chunkSize).drop nonceSize ≠ [] := by
    have wide : nonceSize < enc.chunkSize := by
      rw [Encryptor.chunkSize, metaSize, authTagSize]
      omega
    rw [Nat.succ_mul] at inFile
    rw [← List.length_pos_iff, List.length_drop, length_slice_of_le inFile]
    omega
  have opened := go_decrypt_chunk_ok block.opens (by
    rw [← List.length_pos_iff, length_window]
    exact positive)
  have chunk : (bytes.drop (index * enc.chunkSize)).take (enc.blockSize + metaSize) =
      slice bytes (index * enc.chunkSize) enc.chunkSize := rfl
  have next : (bytes.drop (index * enc.chunkSize)).drop (enc.blockSize + metaSize) =
      bytes.drop ((index + 1) * enc.chunkSize) := by
    rw [List.drop_drop, Nat.succ_mul]
    rfl
  rw [decryptBlocks]
  simp only [next, chunk, opened]
  rw [if_neg more, ← take_block]
  by_cases last : index = blockCount enc plain - 1
  · have count : blockCount enc plain = index + 1 := by omega
    have short := length_block_le enc plain index
    have padding : decode ((bytes.drop ((index + 1) * enc.chunkSize)).take paddingLengthSize) =
        enc.blockSize - (blockOf enc plain index).length := by
      rw [last_block_padding enc plain index count, ← count]
      exact holds.padding
    have cut : sliceTo (window plain (index * enc.blockSize) enc.blockSize)
        ((window plain (index * enc.blockSize) enc.blockSize).length -
          (enc.blockSize - (blockOf enc plain index).length : Nat)) = blockOf enc plain index := by
      have finish : ((window plain (index * enc.blockSize) enc.blockSize).length : Int) -
          (enc.blockSize - (blockOf enc plain index).length : Nat) =
            (blockOf enc plain index).length := by
        rw [length_window]
        omega
      rw [sliceTo, finish, if_neg (by omega), Int.toNat_natCast, take_block_window]
    refine ⟨(bytes.drop ((index + 1) * enc.chunkSize)).drop paddingLengthSize, by omega, ?_⟩
    change (if index = blockCount enc plain - 1 then _ else _) = _
    rw [if_pos last, padding, cut]
  · have inside := (lt_block_count enc plain (index + 1)).mp (by omega)
    have full : window plain (index * enc.blockSize) enc.blockSize = blockOf enc plain index := by
      have length : (blockOf enc plain index).length = enc.blockSize :=
        length_slice_of_le (by
          rw [Nat.succ_mul] at inside
          omega)
      rw [← padded_block, padded, length, Nat.sub_self, List.replicate_zero, List.append_nil]
    refine ⟨bytes.drop ((index + 1) * enc.chunkSize), fun _ => rfl, ?_⟩
    change (if index = blockCount enc plain - 1 then _ else _) = _
    rw [if_neg last, full]

theorem HoldsFile.decrypt_blocks (holds : HoldsFile gcm enc plain bytes) (left index : Nat)
    (rest : index + left = blockCount enc plain) (unread : Bytes)
    (position : index < blockCount enc plain → unread = bytes.drop (index * enc.chunkSize)) :
    decryptBlocks gcm enc.encryptionKey enc.blockSize (blockCount enc plain)
      (List.range' index left) unread (plain.take (index * enc.blockSize)) = .ok plain := by
  induction left generalizing index unread with
  | zero =>
      have atEnd : index = blockCount enc plain := by omega
      rw [atEnd, List.take_of_length_le (length_le_blocks enc plain)]
      rfl
  | succ left ih =>
      obtain ⟨after, aligned, step⟩ := holds.decrypt_step index (List.range' (index + 1) left)
        (by omega)
      rw [List.range'_succ, position (by omega), step]
      exact ih (index + 1) (by omega) after aligned

theorem HoldsFile.decrypt_file (holds : HoldsFile gcm enc plain bytes) :
    decryptFile gcm bytes enc.encryptionKey enc.blockSize = .ok plain := by
  have total : ((bytes.length : Int) - paddingLengthSize).fdiv (enc.blockSize + metaSize) =
      blockCount enc plain := by
    have size : ((bytes.length : Int) - paddingLengthSize) =
        (blockCount enc plain * (enc.blockSize + metaSize) : Int) := by
      rw [holds.length, Encryptor.chunkSize]
      push_cast
      omega
    rw [size]
    apply Int.mul_fdiv_cancel
    have positive := enc.positive
    omega
  have whole := holds.decrypt_blocks (blockCount enc plain) 0 (by omega) bytes (by simp)
  rw [decryptFile]
  simp only [total, Int.toNat_natCast]
  rw [List.range_eq_range']
  simpa using whole

theorem CommittedBytes.decrypt_file (committed : CommittedBytes gcm enc plain bytes) :
    decryptFile gcm bytes enc.encryptionKey enc.blockSize = .ok plain := by
  rw [CommittedBytes] at committed
  split_ifs at committed with empty
  · subst committed empty
    have negative :
        (((0 : Nat) : Int) - paddingLengthSize).fdiv (enc.blockSize + metaSize) < 0 := by
      rw [Int.fdiv_eq_ediv_of_nonneg _ (by omega)]
      exact Int.ediv_neg_of_neg_of_pos (by decide) (by have := enc.positive; omega)
    rw [decryptFile]
    simp only [List.length_nil, Int.toNat_of_nonpos negative.le]
    rfl
  · obtain ⟨base, before, rfl, blocks⟩ := committed
    have holds : HoldsFile gcm enc plain (overwrite base (blockCount enc plain * enc.chunkSize)
        (putInt64 (blockCount enc plain * enc.blockSize - plain.length : Nat))) := by
      constructor
      · exact length_trailed _ _ before
      · intro index inside
        apply (blocks index inside).overwrite_disjoint
        rw [← Nat.succ_mul]
        exact Or.inl (Nat.mul_le_mul_right _ inside)
      · have trailer := slice_overwrite_same base (blockCount enc plain * enc.chunkSize)
          (putInt64 (blockCount enc plain * enc.blockSize - plain.length : Nat))
        rwa [length_put_int64] at trailer
    exact holds.decrypt_file

end Decryption

/-- The file that the command line writes is read through the mount as the
plaintext, and the file that the mount leaves, its blocks staged in any order, is
turned back into the plaintext by the command line. -/
theorem command_line_and_mount_agree (gcm : AesGcm) (enc : Encryptor) (name : String)
    (plain : Bytes) (nonces : Nat → Nonce) (key : isAesKey enc.encryptionKey = true)
    (fits : (blockCount enc plain + 1) * enc.chunkSize + paddingLengthSize < 2 ^ 63) :
    (∃ ciphertext,
      encryptFile gcm plain enc.encryptionKey enc.blockSize nonces = .ok ciphertext ∧
      ∀ inode mount, Closed enc name inode ciphertext mount →
        Presents gcm enc name plain mount) ∧
    ∀ mount order, mount.disk.outcomes = [] →
      mount.disk.entries.lookup (enc.path name) = none →
      order.Perm (List.range (blockCount enc plain)) →
      ∃ created staged inode ciphertext committed,
        createFile enc name mount = (.ok ⟨name, 0⟩, created) ∧
        stageAll gcm enc name (blockStages enc plain nonces order) created = (.ok (), staged) ∧
        commitData enc name staged = (.ok (), committed) ∧
        Closed enc name inode ciphertext committed ∧
        decryptFile gcm ciphertext enc.encryptionKey enc.blockSize = .ok plain := by
  constructor
  · refine ⟨_, encrypt_file_ok gcm plain nonces key, ?_⟩
    intro inode mount closed
    exact closed.presents_encrypted gcm plain nonces key fits
  · intro mount order works fresh once
    have complete : ∀ index, index ∈ order ↔ index < blockCount enc plain := by
      intro index
      rw [once.mem_iff, List.mem_range]
    obtain ⟨created, _, staged, inode, ciphertext, committed, creating, staging, _, committing,
      closed, bytesOk⟩ := new_file_committed gcm enc name plain order nonces mount works fresh key
        complete fits
    exact ⟨created, staged, inode, ciphertext, committed, creating, staging, committing, closed,
      bytesOk.decrypt_file⟩

/-- Six bytes in blocks of four, from the command line to the mount and back. -/
theorem six_bytes_exchanged :
    (∃ ciphertext,
      encryptFile taggingGcm [1, 2, 3, 4, 5, 6] (List.replicate 32 7) 4 (fun _ => zeroNonce) =
          .ok ciphertext ∧
        ∀ inode mount, Closed smallEncryptor "data" inode ciphertext mount →
          Presents taggingGcm smallEncryptor "data" [1, 2, 3, 4, 5, 6] mount) ∧
    ∃ inode ciphertext committed, Closed smallEncryptor "data" inode ciphertext committed ∧
      decryptFile taggingGcm ciphertext (List.replicate 32 7) 4 = .ok [1, 2, 3, 4, 5, 6] := by
  obtain ⟨encrypted, written⟩ := command_line_and_mount_agree taggingGcm smallEncryptor "data"
    [1, 2, 3, 4, 5, 6] (fun _ => zeroNonce) (by decide) (by decide)
  obtain ⟨_, _, inode, ciphertext, committed, _, _, _, closed, decrypted⟩ :=
    written emptyMount [1, 0] rfl rfl (by decide)
  exact ⟨encrypted, inode, ciphertext, committed, closed, decrypted⟩

end CleanRoom.BlobFuse
