import CleanRoom.BlobFuse.Stages

/-!
# A new file is read back as it was written

After `CreateFile` on a new name the blocks of a plaintext are staged in any order,
each once, and committed. The size is right before and after the commit, and every
block reads back.

File sizes are 64-bit integers in the source, so the stored file, with one more
chunk, is taken to stay below that range.
-/

namespace CleanRoom.BlobFuse

open ByteFile BigEndian GoFiles

def blockCount (enc : Encryptor) (plain : Bytes) : Nat :=
  (plain.length + enc.blockSize - 1) / enc.blockSize

def blockOf (enc : Encryptor) (plain : Bytes) (index : Nat) : Bytes :=
  slice plain (index * enc.blockSize) enc.blockSize

def blockStages (enc : Encryptor) (plain : Bytes) (nonces : Nat → Nonce) (order : List Nat) :
    List Stage :=
  order.map fun index => ⟨index, blockOf enc plain index, nonces index⟩

/-- What a commit of this plaintext leaves on the disk: nothing for an empty one,
otherwise its chunks and after them the padding of the last. -/
def CommittedBytes (gcm : AesGcm) (enc : Encryptor) (plain bytes : Bytes) : Prop :=
  if plain = [] then bytes = []
  else ∃ base : Bytes,
    base.length ≤ blockCount enc plain * enc.chunkSize + paddingLengthSize ∧
    bytes = overwrite base (blockCount enc plain * enc.chunkSize)
      (putInt64 (blockCount enc plain * enc.blockSize - plain.length : Nat)) ∧
    ∀ index < blockCount enc plain,
      BlockIs gcm enc base index (window plain (index * enc.blockSize) enc.blockSize)

section Counting

variable (enc : Encryptor) (plain : Bytes)

theorem lt_block_count (index : Nat) :
    index < blockCount enc plain ↔ index * enc.blockSize < plain.length := by
  have positive := enc.positive
  rw [blockCount, ← Nat.succ_le_iff, Nat.le_div_iff_mul_le positive, Nat.succ_mul]
  omega

theorem length_le_blocks : plain.length ≤ blockCount enc plain * enc.blockSize := by
  by_contra more
  exact absurd ((lt_block_count enc plain _).mpr (Nat.lt_of_not_le more)) (Nat.lt_irrefl _)

theorem block_count_eq_zero : blockCount enc plain = 0 ↔ plain = [] := by
  have first := lt_block_count enc plain 0
  rw [← List.length_eq_zero_iff]
  omega

theorem padded_block (index : Nat) :
    padded enc.blockSize (blockOf enc plain index) =
      window plain (index * enc.blockSize) enc.blockSize :=
  slice_append_zeros

theorem length_block_le (index : Nat) : (blockOf enc plain index).length ≤ enc.blockSize := by
  rw [blockOf, length_slice]
  exact Nat.min_le_left _ _

theorem last_block_padding (index : Nat) (last : blockCount enc plain = index + 1) :
    enc.blockSize - (blockOf enc plain index).length =
      blockCount enc plain * enc.blockSize - plain.length := by
  have whole := length_le_blocks enc plain
  have inside := (lt_block_count enc plain index).mp (by omega)
  rw [last, Nat.succ_mul] at whole ⊢
  rw [blockOf, length_slice]
  omega

end Counting

section Committing

variable {gcm : AesGcm} {enc : Encryptor} {name : String} {inode : Nat} {plain bytes : Bytes}
  {mount : Mount}

theorem data_after_same (stages : List Stage) (data : Nat → Bytes)
    (same : ∀ stage ∈ stages, stage.data = data stage.index) :
    dataAfter data stages = data := by
  induction stages with
  | nil => rfl
  | cons stage rest ih =>
      rw [List.forall_mem_cons] at same
      rw [dataAfter, List.foldl_cons, same.1, Function.update_eq_self]
      exact ih same.2

/-- A closed file with a trailer after this many chunks presents any plaintext whose
blocks it stores and whose size the trailer stands for. -/
theorem Closed.presents_trailed {base : Bytes} {count padding : Nat}
    (closed : Closed enc name inode (overwrite base (count * enc.chunkSize) (putInt64 padding))
      mount) (before : base.length ≤ count * enc.chunkSize + paddingLengthSize)
    (size : plain.length + padding = count * enc.blockSize)
    (blocks : ∀ index, index * enc.blockSize < plain.length →
      BlockIs gcm enc base index (window plain (index * enc.blockSize) enc.blockSize))
    (fits : (count + 1) * enc.chunkSize + paddingLengthSize < 2 ^ 63) :
    Presents gcm enc name plain mount := by
  have wide : count * enc.chunkSize = count * enc.blockSize + count * metaSize := Nat.mul_add _ _ _
  have blockShort : enc.blockSize ≤ enc.chunkSize := Nat.le_add_right _ _
  have trailerShort := chunk_size_gt enc
  have length := length_trailed count padding before
  rw [Nat.succ_mul] at fits
  have reported := closed.attr (by omega)
  rw [stored_size_trailed count padding before (by omega) (by omega),
    Nat.sub_eq_of_eq_add size.symm] at reported
  apply closed.toStores.presents plain reported
  · intro index inside
    have below : index < count := by
      apply (Nat.mul_lt_mul_right enc.positive).mp
      omega
    apply (blocks index inside).overwrite_disjoint
    rw [← Nat.succ_mul]
    exact Or.inl (Nat.mul_le_mul_right _ below)
  · omega
  · omega

theorem Closed.presents_trailed_iff {base : Bytes} {count padding : Nat}
    (closed : Closed enc name inode (overwrite base (count * enc.chunkSize) (putInt64 padding))
      mount) (before : base.length ≤ count * enc.chunkSize + paddingLengthSize)
    (short : padding ≤ count * enc.blockSize)
    (blocks : ∀ index, index * enc.blockSize < plain.length →
      BlockIs gcm enc base index (window plain (index * enc.blockSize) enc.blockSize))
    (fits : (count + 1) * enc.chunkSize + paddingLengthSize < 2 ^ 63) :
    Presents gcm enc name plain mount ↔ plain.length + padding = count * enc.blockSize := by
  constructor
  · intro presents
    have trailerShort := chunk_size_gt enc
    have length := length_trailed count padding before
    rw [Nat.succ_mul] at fits
    have reported := closed.attr (by omega)
    rw [stored_size_trailed count padding before short (by omega), presents.size] at reported
    injection reported with attributes
    injection attributes with _ size
    omega
  · intro size
    exact closed.presents_trailed before size blocks fits

theorem Closed.presents_empty (closed : Closed enc name inode [] mount) :
    Presents gcm enc name [] mount := by
  have fits := enc.fits
  have size := closed.attr (by simp; decide)
  rw [storedSize, if_pos (by simp; decide)] at size
  apply closed.toStores.presents [] size
  · intro index inside
    exact absurd inside (Nat.not_lt_zero _)
  · simp only [List.length_nil]
    omega
  · simp

theorem Closed.presents (closed : Closed enc name inode bytes mount)
    (committed : CommittedBytes gcm enc plain bytes)
    (fits : (blockCount enc plain + 1) * enc.chunkSize + paddingLengthSize < 2 ^ 63) :
    Presents gcm enc name plain mount := by
  rw [CommittedBytes] at committed
  split_ifs at committed with empty
  · subst committed empty
    exact closed.presents_empty
  · obtain ⟨base, before, rfl, blocks⟩ := committed
    have plainShort := length_le_blocks enc plain
    apply closed.presents_trailed before (by omega) _ fits
    intro index inside
    exact blocks index ((lt_block_count enc plain index).mpr inside)

variable {order : List Nat} {nonces : Nat → Nonce}

theorem stages_fit (nonces : Nat → Nonce) (within : ∀ index ∈ order, index < blockCount enc plain)
    (fits : (blockCount enc plain + 1) * enc.chunkSize + paddingLengthSize < 2 ^ 63) :
    StagesFit enc (blockStages enc plain nonces order) := by
  constructor
  · intro stage member
    obtain ⟨index, _, rfl⟩ := List.mem_map.mp member
    exact length_block_le enc plain index
  · intro stage member
    obtain ⟨index, inOrder, rfl⟩ := List.mem_map.mp member
    have bound := Nat.mul_le_mul_right enc.chunkSize (Nat.succ_le_of_lt (within index inOrder))
    rw [Nat.succ_mul] at fits
    exact Nat.lt_of_le_of_lt bound (by omega)

theorem meta_after_blocks (complete : ∀ index, index ∈ order ↔ index < blockCount enc plain) :
    metaAfter enc .none (blockStages enc plain nonces order) =
      if plain = [] then .none
      else ⟨(blockCount enc plain : Int) - 1,
        (blockCount enc plain * enc.blockSize - plain.length : Nat)⟩ := by
  rcases meta_after_cases (blockStages enc plain nonces order) .none with
    ⟨within, same⟩ | ⟨stage, member, _, most, same⟩
  · rw [same, if_pos]
    rw [← block_count_eq_zero enc plain]
    by_contra someBlock
    have first : (⟨0, blockOf enc plain 0, nonces 0⟩ : Stage) ∈
        blockStages enc plain nonces order :=
      List.mem_map.mpr ⟨0, (complete 0).mpr (Nat.pos_of_ne_zero someBlock), rfl⟩
    have bound : ((0 : Nat) : Int) ≤ -1 := within _ first
    omega
  · obtain ⟨index, inOrder, rfl⟩ := List.mem_map.mp member
    have inside := (complete index).mp inOrder
    have last : blockCount enc plain = index + 1 := by
      by_contra further
      have next : (⟨index + 1, blockOf enc plain (index + 1), nonces (index + 1)⟩ : Stage) ∈
          blockStages enc plain nonces order :=
        List.mem_map.mpr ⟨index + 1, (complete _).mpr (by omega), rfl⟩
      have bound : index + 1 ≤ index := most _ next
      omega
    rw [same, if_neg (by
      rw [← block_count_eq_zero enc plain]
      omega)]
    simp only [LastChunkMeta.mk.injEq]
    exact ⟨by omega, congrArg Nat.cast (last_block_padding enc plain index last)⟩

theorem farthest_after_blocks (nonces : Nat → Nonce)
    (complete : ∀ index, index ∈ order ↔ index < blockCount enc plain) :
    -1 ≤ (metaAfter enc .none (blockStages enc plain nonces order)).farthestBlockSeen ∧
      ((metaAfter enc .none (blockStages enc plain nonces order)).farthestBlockSeen + 1).toNat ≤
        blockCount enc plain := by
  rw [meta_after_blocks complete]
  split_ifs
  · exact ⟨le_refl _, Nat.zero_le _⟩
  · constructor <;> simp only <;> omega

theorem staged_blocks (order : List Nat) (nonces : Nat → Nonce)
    (key : isAesKey enc.encryptionKey = true) (index : Nat) (member : index ∈ order) :
    BlockIs gcm enc (bytesAfter gcm enc [] (blockStages enc plain nonces order)) index
      (window plain (index * enc.blockSize) enc.blockSize) := by
  have unchanged : dataAfter (blockOf enc plain) (blockStages enc plain nonces order) =
      blockOf enc plain := by
    apply data_after_same
    intro stage listed
    obtain ⟨other, _, rfl⟩ := List.mem_map.mp listed
    rfl
  rw [← padded_block, ← congrFun unchanged index]
  apply blocks_after _ _ (fun _ => False) key
  · intro stage listed
    obtain ⟨other, _, rfl⟩ := List.mem_map.mp listed
    exact length_block_le enc plain other
  · intro _ never
    exact absurd never id
  · exact Or.inr ⟨_, List.mem_map.mpr ⟨index, member, rfl⟩, rfl⟩

theorem length_staged_le (key : isAesKey enc.encryptionKey = true)
    (complete : ∀ index, index ∈ order ↔ index < blockCount enc plain) :
    (bytesAfter gcm enc [] (blockStages enc plain nonces order)).length ≤
      blockCount enc plain * enc.chunkSize := by
  apply length_bytes_after_le _ _ key _ (Nat.zero_le _)
  · intro stage member
    obtain ⟨index, inOrder, rfl⟩ := List.mem_map.mp member
    exact Nat.mul_le_mul_right enc.chunkSize (Nat.succ_le_of_lt ((complete index).mp inOrder))
  · intro stage member
    obtain ⟨index, _, rfl⟩ := List.mem_map.mp member
    exact length_block_le enc plain index

theorem committed_bytes_of_blocks (key : isAesKey enc.encryptionKey = true)
    (complete : ∀ index, index ∈ order ↔ index < blockCount enc plain) :
    CommittedBytes gcm enc plain (committedBytes enc
      (bytesAfter gcm enc [] (blockStages enc plain nonces order))
      (metaAfter enc .none (blockStages enc plain nonces order))) := by
  rw [meta_after_blocks complete, CommittedBytes]
  split_ifs with empty
  · have noneStaged : order = [] := by
      rw [List.eq_nil_iff_forall_not_mem]
      intro index member
      have inside := (complete index).mp member
      rw [(block_count_eq_zero enc plain).mpr empty] at inside
      exact Nat.not_lt_zero _ inside
    rw [noneStaged]
    rfl
  · refine ⟨bytesAfter gcm enc [] (blockStages enc plain nonces order), ?_, ?_, ?_⟩
    · exact Nat.le_add_right_of_le (length_staged_le key complete)
    · have seen : (blockCount enc plain : Int) - 1 ≠ -1 := by
        have := mt (block_count_eq_zero enc plain).mp empty
        omega
      have count : ((blockCount enc plain : Int) - 1 + 1).toNat = blockCount enc plain := by
        omega
      rw [committedBytes, if_neg seen, count]
    · intro index inside
      exact staged_blocks order nonces key index ((complete index).mpr inside)

theorem size_after_blocks (complete : ∀ index, index ∈ order ↔ index < blockCount enc plain)
    (fits : (blockCount enc plain + 1) * enc.chunkSize + paddingLengthSize < 2 ^ 63) :
    (metaAfter enc .none (blockStages enc plain nonces order)).size enc.blockSize =
      plain.length := by
  rw [meta_after_blocks complete]
  split_ifs with empty
  · rw [empty]
    rfl
  · have positive := mt (block_count_eq_zero enc plain).mp empty
    have wide : blockCount enc plain * enc.chunkSize =
        blockCount enc plain * enc.blockSize + blockCount enc plain * metaSize :=
      Nat.mul_add _ _ _
    have plainShort := length_le_blocks enc plain
    rw [Nat.succ_mul] at fits
    rw [LastChunkMeta.size, if_neg (by
      simp only
      omega), sub_add_cancel, ← Nat.cast_mul, ← Nat.cast_sub (Nat.sub_le _ _),
      Nat.sub_sub_self plainShort]
    exact int64_of_fits _ (by omega) (by omega)

end Committing

section NewFile

variable (gcm : AesGcm) (enc : Encryptor) (name : String) (plain : Bytes) (order : List Nat)
  (nonces : Nat → Nonce) (mount : Mount)

theorem new_file_committed (works : mount.disk.outcomes = [])
    (fresh : mount.disk.entries.lookup (enc.path name) = none)
    (key : isAesKey enc.encryptionKey = true)
    (complete : ∀ index, index ∈ order ↔ index < blockCount enc plain)
    (fits : (blockCount enc plain + 1) * enc.chunkSize + paddingLengthSize < 2 ^ 63) :
    ∃ created handle staged inode bytes committed,
      createFile enc name mount = (.ok ⟨name, 0⟩, created) ∧
      stageAll gcm enc name (blockStages enc plain nonces order) created = (.ok (), staged) ∧
      Writing enc name handle (bytesAfter gcm enc [] (blockStages enc plain nonces order))
        (metaAfter enc .none (blockStages enc plain nonces order)) staged ∧
      commitData enc name staged = (.ok (), committed) ∧
      Closed enc name inode bytes committed ∧ CommittedBytes gcm enc plain bytes := by
  have fit := stages_fit nonces (fun index member => (complete index).mp member) fits
  obtain ⟨low, high⟩ := farthest_after_blocks nonces complete
  have trailer := Nat.mul_le_mul_right enc.chunkSize high
  rw [Nat.succ_mul] at fits
  obtain ⟨_, created, creating, writing⟩ := create_fresh works fresh
  obtain ⟨handle, staged, staging, still⟩ := writing.stage_all gcm _ key fit
  obtain ⟨inode, committed, committing, closed⟩ := still.ready.commit low (by omega)
  exact ⟨created, handle, staged, inode, _, committed, creating, staging, still, committing,
    closed, committed_bytes_of_blocks key complete⟩

/-- Any order of staging the blocks of a plaintext into a new file, each once, gives
a file that presents the plaintext, before the commit and after it. -/
theorem encrypted_file_round_trip (works : mount.disk.outcomes = [])
    (fresh : mount.disk.entries.lookup (enc.path name) = none)
    (key : isAesKey enc.encryptionKey = true)
    (once : order.Perm (List.range (blockCount enc plain)))
    (fits : (blockCount enc plain + 1) * enc.chunkSize + paddingLengthSize < 2 ^ 63) :
    ∃ created staged committed,
      createFile enc name mount = (.ok ⟨name, 0⟩, created) ∧
      stageAll gcm enc name (blockStages enc plain nonces order) created = (.ok (), staged) ∧
      Presents gcm enc name plain staged ∧
      commitData enc name staged = (.ok (), committed) ∧
      Presents gcm enc name plain committed := by
  have complete : ∀ index, index ∈ order ↔ index < blockCount enc plain := by
    intro index
    rw [once.mem_iff, List.mem_range]
  obtain ⟨created, _, staged, _, _, committed, creating, staging, writing, committing, closed,
    bytesOk⟩ := new_file_committed gcm enc name plain order nonces mount works fresh key complete
      fits
  refine ⟨created, staged, committed, creating, staging, ?_, committing,
    closed.presents bytesOk fits⟩
  have size := writing.attr
  rw [size_after_blocks complete fits] at size
  have wide : blockCount enc plain * enc.chunkSize =
      blockCount enc plain * enc.blockSize + blockCount enc plain * metaSize := Nat.mul_add _ _ _
  have plainShort := length_le_blocks enc plain
  have blockShort : enc.blockSize ≤ enc.chunkSize := Nat.le_add_right _ _
  rw [Nat.succ_mul] at fits
  apply writing.toStores.presents plain size
  · intro index inside
    exact staged_blocks order nonces key index
      ((complete index).mpr ((lt_block_count enc plain index).mpr inside))
  · omega
  · exact Nat.lt_of_le_of_lt (length_staged_le key complete) (by omega)

end NewFile

/-- A cipher that appends a tag of zeros, for evaluating the model. -/
def taggingGcm : AesGcm where
  encrypt _ _ plain := plain ++ List.replicate authTagSize 0
  decrypt _ _ cipherText := some (cipherText.take (cipherText.length - authTagSize))
  decrypt_encrypt _ _ plain _ _ := by simp
  length_encrypt _ _ plain _ _ := by simp

def zeroNonce : Nonce := ⟨List.replicate nonceSize 0, rfl⟩

def smallEncryptor : Encryptor where
  blockSize := 4
  encryptionKey := List.replicate 32 7
  path name := "/mnt/cipher/" ++ name
  positive := by decide
  fits := by decide

def emptyMount : Mount where
  disk := ⟨∅, fun _ => [], 0, [], 0, []⟩
  handleMap _ := none
  lastChunkMetaMap _ := none

theorem six_bytes_round_trip :
    ∃ created staged committed,
      createFile smallEncryptor "data" emptyMount = (.ok ⟨"data", 0⟩, created) ∧
      stageAll taggingGcm smallEncryptor "data"
        (blockStages smallEncryptor [1, 2, 3, 4, 5, 6] (fun _ => zeroNonce) [1, 0]) created =
          (.ok (), staged) ∧
      Presents taggingGcm smallEncryptor "data" [1, 2, 3, 4, 5, 6] staged ∧
      commitData smallEncryptor "data" staged = (.ok (), committed) ∧
      Presents taggingGcm smallEncryptor "data" [1, 2, 3, 4, 5, 6] committed :=
  encrypted_file_round_trip taggingGcm smallEncryptor "data" [1, 2, 3, 4, 5, 6] [1, 0]
    (fun _ => zeroNonce) emptyMount rfl rfl (by decide) (by decide) (by decide)

end CleanRoom.BlobFuse
