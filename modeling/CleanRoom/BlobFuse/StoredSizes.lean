import CleanRoom.BlobFuse.StorageIntegrity
import Mathlib.Tactic.Linarith

/-!
# Sizes of files with arbitrary stored bytes

`GetAttr` computes the size of a file without a write handle from its stored size and from
the eight bytes at its end, which nothing vouches for. The size lies between zero and the
whole chunks of the file exactly if these bytes, as a signed number, are a padding that the
chunks and the bytes between them and the trailer have room for.
-/

namespace CleanRoom.BlobFuse

open ByteFile BigEndian GoFiles

theorem on_disk_run {Value : Type} {mount : Mount} {body : Go Disk Value}
    {result : Except GoError Value}
    {disk : Disk} (ran : body mount.disk = (result, disk)) :
    onDisk body mount = (result, { mount with disk := disk }) :=
  Go.within_apply _ _ ran

theorem map_error_failed {Value : Type} {body : Go Mount Value} {mount after : Mount}
    {error : GoError} (wrap : GoError → GoError) (ran : body mount = (.error error, after)) :
    Go.mapError wrap body mount = (.error (wrap error), after) := by
  simp only [Go.mapError, ran]

def trailerOf (bytes : Bytes) : Int :=
  getInt64 (slice bytes (bytes.length - paddingLengthSize) paddingLengthSize)

/-- The file ends with fewer than eight bytes after its whole chunks, or the last eight bytes
are at least the number of bytes before them that belong to no chunk, and at most that number
and the blocks together. -/
def TrailerInRange (enc : Encryptor) (bytes : Bytes) : Prop :=
  bytes.length % enc.chunkSize < paddingLengthSize ∨
    (((bytes.length % enc.chunkSize - paddingLengthSize : Nat) : Int) ≤ trailerOf bytes ∧
      trailerOf bytes ≤ (enc.blockSize * (bytes.length / enc.chunkSize) +
        (bytes.length % enc.chunkSize - paddingLengthSize) : Nat))

instance (enc : Encryptor) (bytes : Bytes) : Decidable (TrailerInRange enc bytes) := by
  unfold TrailerInRange
  infer_instance

/-- The call fails or gives a size between zero and the blocks of the whole chunks. -/
def SizeBounded (enc : Encryptor) (bytes : Bytes) (result : Except GoError ObjAttr) : Prop :=
  ∀ attr, result = .ok attr →
    0 ≤ attr.size ∧ attr.size ≤ (enc.blockSize * (bytes.length / enc.chunkSize) : Nat)

theorem trailer_range (bytes : Bytes) : -2 ^ 63 ≤ trailerOf bytes ∧ trailerOf bytes < 2 ^ 63 := by
  unfold trailerOf getInt64 int64
  constructor
  · exact Int.le_bmod (by decide)
  · exact Int.bmod_lt (by decide)

/-- The 64-bit subtraction of a padding from a size in range gives a number from zero to the
limit only without wrapping around. -/
theorem int64_sub_between (limit rest : Nat) (padding : Int) (fits : limit + rest < 2 ^ 63)
    (low : -2 ^ 63 ≤ padding) (high : padding < 2 ^ 63) :
    (0 ≤ int64 ((limit + rest : Nat) - padding) ∧ int64 ((limit + rest : Nat) - padding) ≤ limit) ↔
      (rest : Int) ≤ padding ∧ padding ≤ (limit + rest : Nat) := by
  by_cases negative : padding < 0
  · by_cases wraps : ((limit + rest : Nat) : Int) - padding < 2 ^ 63
    · rw [int64_of_fits _ (by omega) wraps]
      omega
    · have wrapped : int64 ((limit + rest : Nat) - padding) =
          (limit + rest : Nat) - padding - 2 ^ 64 := by
        rw [int64, Int.bmod, Int.emod_eq_of_lt (by omega) (by omega), if_neg (by omega)]
        rfl
      rw [wrapped]
      omega
  · rw [int64_of_fits _ (by omega) (by omega)]
    omega

section Sizes

variable {enc : Encryptor} {name : String} {inode : Nat} {bytes : Bytes} {mount : Mount}

theorem stored_size_eq (long : paddingLengthSize ≤ bytes.length % enc.chunkSize) :
    storedSize enc bytes = int64 ((enc.blockSize * (bytes.length / enc.chunkSize) +
      (bytes.length % enc.chunkSize - paddingLengthSize) : Nat) - trailerOf bytes) := by
  have parts := Nat.div_add_mod bytes.length enc.chunkSize
  have wide : enc.chunkSize * (bytes.length / enc.chunkSize) =
      enc.blockSize * (bytes.length / enc.chunkSize) +
        metaSize * (bytes.length / enc.chunkSize) := Nat.add_mul _ _ _
  have total : (bytes.length : Int) = enc.blockSize * (bytes.length / enc.chunkSize : Nat) +
      metaSize * (bytes.length / enc.chunkSize : Nat) + (bytes.length % enc.chunkSize : Nat) := by
    exact_mod_cast (parts.symm.trans (congrArg (· + _) wide))
  have exact : (bytes.length : Int) - (trailerOf bytes +
      (bytes.length / enc.chunkSize : Nat) * metaSize + paddingLengthSize) =
      (enc.blockSize * (bytes.length / enc.chunkSize) +
        (bytes.length % enc.chunkSize - paddingLengthSize) : Nat) - trailerOf bytes := by
    rw [Nat.cast_add, Nat.cast_sub long, Nat.cast_mul]
    linarith
  rw [storedSize, if_neg (by rw [Nat.mul_comm]; omega), ← exact]
  rfl

theorem stored_size_bounded_iff (fits : bytes.length + paddingLengthSize < 2 ^ 63) :
    (0 ≤ storedSize enc bytes ∧
      storedSize enc bytes ≤ (enc.blockSize * (bytes.length / enc.chunkSize) : Nat)) ↔
      TrailerInRange enc bytes := by
  by_cases short : bytes.length % enc.chunkSize < paddingLengthSize
  · have parts := Nat.div_add_mod bytes.length enc.chunkSize
    rw [storedSize, if_pos (by rw [Nat.mul_comm]; omega)]
    exact iff_of_true ⟨le_refl _, Int.natCast_nonneg _⟩ (Or.inl short)
  · have parts := Nat.div_add_mod bytes.length enc.chunkSize
    have narrow : enc.blockSize * (bytes.length / enc.chunkSize) ≤
        enc.chunkSize * (bytes.length / enc.chunkSize) :=
      Nat.mul_le_mul_right _ (Nat.le_add_right _ _)
    obtain ⟨low, high⟩ := trailer_range bytes
    rw [stored_size_eq (Nat.le_of_not_lt short), int64_sub_between _ _ _ (by omega) low high]
    exact ⟨Or.inr, fun range => range.resolve_left short⟩

theorem check_size_returned {handle : OsFile} {disk after : Disk} {size : Int}
    (contents : disk.contents handle.inode = bytes)
    (fits : bytes.length + paddingLengthSize < 2 ^ 63)
    (checked : checkForActualFileSize handle bytes.length enc.blockSize disk = (.ok size, after)) :
    size = storedSize enc bytes := by
  rw [check_size_eq handle fits] at checked
  rw [storedSize]
  split_ifs at checked ⊢ with short
  · cases checked
    rfl
  · obtain ⟨padding, middle, read, rest⟩ := Go.bind_returned checked
    obtain ⟨found, _, reading, gave⟩ := Go.bind_returned read
    have offset : ((bytes.length : Int) - paddingLengthSize).toNat =
        bytes.length - paddingLengthSize := by omega
    have chunk := (Disk.read_at_returned reading).1
    rw [contents, offset] at chunk
    have same : padding = getInt64 found := (Except.ok.inj (congrArg Prod.fst gave)).symm
    have result := Except.ok.inj (congrArg Prod.fst rest)
    rw [← result, same, chunk]

theorem get_attr_returned {attr : ObjAttr}
    (entry : mount.disk.entries.lookup (enc.path name) = some (.file inode))
    (contents : mount.disk.contents inode = bytes) (unhandled : mount.handleMap name = none)
    (fits : bytes.length + paddingLengthSize < 2 ^ 63)
    (reported : (getAttr enc name mount).1 = .ok attr) : attr.size = storedSize enc bytes := by
  by_cases fine : mount.disk.outcomeAt 0 = none
  · have measured : Disk.stat (enc.path name) mount.disk =
        (.ok ⟨bytes.length, false⟩, mount.disk.drawn) := by
      have found : mount.disk.drawn.entries.lookup (enc.path name) = some (.file inode) := entry
      have stored : mount.disk.drawn.contents inode = bytes := contents
      rw [Disk.stat, Go.bind_ok (Disk.attempt_fine fine), Go.get_bind, found]
      dsimp only
      rw [stored]
      rfl
    have attributes : getAttr enc name mount = (.ok attr, (getAttr enc name mount).2) :=
      Prod.ext reported rfl
    rw [getAttr, Go.bind_ok (Go.mapError_ok _ (on_disk_run measured)),
      if_neg Bool.false_ne_true, Go.get_bind] at attributes
    simp only [unhandled] at attributes
    obtain ⟨size, _, sized, gave⟩ := Go.bind_returned attributes
    obtain ⟨_, ran, _⟩ := Go.within_returned sized
    obtain ⟨handle, opened, opening, deferred⟩ := Go.bind_returned ran
    obtain ⟨_, checked⟩ := Go.defer_returned deferred
    have ofFile : opened.contents handle.inode = bytes := by
      have kept := Disk.open_file_contents opening
      by_cases openable : mount.disk.drawn.outcomeAt 0 = none
      · have found : mount.disk.drawn.entries.lookup (enc.path name) = some (.file inode) := entry
        cases (Disk.open_file_opens false openable found).symm.trans opening
        exact contents
      · rw [Disk.openFile, Go.bind_failed (Disk.attempt_failed openable)] at opening
        cases opening
    cases gave
    exact check_size_returned ofFile fits checked
  · have failed : Disk.stat (enc.path name) mount.disk = (.error .inputOutput, mount.disk.drawn) :=
      Go.bind_failed (Disk.attempt_failed fine)
    rw [getAttr, Go.bind_failed (map_error_failed _ (on_disk_run failed))] at reported
    cases reported

end Sizes

/-- For every content of a stored file, `GetAttr` without a write handle fails or reports a
size between zero and the blocks of the whole chunks, whatever the disk does, exactly if the
trailer is in range. -/
theorem file_size_bounded_iff (enc : Encryptor) (name : String) (inode : Nat) (bytes : Bytes)
    (mount : Mount) (entry : mount.disk.entries.lookup (enc.path name) = some (.file inode))
    (contents : mount.disk.contents inode = bytes) (unhandled : mount.handleMap name = none)
    (fits : bytes.length + paddingLengthSize < 2 ^ 63) :
    (∀ outcomes : List (Option Nat), SizeBounded enc bytes
      (getAttr enc name { mount with disk := { mount.disk with outcomes := outcomes } }).1) ↔
      TrailerInRange enc bytes := by
  rw [← stored_size_bounded_iff fits]
  constructor
  · intro bounded
    have closed : Closed enc name inode bytes
        { mount with disk := { mount.disk with outcomes := [] } } :=
      ⟨⟨rfl, entry, contents⟩, unhandled⟩
    exact bounded [] _ (closed.attr fits)
  · intro between outcomes attr reported
    have size := @get_attr_returned enc name inode bytes
      { mount with disk := { mount.disk with outcomes := outcomes } } attr entry contents
      unhandled fits reported
    rw [size]
    exact between

def storedMount (bytes : Bytes) : Mount where
  disk := { emptyMount.disk with
    entries := emptyMount.disk.entries.insert "/mnt/cipher/data" (.file 0)
    contents := fun _ => bytes
    nextInode := 1 }
  handleMap _ := none
  lastChunkMetaMap _ := none

def oneChunk : Bytes := List.replicate 32 7 ++ putInt64 1

/-- One chunk with a byte of padding. -/
theorem one_chunk_bounded : TrailerInRange smallEncryptor oneChunk ∧
    ∀ outcomes : List (Option Nat), SizeBounded smallEncryptor oneChunk
      (getAttr smallEncryptor "data" { storedMount oneChunk with
        disk := { (storedMount oneChunk).disk with outcomes := outcomes } }).1 :=
  ⟨by decide, (file_size_bounded_iff smallEncryptor "data" 0 oneChunk (storedMount oneChunk) rfl rfl
    rfl (by decide)).mpr (by decide)⟩

/-- A trailer that is larger than the blocks gives a negative size, and a negative one a size
beyond them. -/
theorem forged_trailer_sizes :
    (getAttr smallEncryptor "data" (storedMount (List.replicate 32 7 ++ putInt64 5))).1 =
      .ok ⟨"data", -1, false⟩ ∧
    (getAttr smallEncryptor "data" (storedMount (List.replicate 32 7 ++ putInt64 (-5)))).1 =
      .ok ⟨"data", 9, false⟩ := by
  decide

end CleanRoom.BlobFuse
