import CleanRoom.BlobFuse.Reading

/-!
# Lists of stages

A session stages any list of blocks. Its effect on the bytes and on the metadata
is a fold over the list, and what matters of the two folds is said once here: which
block each chunk holds, how long the bytes are, and which block is the farthest.
-/

namespace CleanRoom.BlobFuse

open ByteFile BigEndian GoFiles

/-- One call of `StageData` at the start of a block. -/
structure Stage where
  index : Nat
  data : Bytes
  nonce : Nonce

def stageAll (gcm : AesGcm) (enc : Encryptor) (name : String) : List Stage → Go Mount Unit
  | [] => pure ()
  | stage :: rest => do
      stageData gcm enc name (stage.index * enc.blockSize) stage.data stage.nonce
      stageAll gcm enc name rest

def bytesAfter (gcm : AesGcm) (enc : Encryptor) (bytes : Bytes) (stages : List Stage) : Bytes :=
  stages.foldl (fun bytes stage => overwrite bytes (stage.index * enc.chunkSize)
    (sealedChunk gcm enc stage.data stage.nonce)) bytes

def metaAfter (enc : Encryptor) (known : LastChunkMeta) (stages : List Stage) : LastChunkMeta :=
  stages.foldl (fun known stage => known.see stage.index (enc.blockSize - stage.data.length)) known

def dataAfter (data : Nat → Bytes) (stages : List Stage) : Nat → Bytes :=
  stages.foldl (fun data stage => Function.update data stage.index stage.data) data

structure StagesFit (enc : Encryptor) (stages : List Stage) : Prop where
  short : ∀ stage ∈ stages, stage.data.length ≤ enc.blockSize
  fits : ∀ stage ∈ stages, (stage.index + 1) * enc.chunkSize < 2 ^ 63

section Run

variable {gcm : AesGcm} {enc : Encryptor} {name : String} {handle : OsFile} {bytes : Bytes}
  {known : LastChunkMeta} {mount : Mount}

theorem StagesFit.tail {stage : Stage} {rest : List Stage} (fit : StagesFit enc (stage :: rest)) :
    StagesFit enc rest where
  short other member := fit.short other (List.mem_cons_of_mem _ member)
  fits other member := fit.fits other (List.mem_cons_of_mem _ member)

variable (gcm) in
theorem Writing.stage_all (writing : Writing enc name handle bytes known mount)
    (stages : List Stage) (key : isAesKey enc.encryptionKey = true) (fit : StagesFit enc stages) :
    ∃ handle after, stageAll gcm enc name stages mount = (.ok (), after) ∧
      Writing enc name handle (bytesAfter gcm enc bytes stages) (metaAfter enc known stages)
        after := by
  induction stages generalizing handle bytes known mount with
  | nil => exact ⟨handle, mount, rfl, writing⟩
  | cons stage rest ih =>
      obtain ⟨next, middle, staged, still⟩ := writing.ready.stage stage.index stage.data
        stage.nonce key (fit.fits stage List.mem_cons_self)
      obtain ⟨last, after, rested, done⟩ := ih still fit.tail
      exact ⟨last, after, (Go.bind_ok staged).trans rested, done⟩

variable (gcm) in
theorem Ready.stage_all (ready : Ready enc name bytes known mount) (stages : List Stage)
    (key : isAesKey enc.encryptionKey = true) (fit : StagesFit enc stages) :
    ∃ after, stageAll gcm enc name stages mount = (.ok (), after) ∧
      Ready enc name (bytesAfter gcm enc bytes stages) (metaAfter enc known stages) after := by
  cases stages with
  | nil => exact ⟨mount, rfl, ready⟩
  | cons stage rest =>
      obtain ⟨handle, middle, staged, writing⟩ := ready.stage stage.index stage.data stage.nonce
        key (fit.fits stage List.mem_cons_self)
      obtain ⟨last, after, rested, done⟩ := writing.stage_all gcm rest key fit.tail
      exact ⟨after, (Go.bind_ok staged).trans rested, done.ready⟩

theorem blocks_after (stages : List Stage) (data : Nat → Bytes) (holds : Nat → Prop)
    (key : isAesKey enc.encryptionKey = true)
    (short : ∀ stage ∈ stages, stage.data.length ≤ enc.blockSize) (blocks : ∀ index, holds index →
      BlockIs gcm enc bytes index (padded enc.blockSize (data index))) (index : Nat)
    (held : holds index ∨ ∃ stage ∈ stages, stage.index = index) :
    BlockIs gcm enc (bytesAfter gcm enc bytes stages) index
      (padded enc.blockSize (dataAfter data stages index)) := by
  induction stages generalizing bytes data holds with
  | nil =>
      rcases held with held | ⟨stage, member, _⟩
      · exact blocks index held
      · exact absurd member List.not_mem_nil
  | cons stage rest ih =>
      apply ih (Function.update data stage.index stage.data)
        (fun index => holds index ∨ index = stage.index)
      · intro other member
        exact short other (List.mem_cons_of_mem _ member)
      · intro other held
        by_cases same : other = stage.index
        · rw [same, Function.update_self]
          exact staged_block gcm enc bytes stage.index stage.data stage.nonce key
            (short stage List.mem_cons_self)
        · rw [Function.update_of_ne same]
          exact (blocks other (held.resolve_right same)).stage_other stage.index stage.data
            stage.nonce same key (short stage List.mem_cons_self)
      · rcases held with held | ⟨other, member, rfl⟩
        · exact Or.inl (Or.inl held)
        · rcases List.mem_cons.mp member with rfl | later
          · exact Or.inl (Or.inr rfl)
          · exact Or.inr ⟨other, later, rfl⟩

/-- Either no stage goes beyond the block already seen, and the metadata stays, or
the metadata is that of a stage which no other goes beyond. -/
theorem meta_after_cases (stages : List Stage) (known : LastChunkMeta) :
    ((∀ stage ∈ stages, (stage.index : Int) ≤ known.farthestBlockSeen) ∧
      metaAfter enc known stages = known) ∨
    ∃ stage ∈ stages, known.farthestBlockSeen < stage.index ∧
      (∀ other ∈ stages, other.index ≤ stage.index) ∧
      metaAfter enc known stages =
        ⟨stage.index, (enc.blockSize - stage.data.length : Nat)⟩ := by
  induction stages generalizing known with
  | nil => exact Or.inl ⟨fun _ member => absurd member List.not_mem_nil, rfl⟩
  | cons stage rest ih =>
      by_cases beyond : (stage.index : Int) > known.farthestBlockSeen
      · have seen : known.see stage.index (enc.blockSize - stage.data.length) =
            ⟨stage.index, (enc.blockSize - stage.data.length : Nat)⟩ := if_pos beyond
        have step : metaAfter enc known (stage :: rest) = metaAfter enc
            ⟨stage.index, (enc.blockSize - stage.data.length : Nat)⟩ rest := by
          rw [metaAfter, List.foldl_cons, seen]
          rfl
        rw [step]
        right
        rcases ih ⟨stage.index, (enc.blockSize - stage.data.length : Nat)⟩ with
          ⟨within, same⟩ | ⟨farthest, member, further, most, same⟩
        · refine ⟨stage, List.mem_cons_self, beyond, ?_, same⟩
          simpa using within
        · refine ⟨farthest, List.mem_cons_of_mem _ member, beyond.trans further, ?_, same⟩
          rw [List.forall_mem_cons]
          exact ⟨by simpa using further.le, most⟩
      · have step : metaAfter enc known (stage :: rest) = metaAfter enc known rest := by
          rw [metaAfter, List.foldl_cons, LastChunkMeta.see, if_neg beyond]
          rfl
        rw [step]
        rcases ih known with ⟨within, same⟩ | ⟨farthest, member, further, most, same⟩
        · left
          rw [List.forall_mem_cons]
          exact ⟨⟨by omega, within⟩, same⟩
        · right
          refine ⟨farthest, List.mem_cons_of_mem _ member, further, ?_, same⟩
          rw [List.forall_mem_cons]
          exact ⟨by omega, most⟩

theorem length_bytes_after_le (stages : List Stage) (limit : Nat)
    (key : isAesKey enc.encryptionKey = true)
    (short : ∀ stage ∈ stages, stage.data.length ≤ enc.blockSize) (before : bytes.length ≤ limit)
    (each : ∀ stage ∈ stages, (stage.index + 1) * enc.chunkSize ≤ limit) :
    (bytesAfter gcm enc bytes stages).length ≤ limit := by
  induction stages generalizing bytes with
  | nil => exact before
  | cons stage rest ih =>
      rw [List.forall_mem_cons] at short each
      apply ih short.2 _ each.2
      rw [length_overwrite, length_sealed_chunk gcm enc stage.data stage.nonce key short.1,
        ← Nat.succ_mul]
      exact max_le before each.1

end Run

/-- The caller sees a file with this plaintext: its size, from the start of every
block the bytes that fit in the buffer, and an error past the end. -/
structure Presents (gcm : AesGcm) (enc : Encryptor) (name : String) (plain : Bytes)
    (mount : Mount) : Prop where
  size : (getAttr enc name mount).1 = .ok ⟨name, plain.length, false⟩
  reads : ∀ (index : Nat) (data : Bytes), index * enc.blockSize ≤ plain.length →
    data.length ≤ enc.blockSize →
    ∃ buffer,
      (readInBuffer gcm enc ⟨name, plain.length⟩ (index * enc.blockSize : Nat) data mount).1 =
        .ok ((min data.length (plain.length - index * enc.blockSize) : Nat), buffer) ∧
      buffer.take (min data.length (plain.length - index * enc.blockSize)) =
        slice plain (index * enc.blockSize)
          (min data.length (plain.length - index * enc.blockSize))
  ends : ∀ (index : Nat) (data : Bytes), plain.length < index * enc.blockSize →
    (readInBuffer gcm enc ⟨name, plain.length⟩ (index * enc.blockSize : Nat) data mount).1 =
      .error .erange

section Committed

variable {gcm : AesGcm} {enc : Encryptor} {name : String} {inode : Nat} {bytes : Bytes}
  {mount : Mount}

theorem Stores.presents (stores : Stores enc name inode bytes mount) (plain : Bytes)
    (size : (getAttr enc name mount).1 = .ok ⟨name, plain.length, false⟩)
    (blocks : ∀ index, index * enc.blockSize < plain.length →
      BlockIs gcm enc bytes index (window plain (index * enc.blockSize) enc.blockSize))
    (plainFits : plain.length + enc.blockSize < 2 ^ 63) (fits : bytes.length < 2 ^ 63) :
    Presents gcm enc name plain mount := by
  refine ⟨size, ?_, ?_⟩
  · intro index data start short
    obtain ⟨buffer, read, taken⟩ := stores.read index plain.length
      (window plain (index * enc.blockSize) enc.blockSize) data start (blocks index)
      (by rwa [length_window]) (by omega) fits
    refine ⟨buffer, read, ?_⟩
    rw [taken, take_window _ _ _ (by omega) (by omega)]
  · intro index data beyond
    rw [readInBuffer, if_pos (Int.ofNat_lt.mpr beyond)]
    rfl

theorem chunk_size_gt (enc : Encryptor) : paddingLengthSize < enc.chunkSize :=
  Nat.lt_of_lt_of_le (by decide : paddingLengthSize < metaSize) (Nat.le_add_left _ _)

section Trailer

variable (count padding : Nat) (before : bytes.length ≤ count * enc.chunkSize + paddingLengthSize)

include before

theorem length_trailed :
    (overwrite bytes (count * enc.chunkSize) (putInt64 padding)).length =
      count * enc.chunkSize + paddingLengthSize := by
  rw [length_overwrite, length_put_int64]
  exact max_eq_right before

theorem chunks_trailed :
    (overwrite bytes (count * enc.chunkSize) (putInt64 padding)).length / enc.chunkSize =
      count := by
  rw [length_trailed count padding before, Nat.add_comm,
    Nat.add_mul_div_right _ _ (Nat.zero_lt_of_lt (chunk_size_gt enc)),
    Nat.div_eq_of_lt (chunk_size_gt enc), Nat.zero_add]

theorem padding_trailed (fits : padding < 2 ^ 63) :
    getInt64 (slice (overwrite bytes (count * enc.chunkSize) (putInt64 padding))
      ((overwrite bytes (count * enc.chunkSize) (putInt64 padding)).length - paddingLengthSize)
      paddingLengthSize) = padding := by
  have trailer := slice_overwrite_same bytes (count * enc.chunkSize) (putInt64 padding)
  rw [length_put_int64] at trailer
  rw [length_trailed count padding before, Nat.add_sub_cancel]
  exact (congrArg getInt64 trailer).trans (get_put_int64 padding fits)

theorem stored_size_trailed (short : padding ≤ count * enc.blockSize)
    (fits : count * enc.chunkSize + paddingLengthSize < 2 ^ 63) :
    storedSize enc (overwrite bytes (count * enc.chunkSize) (putInt64 padding)) =
      (count * enc.blockSize - padding : Nat) := by
  have wide : count * enc.chunkSize = count * enc.blockSize + count * metaSize :=
    Nat.mul_add _ _ _
  rw [storedSize, padding_trailed count padding before (by omega),
    chunks_trailed count padding before, length_trailed count padding before,
    if_neg (Nat.lt_irrefl _), int64_of_fits _ (by push_cast; omega) (by push_cast; omega)]
  push_cast
  omega

theorem opened_meta_trailed (fits : padding < 2 ^ 63) :
    openedMeta enc (overwrite bytes (count * enc.chunkSize) (putInt64 padding)) =
      ⟨count, padding⟩ := by
  have trailed : (overwrite bytes (count * enc.chunkSize) (putInt64 padding)).length %
      enc.chunkSize = paddingLengthSize := by
    rw [length_trailed count padding before, Nat.mul_add_mod_self_right]
    exact Nat.mod_eq_of_lt (chunk_size_gt enc)
  rw [openedMeta, trailed, if_neg (by decide), chunks_trailed count padding before,
    padding_trailed count padding before fits]

end Trailer

end Committed

end CleanRoom.BlobFuse
