import CleanRoom.BlobFuse.RoundTrip

/-!
# Blocks that are staged several times

A session may stage a block again, with other data. The chunk on the disk then follows the
latest data, but the padding in the metadata is that of the first data staged for the
farthest block, since `StageData` takes note of a block only when it goes beyond those seen.
-/

namespace CleanRoom.BlobFuse

open ByteFile BigEndian GoFiles

def latestData (stages : List Stage) : Nat → Bytes := dataAfter (fun _ => []) stages

def firstData (stages : List Stage) (index : Nat) : Bytes :=
  ((stages.find? fun stage => stage.index = index).map Stage.data).getD []

/-- The stages of a session whose farthest block is the given one: only that block may be
short in the end. -/
structure Restages (enc : Encryptor) (stages : List Stage) (farthest : Nat) : Prop where
  staged : ∃ stage ∈ stages, stage.index = farthest
  most : ∀ stage ∈ stages, stage.index ≤ farthest
  short : ∀ stage ∈ stages, stage.data.length ≤ enc.blockSize
  whole : ∀ stage ∈ stages, stage.index ≠ farthest →
    (latestData stages stage.index).length = enc.blockSize

/-- The size is that of the latest data, and every staged block is read as its latest data. -/
structure ShowsLatest (gcm : AesGcm) (enc : Encryptor) (name : String) (stages : List Stage)
    (farthest : Nat) (mount : Mount) : Prop where
  size : (getAttr enc name mount).1 =
    .ok ⟨name, (farthest * enc.blockSize + (latestData stages farthest).length : Nat), false⟩
  reads : ∀ stage ∈ stages, ∀ data : Bytes, data.length ≤ enc.blockSize →
    ∃ buffer,
      (readInBuffer gcm enc
        ⟨name, (farthest * enc.blockSize + (latestData stages farthest).length : Nat)⟩
        (stage.index * enc.blockSize : Nat) data mount).1 =
          .ok ((min data.length (latestData stages stage.index).length : Nat), buffer) ∧
      buffer.take (min data.length (latestData stages stage.index).length) =
        (latestData stages stage.index).take
          (min data.length (latestData stages stage.index).length)

section Restaging

variable {gcm : AesGcm} {enc : Encryptor} {name : String} {stages : List Stage} {farthest : Nat}
  {mount : Mount}

theorem meta_after_seen (known : LastChunkMeta)
    (within : ∀ stage ∈ stages, (stage.index : Int) ≤ known.farthestBlockSeen) :
    metaAfter enc known stages = known := by
  rcases meta_after_cases stages known with ⟨_, same⟩ | ⟨stage, member, beyond, _, _⟩
  · exact same
  · exact absurd (within stage member) (by omega)

theorem meta_after_first (known : LastChunkMeta) (before : known.farthestBlockSeen < farthest)
    (staged : ∃ stage ∈ stages, stage.index = farthest)
    (most : ∀ stage ∈ stages, stage.index ≤ farthest) :
    metaAfter enc known stages =
      ⟨farthest, (enc.blockSize - (firstData stages farthest).length : Nat)⟩ := by
  induction stages generalizing known with
  | nil =>
      obtain ⟨_, member, _⟩ := staged
      cases member
  | cons stage rest ih =>
      obtain ⟨here, later⟩ := List.forall_mem_cons.mp most
      have step : metaAfter enc known (stage :: rest) =
          metaAfter enc (known.see stage.index (enc.blockSize - stage.data.length)) rest := rfl
      by_cases reached : stage.index = farthest
      · have seen : known.see stage.index (enc.blockSize - stage.data.length) =
            ⟨farthest, (enc.blockSize - stage.data.length : Nat)⟩ := by
          rw [LastChunkMeta.see, reached, if_pos before]
        have first : firstData (stage :: rest) farthest = stage.data := by
          simp [firstData, reached]
        rw [step, seen, first]
        apply meta_after_seen
        intro other member
        exact Int.ofNat_le.mpr (later other member)
      · have first : firstData (stage :: rest) farthest = firstData rest farthest := by
          simp [firstData, reached]
        rw [step, first]
        apply ih
        · unfold LastChunkMeta.see
          split
          · exact Int.ofNat_lt.mpr (Nat.lt_of_le_of_ne here reached)
          · exact before
        · obtain ⟨found, member, index⟩ := staged
          rcases List.mem_cons.mp member with rfl | inRest
          · exact absurd index reached
          · exact ⟨found, inRest, index⟩
        · exact later

theorem length_data_after_le (limit : Nat) (stages : List Stage) (data : Nat → Bytes)
    (before : ∀ index, (data index).length ≤ limit)
    (short : ∀ stage ∈ stages, stage.data.length ≤ limit) (index : Nat) :
    (dataAfter data stages index).length ≤ limit := by
  induction stages generalizing data with
  | nil => exact before index
  | cons stage rest ih =>
      obtain ⟨here, later⟩ := List.forall_mem_cons.mp short
      apply ih (Function.update data stage.index stage.data) _ later
      intro other
      by_cases same : other = stage.index
      · rw [same, Function.update_self]
        exact here
      · rw [Function.update_of_ne same]
        exact before other

theorem length_latest_le (restages : Restages enc stages farthest) (index : Nat) :
    (latestData stages index).length ≤ enc.blockSize :=
  length_data_after_le _ _ _ (fun _ => Nat.zero_le _) restages.short index

theorem length_first_le (restages : Restages enc stages farthest) :
    (firstData stages farthest).length ≤ enc.blockSize := by
  unfold firstData
  cases found : stages.find? fun stage => stage.index = farthest with
  | none => exact Nat.zero_le _
  | some stage => exact restages.short stage (List.mem_of_find?_eq_some found)

theorem count_in_block (restages : Restages enc stages farthest) (stage : Stage)
    (member : stage ∈ stages) (count : Nat) (short : count ≤ enc.blockSize) :
    min count (farthest * enc.blockSize + (latestData stages farthest).length -
      stage.index * enc.blockSize) = min count (latestData stages stage.index).length := by
  by_cases last : stage.index = farthest
  · rw [last, Nat.add_sub_cancel_left]
  · have below : stage.index + 1 ≤ farthest :=
      Nat.lt_of_le_of_ne (restages.most stage member) last
    have blocks := Nat.mul_le_mul_right enc.blockSize below
    rw [Nat.succ_mul] at blocks
    rw [restages.whole stage member last]
    omega

theorem Closed.shows_latest_iff {inode : Nat} {base : Bytes}
    (restages : Restages enc stages farthest)
    (closed : Closed enc name inode (overwrite base ((farthest + 1) * enc.chunkSize)
      (putInt64 (enc.blockSize - (firstData stages farthest).length : Nat))) mount)
    (before : base.length ≤ (farthest + 1) * enc.chunkSize + paddingLengthSize)
    (blocks : ∀ stage ∈ stages, BlockIs gcm enc base stage.index
      (padded enc.blockSize (latestData stages stage.index)))
    (fits : (farthest + 2) * enc.chunkSize + paddingLengthSize < 2 ^ 63) :
    ShowsLatest gcm enc name stages farthest mount ↔
      (firstData stages farthest).length = (latestData stages farthest).length := by
  have chunks : (farthest + 2) * enc.chunkSize =
      (farthest + 1) * enc.chunkSize + enc.chunkSize := Nat.succ_mul _ _
  have wide : (farthest + 1) * enc.chunkSize =
      (farthest + 1) * enc.blockSize + (farthest + 1) * metaSize := Nat.mul_add _ _ _
  have oneMore : (farthest + 1) * enc.blockSize = farthest * enc.blockSize + enc.blockSize :=
    Nat.succ_mul _ _
  have firstShort := length_first_le restages
  have latestShort := length_latest_le restages farthest
  have trailerShort := chunk_size_gt enc
  have blockShort : enc.blockSize ≤ enc.chunkSize := Nat.le_add_right _ _
  have length := length_trailed (farthest + 1)
    (enc.blockSize - (firstData stages farthest).length) before
  have reported := closed.attr (by omega)
  rw [stored_size_trailed _ _ before (by omega) (by omega)] at reported
  constructor
  · intro shows
    have size := shows.size
    rw [reported] at size
    injection size with attributes
    injection attributes with _ same
    omega
  · intro same
    constructor
    · rw [reported]
      congr 3
      omega
    · intro stage member data short
      have inBlock := count_in_block restages stage member data.length short
      have indexed := Nat.mul_le_mul_right enc.blockSize (restages.most stage member)
      have paddedLength := length_padded enc.blockSize (latestData stages stage.index)
        (length_latest_le restages stage.index)
      have block : BlockIs gcm enc (overwrite base ((farthest + 1) * enc.chunkSize)
          (putInt64 (enc.blockSize - (firstData stages farthest).length : Nat))) stage.index
          (padded enc.blockSize (latestData stages stage.index)) := by
        apply (blocks stage member).overwrite_disjoint
        left
        rw [← Nat.succ_mul]
        exact Nat.mul_le_mul_right _ (Nat.succ_le_succ (restages.most stage member))
      obtain ⟨buffer, read, taken⟩ := closed.toStores.read stage.index
        (farthest * enc.blockSize + (latestData stages farthest).length) _ data (by omega)
        (fun _ => block) (by omega) (by omega) (by omega)
      rw [inBlock] at read taken
      refine ⟨buffer, read, ?_⟩
      rw [taken, padded, List.take_append_of_le_length (Nat.min_le_right _ _)]

end Restaging

/-- After `CreateFile` on a new name, any sequence of stages and the commit succeed, and the
file shows the latest data exactly if the farthest block was last staged with as many bytes
as it was first staged with. -/
theorem restaged_file_shows_latest_iff (gcm : AesGcm) (enc : Encryptor) (name : String)
    (stages : List Stage) (farthest : Nat) (mount : Mount) (works : mount.disk.outcomes = [])
    (fresh : mount.disk.entries.lookup (enc.path name) = none)
    (key : isAesKey enc.encryptionKey = true) (restages : Restages enc stages farthest)
    (fits : (farthest + 2) * enc.chunkSize + paddingLengthSize < 2 ^ 63) :
    ∃ created staged committed,
      createFile enc name mount = (.ok ⟨name, 0⟩, created) ∧
      stageAll gcm enc name stages created = (.ok (), staged) ∧
      commitData enc name staged = (.ok (), committed) ∧
      (ShowsLatest gcm enc name stages farthest committed ↔
        (firstData stages farthest).length = (latestData stages farthest).length) := by
  have within : ∀ stage ∈ stages, (stage.index + 1) * enc.chunkSize ≤
      (farthest + 1) * enc.chunkSize := fun stage member =>
    Nat.mul_le_mul_right _ (Nat.succ_le_succ (restages.most stage member))
  have chunks : (farthest + 2) * enc.chunkSize =
      (farthest + 1) * enc.chunkSize + enc.chunkSize := Nat.succ_mul _ _
  have fit : StagesFit enc stages :=
    ⟨restages.short, fun stage member => Nat.lt_of_le_of_lt (within stage member) (by omega)⟩
  obtain ⟨_, created, creating, writing⟩ := create_fresh works fresh
  obtain ⟨_, staged, staging, still⟩ := writing.stage_all gcm stages key fit
  have unseen : (-1 : Int) < farthest := by omega
  have seen : metaAfter enc .none stages = _ :=
    meta_after_first .none unseen restages.staged restages.most
  rw [seen] at still
  have count : ((farthest : Int) + 1).toNat = farthest + 1 := by omega
  obtain ⟨inode, committed, committing, closed⟩ := still.ready.commit unseen.le (by
      change ((farthest : Int) + 1).toNat * _ < _
      rw [count]
      omega)
  have notEmpty : (farthest : Int) ≠ -1 := by omega
  rw [committedBytes, if_neg notEmpty, count] at closed
  refine ⟨created, staged, committed, creating, staging, committing, ?_⟩
  apply closed.shows_latest_iff restages
  · exact Nat.le_add_right_of_le
      (length_bytes_after_le stages _ key restages.short (Nat.zero_le _) within)
  · intro stage member
    apply blocks_after stages _ (fun _ => False) key restages.short
    · exact fun _ never => never.elim
    · exact Or.inr ⟨stage, member, rfl⟩
  · exact fits

def rewrittenStages : List Stage :=
  [⟨1, [5, 6], zeroNonce⟩, ⟨0, [1, 2, 3, 4], zeroNonce⟩, ⟨1, [7, 8], zeroNonce⟩]

theorem rewritten_file_shows_latest :
    ∃ created staged committed,
      createFile smallEncryptor "data" emptyMount = (.ok ⟨"data", 0⟩, created) ∧
      stageAll taggingGcm smallEncryptor "data" rewrittenStages created = (.ok (), staged) ∧
      commitData smallEncryptor "data" staged = (.ok (), committed) ∧
      ShowsLatest taggingGcm smallEncryptor "data" rewrittenStages 1 committed := by
  have restages : Restages smallEncryptor rewrittenStages 1 :=
    ⟨by decide, by decide, by decide, by decide⟩
  obtain ⟨created, staged, committed, creating, staging, committing, shows⟩ :=
    restaged_file_shows_latest_iff taggingGcm smallEncryptor "data" rewrittenStages 1 emptyMount
      rfl rfl (by decide) restages (by decide)
  exact ⟨created, staged, committed, creating, staging, committing, shows.mpr (by decide)⟩

def lengthenedMount : Mount :=
  let created := (createFile smallEncryptor "data" emptyMount).2
  let staged := (stageAll taggingGcm smallEncryptor "data"
    [⟨0, [1, 2, 3], zeroNonce⟩, ⟨0, [1, 2, 3, 4], zeroNonce⟩] created).2
  (commitData smallEncryptor "data" staged).2

/-- The fourth byte is on the disk and beyond the reported size. -/
theorem lengthened_block_cut :
    Restages smallEncryptor [⟨0, [1, 2, 3], zeroNonce⟩, ⟨0, [1, 2, 3, 4], zeroNonce⟩] 0 ∧
    (getAttr smallEncryptor "data" lengthenedMount).1 = .ok ⟨"data", 3, false⟩ ∧
    (readInBuffer taggingGcm smallEncryptor ⟨"data", 3⟩ 0 [0, 0, 0, 0] lengthenedMount).1 =
      .ok (3, [1, 2, 3, 4]) := by
  refine ⟨⟨by decide, by decide, by decide, by decide⟩, by decide, by decide⟩

end CleanRoom.BlobFuse
