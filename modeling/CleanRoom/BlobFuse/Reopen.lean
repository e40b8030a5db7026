import CleanRoom.BlobFuse.RoundTrip
import Mathlib.Data.List.Range

/-!
# Writing to a committed file again

A later session on a committed file is compared with a plain file on which each
stage writes its data at its offset. The file is opened again with one block more
than it has, so the padding in the trailer follows the new last block only when the
session goes two blocks beyond the old end. The main result says exactly which
sessions come out right.
-/

namespace CleanRoom.BlobFuse

open ByteFile BigEndian GoFiles

def plainAfter (enc : Encryptor) (plain : Bytes) (stages : List Stage) : Bytes :=
  stages.foldl (fun plain stage => overwrite plain (stage.index * enc.blockSize) stage.data) plain

def appended (enc : Encryptor) (plain : Bytes) (stages : List Stage) : List Stage :=
  stages.filter fun stage => decide (blockCount enc plain ≤ stage.index)

/-- Each block is staged once: a block of the file with data of at least its old
length, or the next block behind the end. -/
structure Continues (enc : Encryptor) (plain : Bytes) (stages : List Stage) : Prop where
  once : (stages.map Stage.index).Nodup
  short : ∀ stage ∈ stages, stage.data.length ≤ enc.blockSize
  covers : ∀ stage ∈ stages, stage.index < blockCount enc plain →
    (blockOf enc plain stage.index).length ≤ stage.data.length
  sequence : (appended enc plain stages).map Stage.index =
    List.range' (blockCount enc plain) (appended enc plain stages).length

/-- The file was empty, or the session appends two blocks or more, or it appends a
single one as long as the last block was. -/
def ReopenSafe (enc : Encryptor) (plain : Bytes) (stages : List Stage) : Prop :=
  plain = [] ∨ 2 ≤ (appended enc plain stages).length ∨
    ∃ stage, appended enc plain stages = [stage] ∧
      stage.data.length = (blockOf enc plain (blockCount enc plain - 1)).length

section Plain

variable {enc : Encryptor} {plain : Bytes} {stages : List Stage}

theorem window_plain_after (data : Nat → Bytes) (once : (stages.map Stage.index).Nodup)
    (short : ∀ stage ∈ stages, stage.data.length ≤ enc.blockSize)
    (covers : ∀ stage ∈ stages, (data stage.index).length ≤ stage.data.length)
    (agree : ∀ index, padded enc.blockSize (data index) =
      window plain (index * enc.blockSize) enc.blockSize) (index : Nat) :
    padded enc.blockSize (dataAfter data stages index) =
      window (plainAfter enc plain stages) (index * enc.blockSize) enc.blockSize := by
  induction stages generalizing plain data with
  | nil => exact agree index
  | cons stage rest ih =>
      rw [List.map_cons, List.nodup_cons] at once
      rw [List.forall_mem_cons] at short covers
      apply ih (Function.update data stage.index stage.data) once.2 short.2
      · intro other member
        have different : other.index ≠ stage.index := by
          intro same
          exact once.1 (same ▸ List.mem_map_of_mem member)
        rw [Function.update_of_ne different]
        exact covers.2 other member
      · intro other
        by_cases same : other = stage.index
        · subst same
          rw [Function.update_self]
          refine (window_overwrite_same _ _ short.1 ?_).symm
          intro position past inside
          -- The old data ended here, so its padding shows.
          rw [← getD_window _ _ _ inside, ← agree, padded,
            List.getD_append_right _ _ _ _ (by omega), List.getD_replicate _ (by omega)]
        · rw [Function.update_of_ne same, agree other]
          refine (window_overwrite_disjoint _ _ _ ?_).symm
          rw [← Nat.succ_mul]
          rcases Nat.lt_or_gt_of_ne same with below | above
          · exact Or.inl (Nat.mul_le_mul_right _ below)
          · have ends := Nat.mul_le_mul_right enc.blockSize above
            rw [Nat.succ_mul] at ends
            right
            omega

theorem length_plain_after_le (limit : Nat) (before : plain.length ≤ limit)
    (each : ∀ stage ∈ stages, stage.index * enc.blockSize + stage.data.length ≤ limit) :
    (plainAfter enc plain stages).length ≤ limit := by
  induction stages generalizing plain with
  | nil => exact before
  | cons stage rest ih =>
      rw [List.forall_mem_cons] at each
      apply ih _ each.2
      rw [length_overwrite]
      exact max_le before each.1

theorem length_le_plain_after : plain.length ≤ (plainAfter enc plain stages).length := by
  induction stages generalizing plain with
  | nil => exact le_refl _
  | cons stage rest ih =>
      refine le_trans ?_ ih
      rw [length_overwrite]
      exact le_max_left _ _

theorem end_le_plain_after (stage : Stage) (member : stage ∈ stages) :
    stage.index * enc.blockSize + stage.data.length ≤ (plainAfter enc plain stages).length := by
  induction stages generalizing plain with
  | nil => exact absurd member List.not_mem_nil
  | cons first rest ih =>
      rcases List.mem_cons.mp member with rfl | later
      · have grown : (overwrite plain (stage.index * enc.blockSize) stage.data).length ≤
            (plainAfter enc plain (stage :: rest)).length := length_le_plain_after
        rw [length_overwrite] at grown
        exact le_trans (le_max_right _ _) grown
      · exact ih later

theorem length_plain_after (last : Stage) (member : last ∈ stages)
    (most : ∀ stage ∈ stages, stage.index ≤ last.index) (once : (stages.map Stage.index).Nodup)
    (short : ∀ stage ∈ stages, stage.data.length ≤ enc.blockSize)
    (before : plain.length ≤ last.index * enc.blockSize) :
    (plainAfter enc plain stages).length = last.index * enc.blockSize + last.data.length := by
  apply le_antisymm _ (end_le_plain_after last member)
  apply length_plain_after_le _ (by omega)
  intro stage listed
  by_cases same : stage.index = last.index
  · rw [List.inj_on_of_nodup_map once listed member same]
  · have below : stage.index < last.index := lt_of_le_of_ne (most stage listed) same
    have ends := Nat.mul_le_mul_right enc.blockSize below
    have fitting := short stage listed
    rw [Nat.succ_mul] at ends
    omega

end Plain

section Committed

variable {gcm : AesGcm} {enc : Encryptor} {plain bytes : Bytes}

theorem CommittedBytes.length_le (committed : CommittedBytes gcm enc plain bytes) :
    bytes.length ≤ blockCount enc plain * enc.chunkSize + paddingLengthSize := by
  rw [CommittedBytes] at committed
  split_ifs at committed
  · simp [committed]
  · obtain ⟨base, before, rfl, _⟩ := committed
    exact (length_trailed _ _ before).le

theorem CommittedBytes.shape (committed : CommittedBytes gcm enc plain bytes) :
    bytes.length % enc.chunkSize = 0 ∨ bytes.length % enc.chunkSize = paddingLengthSize := by
  rw [CommittedBytes] at committed
  split_ifs at committed
  · left
    simp [committed]
  · right
    obtain ⟨base, before, rfl, _⟩ := committed
    rw [length_trailed _ _ before, Nat.mul_add_mod_self_right]
    exact Nat.mod_eq_of_lt (chunk_size_gt enc)

theorem CommittedBytes.opened_meta (committed : CommittedBytes gcm enc plain bytes)
    (fits : blockCount enc plain * enc.blockSize < 2 ^ 63) :
    openedMeta enc bytes =
      if plain = [] then .none
      else ⟨blockCount enc plain,
        (blockCount enc plain * enc.blockSize - plain.length : Nat)⟩ := by
  rw [CommittedBytes] at committed
  split_ifs at committed ⊢
  · simp [committed, openedMeta]
  · obtain ⟨base, before, rfl, _⟩ := committed
    exact opened_meta_trailed _ _ before (by omega)

theorem CommittedBytes.blocks (committed : CommittedBytes gcm enc plain bytes) (index : Nat)
    (inside : index < blockCount enc plain) :
    BlockIs gcm enc bytes index (padded enc.blockSize (blockOf enc plain index)) := by
  rw [CommittedBytes] at committed
  split_ifs at committed with empty
  · rw [(block_count_eq_zero enc plain).mpr empty] at inside
    exact absurd inside (Nat.not_lt_zero _)
  · obtain ⟨base, _, rfl, blocks⟩ := committed
    rw [padded_block]
    apply (blocks index inside).overwrite_disjoint
    rw [← Nat.succ_mul]
    exact Or.inl (Nat.mul_le_mul_right _ inside)

end Committed

section Session

variable {gcm : AesGcm} {enc : Encryptor} {name : String} {inode : Nat} {plain bytes : Bytes}
  {mount : Mount} {stages : List Stage}

theorem Continues.index_lt (continues : Continues enc plain stages) (stage : Stage)
    (member : stage ∈ stages) :
    stage.index < blockCount enc plain + (appended enc plain stages).length := by
  by_cases behind : blockCount enc plain ≤ stage.index
  · have listed : stage.index ∈ (appended enc plain stages).map Stage.index :=
      List.mem_map_of_mem (List.mem_filter.mpr ⟨member, decide_eq_true behind⟩)
    rw [continues.sequence, List.mem_range'_1] at listed
    exact listed.2
  · omega

theorem Continues.appended_stage (continues : Continues enc plain stages) (index : Nat)
    (low : blockCount enc plain ≤ index)
    (high : index < blockCount enc plain + (appended enc plain stages).length) :
    ∃ stage ∈ stages, stage.index = index := by
  have listed : index ∈ (appended enc plain stages).map Stage.index := by
    rw [continues.sequence, List.mem_range'_1]
    exact ⟨low, high⟩
  obtain ⟨stage, inAppended, same⟩ := List.mem_map.mp listed
  exact ⟨stage, (List.mem_filter.mp inAppended).1, same⟩

theorem Continues.blocks_after (continues : Continues enc plain stages)
    (committed : CommittedBytes gcm enc plain bytes) (key : isAesKey enc.encryptionKey = true)
    (index : Nat) (inside : index < blockCount enc plain + (appended enc plain stages).length) :
    BlockIs gcm enc (bytesAfter gcm enc bytes stages) index
      (window (plainAfter enc plain stages) (index * enc.blockSize) enc.blockSize) := by
  have covers : ∀ stage ∈ stages,
      (blockOf enc plain stage.index).length ≤ stage.data.length := by
    intro stage member
    by_cases old : stage.index < blockCount enc plain
    · exact continues.covers stage member old
    · have behind := mt (lt_block_count enc plain stage.index).mpr old
      rw [blockOf, length_slice]
      omega
  rw [← window_plain_after (blockOf enc plain) continues.once continues.short covers
    (padded_block enc plain)]
  apply BlobFuse.blocks_after stages (blockOf enc plain) (fun index => index < blockCount enc plain)
    key continues.short committed.blocks
  by_cases old : index < blockCount enc plain
  · exact Or.inl old
  · exact Or.inr (continues.appended_stage index (by omega) inside)

/-- The metadata at the end of a session: nothing was ever written, or the session
stays within one block beyond the old end and keeps the old padding, or it has that
of its last block. -/
theorem Continues.meta_cases (continues : Continues enc plain stages) (padding : Nat)
    (known : LastChunkMeta)
    (opened : known = if plain = [] then .none else ⟨blockCount enc plain, padding⟩) :
    (plain = [] ∧ stages = [] ∧ metaAfter enc known stages = .none) ∨
    (plain ≠ [] ∧ (appended enc plain stages).length ≤ 1 ∧
      metaAfter enc known stages = ⟨blockCount enc plain, padding⟩) ∨
    ((plain = [] ∨ 2 ≤ (appended enc plain stages).length) ∧
      ∃ last ∈ stages, (∀ other ∈ stages, other.index ≤ last.index) ∧
        last.index + 1 = blockCount enc plain + (appended enc plain stages).length ∧
        blockCount enc plain ≤ last.index ∧
        metaAfter enc known stages =
          ⟨last.index, (enc.blockSize - last.data.length : Nat)⟩) := by
  rcases meta_after_cases stages known with ⟨within, same⟩ | ⟨last, member, further, most, same⟩
  · by_cases empty : plain = []
    · rw [if_pos empty] at opened
      have unstaged : stages = [] := by
        rw [List.eq_nil_iff_forall_not_mem]
        intro stage member
        have bound := within stage member
        rw [opened] at bound
        simp only [LastChunkMeta.none] at bound
        omega
      exact Or.inl ⟨empty, unstaged, same.trans opened⟩
    · rw [if_neg empty] at opened
      refine Or.inr (Or.inl ⟨empty, ?_, same.trans opened⟩)
      by_contra more
      obtain ⟨stage, member, second⟩ := continues.appended_stage (blockCount enc plain + 1)
        (by omega) (by omega)
      have bound := within stage member
      rw [opened] at bound
      simp only at bound
      omega
  · have high := continues.index_lt last member
    have low : blockCount enc plain ≤ last.index := by
      by_cases empty : plain = []
      · rw [(block_count_eq_zero enc plain).mpr empty]
        exact Nat.zero_le _
      · rw [opened, if_neg empty] at further
        simp only at further
        omega
    have two : plain = [] ∨ 2 ≤ (appended enc plain stages).length := by
      by_cases empty : plain = []
      · exact Or.inl empty
      · rw [opened, if_neg empty] at further
        simp only at further
        right
        omega
    obtain ⟨stage, listed, final⟩ := continues.appended_stage
      (blockCount enc plain + (appended enc plain stages).length - 1) (by omega) (by omega)
    have bound := most stage listed
    exact Or.inr (Or.inr ⟨two, last, member, most, by omega, low, same⟩)

theorem Continues.size_iff_safe (continues : Continues enc plain stages) (nonempty : plain ≠ [])
    (single : (appended enc plain stages).length ≤ 1) :
    (plainAfter enc plain stages).length +
        (blockCount enc plain * enc.blockSize - plain.length) =
      (blockCount enc plain + 1) * enc.blockSize ↔ ReopenSafe enc plain stages := by
  have plainShort := length_le_blocks enc plain
  have some : blockCount enc plain ≠ 0 := mt (block_count_eq_zero enc plain).mp nonempty
  have last := last_block_padding enc plain (blockCount enc plain - 1) (by omega)
  have lastShort := length_block_le enc plain (blockCount enc plain - 1)
  rw [Nat.succ_mul]
  match listed : appended enc plain stages with
  | [] =>
      have lastStart := (lt_block_count enc plain (blockCount enc plain - 1)).mp (by omega)
      have lastLength : 0 < (blockOf enc plain (blockCount enc plain - 1)).length := by
        rw [blockOf, length_slice]
        have positive := enc.positive
        omega
      have bound : (plainAfter enc plain stages).length ≤
          blockCount enc plain * enc.blockSize := by
        apply length_plain_after_le _ plainShort
        intro stage member
        have below := continues.index_lt stage member
        rw [listed] at below
        have ends := Nat.mul_le_mul_right enc.blockSize (Nat.succ_le_of_lt below)
        have fitting := continues.short stage member
        rw [List.length_nil, Nat.add_zero, Nat.succ_mul] at ends
        omega
      simp only [ReopenSafe, listed, nonempty, List.length_nil, false_or, List.nil_eq,
        reduceCtorEq, false_and, exists_false, or_false]
      omega
  | [stage] =>
      have inStages : stage ∈ stages :=
        (List.mem_filter.mp (listed ▸ List.mem_cons_self : stage ∈ appended enc plain stages)).1
      have index : stage.index = blockCount enc plain := by
        have sequence := continues.sequence
        rw [listed] at sequence
        simpa using sequence
      have length := length_plain_after stage inStages (by
        intro other member
        have below := continues.index_lt other member
        rw [listed, List.length_singleton] at below
        omega) continues.once continues.short (by rw [index]; exact plainShort)
      rw [length, index]
      simp only [ReopenSafe, listed, nonempty, List.length_singleton, false_or]
      constructor
      · intro size
        refine Or.inr ⟨stage, rfl, ?_⟩
        omega
      · rintro (two | ⟨other, same, size⟩)
        · omega
        · rw [List.cons_eq_cons.mp same |>.1]
          omega
  | _ :: _ :: _ =>
      rw [listed] at single
      simp at single

theorem Continues.fit (continues : Continues enc plain stages)
    (fits : (blockCount enc plain + (appended enc plain stages).length + 2) * enc.chunkSize +
      paddingLengthSize < 2 ^ 63) : StagesFit enc stages := by
  refine ⟨continues.short, ?_⟩
  intro stage member
  have bound := Nat.mul_le_mul_right enc.chunkSize
    (Nat.succ_le_of_lt (continues.index_lt stage member))
  rw [Nat.add_mul] at fits
  exact Nat.lt_of_le_of_lt bound (by omega)

theorem Ready.commit_presents_iff (last padding : Nat)
    (ready : Ready enc name (bytesAfter gcm enc bytes stages) ⟨last, padding⟩ mount)
    (short : padding ≤ (last + 1) * enc.blockSize) (continues : Continues enc plain stages)
    (committed : CommittedBytes gcm enc plain bytes) (key : isAesKey enc.encryptionKey = true)
    (low : blockCount enc plain + (appended enc plain stages).length ≤ last + 1)
    (high : last ≤ blockCount enc plain + (appended enc plain stages).length)
    (fits : (blockCount enc plain + (appended enc plain stages).length + 2) * enc.chunkSize +
      paddingLengthSize < 2 ^ 63) :
    ∃ after, commitData enc name mount = (.ok (), after) ∧
      (Presents gcm enc name (plainAfter enc plain stages) after ↔
        (plainAfter enc plain stages).length + padding = (last + 1) * enc.blockSize) := by
  have countFits : (last + 1 + 1) * enc.chunkSize + paddingLengthSize < 2 ^ 63 :=
    Nat.lt_of_le_of_lt (Nat.add_le_add_right (Nat.mul_le_mul_right _ (by omega)) _) fits
  have chunks : ((last : Int) + 1).toNat = last + 1 := by omega
  have seen : (last : Int) ≠ -1 := by omega
  obtain ⟨inode, after, committing, closed⟩ := ready.commit (by
    simp only
    omega) (by
    simp only [chunks]
    rw [Nat.succ_mul] at countFits
    omega)
  refine ⟨after, committing, ?_⟩
  rw [committedBytes, if_neg seen] at closed
  simp only [chunks] at closed
  apply closed.presents_trailed_iff _ short _ countFits
  · apply length_bytes_after_le stages _ key continues.short
    · have old := Nat.mul_le_mul_right enc.chunkSize (le_trans (Nat.le_add_right _ _) low)
      have before := committed.length_le
      omega
    · intro stage member
      have bound := Nat.mul_le_mul_right enc.chunkSize
        (le_trans (Nat.succ_le_of_lt (continues.index_lt stage member)) low)
      exact Nat.le_add_right_of_le bound
  · intro index inside
    apply continues.blocks_after committed key
    by_contra beyond
    have start := Nat.mul_le_mul_right enc.blockSize (Nat.le_of_not_lt beyond)
    have bound : (plainAfter enc plain stages).length ≤
        (blockCount enc plain + (appended enc plain stages).length) * enc.blockSize := by
      apply length_plain_after_le
      · rw [Nat.add_mul]
        exact Nat.le_add_right_of_le (length_le_blocks enc plain)
      · intro stage member
        have ends := Nat.mul_le_mul_right enc.blockSize
          (Nat.succ_le_of_lt (continues.index_lt stage member))
        have fitting := continues.short stage member
        rw [Nat.succ_mul] at ends
        omega
    omega

end Session

/-- A later session on a committed file leaves what the plain file has exactly if
the file was empty, or the session appends at least two blocks, or it appends one
block of the length of the old last block. -/
theorem reopened_file_presents_plain (gcm : AesGcm) (enc : Encryptor) (name : String)
    (inode : Nat) (plain bytes : Bytes) (mount : Mount) (stages : List Stage)
    (closed : Closed enc name inode bytes mount) (committed : CommittedBytes gcm enc plain bytes)
    (continues : Continues enc plain stages) (key : isAesKey enc.encryptionKey = true)
    (fits : (blockCount enc plain + (appended enc plain stages).length + 2) * enc.chunkSize +
      paddingLengthSize < 2 ^ 63) :
    ∃ staged after,
      stageAll gcm enc name stages mount = (.ok (), staged) ∧
      commitData enc name staged = (.ok (), after) ∧
      (Presents gcm enc name (plainAfter enc plain stages) after ↔
        ReopenSafe enc plain stages) := by
  have blocksFit : blockCount enc plain * enc.blockSize < 2 ^ 63 := by
    have wide : blockCount enc plain * enc.chunkSize =
        blockCount enc plain * enc.blockSize + blockCount enc plain * metaSize :=
      Nat.mul_add _ _ _
    have room := fits
    rw [Nat.add_mul, Nat.add_mul] at room
    omega
  have ready := closed.ready committed.shape
  rw [committed.opened_meta blocksFit] at ready
  obtain ⟨staged, staging, still⟩ := ready.stage_all gcm stages key (continues.fit fits)
  rcases continues.meta_cases _ _ rfl with
    ⟨empty, unstaged, same⟩ | ⟨nonempty, single, same⟩ |
      ⟨safe, last, member, most, count, low, same⟩
  · rw [same] at still
    obtain ⟨_, after, committing, closedAgain⟩ := still.commit (le_refl _) (by
      simp [LastChunkMeta.none])
    refine ⟨staged, after, staging, committing, ?_⟩
    rw [CommittedBytes, if_pos empty] at committed
    subst unstaged committed empty
    exact iff_of_true closedAgain.presents_empty (Or.inl rfl)
  · rw [same] at still
    obtain ⟨after, committing, presents⟩ := still.commit_presents_iff _ _ (by
      rw [Nat.succ_mul]
      omega) continues committed key (by omega) (by omega) fits
    exact ⟨staged, after, staging, committing,
      presents.trans (continues.size_iff_safe nonempty single)⟩
  · rw [same] at still
    obtain ⟨after, committing, presents⟩ := still.commit_presents_iff _ _ (by
      rw [Nat.succ_mul]
      omega) continues committed key (by omega) (by omega) fits
    refine ⟨staged, after, staging, committing, presents.trans (iff_of_true ?_ ?_)⟩
    · have short := continues.short last member
      have before := Nat.mul_le_mul_right enc.blockSize low
      rw [length_plain_after last member most continues.once continues.short
        (le_trans (length_le_blocks enc plain) before), Nat.succ_mul]
      omega
    · rcases safe with empty | two
      · exact Or.inl empty
      · exact Or.inr (Or.inl two)

def longerStages : List Stage :=
  [⟨1, [5, 6, 7, 8], zeroNonce⟩, ⟨0, [9, 9, 9, 9], zeroNonce⟩, ⟨2, [1], zeroNonce⟩]

theorem longer_file_presents_plain :
    ∃ inode bytes mount staged after,
      Closed smallEncryptor "data" inode bytes mount ∧
      CommittedBytes taggingGcm smallEncryptor [1, 2, 3] bytes ∧
      stageAll taggingGcm smallEncryptor "data" longerStages mount = (.ok (), staged) ∧
      commitData smallEncryptor "data" staged = (.ok (), after) ∧
      Presents taggingGcm smallEncryptor "data" [9, 9, 9, 9, 5, 6, 7, 8, 1] after := by
  have continues : Continues smallEncryptor [1, 2, 3] longerStages :=
    ⟨by decide, by decide, by decide, by decide⟩
  obtain ⟨_, _, _, inode, bytes, mount, _, _, _, _, closed, committed⟩ :=
    new_file_committed taggingGcm smallEncryptor "data" [1, 2, 3] [0] (fun _ => zeroNonce)
      emptyMount rfl rfl (by decide) (by
        intro index
        have one : blockCount smallEncryptor [1, 2, 3] = 1 := by decide
        rw [one, List.mem_singleton, Nat.lt_one_iff]) (by decide)
  obtain ⟨staged, after, staging, committing, presents⟩ :=
    reopened_file_presents_plain taggingGcm smallEncryptor "data" inode [1, 2, 3] bytes mount
      longerStages closed committed continues (by decide) (by decide)
  exact ⟨inode, bytes, mount, staged, after, closed, committed, staging, committing,
    presents.mpr (Or.inr (Or.inl (by decide)))⟩

def threeByteMount : Mount :=
  let created := (createFile smallEncryptor "data" emptyMount).2
  let staged := (stageData taggingGcm smallEncryptor "data" 0 [1, 2, 3] zeroNonce created).2
  (commitData smallEncryptor "data" staged).2

/-- A second commit, with nothing staged, adds four bytes to the size. -/
theorem empty_commit_grows_file :
    (getAttr smallEncryptor "data" threeByteMount).1 = .ok ⟨"data", 3, false⟩ ∧
    (commitData smallEncryptor "data" threeByteMount).1 = .ok () ∧
    (getAttr smallEncryptor "data" (commitData smallEncryptor "data" threeByteMount).2).1 =
      .ok ⟨"data", 7, false⟩ := by
  decide

end CleanRoom.BlobFuse
