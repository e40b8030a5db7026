import Mathlib.Data.List.GetD
import Mathlib.Tactic.Common

/-!
# Files as byte lists

A write at an offset fills a gap before it with zeros, as a sparse file reads.
Lemmas say what a window of the file holds after a write: the written bytes
where the write went, and what was there before where it did not.
-/

namespace CleanRoom.ByteFile

abbrev Bytes := List UInt8

/-- The bytes in `[offset, offset + count)`, fewer at the end of the file. -/
def slice (file : Bytes) (offset count : Nat) : Bytes := (file.drop offset).take count

def overwrite (file : Bytes) (offset : Nat) (data : Bytes) : Bytes :=
  file.take offset ++ List.replicate (offset - file.length) 0 ++ data ++
    file.drop (offset + data.length)

@[simp] theorem length_overwrite (file : Bytes) (offset : Nat) (data : Bytes) :
    (overwrite file offset data).length = max file.length (offset + data.length) := by
  simp only [overwrite, List.length_append, List.length_take, List.length_replicate,
    List.length_drop]
  omega

theorem overwrite_end (file data : Bytes) : overwrite file file.length data = file ++ data := by
  simp [overwrite]

theorem length_slice (file : Bytes) (offset count : Nat) :
    (slice file offset count).length = min count (file.length - offset) := by
  simp [slice]

variable {file : Bytes} {offset count : Nat} {data : Bytes}

theorem length_slice_of_le (inside : offset + count ≤ file.length) :
    (slice file offset count).length = count := by
  rw [length_slice]
  omega

theorem getD_overwrite (offset : Nat) (position : Nat) :
    (overwrite file offset data).getD position 0 =
      if offset ≤ position ∧ position < offset + data.length then data.getD (position - offset) 0
      else file.getD position 0 := by
  have headLength : (file.take offset ++ List.replicate (offset - file.length) 0).length =
      offset := by
    simp only [List.length_append, List.length_take, List.length_replicate]
    omega
  unfold overwrite
  by_cases before : position < offset
  · rw [if_neg (by omega), List.append_assoc, List.getD_append _ _ _ _ (by omega)]
    by_cases inFile : position < file.length
    · rw [List.getD_append _ _ _ _ (by simp; omega)]
      simp [List.getD_eq_getElem?_getD, before]
    · rw [List.getD_append_right _ _ _ _ (by simp; omega),
        List.getD_eq_default file _ (by omega)]
      simp [List.getD_eq_getElem?_getD, List.getElem?_replicate]
      split_ifs <;> rfl
  · by_cases inside : position < offset + data.length
    · rw [if_pos ⟨by omega, inside⟩, List.append_assoc,
        List.getD_append_right _ _ _ _ (by omega), headLength,
        List.getD_append _ _ _ _ (by omega)]
    · rw [if_neg (by omega), List.getD_append_right _ _ _ _ (by
        simp only [List.length_append, headLength]
        omega)]
      simp only [List.length_append, headLength, List.getD_eq_getElem?_getD, List.getElem?_drop]
      congr 2
      omega

theorem getD_slice (offset count position : Nat) (inside : position < count) :
    (slice file offset count).getD position 0 = file.getD (offset + position) 0 := by
  simp [slice, List.getD_eq_getElem?_getD, inside, List.getElem?_drop]

theorem ext_getD {left right : Bytes} (sameLength : left.length = right.length)
    (same : ∀ position, position < left.length → left.getD position 0 = right.getD position 0) :
    left = right := by
  apply List.ext_getElem sameLength
  intro position leftBound rightBound
  have agree := same position leftBound
  rwa [List.getD_eq_getElem _ _ leftBound, List.getD_eq_getElem _ _ rightBound] at agree

theorem slice_overwrite_same (file : Bytes) (offset : Nat) (data : Bytes) :
    slice (overwrite file offset data) offset data.length = data := by
  apply ext_getD
  · rw [length_slice_of_le]
    rw [length_overwrite]
    omega
  · intro position bound
    have inside : position < data.length := by
      rw [length_slice] at bound
      omega
    rw [getD_slice _ _ _ inside, getD_overwrite, if_pos (by omega)]
    congr 1
    omega

theorem slice_overwrite_disjoint (offset : Nat)
    (start count : Nat) (inFile : start + count ≤ file.length)
    (disjoint : start + count ≤ offset ∨ offset + data.length ≤ start) :
    slice (overwrite file offset data) start count = slice file start count := by
  apply ext_getD
  · rw [length_slice_of_le inFile, length_slice_of_le]
    rw [length_overwrite]
    omega
  · intro position bound
    have inside : position < count := by
      rw [length_slice] at bound
      omega
    rw [getD_slice _ _ _ inside, getD_slice _ _ _ inside, getD_overwrite, if_neg (by omega)]

/-- The bytes in `[offset, offset + count)`, with zeros past the end of the file. -/
def window (file : Bytes) (offset count : Nat) : Bytes :=
  (List.range count).map fun position => file.getD (offset + position) 0

@[simp] theorem length_window :
    (window file offset count).length = count := by
  simp [window]

theorem getD_window (offset count position : Nat) (inside : position < count) :
    (window file offset count).getD position 0 = file.getD (offset + position) 0 := by
  rw [List.getD_eq_getElem _ _ (by simpa using inside)]
  simp [window]

theorem slice_append_zeros :
    slice file offset count ++ List.replicate (count - (slice file offset count).length) 0 =
      window file offset count := by
  have length := length_slice file offset count
  apply ext_getD
  · simp only [List.length_append, List.length_replicate, length_window]
    omega
  · intro position bound
    simp only [List.length_append, List.length_replicate] at bound
    rw [getD_window _ _ _ (by omega)]
    by_cases inSlice : position < (slice file offset count).length
    · rw [List.getD_append _ _ _ _ inSlice, getD_slice _ _ _ (by omega)]
    · rw [List.getD_append_right _ _ _ _ (by omega), List.getD_replicate _ (by omega),
        List.getD_eq_default file _ (by omega)]

theorem take_window (offset count taken : Nat) (less : taken ≤ count)
    (inFile : offset + taken ≤ file.length) :
    (window file offset count).take taken = slice file offset taken := by
  have length := length_slice_of_le inFile
  apply ext_getD
  · rw [List.length_take, length_window]
    omega
  · intro position bound
    rw [List.length_take, length_window] at bound
    rw [getD_slice _ _ _ (by omega), ← getD_window offset count position (by omega)]
    simp only [List.getD_eq_getElem?_getD, List.getElem?_take]
    rw [if_pos (by omega)]

theorem window_overwrite_disjoint (offset : Nat)
    (start count : Nat) (disjoint : start + count ≤ offset ∨ offset + data.length ≤ start) :
    window (overwrite file offset data) start count = window file start count := by
  apply List.map_congr_left
  intro position member
  rw [getD_overwrite, if_neg (by
    have := List.mem_range.mp member
    omega)]

theorem window_overwrite_same (offset : Nat) (count : Nat) (short : data.length ≤ count)
    (zeros : ∀ position, data.length ≤ position → position < count →
      file.getD (offset + position) 0 = 0) :
    window (overwrite file offset data) offset count =
      data ++ List.replicate (count - data.length) 0 := by
  apply ext_getD
  · simp only [length_window, List.length_append, List.length_replicate]
    omega
  · intro position bound
    rw [length_window] at bound
    rw [getD_window _ _ _ bound, getD_overwrite]
    by_cases inData : position < data.length
    · rw [if_pos (by omega), List.getD_append _ _ _ _ inData, Nat.add_sub_cancel_left]
    · rw [if_neg (by omega), List.getD_append_right _ _ _ _ (by omega),
        List.getD_replicate _ (by omega)]
      exact zeros position (by omega) bound

end CleanRoom.ByteFile
