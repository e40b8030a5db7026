import Mathlib.Data.List.Induction
import Mathlib.Data.List.Nodup
import Mathlib.Tactic.Common

/-!
# The last items of a list

A log of which only the last items are kept, and to which an item is added unless one of
the kept items has its key. An item whose key has passed out of the kept part can return;
the keys of the log are distinct exactly when none does.
-/

namespace CleanRoom.RecentItems

variable {Item Key : Type}

/-- `items[-count:]` for a positive count -/
def recent (count : Nat) (items : List Item) : List Item :=
  items.drop (items.length - count)

def passed (count : Nat) (items : List Item) : List Item :=
  items.take (items.length - count)

theorem passed_append_recent (count : Nat) (items : List Item) :
    passed count items ++ recent count items = items :=
  List.take_append_drop _ _

variable {items : List Item} {count : Nat}

theorem recent_length (short : items.length ≤ count) :
    recent count items = items := by
  rw [recent, Nat.sub_eq_zero_of_le short, List.drop_zero]

theorem recent_concat (item : Item) :
    recent count (recent count items ++ [item]) = recent count (items ++ [item]) := by
  by_cases short : items.length ≤ count
  · rw [recent_length short]
  · have kept : (recent count items).length = count := by
      rw [recent, List.length_drop]
      omega
    have dropped : items.length - count ≤ items.length := Nat.sub_le _ _
    simp only [recent, List.length_append, List.length_singleton] at kept ⊢
    rw [kept, ← List.drop_append_of_le_length dropped, List.drop_drop]
    congr 1
    omega

def Each (fact : List Item → Item → Prop) (items : List Item) : Prop :=
  ∀ before item after, items = before ++ item :: after → fact before item

theorem each_nil (fact : List Item → Item → Prop) : Each fact [] := by
  intro before item after split
  simp at split

theorem each_concat (fact : List Item → Item → Prop) (items : List Item) (last : Item) :
    Each fact (items ++ [last]) ↔ Each fact items ∧ fact items last := by
  constructor
  · intro each
    constructor
    · intro before item after split
      apply each before item (after ++ [last])
      rw [split, List.append_assoc, List.cons_append]
    · exact each items last [] rfl
  · rintro ⟨each, holds⟩ before item after split
    rcases List.eq_nil_or_concat after with rfl | ⟨rest, final, rfl⟩
    · obtain ⟨same, single⟩ := List.append_inj' split rfl
      cases single
      exact same ▸ holds
    · have regrouped : items ++ [last] = (before ++ item :: rest) ++ [final] := by
        rw [split, List.append_assoc, List.cons_append, List.concat_eq_append]
      exact each before item rest (List.append_inj' regrouped rfl).1

variable (key : Item → Key)

def Fresh (count : Nat) : List Item → Prop :=
  Each fun before item => key item ∉ (recent count before).map key

theorem recent_keys_nodup (fresh : Fresh key count items) :
    ((recent count items).map key).Nodup := by
  induction items using List.reverseRecOn with
  | nil => simp [recent]
  | append_singleton items last ih =>
      obtain ⟨earlier, absent⟩ := (each_concat _ items last).mp fresh
      have kept : ((recent count items ++ [last]).map key).Nodup := by
        rw [List.map_append]
        exact List.nodup_append_comm.mp (List.nodup_cons.mpr ⟨absent, ih earlier⟩)
      rw [← recent_concat]
      exact kept.sublist ((List.drop_sublist _ _).map key)

/-- No item was added after one with its key had passed out of the kept part. -/
def NoneReturns (count : Nat) : List Item → Prop :=
  Each fun before item => key item ∉ (passed count before).map key

theorem none_returns_of_short (short : items.length ≤ count) :
    NoneReturns key count items := by
  intro before item after split
  have fewer : before.length - count = 0 := by
    have lengths := congrArg List.length split
    simp only [List.length_append, List.length_cons] at lengths
    omega
  rw [passed, fewer, List.take_zero]
  exact List.not_mem_nil

theorem nodup_keys_iff (items : List Item) :
    (items.map key).Nodup ↔ Each (fun before item => key item ∉ before.map key) items := by
  induction items using List.reverseRecOn with
  | nil => exact iff_of_true List.nodup_nil (each_nil _)
  | append_singleton items last ih =>
      rw [each_concat, ← ih, List.map_append, List.nodup_append]
      constructor
      · rintro ⟨distinct, _, apart⟩
        refine ⟨distinct, fun member => ?_⟩
        exact apart _ member _ (List.mem_singleton_self _) rfl
      · rintro ⟨distinct, absent⟩
        refine ⟨distinct, List.nodup_singleton _, ?_⟩
        intro present member other single same
        rw [List.map_singleton, List.mem_singleton] at single
        exact absent (single ▸ same ▸ member)

theorem nodup_iff_none_returns (fresh : Fresh key count items) :
    (items.map key).Nodup ↔ NoneReturns key count items := by
  rw [nodup_keys_iff]
  constructor
  · intro each before item after split member
    apply each before item after split
    rw [← passed_append_recent count before, List.map_append]
    exact List.mem_append_left _ member
  · intro none before item after split member
    rw [← passed_append_recent count before, List.map_append] at member
    rcases List.mem_append.mp member with old | kept
    · exact none before item after split old
    · exact fresh before item after split kept

variable [DecidableEq Key]

def firsts (items : List Item) : List Item :=
  items.foldl (fun seen item => if key item ∈ seen.map key then seen else seen ++ [item]) []

theorem firsts_concat (items : List Item) (last : Item) :
    firsts key (items ++ [last]) =
      if key last ∈ (firsts key items).map key then firsts key items
      else firsts key items ++ [last] := by
  rw [firsts, List.foldl_append]
  rfl

theorem firsts_of_nodup (items : List Item) (distinct : (items.map key).Nodup) :
    firsts key items = items := by
  rw [nodup_keys_iff] at distinct
  induction items using List.reverseRecOn with
  | nil => rfl
  | append_singleton items last ih =>
      obtain ⟨earlier, absent⟩ := (each_concat _ _ _).mp distinct
      rw [firsts_concat, ih earlier, if_neg absent]

theorem firsts_length_le (items : List Item) : (firsts key items).length ≤ items.length := by
  induction items using List.reverseRecOn with
  | nil => exact Nat.le_refl 0
  | append_singleton items last ih =>
      rw [firsts_concat, List.length_append, List.length_singleton]
      split
      · exact Nat.le_succ_of_le ih
      · rw [List.length_append, List.length_singleton]
        exact Nat.succ_le_succ ih

theorem nodup_of_firsts_length (complete : (firsts key items).length = items.length) :
    (items.map key).Nodup := by
  induction items using List.reverseRecOn with
  | nil => exact List.nodup_nil
  | append_singleton items last ih =>
      have shorter := firsts_length_le key items
      rw [firsts_concat] at complete
      simp only [List.length_append, List.length_singleton] at complete
      by_cases repeated : key last ∈ (firsts key items).map key
      · rw [if_pos repeated] at complete
        omega
      · rw [if_neg repeated, List.length_append, List.length_singleton] at complete
        have distinct := ih (Nat.succ.inj complete)
        rw [firsts_of_nodup key items distinct] at repeated
        rw [nodup_keys_iff, each_concat, ← nodup_keys_iff]
        exact ⟨distinct, repeated⟩

end CleanRoom.RecentItems
