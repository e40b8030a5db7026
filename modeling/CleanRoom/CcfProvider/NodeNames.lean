import CleanRoom.Library.Joining
import CleanRoom.Library.NaturalOrder

/-!
# Names of the nodes of a network

`CreateNetwork`, `UpdateNetwork` and `RecoverPublicNetwork` of `CcfNetworkProvider.cs` number the
nodes they add from the last node on, which `PadForNaturalNumberOrdering` finds. The nodes are
created side by side, so any part of them may exist when a call fails, and nodes are deleted by
other parts of the calls.
-/

namespace CleanRoom.CcfProvider

open DotNetText Joining JsNumber NaturalOrder

section

variable (rules : TextRules) (networkName : String)

def padForNaturalNumberOrdering (input : String) : String := padNumbers rules 9 input

/-- Sums of `int` are not checked for an overflow. -/
def int32 (value : Int) : Int := value.bmod 4294967296

/-- `int.Parse(nodeEndpoints.OrderBy(..).Last().NodeName.Split("-").Last()) + 1` -/
def nextOrdinal (nodeEndpoints : List String) : Except String Int :=
  match (orderBy rules (padForNaturalNumberOrdering rules) nodeEndpoints).getLast? with
  | none => .error "Sequence contains no elements"
  | some nodeName =>
      let ordinal := (nodeName.splitOn "-").getLastD ""
      match int32TryParse ordinal with
      | none => .error s!"The input string '{ordinal}' was not in a correct format."
      | some value => .ok (int32 (value + 1))

/-- `networkName + "-" + nodeOrdinal` -/
def joinNodeName (nodeOrdinal : Int) : String := joined '-' networkName (toString nodeOrdinal)

/-- The names that the loop of `AddNodes` and `CreateJoinNodes` gives. -/
def joinNodeNames (numNodesToCreate : Nat) (startOrdinal : Int) : List String :=
  (List.range numNodesToCreate).map fun done : Nat =>
    joinNodeName networkName (int32 (startOrdinal + done))

/-- Calls that change the nodes of a network one after the other, with how many nodes they ask
for. Nodes may be lost at any time. -/
inductive Changed : List String → Nat → List String → Prop where
  | start (names : List String) : Changed names 0 names
  | lose (names before after : List String) (asked : Nat) (earlier : Changed names asked before)
      (fewer : after.Subperm before) : Changed names asked after
  | add (names before listed after : List String) (asked count : Nat) (ordinal : Int)
      (earlier : Changed names asked before) (found : listed.Perm before)
      (next : nextOrdinal rules listed = .ok ordinal)
      (created : after.Subperm (before ++ joinNodeNames networkName count ordinal)) :
      Changed names (asked + count) after

end

/-- Distinct names of the network, with ordinals below a limit. -/
structure NodesNamed (networkName : String) (limit : Nat) (names : List String) : Prop where
  distinct : names.Nodup
  named : ∀ name ∈ names, ∃ ordinal : Nat, ordinal < limit ∧
    name = joinNodeName networkName ordinal

variable {rules : TextRules} {networkName : String} {limit : Nat} {names fewer : List String}

theorem NodesNamed.subperm (named : NodesNamed networkName limit names)
    (sub : fewer.Subperm names) : NodesNamed networkName limit fewer := by
  obtain ⟨part, perm, sublist⟩ := sub
  constructor
  · exact perm.nodup_iff.mp (named.distinct.sublist sublist)
  · intro name member
    exact named.named name (sublist.subset (perm.mem_iff.mpr member))

theorem join_node_name_inj (first second : Nat)
    (same : joinNodeName networkName first = joinNodeName networkName second) : first = second :=
  to_string_inj (joined_right_injective '-' networkName _ _ same)

theorem int32_small (value : Nat) (small : value ≤ 10 ^ 9) : int32 value = value :=
  Int.bmod_eq_of_le (by omega) (by omega)

theorem NodesNamed.append (named : NodesNamed networkName limit names) (count start : Nat)
    (below : ∀ ordinal : Nat, joinNodeName networkName ordinal ∈ names → ordinal < start)
    (next : start ≤ limit) (small : limit + count ≤ 10 ^ 9) :
    NodesNamed networkName (limit + count) (names ++ joinNodeNames networkName count start) := by
  have created : joinNodeNames networkName count start =
      (List.range count).map fun done : Nat => joinNodeName networkName (start + done : Nat) := by
    apply List.map_congr_left
    intro done member
    have before := List.mem_range.mp member
    rw [← int32_small (start + done) (by omega)]
    rfl
  have members : ∀ name ∈ joinNodeNames networkName count start,
      ∃ done < count, name = joinNodeName networkName (start + done : Nat) := by
    rw [created]
    intro name member
    obtain ⟨done, before, rfl⟩ := List.mem_map.mp member
    exact ⟨done, List.mem_range.mp before, rfl⟩
  constructor
  · apply List.nodup_append.mpr
    refine ⟨named.distinct, created ▸ List.nodup_range.map ?_, ?_⟩
    · intro first second same
      have equal := join_node_name_inj (start + first) (start + second) same
      omega
    · intro name present other created same
      obtain ⟨done, _, rfl⟩ := members other created
      have above := below (start + done) (same ▸ present)
      omega
  · intro name member
    rcases List.mem_append.mp member with present | created
    · obtain ⟨ordinal, limited, same⟩ := named.named name present
      exact ⟨ordinal, by omega, same⟩
    · obtain ⟨done, before, same⟩ := members name created
      exact ⟨start + done, by omega, same⟩

theorem join_node_name_last (ordinal : Nat) :
    ((joinNodeName networkName ordinal).splitOn "-").getLastD "" = toString ordinal := by
  change ((joinNodeName networkName ordinal).splitOn (String.singleton '-')).getLastD "" = _
  rw [joinNodeName, split_on_joined, split_on_plain (toString (ordinal : Int))]
  · rw [List.getLastD_concat]
    rfl
  · intro member
    exact absurd ((number_digits ordinal).2 '-' member) (by decide)

theorem join_node_names_ordered (left right : Nat) (leftSmall : left < 10 ^ 9)
    (rightSmall : right < 10 ^ 9)
    (ordered : rules.le (padForNaturalNumberOrdering rules (joinNodeName networkName left))
      (padForNaturalNumberOrdering rules (joinNodeName networkName right)) = true) :
    left ≤ right := by
  have chars : ∀ ordinal : Nat, joinNodeName networkName ordinal =
      String.ofList (networkName.toList ++ '-' :: (toString ordinal).toList) := by
    intro ordinal
    rw [← String.toList_inj, joinNodeName, joined_to_list, String.toList_ofList]
    rfl
  rw [chars, chars] at ordered
  exact numbers_ordered _ '-' _ _ (rules.decimal_ascii '-' (by decide)) (by decide) leftSmall
    rightSmall ordered

theorem next_ordinal_ok (named : NodesNamed networkName limit names) (small : limit ≤ 10 ^ 9)
    (nonempty : names ≠ []) :
    ∃ start : Nat, nextOrdinal rules names = .ok start ∧ start ≤ limit ∧
      ∀ other : Nat, joinNodeName networkName other ∈ names → other < start := by
  obtain ⟨last, found⟩ := @order_by_some rules _ (padForNaturalNumberOrdering rules) _ nonempty
  obtain ⟨member, greatest⟩ := order_by_last last found
  obtain ⟨number, below, rfl⟩ := named.named last member
  have parsed : int32TryParse (toString number) = some (number : Int) :=
    (int32_try_parse_number number).trans (if_pos ⟨by omega, by omega⟩)
  refine ⟨number + 1, ?_, below, ?_⟩
  · simp only [nextOrdinal, found, join_node_name_last, parsed]
    rw [← int32_small (number + 1) (by omega)]
    rfl
  · intro other present
    obtain ⟨same, otherBelow, equal⟩ := named.named _ present
    cases join_node_name_inj _ _ equal
    have ordered := join_node_names_ordered other number (by omega) (by omega) (greatest _ present)
    omega

/-- Whatever part of the calls fails and whichever nodes are lost, no two nodes of a network
have one name, and the next ordinal is found while there is a node. A limit above the ordinals
at the start, with the nodes asked for since, keeps every ordinal to nine digits. -/
theorem node_names_stay_distinct (rules : TextRules) (networkName : String) (limit asked : Nat)
    (names after : List String) (start : NodesNamed networkName limit names)
    (changed : Changed rules networkName names asked after) (small : limit + asked ≤ 10 ^ 9) :
    NodesNamed networkName (limit + asked) after ∧
      (after ≠ [] → ∃ ordinal, nextOrdinal rules after = .ok ordinal) := by
  have named : NodesNamed networkName (limit + asked) after := by
    induction changed with
    | start => exact start
    | lose before after asked _ fewer ih => exact (ih small).subperm fewer
    | add before listed after asked count ordinal _ found next created ih =>
        have before := ih (by omega)
        have nonempty : listed ≠ [] := by
          rintro rfl
          simp [nextOrdinal, orderBy] at next
        obtain ⟨first, known, limited, below⟩ :=
          next_ordinal_ok (before.subperm found.subperm) (by omega) nonempty
        cases known.symm.trans next
        rw [← Nat.add_assoc]
        apply (before.append count first ?_ limited (by omega)).subperm created
        intro other member
        exact below other (found.mem_iff.mpr member)
  refine ⟨named, fun nonempty => ?_⟩
  obtain ⟨ordinal, known, _⟩ := next_ordinal_ok named small nonempty
  exact ⟨ordinal, known⟩

theorem two_nodes_added : NodesNamed "net" 11 ["net-9", "net-10"] ∧
    ∃ after, Changed ordinal "net" ["net-9", "net-10"] 2 after ∧ after.length = 4 ∧
      after.Nodup := by
  have start : NodesNamed "net" 11 ["net-9", "net-10"] := by
    constructor
    · decide
    · intro name member
      rcases List.mem_pair.mp member with rfl | rfl
      · exact ⟨9, by decide, by decide⟩
      · exact ⟨10, by decide, by decide⟩
  obtain ⟨_, next⟩ := node_names_stay_distinct ordinal "net" 11 0 _ _ start (.start _) (by decide)
  obtain ⟨first, found⟩ := next (by decide)
  have added : Changed ordinal "net" ["net-9", "net-10"] (0 + 2) _ :=
    .add _ _ _ _ 0 2 first (.start _) (.refl _) found (.refl _)
  exact ⟨start, _, added, rfl,
    (node_names_stay_distinct ordinal "net" 11 _ _ _ start added (by decide)).1.distinct⟩

end CleanRoom.CcfProvider
