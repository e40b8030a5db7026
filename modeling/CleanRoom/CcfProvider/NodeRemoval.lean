import Mathlib.Data.List.Count
import Mathlib.Data.List.Nodup
import Mathlib.Data.List.Perm.Basic

/-!
# Nodes to remove

`PickNodesToRemove` of `CcfNetworkProvider.cs`, for the answers that it gets: the nodes of the
network, the consensus and the health of the nodes. Nodes that need replacement come first,
then those with an ack, the longest silent ones before the others. The primary is kept out
only by the mark it has in the list of nodes, not by the name that the consensus gives.
-/

namespace CleanRoom.CcfProvider

structure NetworkNode where
  nodeId : String
  /-- `NodeData.Name` -/
  name : String
  primary : Bool
  status : String
deriving DecidableEq

structure NodeHealth where
  name : String
  status : String

/-- `Consensus.Details`, with the `LastReceivedMs` of each ack. -/
structure Consensus where
  primaryId : String
  acks : List (String × Int)
  one_ack : (acks.map Prod.fst).Nodup

section
variable (toLower : String → String) (nodes : List NetworkNode) (consensus : Consensus)
  (nodesHealth : List NodeHealth)

def needsReplacement (node : NetworkNode) : Bool :=
  nodesHealth.any fun health =>
    toLower health.name == toLower node.name && health.status == "NeedsReplacement"

def replacedNodes : List String :=
  (nodes.filter (needsReplacement toLower nodesHealth)).map NetworkNode.nodeId

def slowestNodes (candidateNodes : List String) : List String :=
  ((consensus.acks.filter fun ack => !candidateNodes.contains ack.1).mergeSort
    fun first second => second.2 ≤ first.2).map Prod.fst

def candidateNodes : List String :=
  replacedNodes toLower nodes nodesHealth ++
    slowestNodes consensus (replacedNodes toLower nodes nodesHealth)

def findNode (nodeId : String) : Option NetworkNode :=
  nodes.find? fun node => node.nodeId == nodeId && node.status != "Retired"

/-- The loop over the candidates. The count goes down with every node that is added, and only
a count of zero ends the loop early. -/
def pickNodes (primaryNodeId : String) :
    List String → Int → List NetworkNode → Except String (List NetworkNode)
  | [], _, nodesToRemove => .ok nodesToRemove
  | nodeId :: candidates, numNodesToRemove, nodesToRemove =>
      match findNode nodes nodeId with
      | none => pickNodes primaryNodeId candidates numNodesToRemove nodesToRemove
      | some node =>
          if node.primary then
            .error (s!"'{node.nodeId}' is reporting itself as Primary but was not considered so " ++
              "during Consensus output query as that was taken from primary endpoint " ++
              s!"'{primaryNodeId}'. So primary node has shifted while determining nodes " ++
              "to remove. Try again later.")
          else if numNodesToRemove - 1 = 0 then .ok (nodesToRemove ++ [node])
          else pickNodes primaryNodeId candidates (numNodesToRemove - 1) (nodesToRemove ++ [node])

def pickNodesToRemove (primaryNodeId : String) (numNodesToRemove : Int) :
    Except String (List NetworkNode) :=
  if consensus.primaryId ≠ primaryNodeId then
    .error (s!"Primary endpoint changed from '{primaryNodeId}' to " ++
      s!"'{consensus.primaryId}' while determining nodes to remove. " ++ "Try again later.")
  else
    pickNodes nodes primaryNodeId (candidateNodes toLower nodes consensus nodesHealth)
      numNodesToRemove []

def removableNodes : List NetworkNode :=
  nodes.filter fun node => node.status != "Retired" &&
    (needsReplacement toLower nodesHealth node ||
      (consensus.acks.map Prod.fst).contains node.nodeId)

/-- A node goes before another one: it needs replacement, or neither does and it has been
silent for as long at least. -/
structure GoesBefore (first second : NetworkNode) : Prop where
  replaced : needsReplacement toLower nodesHealth second = true →
    needsReplacement toLower nodesHealth first = true
  silent : needsReplacement toLower nodesHealth first = false →
    ∀ longer shorter, (first.nodeId, longer) ∈ consensus.acks →
      (second.nodeId, shorter) ∈ consensus.acks → shorter ≤ longer

structure GoodChoice (number : Nat) (removed : List NetworkNode) : Prop where
  as_many : removed.length = min number (removableNodes toLower nodes consensus nodesHealth).length
  distinct : (removed.map NetworkNode.nodeId).Nodup
  removable : ∀ node ∈ removed, node ∈ removableNodes toLower nodes consensus nodesHealth
  unmarked : ∀ node ∈ removed, node.primary = false
  not_primary : ∀ node ∈ removed, node.nodeId ≠ consensus.primaryId
  in_order : removed.Pairwise (GoesBefore toLower consensus nodesHealth)
  before_others : ∀ node ∈ removed, ∀ other ∈ removableNodes toLower nodes consensus nodesHealth,
    other ∉ removed → GoesBefore toLower consensus nodesHealth node other

def removalOrder : List NetworkNode :=
  (candidateNodes toLower nodes consensus nodesHealth).filterMap (findNode nodes)

/-- A node is sure to come up ahead of another one, which does not need replacement: it does,
or it has been silent for longer. -/
def isAhead (first second : NetworkNode) : Bool :=
  !needsReplacement toLower nodesHealth second &&
    (needsReplacement toLower nodesHealth first || consensus.acks.any fun longer =>
      longer.1 == first.nodeId && consensus.acks.any fun shorter =>
        shorter.1 == second.nodeId && shorter.2 < longer.2)

def nodesAhead (node : NetworkNode) : Nat :=
  (removableNodes toLower nodes consensus nodesHealth).countP fun other =>
    isAhead toLower consensus nodesHealth other node

end

section
variable {toLower : String → String} {nodes : List NetworkNode} {consensus : Consensus}
  {nodesHealth : List NodeHealth}

theorem pick_nodes_ok_iff (primaryNodeId : String) (candidates : List String) (number : Nat)
    (picked removed : List NetworkNode) :
    pickNodes nodes primaryNodeId candidates (number + 1 : Nat) picked = .ok removed ↔
      (∀ node ∈ (candidates.filterMap (findNode nodes)).take (number + 1),
        node.primary = false) ∧
      removed = picked ++ (candidates.filterMap (findNode nodes)).take (number + 1) := by
  induction candidates generalizing number picked with
  | nil =>
      simp [pickNodes, @eq_comm _ picked removed]
  | cons nodeId candidates ih =>
      cases found : findNode nodes nodeId with
      | none =>
          simp only [pickNodes, found, List.filterMap_cons_none]
          exact ih number picked
      | some node =>
          rw [List.filterMap_cons_some found, List.take_succ_cons, List.forall_mem_cons]
          cases marked : node.primary with
          | true => simp [pickNodes, found, marked]
          | false =>
              cases number with
              | zero => simp [pickNodes, found, marked, @eq_comm _ (picked ++ [node]) removed]
              | succ number =>
                  have less : ((number + 1 + 1 : Nat) : Int) - 1 = (number + 1 : Nat) := by omega
                  have more : ((number + 1 : Nat) : Int) ≠ 0 := by omega
                  simp only [pickNodes, found, marked, less, if_neg more, Bool.false_eq_true,
                    if_false, true_and]
                  rw [ih number (picked ++ [node])]
                  simp

theorem find_node_eq_some_iff (distinct : (nodes.map NetworkNode.nodeId).Nodup) (nodeId : String)
    (node : NetworkNode) :
    findNode nodes nodeId = some node ↔
      node ∈ nodes ∧ node.nodeId = nodeId ∧ node.status ≠ "Retired" := by
  constructor
  · intro found
    have holds := List.find?_some found
    simp only [Bool.and_eq_true, beq_iff_eq, bne_iff_ne] at holds
    exact ⟨List.mem_of_find?_eq_some found, holds.1, holds.2⟩
  · intro listed
    rcases listed with ⟨member, same, active⟩
    cases found : findNode nodes nodeId with
    | none =>
        have missing := List.find?_eq_none.mp found node member
        simp [same, active] at missing
    | some other =>
        have holds := List.find?_some found
        simp only [Bool.and_eq_true, beq_iff_eq, bne_iff_ne] at holds
        have equal := List.inj_on_of_nodup_map distinct (List.mem_of_find?_eq_some found) member
          (holds.1.trans same.symm)
        rw [equal]

theorem mem_replaced_nodes_iff (distinct : (nodes.map NetworkNode.nodeId).Nodup)
    (node : NetworkNode) (member : node ∈ nodes) :
    node.nodeId ∈ replacedNodes toLower nodes nodesHealth ↔
      needsReplacement toLower nodesHealth node = true := by
  constructor
  · intro listed
    rcases List.mem_map.mp listed with ⟨other, kept, same⟩
    rcases List.mem_filter.mp kept with ⟨otherMember, needed⟩
    rw [← List.inj_on_of_nodup_map distinct otherMember member same]
    exact needed
  · intro needed
    exact List.mem_map.mpr ⟨node, List.mem_filter.mpr ⟨member, needed⟩, rfl⟩

theorem mem_slowest_nodes_iff (candidates : List String) (nodeId : String) :
    nodeId ∈ slowestNodes consensus candidates ↔
      nodeId ∈ consensus.acks.map Prod.fst ∧ nodeId ∉ candidates := by
  simp only [slowestNodes, List.mem_map, List.mem_mergeSort, List.mem_filter]
  constructor
  · intro listed
    rcases listed with ⟨ack, kept, rfl⟩
    exact ⟨⟨ack, kept.1, rfl⟩, by simpa using kept.2⟩
  · intro listed
    rcases listed with ⟨⟨ack, member, rfl⟩, new⟩
    exact ⟨ack, ⟨member, by simpa using new⟩, rfl⟩

theorem candidate_nodes_nodup (distinct : (nodes.map NetworkNode.nodeId).Nodup) :
    (candidateNodes toLower nodes consensus nodesHealth).Nodup := by
  apply List.Nodup.append
  · exact distinct.sublist (List.filter_sublist.map _)
  · have kept : ((consensus.acks.filter fun ack =>
        !(replacedNodes toLower nodes nodesHealth).contains ack.1).map Prod.fst).Nodup :=
      consensus.one_ack.sublist (List.filter_sublist.map _)
    exact ((List.mergeSort_perm _ _).map Prod.fst).nodup_iff.mpr kept
  · intro nodeId replaced slowest
    exact ((mem_slowest_nodes_iff _ _).mp slowest).2 replaced

theorem mem_removal_order_iff (distinct : (nodes.map NetworkNode.nodeId).Nodup)
    (node : NetworkNode) :
    node ∈ removalOrder toLower nodes consensus nodesHealth ↔
      node ∈ removableNodes toLower nodes consensus nodesHealth := by
  have found : node ∈ removalOrder toLower nodes consensus nodesHealth ↔
      node ∈ nodes ∧ node.status ≠ "Retired" ∧
        node.nodeId ∈ candidateNodes toLower nodes consensus nodesHealth := by
    simp only [removalOrder, List.mem_filterMap, find_node_eq_some_iff distinct]
    constructor
    · intro listed
      rcases listed with ⟨nodeId, candidate, member, rfl, active⟩
      exact ⟨member, active, candidate⟩
    · intro listed
      exact ⟨node.nodeId, listed.2.2, listed.1, rfl, listed.2.1⟩
  rw [found]
  simp only [removableNodes, List.mem_filter, Bool.and_eq_true, Bool.or_eq_true, bne_iff_ne,
    List.contains_iff_mem, candidateNodes, List.mem_append, mem_slowest_nodes_iff]
  constructor
  · intro listed
    rcases listed with ⟨member, active, candidate⟩
    rw [mem_replaced_nodes_iff distinct node member] at candidate
    exact ⟨member, active, candidate.imp_right And.left⟩
  · intro listed
    rcases listed with ⟨member, active, removable⟩
    rw [mem_replaced_nodes_iff distinct node member]
    refine ⟨member, active, ?_⟩
    rcases Classical.em (needsReplacement toLower nodesHealth node = true) with needed | fine
    · exact .inl needed
    · exact .inr ⟨removable.resolve_left fine, fine⟩

theorem removal_order_nodup (distinct : (nodes.map NetworkNode.nodeId).Nodup) :
    (removalOrder toLower nodes consensus nodesHealth).Nodup := by
  apply (candidate_nodes_nodup distinct).filterMap
  intro first second node atFirst atSecond
  have first_id := ((find_node_eq_some_iff distinct first node).mp atFirst).2.1
  have second_id := ((find_node_eq_some_iff distinct second node).mp atSecond).2.1
  exact first_id.symm.trans second_id

theorem removal_order_perm (distinct : (nodes.map NetworkNode.nodeId).Nodup) :
    (removalOrder toLower nodes consensus nodesHealth).Perm
      (removableNodes toLower nodes consensus nodesHealth) := by
  apply (List.perm_ext_iff_of_nodup (removal_order_nodup distinct) _).mpr
  · exact mem_removal_order_iff distinct
  · exact (List.Nodup.of_map _ distinct).filter _

theorem slowest_nodes_pairwise (candidates : List String) :
    (slowestNodes consensus candidates).Pairwise fun first second =>
      ∀ longer shorter, (first, longer) ∈ consensus.acks → (second, shorter) ∈ consensus.acks →
        shorter ≤ longer := by
  have sorted := @List.pairwise_mergeSort (String × Int)
    (fun first second => decide (second.2 ≤ first.2))
    (fun first second third => by simp only [decide_eq_true_eq]; omega)
    (fun first second => by simp only [Bool.or_eq_true, decide_eq_true_eq]; omega)
    (consensus.acks.filter fun ack => !candidates.contains ack.1)
  apply List.pairwise_map.mpr
  apply sorted.imp_of_mem
  intro first second firstMember secondMember less longer shorter firstAck secondAck
  have listed {ack : String × Int} (member : ack ∈ (consensus.acks.filter fun ack =>
      !candidates.contains ack.1).mergeSort fun first second => second.2 ≤ first.2) :
      ack ∈ consensus.acks := (List.mem_filter.mp (List.mem_mergeSort.mp member)).1
  have firstSame := List.inj_on_of_nodup_map consensus.one_ack firstAck (listed firstMember) rfl
  have secondSame := List.inj_on_of_nodup_map consensus.one_ack secondAck (listed secondMember) rfl
  rw [← firstSame, ← secondSame] at less
  exact of_decide_eq_true less

theorem removal_order_pairwise (distinct : (nodes.map NetworkNode.nodeId).Nodup) :
    (removalOrder toLower nodes consensus nodesHealth).Pairwise
      (GoesBefore toLower consensus nodesHealth) := by
  have needed {nodeId : String} {node : NetworkNode} (found : findNode nodes nodeId = some node) :
      nodeId ∈ replacedNodes toLower nodes nodesHealth ↔
        needsReplacement toLower nodesHealth node = true := by
    rcases (find_node_eq_some_iff distinct nodeId node).mp found with ⟨member, rfl, _⟩
    exact mem_replaced_nodes_iff distinct node member
  have same {nodeId : String} {node : NetworkNode} (found : findNode nodes nodeId = some node) :
      node.nodeId = nodeId := ((find_node_eq_some_iff distinct nodeId node).mp found).2.1
  apply List.pairwise_filterMap.mpr
  apply List.pairwise_append.mpr
  refine ⟨?_, ?_, ?_⟩
  · apply List.pairwise_of_forall_mem_list
    intro first firstListed second _ firstNode firstFound secondNode _
    have replaced := (needed firstFound).mp firstListed
    exact ⟨fun _ => replaced, fun fine => absurd replaced (by simp [fine])⟩
  · apply (slowest_nodes_pairwise _).imp_of_mem
    intro first second _ secondListed less firstNode firstFound secondNode secondFound
    have fine := ((mem_slowest_nodes_iff _ _).mp secondListed).2
    constructor
    · intro replaced
      exact absurd ((needed secondFound).mpr replaced) fine
    · intro _
      rw [same firstFound, same secondFound]
      exact less
  · intro first firstListed second _ firstNode firstFound secondNode _
    have replaced := (needed firstFound).mp firstListed
    exact ⟨fun _ => replaced, fun fine => absurd replaced (by simp [fine])⟩

theorem GoesBefore.not_ahead {first second : NetworkNode}
    (before : GoesBefore toLower consensus nodesHealth first second) :
    isAhead toLower consensus nodesHealth second first = false := by
  refine Bool.eq_false_iff.mpr fun ahead => ?_
  simp only [isAhead, Bool.and_eq_true, Bool.not_eq_true', Bool.or_eq_true, List.any_eq_true,
    beq_iff_eq, decide_eq_true_eq] at ahead
  obtain ⟨fine, replaced | ⟨longer, secondAck, named, shorter, firstAck, called, less⟩⟩ := ahead
  · rw [before.replaced replaced] at fine
    cases fine
  · have silent := before.silent fine shorter.2 longer.2 (called ▸ firstAck) (named ▸ secondAck)
    omega

/-- A node among the first ones has fewer nodes ahead of it. -/
theorem nodes_ahead_lt (distinct : (nodes.map NetworkNode.nodeId).Nodup) (number : Nat)
    (node : NetworkNode)
    (member : node ∈ (removalOrder toLower nodes consensus nodesHealth).take number) :
    nodesAhead toLower nodes consensus nodesHealth node < number := by
  have ordered := @removal_order_pairwise toLower nodes consensus nodesHealth distinct
  have split := List.take_append_drop number (removalOrder toLower nodes consensus nodesHealth)
  rw [nodesAhead, ← (removal_order_perm distinct).countP_eq, ← split, List.countP_append]
  rw [← split] at ordered
  have later : (List.drop number (removalOrder toLower nodes consensus nodesHealth)).countP
      (fun other => isAhead toLower consensus nodesHealth other node) = 0 := by
    refine List.countP_eq_zero.mpr fun other left => ?_
    exact Bool.eq_false_iff.mp
      ((List.pairwise_append.mp ordered).2.2 node member other left).not_ahead
  have self : GoesBefore toLower consensus nodesHealth node node := by
    refine ⟨id, fun _ longer shorter first second => ?_⟩
    have same := List.inj_on_of_nodup_map consensus.one_ack first second rfl
    exact Int.le_of_eq (congrArg Prod.snd same).symm
  have fewer : (List.take number (removalOrder toLower nodes consensus nodesHealth)).countP
      (fun other => isAhead toLower consensus nodesHealth other node) <
        (List.take number (removalOrder toLower nodes consensus nodesHealth)).length :=
    List.countP_lt_length_iff.mpr ⟨node, member, self.not_ahead⟩
  rw [later]
  exact Nat.lt_of_lt_of_le fewer (List.length_take_le _ _)

theorem first_nodes_good (distinct : (nodes.map NetworkNode.nodeId).Nodup) (number : Nat)
    (unmarked : ∀ node ∈ (removalOrder toLower nodes consensus nodesHealth).take number,
      node.primary = false)
    (absent : ∀ node ∈ (removalOrder toLower nodes consensus nodesHealth).take number,
      node.nodeId ≠ consensus.primaryId) :
    GoodChoice toLower nodes consensus nodesHealth number
      ((removalOrder toLower nodes consensus nodesHealth).take number) := by
  have ordered := @removal_order_pairwise toLower nodes consensus nodesHealth distinct
  have split := List.take_append_drop number (removalOrder toLower nodes consensus nodesHealth)
  have listed : ∀ node ∈ (removalOrder toLower nodes consensus nodesHealth).take number,
      node ∈ removableNodes toLower nodes consensus nodesHealth := by
    intro node member
    exact (mem_removal_order_iff distinct node).mp (List.mem_of_mem_take member)
  constructor
  · rw [List.length_take, (removal_order_perm distinct).length_eq]
  · apply List.Nodup.map_on
    · intro first firstMember second secondMember same
      exact List.inj_on_of_nodup_map distinct (List.mem_filter.mp (listed first firstMember)).1
        (List.mem_filter.mp (listed second secondMember)).1 same
    · exact (removal_order_nodup distinct).sublist (List.take_sublist _ _)
  · exact listed
  · exact unmarked
  · exact absent
  · exact ordered.sublist (List.take_sublist _ _)
  · intro node member other removable left
    rw [← split] at ordered
    apply (List.pairwise_append.mp ordered).2.2 node member other
    have inOrder := (mem_removal_order_iff distinct other).mpr removable
    rw [← split, List.mem_append] at inOrder
    exact inOrder.resolve_left left

end

def threeNodes : List NetworkNode :=
  [⟨"p", "node-0", false, "Trusted"⟩, ⟨"q", "node-1", false, "Trusted"⟩,
    ⟨"r", "node-2", false, "Trusted"⟩]

def threeAcks : Consensus := ⟨"p", [("p", 10), ("q", 20), ("r", 120)], by decide⟩

theorem three_nodes_order :
    candidateNodes id threeNodes threeAcks [⟨"node-1", "NeedsReplacement"⟩] = ["q", "r", "p"] := by
  simp [candidateNodes, replacedNodes, slowestNodes, needsReplacement, threeNodes, threeAcks,
    List.mergeSort]

end CleanRoom.CcfProvider
