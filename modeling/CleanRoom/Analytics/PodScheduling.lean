import Mathlib.Data.List.Perm.Basic
import Mathlib.Data.List.Sort

/-!
# Placing pods on nodes

The scheduler webhook of the frontend: `webhook_handler.py`, `pod_scheduler.py` and
`pod_count_constraint.py`. A node is chosen by the number of its active pods when a pod is
admitted. The pod is created and bound to the node later, and only then a listing has it.
An enforcer is given by its limit.
-/

namespace CleanRoom.Analytics

structure Node where
  name : String
  unschedulable : Bool
  taints : List String
  conditions : List (String × String)

def isNodeSchedulable (node : Node) : Bool :=
  !node.unschedulable && !node.taints.contains "NoExecute" &&
    !node.conditions.any fun condition => condition.1 == "Ready" && condition.2 != "True"

/-- `PodCountConstraint.rank_nodes`. A node whose pods cannot be listed is left out. -/
def rankNodes (maxPods : Nat) (listPodsOnNode : String → Option Nat) (nodes : List Node) :
    List Node :=
  let nodePodCounts := nodes.filterMap fun node => do
    let podCount ← listPodsOnNode node.name
    if podCount < maxPods then some (node, podCount) else none
  (nodePodCounts.mergeSort fun left right => left.2 ≤ right.2).map Prod.fst

def applyEnforcers (listPodsOnNode : String → Option Nat) : List Nat → List Node →
    Option (List Node)
  | [], rankedNodes => some rankedNodes
  | maxPods :: enforcers, rankedNodes =>
      match rankNodes maxPods listPodsOnNode rankedNodes with
      | [] => none
      | ranked => applyEnforcers listPodsOnNode enforcers ranked

def selectNode (enforcers : List Nat) (nodes : List Node) (listPodsOnNode : String → Option Nat) :
    Option String :=
  match nodes.filter isNodeSchedulable with
  | [] => none
  | schedulableNodes => do
      let rankedNodes ← applyEnforcers listPodsOnNode enforcers schedulableNodes
      return (← rankedNodes.head?).name

structure WebhookAnswer where
  allowed : Bool
  message : String
  /-- The value of the patch of `/spec/nodeName`. -/
  patch : Option String

def handleRequest (enforcers : List Nat) (nodes : Except String (List Node))
    (listPodsOnNode : String → Option Nat) (nodeName : String) : WebhookAnswer :=
  if nodeName ≠ "" then ⟨true, "Pod already has nodeName assigned", none⟩
  else match nodes with
    | .error error => ⟨false, s!"Internal error while selecting node: {error}", none⟩
    | .ok nodes =>
        match selectNode enforcers nodes listPodsOnNode with
        | none => ⟨false, "No nodes available with capacity.", none⟩
        | some selected =>
            if selected = "" then ⟨false, "No nodes available with capacity.", none⟩
            else ⟨true, s!"Pod assigned to node {selected}", some selected⟩

/-- A request that is not answered, with the pods that were counted for it. -/
structure SchedulingRequest where
  nodes : Except String (List Node)
  counted : List (String × Nat)

structure PlacedPods where
  active : String → Nat
  requests : List SchedulingRequest
  /-- The nodes of the pods that are admitted and not created. -/
  admitted : List String

inductive SchedulingEvent where
  | request (nodes : Except String (List Node))
  | listing (index : Nat) (node : String)
  | answer (index : Nat)
  | creation (index : Nat)
  | rejection (index : Nat)
  | termination (node : String)

def SchedulingRequest.listPodsOnNode (request : SchedulingRequest) (name : String) : Option Nat :=
  request.counted.lookup name

def PlacedPods.step (enforcers : List Nat) (pods : PlacedPods) :
    SchedulingEvent → PlacedPods
  | .request nodes => { pods with requests := pods.requests ++ [⟨nodes, []⟩] }
  | .listing index node =>
      { pods with requests := pods.requests.modify index fun request =>
          { request with counted := (node, pods.active node) :: request.counted } }
  | .answer index =>
      match pods.requests[index]? with
      | none => pods
      | some request =>
          { pods with
            requests := pods.requests.eraseIdx index
            admitted := pods.admitted ++
              (handleRequest enforcers request.nodes request.listPodsOnNode "").patch.toList }
  | .creation index =>
      match pods.admitted[index]? with
      | none => pods
      | some node =>
          { pods with
            active := Function.update pods.active node (pods.active node + 1)
            admitted := pods.admitted.eraseIdx index }
  | .rejection index => { pods with admitted := pods.admitted.eraseIdx index }
  | .termination node =>
      { pods with active := Function.update pods.active node (pods.active node - 1) }

def PlacedPods.run (enforcers : List Nat) (pods : PlacedPods) (events : List SchedulingEvent) :
    PlacedPods :=
  events.foldl (PlacedPods.step enforcers) pods

/-- The pods that are asked for or admitted, and not created. -/
def PlacedPods.pending (pods : PlacedPods) : Nat := pods.requests.length + pods.admitted.length

/-- At no time more than `bound` pods are pending. -/
def AtMostPending (enforcers : List Nat) (bound : Nat) (pods : PlacedPods) :
    List SchedulingEvent → Prop
  | [] => pods.pending ≤ bound
  | event :: events =>
      pods.pending ≤ bound ∧ AtMostPending enforcers bound (pods.step enforcers event) events

theorem rank_nodes_room (maxPods : Nat) (listPodsOnNode : String → Option Nat)
    (nodes : List Node) (node : Node) (ranked : node ∈ rankNodes maxPods listPodsOnNode nodes) :
    ∃ count, listPodsOnNode node.name = some count ∧ count < maxPods := by
  obtain ⟨⟨found, count⟩, sorted, rfl⟩ := List.mem_map.mp ranked
  obtain ⟨other, _, kept⟩ := List.mem_filterMap.mp (List.mem_mergeSort.mp sorted)
  cases listed : listPodsOnNode other.name with
  | none => simp [listed] at kept
  | some number =>
      simp only [listed, Option.bind_eq_bind, Option.bind_some] at kept
      split at kept
      next room =>
        cases kept
        exact ⟨_, listed, room⟩
      next => cases kept

theorem select_node_room (maxPods : Nat) (nodes : List Node)
    (listPodsOnNode : String → Option Nat) (selected : String)
    (chosen : selectNode [maxPods] nodes listPodsOnNode = some selected) :
    ∃ count, listPodsOnNode selected = some count ∧ count < maxPods := by
  unfold selectNode at chosen
  split at chosen
  · cases chosen
  next schedulable _ =>
    simp only [applyEnforcers] at chosen
    cases order : rankNodes maxPods listPodsOnNode (nodes.filter isNodeSchedulable) with
    | nil => simp [order] at chosen
    | cons first rest =>
        have member : first ∈
            rankNodes maxPods listPodsOnNode (nodes.filter isNodeSchedulable) := by
          simp [order]
        obtain ⟨count, listed, room⟩ := rank_nodes_room maxPods listPodsOnNode _ first member
        simp only [order] at chosen
        cases chosen
        exact ⟨count, listed, room⟩

theorem handle_request_room (maxPods : Nat) (request : SchedulingRequest) (selected : String)
    (assigned : (handleRequest [maxPods] request.nodes request.listPodsOnNode "").patch =
      some selected) : ∃ count, (selected, count) ∈ request.counted ∧ count < maxPods := by
  simp only [handleRequest] at assigned
  cases listed : request.nodes with
  | error error => simp [listed] at assigned
  | ok nodes =>
      cases chosen : selectNode [maxPods] nodes request.listPodsOnNode with
      | none => simp [listed, chosen] at assigned
      | some name =>
          obtain ⟨count, counted, room⟩ := select_node_room maxPods nodes _ name chosen
          have same : name = selected := by
            by_cases empty : name = ""
            · simp [listed, chosen, empty] at assigned
            · simpa [listed, chosen, empty] using assigned
          subst same
          obtain ⟨before, after, split, _⟩ := List.lookup_eq_some_iff.mp counted
          exact ⟨count, by simp [split], room⟩

/-- Every node has room for its active pods and those that were admitted to it, and no count
of a request has grown since. -/
structure RoomForAdmitted (maxPods : Nat) (pods : PlacedPods) : Prop where
  room : ∀ node, pods.active node + pods.admitted.count node ≤ maxPods
  counts : ∀ request ∈ pods.requests, ∀ entry ∈ request.counted, pods.active entry.1 ≤ entry.2

theorem room_step (maxPods : Nat) (pods : PlacedPods) (event : SchedulingEvent)
    (before : RoomForAdmitted maxPods pods) (alone : pods.pending ≤ 1 ∨ maxPods = 0) :
    RoomForAdmitted maxPods (pods.step [maxPods] event) := by
  cases event with
  | request nodes =>
      refine ⟨before.room, ?_⟩
      intro request member
      rcases List.mem_append.mp member with earlier | new
      · exact before.counts request earlier
      · rw [List.mem_singleton.mp new]
        simp
  | listing index node =>
      refine ⟨before.room, ?_⟩
      simp only [PlacedPods.step]
      intro request member
      obtain ⟨place, inside, rfl⟩ := List.mem_iff_getElem.mp member
      rw [List.getElem_modify]
      split
      · intro entry counted
        rcases List.mem_cons.mp counted with rfl | earlier
        · exact le_refl _
        · exact before.counts _ (List.getElem_mem _) entry earlier
      · exact before.counts _ (List.getElem_mem _)
  | answer index =>
      simp only [PlacedPods.step]
      cases found : pods.requests[index]? with
      | none => exact before
      | some request =>
          obtain ⟨inside, rfl⟩ := List.getElem?_eq_some_iff.mp found
          refine ⟨?_, fun other member => before.counts other (List.mem_of_mem_eraseIdx member)⟩
          intro node
          have room := before.room node
          cases assigned : (handleRequest [maxPods] pods.requests[index].nodes
              pods.requests[index].listPodsOnNode "").patch with
          | none => simpa [assigned] using room
          | some selected =>
              obtain ⟨count, counted, free⟩ := handle_request_room maxPods _ selected assigned
              have current : pods.active selected ≤ count :=
                before.counts _ (List.getElem_mem inside) _ counted
              have nothing : pods.admitted = [] := by
                rcases alone with single | zero
                · unfold PlacedPods.pending at single
                  exact List.eq_nil_of_length_eq_zero (by omega)
                · omega
              simp only [nothing, List.count_nil, Nat.add_zero] at room
              simp only [assigned, nothing]
              by_cases same : selected = node
              · subst same
                simp
                omega
              · simpa [same] using room
  | creation index =>
      simp only [PlacedPods.step]
      cases found : pods.admitted[index]? with
      | none => exact before
      | some created =>
          obtain ⟨inside, rfl⟩ := List.getElem?_eq_some_iff.mp found
          have removed := fun node =>
            (List.getElem_cons_eraseIdx_perm inside).count_eq node
          constructor
          · intro node
            have room := before.room node
            have fewer := removed node
            rw [List.count_cons] at fewer
            by_cases same : pods.admitted[index] = node
            · simp [same] at fewer ⊢
              omega
            · have other : ¬node = pods.admitted[index] := fun equal => same equal.symm
              simp [same] at fewer
              simp [Function.update_of_ne other, fewer]
              exact room
          · -- the pod that is created is the pending one, so no request is open
            intro request member
            rcases alone with single | zero
            · have unanswered : 0 < pods.requests.length := List.length_pos_of_mem member
              unfold PlacedPods.pending at single
              omega
            · have present := List.count_pos_iff.mpr (List.getElem_mem inside)
              have room := before.room pods.admitted[index]
              omega
  | rejection index =>
      refine ⟨?_, before.counts⟩
      intro node
      have fewer : (pods.admitted.eraseIdx index).count node ≤ pods.admitted.count node :=
        (List.eraseIdx_sublist pods.admitted index).count_le node
      have room := before.room node
      simp only [PlacedPods.step]
      omega
  | termination ended =>
      have shrinks : ∀ node, Function.update pods.active ended (pods.active ended - 1) node ≤
          pods.active node := by
        intro node
        by_cases same : node = ended
        · subst same
          simp
        · simp [Function.update_of_ne same]
      constructor
      · intro node
        have room := before.room node
        have less := shrinks node
        simp only [PlacedPods.step]
        omega
      · intro request member entry counted
        exact le_trans (shrinks entry.1) (before.counts request member entry counted)

theorem room_run (maxPods bound : Nat) (small : bound ≤ 1 ∨ maxPods = 0)
    (events : List SchedulingEvent) (pods : PlacedPods) (room : RoomForAdmitted maxPods pods)
    (few : AtMostPending [maxPods] bound pods events) :
    RoomForAdmitted maxPods (pods.run [maxPods] events) := by
  induction events generalizing pods with
  | nil => exact room
  | cons event events induction =>
      have alone := few.1
      exact induction (pods.step [maxPods] event) (room_step maxPods pods event room (by omega))
        few.2

/-- No node gets more than `maxPods` active pods, in any interleaving in which at most
`bound` pods are pending. -/
def PodLimitHolds (maxPods bound : Nat) : Prop :=
  ∀ (active : String → Nat) (events : List SchedulingEvent), (∀ node, active node ≤ maxPods) →
    AtMostPending [maxPods] bound ⟨active, [], []⟩ events →
    ∀ node, (PlacedPods.run [maxPods] ⟨active, [], []⟩ events).active node ≤ maxPods

def readyNode : Node := ⟨"node", false, [], [("Ready", "True")]⟩

def overlapping : List SchedulingEvent :=
  [.request (.ok [readyNode]), .listing 0 "node", .answer 0,
    .request (.ok [readyNode]), .listing 0 "node", .answer 0, .creation 0, .creation 0]

theorem overlapping_answer (spare : Nat) (admitted : List String) :
    PlacedPods.step [spare + 1] ⟨fun _ => spare, [⟨.ok [readyNode], [("node", spare)]⟩], admitted⟩
      (.answer 0) = ⟨fun _ => spare, [], admitted ++ ["node"]⟩ := by
  simp [PlacedPods.step, handleRequest, selectNode, readyNode, isNodeSchedulable,
    applyEnforcers, rankNodes, SchedulingRequest.listPodsOnNode]

theorem overlapping_listing (spare : Nat) (admitted : List String) :
    PlacedPods.step [spare + 1] ⟨fun _ => spare, [⟨.ok [readyNode], []⟩], admitted⟩
      (.listing 0 "node") =
        ⟨fun _ => spare, [⟨.ok [readyNode], [("node", spare)]⟩], admitted⟩ := by
  rfl

theorem overlapping_request (spare : Nat) (admitted : List String) :
    PlacedPods.step [spare + 1] ⟨fun _ => spare, [], admitted⟩ (.request (.ok [readyNode])) =
      ⟨fun _ => spare, [⟨.ok [readyNode], []⟩], admitted⟩ := by
  rfl

theorem overlapping_run (spare : Nat) :
    (PlacedPods.run [spare + 1] ⟨fun _ => spare, [], []⟩ overlapping).active "node" =
      spare + 2 := by
  unfold PlacedPods.run overlapping
  rw [List.foldl_cons, overlapping_request, List.foldl_cons, overlapping_listing, List.foldl_cons,
    overlapping_answer, List.foldl_cons, overlapping_request, List.foldl_cons,
    overlapping_listing, List.foldl_cons, overlapping_answer]
  simp [PlacedPods.step]

theorem overlapping_few (spare bound : Nat) (two : 2 ≤ bound) :
    AtMostPending [spare + 1] bound ⟨fun _ => spare, [], []⟩ overlapping := by
  unfold overlapping
  rw [AtMostPending, overlapping_request, AtMostPending, overlapping_listing, AtMostPending,
    overlapping_answer, AtMostPending, overlapping_request, AtMostPending, overlapping_listing,
    AtMostPending, overlapping_answer]
  simp [AtMostPending, PlacedPods.step, PlacedPods.pending]
  omega

/-- The limit holds in every interleaving exactly when at most one pod at a time is pending,
or no pod is allowed at all. -/
theorem pod_limit_iff (maxPods bound : Nat) :
    PodLimitHolds maxPods bound ↔ bound ≤ 1 ∨ maxPods = 0 := by
  constructor
  · intro holds
    by_contra wrong
    push Not at wrong
    obtain ⟨two, positive⟩ := wrong
    obtain ⟨spare, rfl⟩ := Nat.exists_eq_succ_of_ne_zero positive
    have limited := holds (fun _ => spare) overlapping (fun _ => Nat.le_succ spare)
      (overlapping_few spare bound two) "node"
    rw [overlapping_run] at limited
    omega
  · intro small active events within few node
    have start : RoomForAdmitted maxPods ⟨active, [], []⟩ := by
      constructor
      · intro other
        simpa using within other
      · simp
    have after := (room_run maxPods bound small events ⟨active, [], []⟩ start few).room node
    omega

/-- Two pods are admitted to the last place of a node and created there. -/
theorem overlapping_admissions_exceed :
    (PlacedPods.run [1] ⟨fun _ => 0, [], []⟩ overlapping).active "node" = 2 :=
  overlapping_run 0

end CleanRoom.Analytics
