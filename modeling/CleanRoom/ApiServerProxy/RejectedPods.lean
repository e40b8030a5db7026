import CleanRoom.ApiServerProxy.PodAdmission
import CleanRoom.ApiServerProxy.Proxy

/-!
# The table of rejected pods

A pod that was rejected is kept in a table by its namespace and name, and no pod of that
name is passed on while the name is there. A name is taken out when a watch event shows a
pod of that name as deleted or in a terminal state. A list takes no name out. The lists
and events are taken here in the order in which the proxy handles them.
-/

namespace CleanRoom.ApiServerProxy

open JsonText GoJson

/-- The answer to a list request, or one event of a watch. -/
inductive Observation where
  | list (items : List Json)
  | event (eventType : String) (object : Fields)

inductive Sighting where
  | listed (pod : Fields)
  | watched (eventType : String) (pod : Fields)

def Sighting.pod : Sighting → Fields
  | .listed pod => pod
  | .watched _ pod => pod

def listSightings (items : List Json) : List Sighting :=
  items.filterMap fun item =>
    match item with
    | .object pod => some (.listed pod)
    | _ => none

def Observation.sightings : Observation → List Sighting
  | .list items => listSightings items
  | .event eventType object => [.watched eventType object]

def sight (proxy : Proxy) (rejectedPods : RejectedPods) : Sighting → Bool × List Effect
  | .listed pod => filterPodItem proxy rejectedPods (.object pod)
  | .watched eventType pod => filterPodEvent proxy rejectedPods eventType pod

def RejectedPods.update (rejectedPods : RejectedPods) : Effect → RejectedPods
  | .track key decision => (key, decision) :: rejectedPods.filter fun entry => entry.1 ≠ key
  | .forget key => rejectedPods.filter fun entry => entry.1 ≠ key
  | .rejectPodViaStatus _ _ _ => rejectedPods

def RejectedPods.updateAll (rejectedPods : RejectedPods) (effects : List Effect) : RejectedPods :=
  effects.foldl RejectedPods.update rejectedPods

def tableAfter (proxy : Proxy) (rejectedPods : RejectedPods) (sightings : List Sighting) :
    RejectedPods :=
  sightings.foldl (fun table sighting => table.updateAll (sight proxy table sighting).2)
    rejectedPods

/-- What an observation passes to the kubelet, and the table that it leaves. Each item of a
list finds the table that the items before it have left. -/
def observe (proxy : Proxy) (rejectedPods : RejectedPods) : Observation → List Json × RejectedPods
  | .list items =>
      let tables := fun index => tableAfter proxy rejectedPods (listSightings (items.take index))
      let (filtered, effects) := filterPodItems proxy tables 0 items
      (filtered, rejectedPods.updateAll effects)
  | .event eventType object =>
      let (kept, effects) := filterPodEvent proxy rejectedPods eventType object
      (if kept then [.object object] else [], rejectedPods.updateAll effects)

def observeAll (proxy : Proxy) (observations : List Observation) : RejectedPods :=
  observations.foldl (fun table observation => (observe proxy table observation).2) []

def Sighting.terminal (sighting : Sighting) : Bool := isTerminalPhase (getPodPhase sighting.pod)

def Sighting.brings : Sighting → Bool
  | .listed _ => true
  | .watched eventType object => isPod object && bringsPod eventType

def Sighting.denied (proxy : Proxy) (sighting : Sighting) : Bool :=
  sighting.brings && !sighting.terminal && !(evaluatePodAdmission proxy sighting.pod).allowed

def Sighting.clears : Sighting → Bool
  | .listed _ => false
  | .watched eventType object =>
      isPod object &&
        if bringsPod eventType then isTerminalPhase (getPodPhase object) else eventType = "DELETED"

def Shadowed (proxy : Proxy) (key : String) (sightings : List Sighting) : Prop :=
  ∃ before sighting after, sightings = before ++ sighting :: after ∧
    podKey sighting.pod = key ∧ sighting.denied proxy = true ∧
    ∀ later ∈ after, podKey later.pod = key → later.clears = false

variable {rejectedPods : RejectedPods} {proxy : Proxy} {key : String} {sightings : List Sighting}
  {pod : Fields}

theorem shadowed_nil : ¬ Shadowed proxy key [] := by
  rintro ⟨before, sighting, after, split, _⟩
  cases before <;> cases split

theorem shadowed_concat (last : Sighting) :
    Shadowed proxy key (sightings ++ [last]) ↔
      (podKey last.pod = key ∧ last.denied proxy = true) ∨
        (Shadowed proxy key sightings ∧ ¬ (podKey last.pod = key ∧ last.clears = true)) := by
  constructor
  · rintro ⟨before, sighting, after, split, named, denied, uncleared⟩
    rcases List.eq_nil_or_concat after with rfl | ⟨init, final, rfl⟩
    · obtain ⟨_, same⟩ := List.append_inj' split rfl
      cases same
      exact .inl ⟨named, denied⟩
    · right
      rw [List.concat_eq_append] at split uncleared
      rw [← List.cons_append, ← List.append_assoc] at split
      obtain ⟨same, final⟩ := List.append_inj' split rfl
      cases final
      refine ⟨⟨before, sighting, init, same, named, denied, ?_⟩, ?_⟩
      · exact fun later member => uncleared later (List.mem_append_left _ member)
      · rintro ⟨lastNamed, clears⟩
        rw [uncleared last (List.mem_append_right _ List.mem_cons_self) lastNamed] at clears
        cases clears
  · rintro (⟨named, denied⟩ | ⟨⟨before, sighting, after, rfl, named, denied, uncleared⟩, kept⟩)
    · exact ⟨sightings, last, [], rfl, named, denied, fun later member => by cases member⟩
    · refine ⟨before, sighting, after ++ [last], by simp, named, denied, ?_⟩
      intro later member laterNamed
      rcases List.mem_append.mp member with old | new
      · exact uncleared later old laterNamed
      · rw [List.mem_singleton.mp new] at laterNamed ⊢
        cases clears : last.clears with
        | false => rfl
        | true => exact absurd ⟨laterNamed, clears⟩ kept

theorem lookup_filter_ne (key other : String) :
    ((rejectedPods.filter fun entry => entry.1 ≠ other).lookup key).isSome =
      (decide (key ≠ other) && (rejectedPods.lookup key).isSome) := by
  induction rejectedPods with
  | nil => simp
  | cons entry rejectedPods ih =>
      obtain ⟨name, decision⟩ := entry
      rw [List.filter_cons, List.lookup_cons]
      by_cases here : name = other
      · subst here
        simp only [ne_eq, not_true_eq_false, decide_false, Bool.false_eq_true, if_false, ih]
        by_cases same : key = name
        · simp [same]
        · simp [same, beq_eq_false_iff_ne.mpr same]
      · simp only [ne_eq, here, not_false_eq_true, decide_true, if_true, List.lookup_cons]
        by_cases same : key = name
        · subst same
          simp [here]
        · simpa [beq_eq_false_iff_ne.mpr same] using ih

def Taken (rejectedPods : RejectedPods) (key : String) : Prop :=
  (rejectedPods.lookup key).isSome = true

theorem taken_track (name key : String) (decision : Decision) :
    Taken (rejectedPods.update (.track name decision)) key ↔
      name = key ∨ Taken rejectedPods key := by
  unfold Taken RejectedPods.update
  rw [List.lookup_cons]
  by_cases same : key = name
  · simp [same]
  · rw [beq_eq_false_iff_ne.mpr same]
    dsimp only
    rw [lookup_filter_ne]
    simp [same, Ne.symm same]

theorem taken_forget (name key : String) :
    Taken (rejectedPods.update (.forget name)) key ↔ Taken rejectedPods key ∧ ¬ name = key := by
  unfold Taken RejectedPods.update
  dsimp only
  rw [lookup_filter_ne, Bool.and_eq_true, decide_eq_true_eq, and_comm, ne_comm]

theorem taken_review :
    Taken (rejectedPods.updateAll (reviewPod proxy rejectedPods pod).2) key ↔
      (podKey pod = key ∧ (evaluatePodAdmission proxy pod).allowed = false) ∨
        Taken rejectedPods key := by
  unfold reviewPod
  split
  next taken =>
    constructor
    · exact .inr
    · rintro (⟨rfl, _⟩ | already)
      · exact taken
      · exact already
  · dsimp only
    split
    next denied =>
      have tracked : rejectedPods.updateAll [.track (podKey pod) (evaluatePodAdmission proxy pod),
          rejectEffect pod (evaluatePodAdmission proxy pod)] =
          rejectedPods.update (.track (podKey pod) (evaluatePodAdmission proxy pod)) := rfl
      rw [tracked, taken_track]
      simp [denied]
    next allowed =>
      simp [RejectedPods.updateAll, allowed]

theorem taken_after_sighting (sighting : Sighting) :
    Taken (rejectedPods.updateAll (sight proxy rejectedPods sighting).2) key ↔
      (podKey sighting.pod = key ∧ sighting.denied proxy = true) ∨
        (Taken rejectedPods key ∧ ¬ (podKey sighting.pod = key ∧ sighting.clears = true)) := by
  cases sighting with
  | listed pod =>
      unfold sight filterPodItem
      dsimp only
      split
      next terminal =>
        simp [RejectedPods.updateAll, Sighting.denied, Sighting.clears, Sighting.brings,
          Sighting.terminal, Sighting.pod, terminal]
      next running =>
        rw [taken_review]
        simp [Sighting.denied, Sighting.clears, Sighting.brings, Sighting.terminal, Sighting.pod,
          running]
  | watched eventType pod =>
      unfold sight filterPodEvent
      dsimp only
      split
      next other =>
        simp [RejectedPods.updateAll, Sighting.denied, Sighting.clears, Sighting.brings,
          Sighting.pod, other]
      next kind =>
      split
      next brings =>
        split
        next terminal =>
          have cleared : rejectedPods.updateAll [.forget (podKey pod)] =
              rejectedPods.update (.forget (podKey pod)) := rfl
          rw [cleared, taken_forget]
          simp [Sighting.denied, Sighting.clears, Sighting.brings, Sighting.terminal,
            Sighting.pod, terminal, brings, kind]
        next running =>
          rw [taken_review]
          simp [Sighting.denied, Sighting.clears, Sighting.brings, Sighting.terminal,
            Sighting.pod, running, brings, kind]
      next other =>
        split
        next deleted =>
          have cleared : rejectedPods.updateAll [.forget (podKey pod)] =
              rejectedPods.update (.forget (podKey pod)) := rfl
          rw [cleared, taken_forget]
          subst deleted
          simp [Sighting.denied, Sighting.clears, Sighting.brings, Sighting.pod, other, kind]
        next kept =>
          simp [RejectedPods.updateAll, Sighting.denied, Sighting.clears, Sighting.brings,
            Sighting.pod, other, kept]

theorem taken_iff_shadowed :
    Taken (tableAfter proxy [] sightings) key ↔ Shadowed proxy key sightings := by
  induction sightings using List.reverseRecOn with
  | nil =>
      constructor
      · intro taken
        cases taken
      · exact fun shadowed => absurd shadowed shadowed_nil
  | append_singleton sightings last ih =>
      have unfolded : tableAfter proxy [] (sightings ++ [last]) =
          (tableAfter proxy [] sightings).updateAll
            (sight proxy (tableAfter proxy [] sightings) last).2 := by
        simp [tableAfter]
      rw [unfolded, taken_after_sighting, shadowed_concat, ih]

theorem list_sightings_cons (item : Json) (items : List Json) :
    listSightings (item :: items) = listSightings [item] ++ listSightings items := by
  cases item <;> rfl

theorem table_after_append (proxy : Proxy) (rejectedPods : RejectedPods)
    (first second : List Sighting) :
    tableAfter proxy rejectedPods (first ++ second) =
      tableAfter proxy (tableAfter proxy rejectedPods first) second := by
  simp [tableAfter]

theorem item_updates (proxy : Proxy) (rejectedPods : RejectedPods) (item : Json) :
    rejectedPods.updateAll (filterPodItem proxy rejectedPods item).2 =
      tableAfter proxy rejectedPods (listSightings [item]) := by
  cases item <;> rfl

def Follows (proxy : Proxy) (rejectedPods : RejectedPods) (items : List Json) (index : Nat)
    (tables : Nat → RejectedPods) : Prop :=
  ∀ count, tables (index + count) = tableAfter proxy rejectedPods (listSightings (items.take count))

theorem Follows.next {proxy : Proxy} {rejectedPods : RejectedPods} {item : Json}
    {items : List Json} {index : Nat} {tables : Nat → RejectedPods}
    (follows : Follows proxy rejectedPods (item :: items) index tables) :
    Follows proxy (tableAfter proxy rejectedPods (listSightings [item])) items (index + 1)
      tables := by
  intro count
  rw [← table_after_append, ← list_sightings_cons, ← List.take_succ_cons, ← follows (count + 1)]
  congr 1
  omega

theorem list_updates (proxy : Proxy) (rejectedPods : RejectedPods) (items : List Json)
    (index : Nat) (tables : Nat → RejectedPods)
    (follows : Follows proxy rejectedPods items index tables) :
    rejectedPods.updateAll (filterPodItems proxy tables index items).2 =
      tableAfter proxy rejectedPods (listSightings items) := by
  induction items generalizing rejectedPods index with
  | nil => rfl
  | cons item items ih =>
      have here : tables index = rejectedPods := follows 0
      rw [list_sightings_cons, table_after_append, ← ih _ _ follows.next, ← item_updates]
      simp only [filterPodItems, here, RejectedPods.updateAll, List.foldl_append]

theorem list_passes (proxy : Proxy) (rejectedPods : RejectedPods) (items : List Json)
    (index : Nat) (tables : Nat → RejectedPods)
    (follows : Follows proxy rejectedPods items index tables) (item : Json) :
    item ∈ (filterPodItems proxy tables index items).1 ↔
      ∃ before after, items = before ++ item :: after ∧
        (filterPodItem proxy (tableAfter proxy rejectedPods (listSightings before)) item).1 =
          true := by
  induction items generalizing rejectedPods index with
  | nil =>
      constructor
      · intro member
        cases member
      · rintro ⟨before, after, split, _⟩
        cases before <;> cases split
  | cons first items ih =>
      have here : tables index = rejectedPods := follows 0
      have later := ih (tableAfter proxy rejectedPods (listSightings [first])) (index + 1)
        follows.next
      have step : item ∈ (filterPodItems proxy tables index (first :: items)).1 ↔
          ((filterPodItem proxy rejectedPods first).1 = true ∧ item = first) ∨
            item ∈ (filterPodItems proxy tables (index + 1) items).1 := by
        simp only [filterPodItems, here]
        cases (filterPodItem proxy rejectedPods first).1 <;> simp
      rw [step, later]
      constructor
      · rintro (⟨kept, rfl⟩ | ⟨before, after, rfl, kept⟩)
        · exact ⟨[], items, rfl, kept⟩
        · refine ⟨first :: before, after, rfl, ?_⟩
          rw [list_sightings_cons, table_after_append]
          exact kept
      · rintro ⟨before, after, split, kept⟩
        cases before with
        | nil =>
            cases split
            exact .inl ⟨kept, rfl⟩
        | cons other before =>
            cases split
            rw [list_sightings_cons, table_after_append] at kept
            exact .inr ⟨before, after, rfl, kept⟩

theorem follows_taken (items : List Json) :
    Follows proxy rejectedPods items 0 fun index =>
      tableAfter proxy rejectedPods (listSightings (items.take index)) := by
  intro count
  dsimp only
  rw [Nat.zero_add]

theorem observe_updates (observation : Observation) :
    (observe proxy rejectedPods observation).2 =
      tableAfter proxy rejectedPods observation.sightings := by
  cases observation with
  | list items => exact list_updates proxy rejectedPods items 0 _ (follows_taken _)
  | event eventType object => rfl

theorem observe_all_table (observations : List Observation) :
    observeAll proxy observations =
      tableAfter proxy [] (observations.flatMap Observation.sightings) := by
  induction observations using List.reverseRecOn with
  | nil => rfl
  | append_singleton observations last ih =>
      rw [List.flatMap_append, table_after_append, ← ih, List.flatMap_singleton, ← observe_updates]
      simp [observeAll]

theorem review_passes_iff (allowed : (evaluatePodAdmission proxy pod).allowed = true) :
    (reviewPod proxy rejectedPods pod).1 = true ↔ ¬ Taken rejectedPods (podKey pod) := by
  unfold reviewPod Taken
  split
  next taken => simp [taken]
  next free => simp [free, allowed]

/-- A pod that the admission controller allows is passed on, wherever it is delivered, if
its name is not shadowed there, and only then. The items of a list need not have a kind. -/
theorem allowed_pod_passed_iff (proxy : Proxy) (observations : List Observation) (pod : Fields)
    (running : isTerminalPhase (getPodPhase pod) = false)
    (allowed : (evaluatePodAdmission proxy pod).allowed = true) :
    let table := observeAll proxy observations
    let seen := observations.flatMap Observation.sightings
    (∀ items, .object pod ∈ (observe proxy table (.list items)).1 ↔
      ∃ before after, items = before ++ .object pod :: after ∧
        ¬ Shadowed proxy (podKey pod) (seen ++ listSightings before)) ∧
    (∀ eventType, isPod pod = true → bringsPod eventType = true →
      (.object pod ∈ (observe proxy table (.event eventType pod)).1 ↔
        ¬ Shadowed proxy (podKey pod) seen)) := by
  intro table seen
  have tableIs : table = tableAfter proxy [] seen := observe_all_table observations
  constructor
  · intro items
    apply (list_passes proxy table items 0 _ (follows_taken _) (.object pod)).trans
    apply exists_congr
    intro before
    apply exists_congr
    intro after
    apply and_congr_right
    intro _
    rw [← taken_iff_shadowed, table_after_append, ← tableIs, ← review_passes_iff allowed]
    simp [filterPodItem, running]
  · intro eventType kind brings
    rw [← taken_iff_shadowed, ← tableIs, ← review_passes_iff allowed]
    simp only [observe, filterPodEvent, kind, brings, running]
    cases kept : (reviewPod proxy table pod).1 <;> simp [kept]

def webPod (annotations : Fields) : Fields :=
  [("kind", .string "Pod"),
    ("metadata", .object [("annotations", .object annotations), ("name", .string "web"),
      ("namespace", .string "default")]),
    ("spec", .object [("containers", .array [sampleContainer []])])]

def unsignedPod : Fields := webPod []

def signedPod : Fields := webPod (policyAnnotations samplePolicyText)

def verifyingProxy : Proxy := ⟨policyVerificationController sampleVerifier⟩

theorem signed_pod_allowed : (evaluatePodAdmission verifyingProxy signedPod).allowed = true := by
  refine (admit_allows_iff sampleVerifier (admissionRequest signedPod) samplePolicyText
    samplePolicyBytes rfl sample_policy_decoded).mpr
      ⟨⟨"c2ln", [0x73, 0x69, 0x67], rfl, by decide, rfl⟩, .inr ?_⟩
  exact ⟨samplePolicy, sample_policy_read, (check_pod_iff _ _ _).mp rfl⟩

/-- A pod without a policy is rejected and deleted, and the kubelet sees this in a list
from which the pod is gone. A signed pod of the same name is withheld from then on. -/
theorem replaced_pod_withheld :
    let observations : List Observation := [.list [.object unsignedPod], .list []]
    let table := observeAll verifyingProxy observations
    (evaluatePodAdmission verifyingProxy signedPod).allowed = true ∧
      (observe verifyingProxy table (.list [.object signedPod])).1.isEmpty = true ∧
      (observe verifyingProxy table (.event "ADDED" signedPod)).1.isEmpty = true :=
  ⟨signed_pod_allowed, by decide +kernel, by decide +kernel⟩

/-- After an event for the deletion the signed pod is passed on. -/
theorem watched_deletion_frees_name :
    let observations : List Observation :=
      [.list [.object unsignedPod], .event "DELETED" unsignedPod]
    let table := observeAll verifyingProxy observations
    let seen := observations.flatMap Observation.sightings
    (∀ items, .object signedPod ∈ (observe verifyingProxy table (.list items)).1 ↔
      ∃ before after, items = before ++ .object signedPod :: after ∧
        ¬ Shadowed verifyingProxy (podKey signedPod) (seen ++ listSightings before)) ∧
    (∀ eventType, isPod signedPod = true → bringsPod eventType = true →
      (.object signedPod ∈ (observe verifyingProxy table (.event eventType signedPod)).1 ↔
        ¬ Shadowed verifyingProxy (podKey signedPod) seen)) ∧
    (observe verifyingProxy table (.list [.object signedPod])).1.length = 1 := by
  obtain ⟨listed, watched⟩ := allowed_pod_passed_iff verifyingProxy
    [.list [.object unsignedPod], .event "DELETED" unsignedPod] signedPod rfl signed_pod_allowed
  exact ⟨listed, watched, by decide +kernel⟩

end CleanRoom.ApiServerProxy
