import CleanRoom.Governance.DelegateIsolation

/-!
# The values of a clean room policy

The policy of a contract and the policy of a delegate are changed by actions that add and
remove values of claims. A claim is kept as a list of values. A list of values that begins
with a boolean is taken for all of the claim: adding it replaces the values that are there,
repetitions and all, and removing it removes the claim. An empty list is kept as it is given.
-/

namespace CleanRoom.Governance

open JavaScript Throwing

structure Mention where
  key : String
  adding : Bool
  items : List JsValue

namespace Mention

def lists (mention : Mention) (value : JsValue) : Bool :=
  mention.items.any fun item => item.sameValueZero value

def concerns (mention : Mention) (value : JsValue) : Bool :=
  startsWithBoolean mention.items || mention.lists value

def adds (mention : Mention) (value : JsValue) : Bool := mention.adding && mention.lists value

end Mention

def lastAdds (mentions : List Mention) (key : String) (value : JsValue) : Bool :=
  match (mentions.filter fun mention =>
    decide (mention.key = key) && mention.concerns value).getLast? with
  | some mention => mention.adds value
  | none => false

section Rows

variable {mentions : List Mention} {rows after : Table JsValue} {mention : Mention} {host : CcfHost}
  {key : String} {claims : JsValue} {value : JsValue}

theorem last_adds_append :
    lastAdds (mentions ++ [mention]) key value =
      if mention.key = key ∧ mention.concerns value = true then mention.adds value
      else lastAdds mentions key value := by
  unfold lastAdds
  rw [List.filter_append, List.filter_singleton]
  by_cases here : mention.key = key ∧ mention.concerns value = true
  · simp [here]
  · have dropped : (decide (mention.key = key) && mention.concerns value) = false := by
      rw [Bool.eq_false_iff]
      simpa using here
    rw [dropped, if_neg here]
    simp

/-- The value equals itself, as every value but an array and an object does. -/
def Comparable (value : JsValue) : Prop := value.sameValueZero value = true

theorem lists_iff (mention : Mention) (comparable : Comparable value) :
    mention.lists value = true ↔ value ∈ mention.items := by
  unfold Mention.lists
  rw [List.any_eq_true]
  constructor
  · rintro ⟨item, member, same⟩
    rw [← JsValue.same_value_eq item value same]
    exact member
  · intro member
    exact ⟨value, member, comparable⟩

/-- The values are such that they can be compared, and what is added is neither an empty list
nor a list for all of a claim that repeats a value. For a claim that is absent the last
condition is more than is needed. -/
structure WellGiven (mention : Mention) : Prop where
  comparable : ∀ item ∈ mention.items, Comparable item
  present : mention.adding = true → mention.items ≠ []
  once : mention.adding = true → startsWithBoolean mention.items = true → mention.items.Nodup

structure HeldAs (mentions : List Mention) (key : String) (items : List JsValue) : Prop where
  notEmpty : items ≠ []
  nodup : items.Nodup
  comparable : ∀ item ∈ items, Comparable item
  exactly : ∀ value, Comparable value → (value ∈ items ↔ lastAdds mentions key value = true)

/-- Every claim is kept as a list without repetitions of the values whose last mention adds
them, and only a claim with such values is kept. -/
def SetLike (mentions : List Mention) (rows : Table JsValue) : Prop :=
  ∀ key, (∃ items, rows.lookup key = some (.array items) ∧ HeldAs mentions key items) ∨
    rows.lookup key = none ∧ ∀ value, Comparable value → lastAdds mentions key value = false

theorem set_like_empty : SetLike [] ∅ := fun _ => .inr ⟨rfl, fun _ _ => rfl⟩

theorem add_missing_nodup (items added : List JsValue) (nodup : items.Nodup)
    (comparable : ∀ item ∈ added, Comparable item) : (addMissing items added).Nodup := by
  unfold addMissing
  induction added generalizing items with
  | nil => exact nodup
  | cons item added ih =>
      obtain ⟨here, later⟩ := List.forall_mem_cons.mp comparable
      rw [List.foldl_cons]
      apply ih _ _ later
      split
      · exact nodup
      next absent =>
        have fresh : item ∉ items := by
          intro member
          exact absent (List.any_eq_true.mpr ⟨item, member, here⟩)
        exact List.nodup_append.mpr ⟨nodup, List.nodup_singleton item, by
          rintro old oldMember _ (_ | _) rfl
          · exact fresh oldMember
          · contradiction⟩

structure Without (items : List JsValue) (removed : JsValue → Prop) (rest : List JsValue) :
    Prop where
  nodup : rest.Nodup
  exactly : ∀ value, value ∈ rest ↔ value ∈ items ∧ ¬removed value

theorem remove_item_without (items rest : List JsValue) (item : JsValue)
    (nodup : items.Nodup) (removed : removeItem host items item = .ok rest) :
    Without items (fun value => value = item) rest := by
  unfold removeItem at removed
  split at removed
  next present =>
    cases removed
    obtain ⟨other, member, equal⟩ := List.any_eq_true.mp present
    obtain ⟨found, front, back, _, same, split, erased⟩ :=
      List.exists_of_eraseP (p := fun other => other.sameValueZero item) member equal
    cases JsValue.same_value_eq found item same
    rw [erased]
    rw [split] at nodup ⊢
    have apart := List.nodup_middle.mp nodup
    obtain ⟨fresh, rest⟩ := List.nodup_cons.mp apart
    refine ⟨rest, ?_⟩
    intro value
    rw [List.mem_append, List.mem_append, List.mem_cons]
    constructor
    · rintro (inFront | inBack)
      · exact ⟨.inl inFront, fun same => fresh (same ▸ List.mem_append_left _ inFront)⟩
      · exact ⟨.inr (.inr inBack), fun same => fresh (same ▸ List.mem_append_right _ inBack)⟩
    · rintro ⟨inFront | same | inBack, different⟩
      · exact .inl inFront
      · exact absurd same different
      · exact .inr inBack
  · cases removed

theorem remove_items_without (items removed rest : List JsValue)
    (nodup : items.Nodup) (done : removed.foldlM (removeItem host) items = .ok rest) :
    Without items (fun value => value ∈ removed) rest := by
  induction removed generalizing items with
  | nil =>
      cases done
      exact ⟨nodup, fun value => by simp⟩
  | cons item removed ih =>
      rw [List.foldlM_cons] at done
      obtain ⟨middle, erased, more⟩ := of_bind done
      have first := remove_item_without items middle item nodup erased
      have later := ih middle first.nodup more
      refine ⟨later.nodup, ?_⟩
      intro value
      rw [later.exactly, first.exactly, List.mem_cons]
      tauto

theorem set_like_other (sets : SetLike mentions rows)
    (same : ∀ key, key ≠ mention.key → after.lookup key = rows.lookup key)
    (own : (∃ items, after.lookup mention.key = some (.array items) ∧
        HeldAs (mentions ++ [mention]) mention.key items) ∨
      after.lookup mention.key = none ∧ ∀ value, Comparable value →
        lastAdds (mentions ++ [mention]) mention.key value = false) :
    SetLike (mentions ++ [mention]) after := by
  intro key
  by_cases here : key = mention.key
  · subst here
    exact own
  · have unconcerned : ∀ value, lastAdds (mentions ++ [mention]) key value =
        lastAdds mentions key value := by
      intro value
      rw [last_adds_append, if_neg fun both => here both.1.symm]
    rw [same key here]
    rcases sets key with ⟨items, found, held⟩ | ⟨missing, none⟩
    · refine .inl ⟨items, found, held.notEmpty, held.nodup, held.comparable, ?_⟩
      intro value comparable
      rw [unconcerned]
      exact held.exactly value comparable
    · refine .inr ⟨missing, ?_⟩
      intro value comparable
      rw [unconcerned]
      exact none value comparable

theorem add_missing_held (items : List JsValue)
    (adding : mention.adding = true) (given : WellGiven mention) (nodup : items.Nodup)
    (comparable : ∀ item ∈ items, Comparable item)
    (before : ∀ value, Comparable value → mention.lists value = false →
      ((value ∈ items ↔ mention.concerns value = false ∧
        lastAdds mentions mention.key value = true))) :
    HeldAs (mentions ++ [mention]) mention.key (addMissing items mention.items) where
  notEmpty := by
    intro empty
    obtain ⟨first, rest, split⟩ := List.exists_cons_of_ne_nil (given.present adding)
    have member := (mem_add_missing items mention.items first).mpr
      (.inr (split ▸ List.mem_cons_self))
    rw [empty] at member
    cases member
  nodup := add_missing_nodup items mention.items nodup given.comparable
  comparable := by
    intro item member
    rcases (mem_add_missing _ _ _).mp member with old | new
    · exact comparable item old
    · exact given.comparable item new
  exactly := by
    intro value isComparable
    rw [mem_add_missing, last_adds_append]
    cases listed : mention.lists value with
    | true =>
        have concerned : mention.concerns value = true := by simp [Mention.concerns, listed]
        rw [if_pos ⟨rfl, concerned⟩]
        simp only [Mention.adds, adding, listed, Bool.and_self, iff_true]
        exact .inr ((lists_iff mention isComparable).mp listed)
    | false =>
        have absent : value ∉ mention.items := by
          intro member
          rw [(lists_iff mention isComparable).mpr member] at listed
          cases listed
        rw [before value isComparable listed]
        cases concerned : mention.concerns value with
        | true => simp [Mention.adds, listed, absent]
        | false => simp [absent]

theorem add_policy_claim_sets (sets : SetLike mentions rows)
    (given : WellGiven ⟨key, true, claimItems (claims.field key)⟩)
    (added : addPolicyClaim claims rows key = .ok after) :
    SetLike (mentions ++ [⟨key, true, claimItems (claims.field key)⟩]) after := by
  unfold addPolicyClaim at added
  generalize claimItems (claims.field key) = items at given added ⊢
  apply set_like_other sets
  · intro other different
    split at added
    · cases added
      exact AList.lookup_insert_ne different
    · obtain ⟨old, _, written⟩ := of_bind added
      cases written
      exact AList.lookup_insert_ne different
  · left
    rcases sets key with ⟨old, found, held⟩ | ⟨missing, none⟩
    · rw [found] at added
      cases boolean : startsWithBoolean items with
      | true =>
          simp only [storedItems, Bind.bind, Except.bind, boolean, if_true] at added
          cases added
          refine ⟨items, AList.lookup_insert _, given.present rfl, given.once rfl boolean,
            given.comparable, ?_⟩
          intro value comparable
          rw [last_adds_append, if_pos ⟨rfl, by simp [Mention.concerns, boolean]⟩]
          simp only [Mention.adds, Bool.true_and]
          exact (lists_iff ⟨key, true, items⟩ comparable).symm
      | false =>
          simp only [storedItems, Bind.bind, Except.bind, boolean] at added
          cases added
          refine ⟨_, AList.lookup_insert _, ?_⟩
          apply add_missing_held old rfl given held.nodup
            held.comparable
          intro value comparable unlisted
          rw [held.exactly value comparable]
          simp [Mention.concerns, boolean, unlisted]
    · rw [missing] at added
      cases added
      refine ⟨_, AList.lookup_insert _, ?_⟩
      apply add_missing_held [] rfl given List.nodup_nil nofun
      intro value comparable _
      simp [none value comparable]

theorem remove_policy_claim_sets (sets : SetLike mentions rows)
    (removed : removePolicyClaim host claims rows key = .ok after) :
    SetLike (mentions ++ [⟨key, false, claimItems (claims.field key)⟩]) after := by
  unfold removePolicyClaim at removed
  generalize claimItems (claims.field key) = items at removed ⊢
  rcases sets key with ⟨old, found, held⟩ | ⟨missing, _⟩
  · rw [found] at removed
    dsimp only at removed
    apply set_like_other sets
    · intro other different
      split at removed
      · cases removed
        exact AList.lookup_erase_ne different
      · obtain ⟨_, _, rest⟩ := of_bind removed
        obtain ⟨_, _, written⟩ := of_bind rest
        split at written
        · cases written
          exact AList.lookup_erase_ne different
        · cases written
          exact AList.lookup_insert_ne different
    · split at removed
      next boolean =>
        cases removed
        refine .inr ⟨AList.lookup_erase _ _, ?_⟩
        intro value _
        rw [last_adds_append, if_pos ⟨rfl, by simp [Mention.concerns, boolean]⟩]
        rfl
      next scalar =>
        obtain ⟨_, same, more⟩ := of_bind removed
        cases same
        obtain ⟨rest, done, written⟩ := of_bind more
        have without := remove_items_without old items rest held.nodup done
        have exactly : ∀ value, Comparable value → (value ∈ rest ↔
            lastAdds (mentions ++ [⟨key, false, items⟩]) key value = true) := by
          intro value comparable
          have listed := lists_iff ⟨key, false, items⟩ comparable
          have concerned : Mention.concerns ⟨key, false, items⟩ value =
              Mention.lists ⟨key, false, items⟩ value := by
            simp [Mention.concerns, Bool.eq_false_iff.mpr scalar]
          rw [without.exactly, held.exactly value comparable, last_adds_append, concerned, ← listed]
          cases Mention.lists ⟨key, false, items⟩ value <;> simp [Mention.adds]
        split at written
        next none =>
          cases written
          refine .inr ⟨AList.lookup_erase _ _, ?_⟩
          intro value comparable
          rw [← Bool.not_eq_true, ← exactly value comparable, List.eq_nil_of_length_eq_zero none]
          exact List.not_mem_nil
        next some =>
          cases written
          refine .inl ⟨rest, AList.lookup_insert _, ?_, without.nodup, ?_, exactly⟩
          · exact List.length_eq_zero_iff.not.mp some
          · intro item member
            exact held.comparable item ((without.exactly item).mp member).1
  · rw [missing] at removed
    cases removed

def claimMentions (adding : Bool) (claims : JsValue) : List Mention :=
  claims.keys.map fun key => ⟨key, adding, claimItems (claims.field key)⟩

end Rows

section Folds

variable {State : Type} (rowsOf : State → Table JsValue)

theorem claims_loop_sets (step : State → String → Except String State) (mention : String → Mention)
    (single : ∀ mentions state key after, SetLike mentions (rowsOf state) →
      WellGiven (mention key) → step state key = .ok after →
      SetLike (mentions ++ [mention key]) (rowsOf after))
    (keys : List String) (mentions : List Mention) (state after : State)
    (sets : SetLike mentions (rowsOf state)) (given : ∀ key ∈ keys, WellGiven (mention key))
    (done : keys.foldlM step state = .ok after) :
    SetLike (mentions ++ keys.map mention) (rowsOf after) := by
  induction keys generalizing mentions state with
  | nil =>
      cases done
      simpa using sets
  | cons key keys ih =>
      rw [List.foldlM_cons] at done
      obtain ⟨next, stepped, more⟩ := of_bind done
      obtain ⟨here, later⟩ := List.forall_mem_cons.mp given
      have continued := ih _ next (single mentions state key next sets here stepped) later more
      rwa [List.append_assoc, List.singleton_append] at continued

theorem actions_set_like {Action : Type} (perform : State → Action → Except String State)
    (mentionsOf : Action → List Mention)
    (single : ∀ mentions state action after, SetLike mentions (rowsOf state) →
      (∀ mention ∈ mentionsOf action, WellGiven mention) → perform state action = .ok after →
      SetLike (mentions ++ mentionsOf action) (rowsOf after)) (actions : List Action)
    (mentions : List Mention) (state after : State) (sets : SetLike mentions (rowsOf state))
    (given : ∀ mention ∈ actions.flatMap mentionsOf, WellGiven mention)
    (done : actions.foldlM perform state = .ok after) :
    SetLike (mentions ++ actions.flatMap mentionsOf) (rowsOf after) := by
  induction actions generalizing mentions state with
  | nil =>
      cases done
      simpa using sets
  | cons action actions ih =>
      rw [List.foldlM_cons] at done
      obtain ⟨next, stepped, more⟩ := of_bind done
      rw [List.flatMap_cons] at given ⊢
      have here := single mentions state action next sets
        (fun mention member => given mention (List.mem_append_left _ member)) stepped
      have continued := ih _ next here
        (fun mention member => given mention (List.mem_append_right _ member)) more
      rwa [List.append_assoc] at continued

end Folds

variable {ledger after : Ledger} {claims : JsValue} {mentions : List Mention} {host : CcfHost}
  {keys : List String} {table : TableName} {key : String}

theorem object_keys_ok (listed : objectKeys claims = .ok keys) : keys = claims.keys := by
  unfold objectKeys at listed
  split at listed <;> cases listed
  rfl

theorem add_claim_rows (added : addClaim table claims ledger key = .ok after) :
    addPolicyClaim claims (ledger.gov table) key = .ok (after.gov table) ∧
      ∀ other, other ≠ table → after.gov other = ledger.gov other := by
  unfold addClaim Ledger.kvGet at added
  unfold addPolicyClaim
  cases found : (ledger.gov table).lookup key with
  | none =>
      rw [found] at added
      cases added
      exact ⟨by simp [Ledger.kvSet, pure, Except.pure],
        fun other different => Ledger.set_table_other _ _ _ _ different⟩
  | some stored =>
      rw [found] at added
      obtain ⟨items, read, written⟩ := of_bind added
      cases written
      refine ⟨?_, fun other different => Ledger.set_table_other _ _ _ _ different⟩
      simp [Ledger.kvSet, read, Bind.bind, Except.bind, pure, Except.pure]

theorem remove_claim_rows (owner : String)
    (removed : removeClaim host owner table claims ledger key = .ok after) :
    removePolicyClaim host claims (ledger.gov table) key = .ok (after.gov table) ∧
      ∀ other, other ≠ table → after.gov other = ledger.gov other := by
  unfold removeClaim Ledger.kvGet at removed
  unfold removePolicyClaim
  cases found : (ledger.gov table).lookup key with
  | none =>
      rw [found] at removed
      cases removed
  | some stored =>
      rw [found] at removed
      dsimp only at removed ⊢
      split at removed
      next boolean =>
        cases removed
        rw [if_pos boolean]
        exact ⟨by simp [Ledger.kvDelete, pure, Except.pure],
          fun other different => Ledger.set_table_other _ _ _ _ different⟩
      next scalar =>
        rw [if_neg scalar]
        obtain ⟨items, read, more⟩ := of_bind removed
        obtain ⟨rest, done, written⟩ := of_bind more
        rw [read]
        simp only [Bind.bind, Except.bind, done]
        split at written
        next none =>
          cases written
          rw [if_pos none]
          exact ⟨by simp [Ledger.kvDelete, pure, Except.pure],
            fun other different => Ledger.set_table_other _ _ _ _ different⟩
        next some =>
          cases written
          rw [if_neg some]
          exact ⟨by simp [Ledger.kvSet, pure, Except.pure],
            fun other different => Ledger.set_table_other _ _ _ _ different⟩

/-- What an action says about the policy of a contract, nothing if it is for another one. -/
def votedMentions (host : CcfHost) (contractId : String) (args : JsValue) : List Mention :=
  if host.text (args.field "contractId") = contractId then
    claimMentions ((args.field "type").isString "add") (args.field "claims")
  else []

theorem claims_loop_other (table other : TableName) (different : other ≠ table)
    (step : Ledger → String → Except String Ledger)
    (frame : ∀ ledger key after, step ledger key = .ok after →
      ∀ another, another ≠ table → after.gov another = ledger.gov another)
    (done : keys.foldlM step ledger = .ok after) :
    after.gov other = ledger.gov other := by
  apply ensures_foldlM (fun state => state.gov other = ledger.gov other) step keys ledger rfl
    _ after done
  intro state key _ same next stepped
  rw [frame state key next stepped other different]
  exact same

theorem apply_policy_set_like (contractId : String) (args : JsValue)
    (sets : SetLike mentions (ledger.gov (.cleanRoomPolicy contractId)))
    (given : ∀ mention ∈ votedMentions host contractId args, WellGiven mention)
    (applied : applySetCleanRoomPolicy host args ledger = .ok after) :
    SetLike (mentions ++ votedMentions host contractId args)
      (after.gov (.cleanRoomPolicy contractId)) := by
  unfold votedMentions at given ⊢
  obtain ⟨named, readId, typed⟩ := of_bind applied
  obtain ⟨type, readType, claimed⟩ := of_bind typed
  obtain ⟨claims, readClaims, changed⟩ := of_bind claimed
  rw [JsValue.get_ok _ _ _ readId, JsValue.get_ok _ _ _ readType,
    JsValue.get_ok _ _ _ readClaims] at changed
  generalize args.field "claims" = claims at given changed ⊢
  by_cases own : host.text (args.field "contractId") = contractId
  · rw [if_pos own] at given ⊢
    rw [own] at changed
    split at changed
    next adding =>
      obtain ⟨keys, listed, looped⟩ := of_bind changed
      cases object_keys_ok listed
      rw [adding] at given ⊢
      apply claims_loop_sets (fun state : Ledger => state.gov (.cleanRoomPolicy contractId)) _
        (fun key => ⟨key, true, claimItems (claims.field key)⟩) _ claims.keys mentions ledger after
        sets _ looped
      · intro earlier state key next set wellGiven stepped
        exact add_policy_claim_sets set wellGiven (add_claim_rows stepped).1
      · intro key member
        exact given _ (List.mem_map_of_mem member)
    next notAdding =>
      split at changed
      · obtain ⟨keys, listed, looped⟩ := of_bind changed
        cases object_keys_ok listed
        rw [Bool.eq_false_iff.mpr notAdding] at given ⊢
        apply claims_loop_sets (fun state : Ledger => state.gov (.cleanRoomPolicy contractId)) _
          (fun key => ⟨key, false, claimItems (claims.field key)⟩) _ claims.keys mentions ledger
          after sets _ looped
        · intro earlier state key next set _ stepped
          exact remove_policy_claim_sets set (remove_claim_rows _ stepped).1
        · intro key member
          exact given _ (List.mem_map_of_mem member)
      · cases changed
  · rw [if_neg own, List.append_nil]
    have other : TableName.cleanRoomPolicy contractId ≠
        .cleanRoomPolicy (host.text (args.field "contractId")) := by
      intro same
      exact own (TableName.cleanRoomPolicy.inj same).symm
    have same : after.gov (.cleanRoomPolicy contractId) =
        ledger.gov (.cleanRoomPolicy contractId) := by
      split at changed
      · obtain ⟨keys, _, looped⟩ := of_bind changed
        exact claims_loop_other _ _ other _ (fun state key next stepped =>
          (add_claim_rows stepped).2) looped
      · split at changed
        · obtain ⟨keys, _, looped⟩ := of_bind changed
          exact claims_loop_other _ _ other _ (fun state key next stepped =>
            (remove_claim_rows _ stepped).2) looped
        · cases changed
    rw [same]
    exact sets

def delegateMentions (args : DelegatePolicyData) : List Mention :=
  claimMentions (args.delegateType.isString "add") args.claims

theorem update_policy_set_like (rows : Table JsValue)
    (args : DelegatePolicyData) (after : Table JsValue) (sets : SetLike mentions rows)
    (given : ∀ mention ∈ delegateMentions args, WellGiven mention)
    (updated : updatePolicy host args rows = .ok after) :
    SetLike (mentions ++ delegateMentions args) after := by
  unfold delegateMentions at given ⊢
  obtain ⟨_, _, changed⟩ := of_bind updated
  split at changed
  next adding =>
    obtain ⟨keys, listed, looped⟩ := of_bind changed
    cases object_keys_ok listed
    rw [adding] at given ⊢
    apply claims_loop_sets id _ (fun key => ⟨key, true, claimItems (args.claims.field key)⟩)
      _ args.claims.keys mentions rows after sets _ looped
    · intro earlier state key next set wellGiven stepped
      exact add_policy_claim_sets set wellGiven stepped
    · intro key member
      exact given _ (List.mem_map_of_mem member)
  next notAdding =>
    obtain ⟨keys, listed, looped⟩ := of_bind changed
    cases object_keys_ok listed
    rw [Bool.eq_false_iff.mpr notAdding] at given ⊢
    apply claims_loop_sets id _ (fun key => ⟨key, false, claimItems (args.claims.field key)⟩)
      _ args.claims.keys mentions rows after sets _ looped
    · intro earlier state key next set _ stepped
      exact remove_policy_claim_sets set stepped
    · intro key member
      exact given _ (List.mem_map_of_mem member)

/-- The policy that accepted actions make of an empty one: for a contract, whose actions may
come between those for others, and for a delegate. -/
theorem policy_values_set_like (host : CcfHost) :
    (∀ (contractId : String) (actions : List JsValue) (start after : Ledger),
      start.gov (.cleanRoomPolicy contractId) = ∅ →
      actions.foldlM (fun ledger args => applySetCleanRoomPolicy host args ledger) start =
        .ok after →
      (∀ mention ∈ actions.flatMap (votedMentions host contractId), WellGiven mention) →
      SetLike (actions.flatMap (votedMentions host contractId))
        (after.gov (.cleanRoomPolicy contractId))) ∧
    ∀ (triple : DelegateTriple) (actions : List DelegatePolicyData) (start after : AppStore),
      triple.policy start = ∅ →
      actions.foldlM (fun store args => triple.setPolicy host args store) start = .ok after →
      (∀ mention ∈ actions.flatMap delegateMentions, WellGiven mention) →
      SetLike (actions.flatMap delegateMentions) (triple.policy after) := by
  constructor
  · intro contractId actions start after empty performed given
    have initial : SetLike [] (start.gov (.cleanRoomPolicy contractId)) := by
      rw [empty]
      exact set_like_empty
    apply actions_set_like (fun ledger : Ledger => ledger.gov (.cleanRoomPolicy contractId)) _
      (votedMentions host contractId) _ actions [] start after initial given performed
    intro mentions ledger args next sets wellGiven applied
    exact apply_policy_set_like contractId args sets wellGiven applied
  · intro triple actions start after empty performed given
    have initial : SetLike [] (triple.policy start) := by
      rw [empty]
      exact set_like_empty
    apply actions_set_like triple.policy _ delegateMentions _ actions [] start after initial given
      performed
    intro mentions store args next sets wellGiven applied
    exact update_policy_set_like _ args _ sets wellGiven
      (set_policy_own triple host args store next applied)

def policyAction (type : String) (claims : List (String × JsValue)) : JsValue :=
  .object [("contractId", .string "c1"), ("type", .string type), ("claims", .object claims)]

def emptyPolicies : Ledger where
  members := ∅
  proposals := ∅
  gov _ := ∅
  contracts := ∅
  documents := ∅
  seqno := 0

def policyAfter (actions : List JsValue) : Except String Ledger :=
  actions.foldlM (fun ledger args => applySetCleanRoomPolicy idleHost args ledger) emptyPolicies

/-- `true` has been added and has never been removed, and it is not in the policy. -/
theorem added_boolean_replaced :
    (policyAfter [policyAction "add" [("x-ms-sevsnpvm-is-debuggable", .bool true)],
      policyAction "add" [("x-ms-sevsnpvm-is-debuggable", .bool false)]]).map
        (fun ledger => (ledger.gov (.cleanRoomPolicy "c1")).lookup
          "x-ms-sevsnpvm-is-debuggable") = .ok (some (.array [.bool false])) := rfl

def hostDataActions : List JsValue :=
  [policyAction "add" [("x-ms-sevsnpvm-hostdata", .array [.string "01", .string "02",
      .string "01"])],
    policyAction "remove" [("x-ms-sevsnpvm-hostdata", .string "01")]]

theorem host_data_set_like :
    ∃ after, policyAfter hostDataActions = .ok after ∧
      SetLike (hostDataActions.flatMap (votedMentions idleHost "c1"))
        (after.gov (.cleanRoomPolicy "c1")) := by
  refine ⟨_, rfl, (policy_values_set_like idleHost).1 "c1" hostDataActions emptyPolicies _ rfl rfl
    ?_⟩
  intro mention member
  rcases List.mem_cons.mp member with rfl | later
  · refine ⟨?_, fun _ => nofun, fun _ => nofun⟩
    intro item member
    have listed : item ∈ [JsValue.string "01", .string "02", .string "01"] := member
    simp only [List.mem_cons, List.not_mem_nil, or_false] at listed
    rcases listed with rfl | rfl | rfl <;> rfl
  · cases List.mem_singleton.mp later
    refine ⟨?_, nofun, nofun⟩
    intro item listed
    cases List.mem_singleton.mp listed
    rfl

end CleanRoom.Governance
