import CleanRoom.Governance.Resolve
import Mathlib.Algebra.BigOperators.Group.List.Basic
import Mathlib.Algebra.Ring.Nat

/-!
# Ids in open proposals

The scan that `resolve` makes for an id, as a plain number: how many actions of
open proposals name it. The scan throws only where a recorded action has no
arguments to read, and validation refuses such an action.
-/

namespace CleanRoom.Governance

open JavaScript Throwing

variable (kind : ItemKind) (itemId : String)

def namesId (action : ProposedAction) : Bool :=
  action.name == kind.action && (action.args.field kind.idKey).isString itemId

def openItems (proposal : Proposal) : Nat :=
  if proposal.state = .opened then proposal.actions.countP (namesId kind itemId) else 0

def openItemTotal (rows : List (Sigma fun _ : String => Proposal)) : Nat :=
  (rows.map fun row => openItems kind itemId row.2).sum

def Readable (actions : List ProposedAction) : Prop :=
  ∀ action ∈ actions, action.name = kind.action →
    ∃ value, action.args.get kind.idKey = .ok value

theorem same_value_zero_string (value : JsValue) :
    value.sameValueZero (.string itemId) = value.isString itemId := by
  cases value <;> rfl

theorem open_item_count_eq (proposal : Proposal) (readable : Readable kind proposal.actions) :
    openItemCount kind (.string itemId) proposal = .ok (openItems kind itemId proposal) := by
  have counted : countM (namesItem kind (.string itemId)) proposal.actions =
      .ok (proposal.actions.countP (namesId kind itemId)) := by
    apply countM_of_ok
    intro action member
    by_cases same : action.name = kind.action
    · obtain ⟨value, read⟩ := readable action member same
      have plain := JsValue.get_ok _ _ _ read
      simp [namesItem, namesId, same, read, ← plain, same_value_zero_string, Bind.bind,
        Except.bind, pure, Except.pure]
    · simp [namesItem, namesId, same]
  rw [openItemCount, counted]
  rfl

theorem proposal_count_eq (rows : List (Sigma fun _ : String => Proposal))
    (readable : ∀ row ∈ rows, Readable kind row.2.actions) :
    proposalCount kind (.string itemId) rows = .ok (openItemTotal kind itemId rows) := by
  induction rows with
  | nil => rfl
  | cons row rest ih =>
      have here := open_item_count_eq kind itemId row.2 (readable row (by simp))
      have later := ih (by
        intro other member
        exact readable other (List.mem_cons_of_mem _ member))
      rw [proposalCount, here, later]
      rfl

theorem item_exists_eq (ledger : Ledger)
    (readable : ∀ row ∈ ledger.proposals.entries, Readable kind row.2.actions) :
    itemProposalAlreadyExists kind ledger (.string itemId) =
      .ok (ledger.kvHas (.fixed kind.acceptedTable) itemId ||
        decide (1 < openItemTotal kind itemId ledger.proposals.entries)) := by
  simp only [itemProposalAlreadyExists, strToBuf, proposal_count_eq kind itemId _ readable]
  cases present : ledger.kvHas (.fixed kind.acceptedTable) itemId <;>
    simp [Bind.bind, Except.bind, pure, Except.pure, present]

theorem open_item_total_single (proposals : Table Proposal) (proposalId : String)
    (proposal : Proposal) (recorded : proposals.lookup proposalId = some proposal)
    (alone : ∀ otherId other, proposals.lookup otherId = some other → otherId ≠ proposalId →
      openItems kind itemId other = 0) :
    openItemTotal kind itemId proposals.entries = openItems kind itemId proposal := by
  have entry := entry_of_lookup proposals proposalId proposal recorded
  obtain ⟨before, after, split⟩ := List.append_of_mem entry
  have distinct : (proposals.entries.map Sigma.fst).Nodup := proposals.nodupKeys
  have silent : ∀ row ∈ proposals.entries, row.1 ≠ proposalId →
      openItems kind itemId row.2 = 0 := by
    intro row member different
    exact alone row.1 row.2 (lookup_of_entry proposals row member) different
  rw [split] at distinct silent
  simp only [List.map_append, List.map_cons, List.nodup_append, List.nodup_cons] at distinct
  have beforeZero : (before.map fun row => openItems kind itemId row.2).sum = 0 := by
    apply List.sum_eq_zero
    intro count member
    obtain ⟨row, rowMember, rfl⟩ := List.mem_map.mp member
    apply silent row (by simp [rowMember])
    exact distinct.2.2 row.1 (List.mem_map_of_mem rowMember) proposalId (by simp)
  have afterZero : (after.map fun row => openItems kind itemId row.2).sum = 0 := by
    apply List.sum_eq_zero
    intro count member
    obtain ⟨row, rowMember, rfl⟩ := List.mem_map.mp member
    apply silent row (by simp [rowMember])
    intro same
    exact distinct.2.1.1 (same ▸ List.mem_map_of_mem rowMember)
  rw [openItemTotal, split]
  simp [beforeZero, afterZero]

end CleanRoom.Governance
