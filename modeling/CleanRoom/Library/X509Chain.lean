import Mathlib.Logic.Relation
import Mathlib.Tactic.Common

/-!
# Certificate chains with a custom trust store

`X509Chain` with custom root trust. A build succeeds if the verification flags mask all
statuses. Their documented meaning is the one assumption: a chain has no untrusted root, no
missing issuer and no invalid signature just when it runs along issuer signatures to a
certificate of the trust store. A loop that adds each certificate to the store after
building its chain then trusts only certificates that lead to the first one.
-/

namespace CleanRoom.X509Chain

inductive ChainStatus where
  | untrustedRoot
  | partialChain
  | notTimeValid
  | notSignatureValid
  | other (name : String)
deriving DecidableEq

structure VerificationFlags where
  allowUnknownCertificateAuthority : Bool
  ignoreNotTimeValid : Bool

def VerificationFlags.mask (flags : VerificationFlags) : ChainStatus → Bool
  | .untrustedRoot => flags.allowUnknownCertificateAuthority
  | .partialChain => flags.allowUnknownCertificateAuthority
  | .notTimeValid => flags.ignoreNotTimeValid
  | .notSignatureValid => false
  | .other _ => false

structure ChainEngine (Cert : Type) where
  signedBy : Cert → Cert → Bool
  status : List Cert → Cert → List ChainStatus

namespace ChainEngine

variable {Cert : Type} (engine : ChainEngine Cert)

def build (flags : VerificationFlags) (store : List Cert) (cert : Cert) : Bool :=
  (engine.status store cert).all flags.mask

/-- Issuer signatures lead from one certificate to the other, through certificates
of the pool. -/
def Linked (pool : List Cert) : Cert → Cert → Prop :=
  Relation.ReflTransGen fun child parent => parent ∈ pool ∧ engine.signedBy child parent = true

def Rooted (store : List Cert) (cert : Cert) : Prop :=
  ChainStatus.untrustedRoot ∉ engine.status store cert ∧
    ChainStatus.partialChain ∉ engine.status store cert

instance (store : List Cert) (cert : Cert) : Decidable (engine.Rooted store cert) :=
  inferInstanceAs (Decidable (_ ∧ _))

def Established (store : List Cert) (cert : Cert) : Prop :=
  engine.Rooted store cert ∧ ChainStatus.notSignatureValid ∉ engine.status store cert

/-- What the statuses are documented to mean. -/
def Documented : Prop :=
  ∀ store cert, engine.Established store cert ↔ ∃ anchor ∈ store, engine.Linked store cert anchor

def BuildsInTurn (flags : VerificationFlags) (turns : List Cert) : Prop :=
  ∀ before cert after, turns = before ++ cert :: after → engine.build flags before cert = true

/-- Every certificate that the leaf leads to, other than the first in turn, has a
rooted chain when its turn comes. -/
def Anchored (turns : List Cert) (leaf : Cert) : Prop :=
  ∀ before cert after, turns = before ++ cert :: after → before ≠ [] →
    engine.Linked turns leaf cert → engine.Rooted before cert

/-- The same, for the certificates between the first and the last in turn. -/
def AnchoredBetween (turns : List Cert) (leaf : Cert) : Prop :=
  ∀ before cert after, turns = before ++ cert :: after → before ≠ [] → after ≠ [] →
    engine.Linked turns leaf cert → engine.Rooted before cert

variable {engine}

theorem established_of_build {flags : VerificationFlags} {store : List Cert} {cert : Cert}
    (built : engine.build flags store cert = true) (rooted : engine.Rooted store cert) :
    engine.Established store cert := by
  refine ⟨rooted, ?_⟩
  intro invalid
  exact absurd (List.all_eq_true.mp built _ invalid) Bool.false_ne_true

theorem Linked.mono {pool larger : List Cert} {child parent : Cert} (subset : pool ⊆ larger)
    (linked : engine.Linked pool child parent) : engine.Linked larger child parent :=
  Relation.ReflTransGen.mono (fun _ _ step => ⟨subset step.1, step.2⟩) _ _ linked

theorem Linked.stays {pool group : List Cert} {child parent : Cert}
    (closed : ∀ cert ∈ group, ∀ issuer ∈ pool, engine.signedBy cert issuer = true → issuer ∈ group)
    (start : child ∈ group) (linked : engine.Linked pool child parent) : parent ∈ group := by
  induction linked with
  | refl => exact start
  | tail _ step ih => exact closed _ ih _ step.1 step.2

theorem AnchoredBetween.anchored {turns : List Cert} {last leaf : Cert}
    (between : engine.AnchoredBetween (turns ++ [last]) leaf) (rooted : engine.Rooted turns last) :
    engine.Anchored (turns ++ [last]) leaf := by
  intro before cert after turn started led
  by_cases ended : after = []
  · rw [ended] at turn
    obtain ⟨sameBefore, sameCert⟩ := List.append_inj' turn rfl
    rw [← sameBefore, ← (List.cons.inj sameCert).1]
    exact rooted
  · exact between before cert after turn started ended led

theorem linked_to_first (documented : engine.Documented) (flags : VerificationFlags)
    (root leaf : Cert) (rest : List Cert) (builds : engine.BuildsInTurn flags (root :: rest))
    (anchored : engine.Anchored (root :: rest) leaf) (before : List Cert) (cert : Cert)
    (after : List Cert) (turn : root :: rest = before ++ cert :: after)
    (led : engine.Linked (root :: rest) leaf cert) : engine.Linked (root :: rest) cert root := by
  -- Induction on the turn: the anchor of a chain has had an earlier one.
  induction size : before.length using Nat.strongRecOn generalizing before cert after with
  | _ size ih =>
      by_cases first : before = []
      · rw [first] at turn
        rw [(List.cons.inj turn).1]
        exact .refl
      · have rooted := anchored before cert after turn first led
        have chained := established_of_build (builds before cert after turn) rooted
        obtain ⟨anchor, trusted, toAnchor⟩ := (documented before cert).mp chained
        have subset : before ⊆ root :: rest := turn ▸ List.subset_append_left _ _
        have onward := toAnchor.mono subset
        obtain ⟨earlier, later, split⟩ := List.append_of_mem trusted
        have shorter : earlier.length < before.length := by
          rw [split, List.length_append, List.length_cons]
          omega
        have anchorTurn : root :: rest = earlier ++ anchor :: (later ++ cert :: after) := by
          rw [turn, split, List.append_assoc, List.cons_append]
        exact onward.trans (ih earlier.length (size ▸ shorter) earlier anchor _ anchorTurn
          (led.trans onward) rfl)

section Direct

variable [DecidableEq Cert]

def direct (signedBy : Cert → Cert → Bool) : ChainEngine Cert where
  signedBy := signedBy
  status store cert :=
    if cert ∈ store ∨ (store.any fun issuer => signedBy cert issuer) = true then []
    else if signedBy cert cert then [.untrustedRoot]
    else [.partialChain]

theorem direct_documented (signedBy : Cert → Cert → Bool) : (direct signedBy).Documented := by
  intro store cert
  by_cases known : cert ∈ store ∨ (store.any fun issuer => signedBy cert issuer) = true
  · have clean : (direct signedBy).status store cert = [] := if_pos known
    refine iff_of_true (by simp [Established, Rooted, clean]) ?_
    rcases known with member | signed
    · exact ⟨cert, member, .refl⟩
    · obtain ⟨issuer, member, byIssuer⟩ := List.any_eq_true.mp signed
      exact ⟨issuer, member, .single ⟨member, byIssuer⟩⟩
  · apply iff_of_false
    · simp only [Established, Rooted, direct, if_neg known]
      cases self : signedBy cert cert <;> simp
    · rintro ⟨anchor, member, linked⟩
      rcases Relation.ReflTransGen.cases_head linked with same | ⟨issuer, step, _⟩
      · exact known (Or.inl (same ▸ member))
      · exact known (Or.inr (List.any_eq_true.mpr ⟨issuer, step.1, step.2⟩))

end Direct

end ChainEngine

end CleanRoom.X509Chain
