import CleanRoom.Recovery.AkvPolicyStore

/-!
# Checks and names of the policy store

A host whose serializer reads back what it writes, the join policies that pass the check of
the store, and the secret names, whose first letters tell the kinds of secrets apart.
-/

namespace CleanRoom.Recovery

open Attestation ByteFile Encodings Hex
open Interaction Throwing

structure Serializes (host : PolicyHost) : Prop where
  policy : ∀ policy, host.deserializePolicy (host.serializePolicy policy) = .ok (some policy)
  signedPolicy : ∀ signedPolicy,
    host.deserializeSignedPolicy (host.serializeSignedPolicy signedPolicy) =
      .ok (some signedPolicy)

variable {host : PolicyHost}

theorem store_error_eq_ok {Value : Type} (computation : Except String Value) (value : Value) :
    storeError computation = .ok value ↔ computation = .ok value := by
  cases computation with
  | ok found => simp [storeError]
  | error message => simp [storeError]

theorem validate_join_policy_ok (joinPolicy : Option JoinPolicy) (policy : JoinPolicy)
    (valid : validateJoinPolicy joinPolicy = .ok policy) : joinPolicy = some policy := by
  unfold validateJoinPolicy at valid
  split at valid
  · cases valid
  · next given =>
      split at valid
      · cases valid
      · split at valid
        · cases valid
        · cases valid
        · obtain ⟨invalid, _, rest⟩ := of_bind valid
          cases invalid with
          | true => cases rest
          | false => rw [Except.ok.inj rest]

theorem report_secret_name_head (publicKey : String) :
    (reportSecretName host.toVaultHost publicKey).toList.head? = some 'r' := by
  simp [reportSecretName]

theorem cert_secret_name_head (publicKey : String) :
    (certSecretName host.toVaultHost publicKey).toList.head? = some 'c' := by
  simp [certSecretName]

theorem signed_policy_secret_name_head (name : String)
    (named : signedPolicySecretName host = .ok name) : name.toList.head? = some 's' := by
  obtain ⟨hostData, _, same⟩ := of_bind named
  cases same
  simp

end CleanRoom.Recovery
