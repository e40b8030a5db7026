import Mathlib.Data.List.Basic
import Mathlib.Tactic.Common

/-!
# A cache of what requests build

A request has a key, and a value is built for it the first time the key is seen. Later
requests with the key get that value. What a value shows is what the request that built it
gave, so every request is answered with what it gave itself exactly when requests that
share a key give the same.
-/

namespace CleanRoom.Memo

variable {Request Key Value Setting Error : Type} [DecidableEq Key]

def tryAdd (cache : List (Key × Value)) (key : Key) (value : Value) : List (Key × Value) :=
  if (cache.lookup key).isSome then cache else (key, value) :: cache

section

variable (key : Request → Key) (build : Request → Except Error Value)

def getOrAdd (cache : List (Key × Value)) (request : Request) :
    Except Error Value × List (Key × Value) :=
  match cache.lookup (key request) with
  | some value => (.ok value, cache)
  | none =>
      match build request with
      | .error error => (.error error, cache)
      | .ok value =>
          let after := tryAdd cache (key request) value
          (.ok ((after.lookup (key request)).getD value), after)

def answers : List (Key × Value) → List Request → List (Request × Except Error Value)
  | _, [] => []
  | cache, request :: requests =>
      let step := getOrAdd key build cache request
      (request, step.1) :: answers step.2 requests

theorem get_or_add_hit (cache : List (Key × Value)) (request : Request) (value : Value)
    (found : cache.lookup (key request) = some value) :
    getOrAdd key build cache request = (.ok value, cache) := by
  rw [getOrAdd, found]

theorem get_or_add_failure (cache : List (Key × Value)) (request : Request) (error : Error)
    (missing : cache.lookup (key request) = none) (fails : build request = .error error) :
    getOrAdd key build cache request = (.error error, cache) := by
  simp only [getOrAdd, missing, fails]

theorem get_or_add_new (cache : List (Key × Value)) (request : Request) (value : Value)
    (missing : cache.lookup (key request) = none) (builds : build request = .ok value) :
    getOrAdd key build cache request = (.ok value, (key request, value) :: cache) := by
  simp [getOrAdd, missing, builds, tryAdd]

variable (given : Request → Setting) (shown : Value → Setting)

def AnsweredAsGiven (cache : List (Key × Value)) (requests : List Request) : Prop :=
  ∀ answer ∈ answers key build cache requests, ∀ value, answer.2 = .ok value →
    shown value = given answer.1

def KeysTell (requests : List Request) : Prop :=
  requests.Pairwise fun first later =>
    (∃ value, build first = .ok value) → key first = key later → given first = given later

def CacheTells (cache : List (Key × Value)) (requests : List Request) : Prop :=
  ∀ request ∈ requests, ∀ value, cache.lookup (key request) = some value →
    shown value = given request

theorem answered_cons (cache : List (Key × Value)) (request : Request) (requests : List Request)
    (result : Except Error Value) (after : List (Key × Value))
    (step : getOrAdd key build cache request = (result, after)) :
    AnsweredAsGiven key build given shown cache (request :: requests) ↔
      (∀ value, result = .ok value → shown value = given request) ∧
      AnsweredAsGiven key build given shown after requests := by
  simp only [AnsweredAsGiven, answers, step, List.forall_mem_cons]

theorem cache_tells_cons (cache : List (Key × Value)) (request : Request) (value : Value)
    (requests : List Request) (missing : cache.lookup (key request) = none)
    (shows : shown value = given request) :
    CacheTells key given shown ((key request, value) :: cache) requests ↔
      CacheTells key given shown cache requests ∧
      ∀ later ∈ requests, key request = key later → given request = given later := by
  constructor
  · intro tells
    constructor
    · intro later member other found
      refine tells later member other ?_
      have different : key later ≠ key request := by
        intro same
        rw [same, missing] at found
        cases found
      rw [List.lookup_cons, beq_false_of_ne different]
      exact found
    · intro later member same
      have newest : ((key request, value) :: cache).lookup (key later) = some value := by
        rw [same, List.lookup_cons, beq_self_eq_true]
      rw [← shows]
      exact tells later member value newest
  · rintro ⟨older, newer⟩ later member other found
    by_cases same : key later = key request
    · rw [List.lookup_cons, same, beq_self_eq_true] at found
      cases found
      rw [shows]
      exact newer later member same.symm
    · rw [List.lookup_cons, beq_false_of_ne same] at found
      exact older later member other found

theorem answered_as_given_iff
    (built : ∀ request value, build request = .ok value → shown value = given request)
    (cache : List (Key × Value)) (requests : List Request) :
    AnsweredAsGiven key build given shown cache requests ↔
      CacheTells key given shown cache requests ∧ KeysTell key build given requests := by
  induction requests generalizing cache with
  | nil => simp [AnsweredAsGiven, answers, CacheTells, KeysTell]
  | cons request requests ih =>
      have split : CacheTells key given shown cache (request :: requests) ↔
          (∀ value, cache.lookup (key request) = some value → shown value = given request) ∧
          CacheTells key given shown cache requests := List.forall_mem_cons
      rw [KeysTell, List.pairwise_cons, split]
      cases found : cache.lookup (key request) with
      | some value =>
          rw [answered_cons key build given shown cache request requests _ _
            (get_or_add_hit key build cache request value found), ih]
          simp only [Except.ok.injEq, Option.some.injEq, forall_eq']
          constructor
          · rintro ⟨here, tells, keys⟩
            refine ⟨⟨here, tells⟩, ?_, keys⟩
            intro later member _ same
            rw [← here]
            exact tells later member value (same ▸ found)
          · rintro ⟨⟨here, tells⟩, _, keys⟩
            exact ⟨here, tells, keys⟩
      | none =>
          cases builds : build request with
          | error error =>
              rw [answered_cons key build given shown cache request requests _ _
                (get_or_add_failure key build cache request error found builds), ih]
              simp [KeysTell]
          | ok value =>
              have shows := built request value builds
              rw [answered_cons key build given shown cache request requests _ _
                (get_or_add_new key build cache request value found builds), ih,
                cache_tells_cons key given shown cache request value requests found shows]
              simp only [Except.ok.injEq, forall_eq', shows, true_and, reduceCtorEq,
                false_implies, implies_true, exists_eq', true_implies, KeysTell]
              exact and_assoc

end

end CleanRoom.Memo
