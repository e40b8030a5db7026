import CleanRoom.Filter.OpaFilter
import Mathlib.Data.List.Induction

/-!
# The filter fails closed

A message goes on only if the policy was evaluated to one decision and the
decision permits it; otherwise the answer is an immediate response. The
context changes only with decisions that allow the message to be processed
further.
-/

namespace CleanRoom.Filter

open JsonText GoJson ByteFile

/-- A field that may be missing and otherwise is a string or an object. -/
def TextOrObject : Option Json → Prop
  | none => True
  | some (.string _) => True
  | some (.object _) => True
  | some _ => False

/-- The decision allows the message, asks for no immediate response and has a
context of a type that can be kept. -/
def Passes : Json → Prop
  | .bool value => value = true
  | .object fields =>
      fields.lookup "allowed" = some (.bool true) ∧
        (fields.lookup "immediate_response" = none ∨
          fields.lookup "immediate_response" = some (.bool false)) ∧
        TextOrObject (fields.lookup "context")
  | _ => False

def WellTypedBody : Json → Prop
  | .object fields => TextOrObject (fields.lookup "body")
  | _ => True

def Permits (rule : Rule) (decision : Json) : Prop :=
  Passes decision ∧ (rule.isBody = true → WellTypedBody decision)

def declaredContext : Json → Option Json
  | .object fields => fields.lookup "context"
  | _ => none

variable {host : PolicyHost} {fields : List (String × Json)} {request : ProcessingRequest}
  {decision : Json} {context : Option Json} {filter : OpaFilter} {start : OpaFilter}

theorem allowed_iff :
    isAllowed (.object fields) = .ok true ↔ fields.lookup "allowed" = some (.bool true) := by
  unfold isAllowed
  simp only
  cases fields.lookup "allowed" with
  | none => simp
  | some value => cases value <;> simp

theorem not_immediate_iff :
    isImmediateResponse (.object fields) = .ok false ↔
      fields.lookup "immediate_response" = none ∨
        fields.lookup "immediate_response" = some (.bool false) := by
  unfold isImmediateResponse
  simp only
  cases fields.lookup "immediate_response" with
  | none => simp
  | some value => cases value <;> simp

theorem context_iff :
    getResponseContext (.object fields) = .ok (fields.lookup "context") ↔
      TextOrObject (fields.lookup "context") := by
  unfold getResponseContext
  simp only
  cases fields.lookup "context" with
  | none => simp [TextOrObject]
  | some value => cases value <;> simp [TextOrObject]

theorem body_iff :
    (∃ body, getResponseBody decision = .ok body) ↔ WellTypedBody decision := by
  cases decision with
  | object fields =>
      simp only [getResponseBody, WellTypedBody]
      cases fields.lookup "body" with
      | none => simp [TextOrObject]
      | some value => cases value <;> simp [TextOrObject]
  | _ => simp [getResponseBody, WellTypedBody]

theorem mutation_iff (decision : Json) (body : Bytes) :
    (∃ mutation, mutationResponse decision body = .ok mutation) ↔ WellTypedBody decision := by
  rw [← body_iff]
  unfold mutationResponse
  cases getResponseBody decision with
  | error message => simp
  | ok text =>
      simp only
      split <;> simp

theorem context_declared (read : getResponseContext decision = .ok context) :
    context = declaredContext decision := by
  cases decision with
  | object fields =>
      simp only [getResponseContext] at read
      simp only [declaredContext]
      cases found : fields.lookup "context" with
      | none =>
          rw [found] at read
          cases read
          rfl
      | some value =>
          rw [found] at read
          cases value <;> cases read <;> rfl
  | _ =>
      cases read
      rfl

theorem passes_iff :
    Passes decision ↔ isAllowed decision = .ok true ∧ isImmediateResponse decision = .ok false ∧
      getResponseContext decision = .ok (declaredContext decision) := by
  cases decision with
  | object fields =>
      rw [allowed_iff, not_immediate_iff]
      exact and_congr Iff.rfl (and_congr Iff.rfl context_iff.symm)
  | bool value => simp [Passes, isAllowed, isImmediateResponse, getResponseContext, declaredContext]
  | _ => simp [Passes, isAllowed]

def ProcessingRequest.rule : ProcessingRequest → Option Rule
  | .requestHeaders _ => some .onRequestHeaders
  | .requestBody _ => some .onRequestBody
  | .responseHeaders _ => some .onResponseHeaders
  | .responseBody _ => some .onResponseBody
  | .other _ => none

def Continues : ProcessingResponse → Prop
  | .requestHeaders response => response.status = .continue_
  | .requestBody response => response.status = .continue_
  | .responseHeaders response => response.status = .continue_
  | .responseBody response => response.status = .continue_
  | .immediateResponse _ _ _ => False

def EndsRequest (response : ProcessingResponse) : Prop :=
  ∃ status body details, response = .immediateResponse status body details

theorem ends_not_continues (response : ProcessingResponse) (ends : EndsRequest response) :
    ¬ Continues response := by
  obtain ⟨_, _, _, rfl⟩ := ends
  exact id

def decisionOn (host : PolicyHost) (filter : OpaFilter) (request : ProcessingRequest) :
    Option Json :=
  match request.rule, host.requestToInput request with
  | some rule, .ok fields => (eval host rule (policyInput filter fields)).toOption
  | _, _ => none

def OpaFilter.keep (filter : OpaFilter) (decision : Json) : OpaFilter :=
  { filter with
    currentRequestContext := (declaredContext decision).orElse fun _ =>
      filter.currentRequestContext }

theorem disallowed_ends :
    EndsRequest (disallowedResponse host decision) := by
  unfold disallowedResponse
  split
  · exact ⟨_, _, _, rfl⟩
  · split <;> exact ⟨_, _, _, rfl⟩

theorem immediate_ends : EndsRequest (immediateResponse decision) := by
  unfold immediateResponse
  split <;> exact ⟨_, _, _, rfl⟩

theorem process_request_passes (host : PolicyHost) (filter : OpaFilter) (rule : Rule)
    (request : ProcessingRequest) (fields : List (String × Json)) (decision : Json)
    (input : host.requestToInput request = .ok fields)
    (evaluated : eval host rule (policyInput filter fields) = .ok decision)
    (passes : Passes decision) :
    processRequest host filter rule request = (.ok decision, filter.keep decision) := by
  obtain ⟨allowed, notImmediate, context⟩ := passes_iff.mp passes
  simp only [processRequest, input, evaluated, allowed, notImmediate, context, OpaFilter.keep]
  cases declaredContext decision <;> rfl

theorem process_request_stops (rule : Rule)
    (stops : ∀ fields decision, host.requestToInput request = .ok fields →
      eval host rule (policyInput filter fields) = .ok decision → ¬ Passes decision) :
    ∃ response, processRequest host filter rule request = (.error response, filter) ∧
      EndsRequest response := by
  unfold processRequest
  cases input : host.requestToInput request with
  | error message => exact ⟨_, rfl, _, _, _, rfl⟩
  | ok fields =>
      simp only
      cases evaluated : eval host rule (policyInput filter fields) with
      | error message => exact ⟨_, rfl, _, _, _, rfl⟩
      | ok decision =>
          have notPasses := stops fields decision input evaluated
          simp only
          cases allowed : isAllowed decision with
          | error message => exact ⟨_, rfl, _, _, _, rfl⟩
          | ok value =>
              cases value with
              | false => exact ⟨_, rfl, disallowed_ends⟩
              | true =>
                  simp only
                  cases immediate : isImmediateResponse decision with
                  | error message => exact ⟨_, rfl, _, _, _, rfl⟩
                  | ok value =>
                      cases value with
                      | true => exact ⟨_, rfl, immediate_ends⟩
                      | false =>
                          simp only
                          cases context : getResponseContext decision with
                          | error message => exact ⟨_, rfl, _, _, _, rfl⟩
                          | ok value =>
                              have declared := context_declared context
                              rw [declared] at context
                              exact absurd (passes_iff.mpr
                                ⟨allowed, immediate, context⟩) notPasses

/-- What a message leads to: it goes on exactly when a decision permits it, and
the filter changes its context exactly when a decision passes. -/
structure Outcome (host : PolicyHost) (filter : OpaFilter) (request : ProcessingRequest)
    (result : ProcessingResponse × OpaFilter) : Prop where
  continues : Continues result.1 ↔ ∃ rule decision, request.rule = some rule ∧
    decisionOn host filter request = some decision ∧ Permits rule decision
  ends : ¬ Continues result.1 → EndsRequest result.1
  kept : ∀ decision, decisionOn host filter request = some decision → Passes decision →
    result.2.currentRequestContext = (filter.keep decision).currentRequestContext
  unchanged : (∀ decision, decisionOn host filter request = some decision → ¬ Passes decision) →
    result.2.currentRequestContext = filter.currentRequestContext
  teeType : result.2.teeType = filter.teeType

theorem process_request_cases (host : PolicyHost) (filter : OpaFilter) (rule : Rule)
    (request : ProcessingRequest) (named : request.rule = some rule) :
    (∃ decision, decisionOn host filter request = some decision ∧ Passes decision ∧
      processRequest host filter rule request = (.ok decision, filter.keep decision)) ∨
    (∀ decision, decisionOn host filter request = some decision → ¬ Passes decision) ∧
      ∃ response, processRequest host filter rule request = (.error response, filter) ∧
        EndsRequest response := by
  by_cases passes : ∃ decision, decisionOn host filter request = some decision ∧ Passes decision
  · obtain ⟨decision, found, passes⟩ := passes
    refine .inl ⟨decision, found, passes, ?_⟩
    unfold decisionOn at found
    rw [named] at found
    cases input : host.requestToInput request with
    | error message =>
        rw [input] at found
        cases found
    | ok fields =>
        rw [input] at found
        cases evaluated : eval host rule (policyInput filter fields) with
        | error message =>
            simp [evaluated, Except.toOption] at found
        | ok value =>
            simp only [evaluated, Except.toOption, Option.some.injEq] at found
            subst found
            exact process_request_passes host filter rule request fields value input evaluated
              passes
  · have stops : ∀ decision, decisionOn host filter request = some decision → ¬ Passes decision :=
      fun decision found passed => passes ⟨decision, found, passed⟩
    refine .inr ⟨stops, process_request_stops rule ?_⟩
    intro fields decision input evaluated
    apply stops
    simp [decisionOn, named, input, evaluated, Except.toOption]

theorem outcome_stops (host : PolicyHost) (filter : OpaFilter) (request : ProcessingRequest)
    (response : ProcessingResponse)
    (stops : ∀ decision, decisionOn host filter request = some decision → ¬ Passes decision)
    (ends : EndsRequest response) : Outcome host filter request (response, filter) where
  continues := by
    refine iff_of_false (ends_not_continues response ends) ?_
    rintro ⟨_, decision, _, found, permits⟩
    exact stops decision found permits.1
  ends := fun _ => ends
  kept := fun decision found passes => absurd passes (stops decision found)
  unchanged := fun _ => rfl
  teeType := rfl

theorem outcome_passes (host : PolicyHost) (filter : OpaFilter) (rule : Rule)
    (request : ProcessingRequest) (decision : Json) (response : ProcessingResponse)
    (named : request.rule = some rule) (found : decisionOn host filter request = some decision)
    (passes : Passes decision)
    (continues : Continues response ↔ (rule.isBody = true → WellTypedBody decision))
    (ends : ¬ Continues response → EndsRequest response) :
    Outcome host filter request (response, filter.keep decision) where
  continues := by
    rw [continues]
    constructor
    · intro wellTyped
      exact ⟨rule, decision, named, found, passes, wellTyped⟩
    · rintro ⟨otherRule, other, otherNamed, otherFound, permits⟩
      cases named.symm.trans otherNamed
      cases found.symm.trans otherFound
      exact permits.2
  ends := ends
  kept := by
    intro other foundOther _
    cases found.symm.trans foundOther
    rfl
  unchanged := fun none => absurd passes (none decision found)
  teeType := rfl

theorem headers_outcome (host : PolicyHost) (filter : OpaFilter) (rule : Rule)
    (request : ProcessingRequest) (answer : ProcessingResponse) (named : request.rule = some rule)
    (headers : rule.isBody = false) (continues : Continues answer) :
    Outcome host filter request (match processRequest host filter rule request with
      | (.error response, filter) => (response, filter)
      | (.ok _, filter) => (answer, filter)) := by
  rcases process_request_cases host filter rule request named with
    ⟨decision, found, passes, processed⟩ | ⟨stops, response, processed, ends⟩
  · rw [processed]
    apply outcome_passes host filter rule request decision answer named found passes
    · simp [continues, headers]
    · exact fun stopped => absurd continues stopped
  · rw [processed]
    exact outcome_stops host filter request response stops ends

theorem body_outcome (host : PolicyHost) (filter : OpaFilter) (rule : Rule)
    (request : ProcessingRequest) (body : Bytes) (answer : CommonResponse → ProcessingResponse)
    (named : request.rule = some rule) (isBody : rule.isBody = true)
    (continues : ∀ headers body, Continues (answer ⟨.continue_, headers, body⟩)) :
    Outcome host filter request (onBody host filter rule request body answer) := by
  unfold onBody
  rcases process_request_cases host filter rule request named with
    ⟨decision, found, passes, processed⟩ | ⟨stops, response, processed, ends⟩
  · simp only [processed]
    -- The decision has passed and its context is kept; now its body is read.
    cases read : mutationResponse decision body with
    | error message =>
        apply outcome_passes host filter rule request decision _ named found passes
        · have illTyped : ¬ WellTypedBody decision := by
            rw [← mutation_iff decision body, read]
            simp
          exact iff_of_false id fun wellTyped => illTyped (wellTyped isBody)
        · exact fun _ => ⟨_, _, _, rfl⟩
    | ok mutation =>
        have wellTyped : WellTypedBody decision := (mutation_iff decision body).mp ⟨mutation, read⟩
        have goesOn := continues mutation.1 mutation.2
        apply outcome_passes host filter rule request decision _ named found passes
        · exact iff_of_true goesOn fun _ => wellTyped
        · exact fun stopped => absurd goesOn stopped
  · rw [processed]
    exact outcome_stops host filter request response stops ends

theorem handle_proxy_request_outcome (host : PolicyHost) (filter : OpaFilter)
    (request : ProcessingRequest) :
    Outcome host filter request (handleProxyRequest host filter request) := by
  cases request with
  | requestHeaders headers =>
      -- The method and the path that are stored first are not part of the input of the policy.
      have outcome := headers_outcome host
        { filter with
          method := extractHeader ":method" headers
          path := extractHeader ":path" headers }
        .onRequestHeaders (.requestHeaders headers) (.requestHeaders ⟨.continue_, none, none⟩)
        rfl rfl rfl
      exact ⟨outcome.continues, outcome.ends, outcome.kept, outcome.unchanged, outcome.teeType⟩
  | requestBody body =>
      exact body_outcome host filter .onRequestBody _ body .requestBody rfl rfl fun _ _ => rfl
  | responseHeaders headers =>
      exact headers_outcome host filter .onResponseHeaders _ _ rfl rfl rfl
  | responseBody body =>
      exact body_outcome host filter .onResponseBody _ body .responseBody rfl rfl fun _ _ => rfl
  | other typeName =>
      exact outcome_stops host filter _ _ (fun _ found => nomatch found) ⟨_, _, _, rfl⟩

def DeclaredBy (host : PolicyHost) (start : OpaFilter) (requests : List ProcessingRequest)
    (context : Option Json) : Prop :=
  ∃ before request after decision, requests = before ++ request :: after ∧
    decisionOn host (processStream host start before) request = some decision ∧
    Passes decision ∧ context = declaredContext decision

theorem declared_by_append (requests more : List ProcessingRequest)
    (declared : DeclaredBy host start requests context) :
    DeclaredBy host start (requests ++ more) context := by
  obtain ⟨before, request, after, decision, rfl, found, passes, same⟩ := declared
  exact ⟨before, request, after ++ more, decision, by simp, found, passes, same⟩

theorem process_stream_concat (requests : List ProcessingRequest) :
    processStream host start (requests ++ [request]) =
      (handleProxyRequest host (processStream host start requests) request).2 := by
  simp [processStream]

theorem context_step :
    (handleProxyRequest host filter request).2.currentRequestContext =
        filter.currentRequestContext ∨
      ∃ decision, decisionOn host filter request = some decision ∧ Passes decision ∧
        (handleProxyRequest host filter request).2.currentRequestContext =
          declaredContext decision := by
  have outcome := handle_proxy_request_outcome host filter request
  by_cases passes : ∃ decision, decisionOn host filter request = some decision ∧ Passes decision
  · obtain ⟨decision, found, passes⟩ := passes
    have kept := outcome.kept decision found passes
    cases declared : declaredContext decision with
    | none =>
        left
        simpa [OpaFilter.keep, declared] using kept
    | some context =>
        right
        refine ⟨decision, found, passes, ?_⟩
        simpa [OpaFilter.keep, declared] using kept
  · left
    exact outcome.unchanged fun decision found passed => passes ⟨decision, found, passed⟩

theorem context_of_stream (host : PolicyHost) (start : OpaFilter)
    (requests : List ProcessingRequest) :
    (processStream host start requests).currentRequestContext = start.currentRequestContext ∨
      DeclaredBy host start requests (processStream host start requests).currentRequestContext := by
  induction requests using List.reverseRecOn with
  | nil => exact .inl rfl
  | append_singleton requests request inductionHypothesis =>
      rw [process_stream_concat]
      rcases context_step with
        same | ⟨decision, found, passes, declared⟩
      · rw [same]
        exact inductionHypothesis.imp_right (declared_by_append requests [request])
      · exact .inr ⟨requests, request, [], decision, rfl, found, passes, declared⟩

/-- In a stream of messages, whatever the policy engine answers, a message goes
on exactly when its decision permits it, every other answer ends the request,
only a decision that passes changes the context, and the context that an
evaluation sees comes from an earlier decision that passed. -/
theorem filter_fails_closed (host : PolicyHost) (start : OpaFilter)
    (before : List ProcessingRequest) (request : ProcessingRequest) :
    let filter := processStream host start before
    let response := (handleProxyRequest host filter request).1
    let after := (handleProxyRequest host filter request).2
    (Continues response ↔ ∃ rule decision, request.rule = some rule ∧
      decisionOn host filter request = some decision ∧ Permits rule decision) ∧
    (¬ Continues response → EndsRequest response) ∧
    (∀ decision, decisionOn host filter request = some decision → Passes decision →
      after.currentRequestContext = (filter.keep decision).currentRequestContext) ∧
    ((∀ decision, decisionOn host filter request = some decision → ¬ Passes decision) →
      after.currentRequestContext = filter.currentRequestContext) ∧
    (filter.currentRequestContext = start.currentRequestContext ∨
      DeclaredBy host start before filter.currentRequestContext) := by
  have outcome := handle_proxy_request_outcome host (processStream host start before) request
  exact ⟨outcome.continues, outcome.ends, outcome.kept, outcome.unchanged,
    context_of_stream host start before⟩

def EveryFieldWellTyped : Json → Prop
  | .bool value => value = true
  | .object fields =>
      fields.lookup "allowed" = some (.bool true) ∧
        (∀ value, fields.lookup "immediate_response" = some value → ∃ flag, value = .bool flag) ∧
        TextOrObject (fields.lookup "context") ∧ TextOrObject (fields.lookup "body") ∧
        ∀ value, fields.lookup "http_status" = some value → ∃ token, value = .number token
  | _ => False

def constantHost (decision : Json) : PolicyHost where
  requestToInput _ := .ok []
  query _ _ := .ok [decision]
  envoyStatus code := code = statusOK ∨ code = statusForbidden

/-- The status is read only when the message is not allowed: with a text for
it the headers go on. The context is kept before a body phase reads the body:
a decision whose body is a number ends the request and still leaves its
context. -/
theorem ill_typed_status_continues :
    (let decision := Json.object [("allowed", .bool true), ("http_status", .string "200")]
     Continues (handleProxyRequest (constantHost decision) (.create "cvm")
       (.requestHeaders [])).1 ∧ ¬ EveryFieldWellTyped decision) ∧
    (let decision := Json.object
       [("allowed", .bool true), ("body", .number "5"), ("context", .string "seen")]
     let result := handleProxyRequest (constantHost decision) (.create "cvm") (.requestBody [])
     EndsRequest result.1 ∧ result.2.currentRequestContext = some (.string "seen")) := by
  refine ⟨⟨rfl, ?_⟩, ⟨_, _, _, rfl⟩, rfl⟩
  rintro ⟨_, _, _, _, status⟩
  obtain ⟨token, same⟩ := status (.string "200") rfl
  cases same

end CleanRoom.Filter
