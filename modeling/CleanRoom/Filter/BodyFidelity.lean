import CleanRoom.Filter.FailClosed

/-!
# The body that goes on

In the two body phases a decision may carry a body of its own, a text or an object. What
goes on is the message with the mutations of the answer. The filter reads an absent body and
an empty text as the same, and it answers without a mutation when the decision's body is the
one of the message.
-/

namespace CleanRoom.Filter

open JsonText GoJson ByteFile

structure Message where
  headers : List Header
  body : Bytes

def Header.isContentLength (header : Header) : Bool :=
  header.key.toList.map Char.toLower == "content-length".toList

def Message.contentLength (message : Message) : Option String :=
  (message.headers.find? Header.isContentLength).map Header.rawValue

/-- `set_headers` of a header mutation replaces the headers of the name. -/
def setHeader (headers : List Header) (header : Header) : List Header :=
  headers.filter (fun other => other.key.toList.map Char.toLower ≠
    header.key.toList.map Char.toLower) ++ [header]

def Message.continued (message : Message) (response : CommonResponse) : Message where
  headers := (response.headerMutation.getD []).foldl setHeader message.headers
  body := response.bodyMutation.getD message.body

def decisionBody : Json → Option String
  | .object fields =>
      match fields.lookup "body" with
      | some (.string text) => some text
      | some (.object body) => some (String.ofList (marshal (.object body)))
      | _ => none
  | _ => none

/-- What should go on: the decision's body with its length, or the message as it was. -/
def Faithful (decision : Json) (original continued : Message) : Prop :=
  match decisionBody decision with
  | some text => continued.body = Encodings.utf8GetBytes text ∧
      continued.contentLength = some (toString (Encodings.utf8GetBytes text).length)
  | none => continued = original

/-- The decision has no body, or one that is neither empty nor the one of the message, or
the one of the message, which says its length. -/
def BodyDistinguished (decision : Json) (original : Message) : Prop :=
  match decisionBody decision with
  | some text => (text ≠ "" ∧ original.body ≠ Encodings.utf8GetBytes text) ∨
      (original.body = Encodings.utf8GetBytes text ∧
        original.contentLength = some (toString (Encodings.utf8GetBytes text).length))
  | none => True

theorem get_response_body_eq (decision : Json) (typed : WellTypedBody decision) :
    getResponseBody decision = .ok ((decisionBody decision).getD "") := by
  cases decision with
  | object fields =>
      simp only [WellTypedBody] at typed
      simp only [getResponseBody, decisionBody]
      cases found : fields.lookup "body" with
      | none => rfl
      | some value =>
          rw [found] at typed
          cases value with
          | string text => rfl
          | object body => rfl
          | null => exact typed.elim
          | bool flag => exact typed.elim
          | number token => exact typed.elim
          | array items => exact typed.elim
  | _ => rfl

theorem content_length_set (headers : List Header) (length : String) (body : Bytes) :
    Message.contentLength ⟨setHeader headers ⟨"Content-Length", length⟩, body⟩ = some length := by
  have own : Header.isContentLength ⟨"Content-Length", length⟩ = true := by
    change ("Content-Length".toList.map Char.toLower == "content-length".toList) = true
    decide
  have others : (headers.filter fun other => other.key.toList.map Char.toLower ≠
      "Content-Length".toList.map Char.toLower).find? Header.isContentLength = none := by
    rw [List.find?_eq_none]
    intro other member named
    have different := (List.mem_filter.mp member).2
    have lower : "Content-Length".toList.map Char.toLower = "content-length".toList := by decide
    rw [lower] at different
    exact absurd (eq_of_beq named) (of_decide_eq_true different)
  unfold Message.contentLength setHeader
  rw [List.find?_append, others, Option.none_or, List.find?_cons_of_pos own, Option.map_some]

section Mutation

variable (decision : Json) (original : Message)

theorem mutation_continued (typed : WellTypedBody decision) :
    ∃ mutation, mutationResponse decision original.body = .ok mutation ∧
      original.continued ⟨.continue_, mutation.1, mutation.2⟩ =
        if (decisionBody decision).getD "" ≠ "" ∧
            original.body ≠ Encodings.utf8GetBytes ((decisionBody decision).getD "") then
          ⟨setHeader original.headers ⟨"Content-Length",
            toString (Encodings.utf8GetBytes ((decisionBody decision).getD "")).length⟩,
            Encodings.utf8GetBytes ((decisionBody decision).getD "")⟩
        else original := by
  unfold mutationResponse
  rw [get_response_body_eq decision typed]
  dsimp only
  split
  · exact ⟨_, rfl, rfl⟩
  · exact ⟨_, rfl, rfl⟩

theorem faithful_iff (typed : WellTypedBody decision) :
    ∃ mutation, mutationResponse decision original.body = .ok mutation ∧
      (Faithful decision original (original.continued ⟨.continue_, mutation.1, mutation.2⟩) ↔
        BodyDistinguished decision original) := by
  obtain ⟨mutation, mutated, continued⟩ := mutation_continued decision original typed
  refine ⟨mutation, mutated, ?_⟩
  rw [continued]
  unfold Faithful BodyDistinguished
  cases decisionBody decision with
  | none =>
      dsimp only [Option.getD_none]
      rw [if_neg fun both => both.1 rfl]
      exact iff_of_true rfl trivial
  | some text =>
      dsimp only [Option.getD_some]
      by_cases replaced : text ≠ "" ∧ original.body ≠ Encodings.utf8GetBytes text
      · rw [if_pos replaced]
        exact iff_of_true ⟨rfl, content_length_set _ _ _⟩ (Or.inl replaced)
      · rw [if_neg replaced]
        exact ⟨Or.inr, fun either => either.resolve_left replaced⟩

end Mutation

inductive BodyPhase where
  | request
  | response

def BodyPhase.message : BodyPhase → Bytes → ProcessingRequest
  | .request, body => .requestBody body
  | .response, body => .responseBody body

def BodyPhase.answer : BodyPhase → CommonResponse → ProcessingResponse
  | .request, answered => .requestBody answered
  | .response, answered => .responseBody answered

theorem on_body_passes (host : PolicyHost) (filter : OpaFilter) (rule : Rule)
    (request : ProcessingRequest) (body : Bytes) (answer : CommonResponse → ProcessingResponse)
    (decision : Json) (mutation : Option (List Header) × Option Bytes)
    (processed : processRequest host filter rule request = (.ok decision, filter.keep decision))
    (mutated : mutationResponse decision body = .ok mutation) :
    onBody host filter rule request body answer =
      (answer ⟨.continue_, mutation.1, mutation.2⟩, filter.keep decision) := by
  unfold onBody
  rw [processed]
  dsimp only
  rw [mutated]

/-- For every decision of the policy that lets a body go on, in either phase and for every
message, the body and the headers that go on are those the decision asks for exactly if the
decision's body can be told from an absent one and from that of the message. -/
theorem continued_body_faithful_iff (host : PolicyHost) (filter : OpaFilter) (phase : BodyPhase)
    (original : Message) (decision : Json)
    (decided : decisionOn host filter (phase.message original.body) = some decision)
    (passes : Passes decision) (typed : WellTypedBody decision) :
    ∃ response, handleProxyRequest host filter (phase.message original.body) =
        (phase.answer response, filter.keep decision) ∧ response.status = .continue_ ∧
      (Faithful decision original (original.continued response) ↔
        BodyDistinguished decision original) := by
  obtain ⟨mutation, mutated, faithful⟩ := faithful_iff decision original typed
  refine ⟨⟨.continue_, mutation.1, mutation.2⟩, ?_, rfl, faithful⟩
  have evaluated : ∀ rule, (phase.message original.body).rule = some rule →
      ∃ fields, host.requestToInput (phase.message original.body) = .ok fields ∧
        eval host rule (policyInput filter fields) = .ok decision := by
    intro rule named
    unfold decisionOn at decided
    rw [named] at decided
    cases input : host.requestToInput (phase.message original.body) with
    | error message =>
        rw [input] at decided
        cases decided
    | ok fields =>
        rw [input] at decided
        dsimp only at decided
        cases result : eval host rule (policyInput filter fields) with
        | error message =>
            rw [result] at decided
            cases decided
        | ok value =>
            rw [result] at decided
            cases decided
            exact ⟨fields, rfl, result⟩
  cases phase with
  | request =>
      obtain ⟨fields, input, result⟩ := evaluated .onRequestBody rfl
      exact on_body_passes host filter .onRequestBody _ original.body .requestBody decision mutation
        (process_request_passes host filter .onRequestBody _ fields decision input result passes)
        mutated
  | response =>
      obtain ⟨fields, input, result⟩ := evaluated .onResponseBody rfl
      exact on_body_passes host filter .onResponseBody _ original.body .responseBody decision
        mutation
        (process_request_passes host filter .onResponseBody _ fields decision input result passes)
        mutated

/-- A text in the place of another. -/
theorem replaced_body_faithful :
    ∃ response, handleProxyRequest
        (constantHost (.object [("allowed", .bool true), ("body", .string "ok")]))
        (.create "cvm") (.responseBody [1]) = (.responseBody response,
          (OpaFilter.create "cvm").keep
            (.object [("allowed", .bool true), ("body", .string "ok")])) ∧
      response.status = .continue_ ∧
      Faithful (.object [("allowed", .bool true), ("body", .string "ok")]) ⟨[], [1]⟩
        (Message.continued ⟨[], [1]⟩ response) := by
  obtain ⟨response, answered, status, faithful⟩ := continued_body_faithful_iff
    (constantHost (.object [("allowed", .bool true), ("body", .string "ok")])) (.create "cvm")
    .response ⟨[], [1]⟩ (.object [("allowed", .bool true), ("body", .string "ok")]) rfl
    ⟨rfl, Or.inl rfl, trivial⟩ trivial
  exact ⟨response, answered, status, faithful.mpr (Or.inl ⟨by decide, by decide⟩)⟩

/-- A decision with an empty body lets the body of the message go on. -/
theorem empty_body_not_replaced :
    handleProxyRequest (constantHost (.object [("allowed", .bool true), ("body", .string "")]))
        (.create "cvm") (.responseBody [1]) =
      (.responseBody ⟨.continue_, none, none⟩, .create "cvm") ∧
    (Message.continued ⟨[⟨"content-length", "1"⟩], [1]⟩ ⟨.continue_, none, none⟩).body = [1] ∧
    ¬Faithful (.object [("allowed", .bool true), ("body", .string "")])
      ⟨[⟨"content-length", "1"⟩], [1]⟩
      (Message.continued ⟨[⟨"content-length", "1"⟩], [1]⟩ ⟨.continue_, none, none⟩) := by
  refine ⟨by rfl, rfl, ?_⟩
  rintro ⟨body, _⟩
  exact absurd body (by decide)

end CleanRoom.Filter
