import CleanRoom.Library.Encodings
import CleanRoom.Library.GoJson

/-!
# The policy filter of the proxy

Envoy sends the headers and bodies of a request and of its response to an
external processor, which evaluates one rule of a policy for each message and
answers whether the message may go on. One filter serves the messages of one
stream and carries a context from one evaluation to the next.
-/

namespace CleanRoom.Filter

open JsonText GoJson ByteFile

inductive Rule where
  | onRequestHeaders
  | onRequestBody
  | onResponseHeaders
  | onResponseBody
deriving DecidableEq

def Rule.isBody : Rule → Bool
  | .onRequestBody | .onResponseBody => true
  | .onRequestHeaders | .onResponseHeaders => false

structure Header where
  key : String
  rawValue : String

inductive ProcessingRequest where
  | requestHeaders (headers : List Header)
  | requestBody (body : Bytes)
  | responseHeaders (headers : List Header)
  | responseBody (body : Bytes)
  /-- A message of a type that the filter does not handle, such as trailers. -/
  | other (typeName : String)

inductive ResponseStatus where
  | continue_
  | continueAndReplace
deriving DecidableEq

structure CommonResponse where
  status : ResponseStatus
  headerMutation : Option (List Header)
  bodyMutation : Option Bytes

inductive ProcessingResponse where
  | requestHeaders (response : CommonResponse)
  | requestBody (response : CommonResponse)
  | responseHeaders (response : CommonResponse)
  | responseBody (response : CommonResponse)
  | immediateResponse (status : Int) (body details : String)

/-- The policy engine and the libraries that encode messages for it. -/
structure PolicyHost where
  /-- `protojson.Marshal` of the message, unmarshalled into a map. -/
  requestToInput : ProcessingRequest → Except String (List (String × Json))
  query : Rule → List (String × Json) → Except String (List Json)
  /-- The keys of `StatusCode_name`. -/
  envoyStatus : Int → Bool

def typeName : Json → String
  | .null => "<nil>"
  | .bool _ => "bool"
  | .number _ => "json.Number"
  | .string _ => "string"
  | .array _ => "[]interface \x7b\x7d"
  | .object _ => "map[string]interface \x7b\x7d"

def invalidDecisionErr (decision : Json) : String :=
  "illegal value for policy evaluation result: " ++ typeName decision

def isAllowed (decision : Json) : Except String Bool :=
  match decision with
  | .bool value => .ok value
  | .object fields =>
      match fields.lookup "allowed" with
      | none => .error "unable to determine evaluation result due to missing \"allowed\" key"
      | some (.bool allowed) => .ok allowed
      | some _ => .error "type assertion error"
  | other => .error (invalidDecisionErr other)

def isImmediateResponse (decision : Json) : Except String Bool :=
  match decision with
  | .object fields =>
      match fields.lookup "immediate_response" with
      | none => .ok false
      | some (.bool value) => .ok value
      | some _ => .error "type assertion error for \"immediate_response\""
  | _ => .ok false

def getResponseContext (decision : Json) : Except String (Option Json) :=
  match decision with
  | .object fields =>
      match fields.lookup "context" with
      | none => .ok none
      | some (.string text) => .ok (some (.string text))
      | some (.object context) => .ok (some (.object context))
      | some _ => .error "type assertion error for \"context\""
  | _ => .ok none

def getResponseBody (decision : Json) : Except String String :=
  match decision with
  | .object fields =>
      match fields.lookup "body" with
      | none => .ok ""
      | some (.string text) => .ok text
      | some (.object body) => .ok (String.ofList (marshal (.object body)))
      | some _ => .error "type assertion error for \"body\""
  | _ => .ok ""

def statusOK : Int := 200

def statusForbidden : Int := 403

def statusBadRequest : Int := 400

def statusInternalServerError : Int := 500

/-- The codes for which `http.StatusText` has a text. -/
def httpStatusCodes : List Int :=
  [100, 101, 102, 103, 200, 201, 202, 203, 204, 205, 206, 207, 208, 226, 300, 301, 302, 303, 304,
    305, 307, 308, 400, 401, 402, 403, 404, 405, 406, 407, 408, 409, 410, 411, 412, 413, 414, 415,
    416, 417, 418, 421, 422, 423, 424, 425, 426, 428, 429, 431, 451, 500, 501, 502, 503, 504, 505,
    506, 507, 508, 510, 511]

def digitsValue (digits : List Char) : Nat :=
  digits.foldl (fun value digit => 10 * value + (digit.toNat - '0'.toNat)) 0

/-- `strconv.ParseInt(text, 10, 64)` -/
def parseInt64 (text : String) : Except String Int :=
  let (negative, digits) := match text.toList with
    | '-' :: digits => (true, digits)
    | '+' :: digits => (false, digits)
    | digits => (false, digits)
  if digits.isEmpty || digits.any fun digit => !digit.isDigit then
    .error s!"strconv.ParseInt: parsing \"{text}\": invalid syntax"
  else
    let value : Int := if negative then -(digitsValue digits : Int) else digitsValue digits
    if value < -9223372036854775808 || 9223372036854775807 < value then
      .error s!"strconv.ParseInt: parsing \"{text}\": value out of range"
    else .ok value

def getResponseHTTPStatus (decision : Json) : Except String Int :=
  match decision with
  | .bool true => .error "HTTP status code undefined for simple 'allow'"
  | .bool false => .ok statusForbidden
  | .object fields =>
      match fields.lookup "http_status" with
      | none => .ok statusForbidden
      | some (.number token) =>
          match parseInt64 token with
          | .error message => .error s!"error converting JSON number to int: {message}"
          | .ok code =>
              if httpStatusCodes.contains code then .ok code
              else .error s!"Invalid HTTP status code {code}"
      | some _ => .error "type assertion error"
  | other => .error (invalidDecisionErr other)

def getResponseEnvoyHTTPStatus (host : PolicyHost) (decision : Json) : Except String Int := do
  let code ← getResponseHTTPStatus decision
  if host.envoyStatus code then return code
  else .error s!"Invalid HTTP status code {code}"

def createImmediateProxyResponse (status : Int) (body details : String) : ProcessingResponse :=
  .immediateResponse status body details

def createErrorProxyResponse (status : Int) (details : String) : ProcessingResponse :=
  createImmediateProxyResponse status "" details

def disallowedResponse (host : PolicyHost) (decision : Json) : ProcessingResponse :=
  match getResponseBody decision with
  | .error _ => createErrorProxyResponse statusInternalServerError "failed to get response body"
  | .ok body =>
      match getResponseEnvoyHTTPStatus host decision with
      | .error _ =>
          createErrorProxyResponse statusInternalServerError "failed to get response status"
      | .ok status =>
          createImmediateProxyResponse status body "disallowed policy decision response"

def immediateResponse (decision : Json) : ProcessingResponse :=
  match getResponseBody decision with
  | .error _ => createErrorProxyResponse statusInternalServerError "failed to get response body"
  | .ok body =>
      createImmediateProxyResponse statusOK body "allowed immediate policy decision response"

def mutationResponse (decision : Json) (body : Bytes) :
    Except String (Option (List Header) × Option Bytes) :=
  match getResponseBody decision with
  | .error message => .error message
  | .ok responseBody =>
      let processed := Encodings.utf8GetBytes responseBody
      if responseBody ≠ "" ∧ body ≠ processed then
        .ok (some [⟨"Content-Length", toString processed.length⟩], some processed)
      else .ok (none, none)

structure OpaFilter where
  currentRequestContext : Option Json
  method : String
  path : String
  teeType : String

def OpaFilter.create (teeType : String) : OpaFilter :=
  { currentRequestContext := none, method := "", path := "", teeType }

def extractHeader (key : String) (headers : List Header) : String :=
  match headers.find? fun header => header.key = key with
  | some header => header.rawValue
  | none => ""

def eval (host : PolicyHost) (rule : Rule) (input : List (String × Json)) : Except String Json :=
  match host.query rule input with
  | .error message => .error message
  | .ok [] => .error "got undefined result on running query"
  | .ok [decision] => .ok decision
  | .ok _ => .error "got multiple evaluation results on running query"

def policyInput (filter : OpaFilter) (fields : List (String × Json)) : List (String × Json) :=
  insertField "teeType" (.string filter.teeType)
    (insertField "context" (filter.currentRequestContext.getD .null) fields)

def processRequest (host : PolicyHost) (filter : OpaFilter) (rule : Rule)
    (request : ProcessingRequest) : Except ProcessingResponse Json × OpaFilter :=
  match host.requestToInput request with
  | .error _ =>
      (.error (createErrorProxyResponse statusInternalServerError
        "failed to convert incoming message to policy input"), filter)
  | .ok fields =>
      match eval host rule (policyInput filter fields) with
      | .error _ =>
          (.error (createErrorProxyResponse statusInternalServerError
            "failed to evaluate query"), filter)
      | .ok decision =>
          match isAllowed decision with
          | .error _ =>
              (.error (createErrorProxyResponse statusInternalServerError
                "failed to get allowed value"), filter)
          | .ok false => (.error (disallowedResponse host decision), filter)
          | .ok true =>
              match isImmediateResponse decision with
              | .error _ =>
                  (.error (createErrorProxyResponse statusInternalServerError
                    "failed to get response body"), filter)
              | .ok true => (.error (immediateResponse decision), filter)
              | .ok false =>
                  match getResponseContext decision with
                  | .error _ =>
                      (.error (createErrorProxyResponse statusInternalServerError
                        "failed to get response context"), filter)
                  | .ok none => (.ok decision, filter)
                  | .ok (some context) =>
                      (.ok decision, { filter with currentRequestContext := some context })

def onRequestHeaders (host : PolicyHost) (filter : OpaFilter) (headers : List Header) :
    ProcessingResponse × OpaFilter :=
  let filter := { filter with
    method := extractHeader ":method" headers
    path := extractHeader ":path" headers }
  match processRequest host filter .onRequestHeaders (.requestHeaders headers) with
  | (.error response, filter) => (response, filter)
  | (.ok _, filter) => (.requestHeaders ⟨.continue_, none, none⟩, filter)

def onResponseHeaders (host : PolicyHost) (filter : OpaFilter) (headers : List Header) :
    ProcessingResponse × OpaFilter :=
  match processRequest host filter .onResponseHeaders (.responseHeaders headers) with
  | (.error response, filter) => (response, filter)
  | (.ok _, filter) => (.responseHeaders ⟨.continue_, none, none⟩, filter)

def onBody (host : PolicyHost) (filter : OpaFilter) (rule : Rule) (request : ProcessingRequest)
    (body : Bytes) (answer : CommonResponse → ProcessingResponse) :
    ProcessingResponse × OpaFilter :=
  match processRequest host filter rule request with
  | (.error response, filter) => (response, filter)
  | (.ok decision, filter) =>
      match mutationResponse decision body with
      | .error _ =>
          (createErrorProxyResponse statusInternalServerError "failed to get mutation response",
            filter)
      | .ok (headerMutation, bodyMutation) =>
          (answer ⟨.continue_, headerMutation, bodyMutation⟩, filter)

def onRequestBody (host : PolicyHost) (filter : OpaFilter) (body : Bytes) :
    ProcessingResponse × OpaFilter :=
  onBody host filter .onRequestBody (.requestBody body) body .requestBody

def onResponseBody (host : PolicyHost) (filter : OpaFilter) (body : Bytes) :
    ProcessingResponse × OpaFilter :=
  onBody host filter .onResponseBody (.responseBody body) body .responseBody

def handleProxyRequest (host : PolicyHost) (filter : OpaFilter) (request : ProcessingRequest) :
    ProcessingResponse × OpaFilter :=
  match request with
  | .requestHeaders headers => onRequestHeaders host filter headers
  | .requestBody body => onRequestBody host filter body
  | .responseHeaders headers => onResponseHeaders host filter headers
  | .responseBody body => onResponseBody host filter body
  | .other typeName =>
      (createErrorProxyResponse statusBadRequest
        s!"unexpected processing request type {typeName}", filter)

def processStream (host : PolicyHost) (filter : OpaFilter) (requests : List ProcessingRequest) :
    OpaFilter :=
  requests.foldl (fun filter request => (handleProxyRequest host filter request).2) filter

end CleanRoom.Filter
