import CleanRoom.Library.Joining
import CleanRoom.Library.Memo
import CleanRoom.Library.Throwing

/-!
# Clients of other services

`HttpClientManager` keeps the clients that it made under a key: the address of the
service, the certificates or the discovery endpoint of a locator, and the name of the
retry policy, joined by `_` and compared without regard to case. What a client accepts
from a server and the certificate that it presents are fixed when it is made. The flag
that skips verification, the certificate of the client and the host data that a locator
expects are not in the key.
-/

namespace CleanRoom.RestApi

open Joining Memo Throwing

/-- What the platform decides. -/
structure ClientHost where
  /-- Texts with the same folded characters are equal for
  `StringComparer.OrdinalIgnoreCase`. -/
  foldChar : Char → Char
  /-- The underscore is no letter. -/
  underscore : ∀ char, foldChar char = '_' ↔ char = '_'
  /-- `X509Certificate2.CreateFromPem` succeeds. -/
  isCertificate : String → Bool
  /-- `new Uri` succeeds. -/
  isUri : String → Bool
  /-- `X509Chain.Build` with custom roots: roots, certificate, elements of the chain. -/
  chainBuilds : List String → String → List String → Bool

structure ClientCertificate where
  certificate : String
  privateKey : String
deriving DecidableEq

inductive LocatorKind where
  | ccfService (skipDigestCheck : Bool) (constitutionDigest jsAppBundleDigest : String)
  | sparkFrontend
  | inferencingFrontend
deriving DecidableEq

structure ServiceCertLocator where
  kind : LocatorKind
  certificateDiscoveryEndpoint : String
  hostData : List String
deriving DecidableEq

/-- What a server shows when a connection is opened, with the verdict of the platform. -/
structure Presented where
  noPolicyErrors : Bool
  certificate : Option String
  chain : Option (List String)

structure ServerCertValidationHandler where
  roots : Option (List String)
  skipTlsVerify : Bool
  clientCert : Option ClientCertificate
deriving DecidableEq

/-- `RemoteCertificateValidationCallback`. -/
def ServerCertValidationHandler.accepts (host : ClientHost)
    (handler : ServerCertValidationHandler) (presented : Presented) : Bool :=
  if presented.noPolicyErrors then true
  else
    match presented.certificate, presented.chain with
    | some cert, some chain =>
        match handler.roots with
        | none => handler.skipTlsVerify
        | some roots => host.chainBuilds roots cert chain
    | _, _ => false

/-- A client with a locator has an `AutoRenewingCertHandler` before its other handler. -/
structure HttpClient where
  baseAddress : String
  handler : ServerCertValidationHandler
  certLocator : Option ServiceCertLocator
deriving DecidableEq

inductive ClientFailure where
  | download (message : String)
  | certificate
  | uriFormat
deriving DecidableEq

/-- A call of one of the overloads of `GetOrAddClient`. The name of the endpoint is only
logged. -/
inductive ClientCall where
  | certs (endpoint : String) (endpointCerts : List String) (policyKey : String)
      (skipTlsVerify : Bool) (clientCert : Option ClientCertificate)
  | locator (endpoint : String) (endpointCertLocator : ServiceCertLocator) (policyKey : String)
      (download : Except String String)

def certCall (endpoint policyKey : String) (endpointCert : Option String) (skipTlsVerify : Bool)
    (clientCert : Option ClientCertificate) : ClientCall :=
  .certs endpoint (endpointCert.toList.filter fun cert => cert ≠ "") policyKey skipTlsVerify
    clientCert

def toKey : ClientCall → String
  | .certs endpoint endpointCerts policyKey _ _ =>
      if endpointCerts.isEmpty then endpoint ++ "_" ++ policyKey
      else endpoint ++ "_" ++ String.intercalate "_" endpointCerts ++ "_" ++ policyKey
  | .locator endpoint endpointCertLocator policyKey _ =>
      endpoint ++ "_" ++ endpointCertLocator.certificateDiscoveryEndpoint ++ "_" ++ policyKey

def addressOf (endpoint : String) : String :=
  if "http".toList.isPrefixOf endpoint.toList then endpoint else "https://" ++ endpoint

def setRootCertsCollection (host : ClientHost) (serviceCertPems : List String) :
    Except ClientFailure (Option (List String)) :=
  if serviceCertPems.isEmpty then .ok none
  else if serviceCertPems.all host.isCertificate then .ok (some serviceCertPems)
  else .error .certificate

def clientAt (host : ClientHost) (endpoint : String) (handler : ServerCertValidationHandler)
    (certLocator : Option ServiceCertLocator) : Except ClientFailure HttpClient :=
  if host.isUri (addressOf endpoint) then .ok ⟨addressOf endpoint, handler, certLocator⟩
  else .error .uriFormat

def initializeClient (host : ClientHost) : ClientCall → Except ClientFailure HttpClient
  | .certs endpoint endpointCerts _ skipTlsVerify clientCert => do
      let roots ← setRootCertsCollection host endpointCerts
      clientAt host endpoint ⟨roots, skipTlsVerify, clientCert⟩ none
  | .locator endpoint endpointCertLocator _ download => do
      match download with
      | .error message => .error (.download message)
      | .ok initialServiceCertPem =>
          let roots ← setRootCertsCollection host [initialServiceCertPem]
          clientAt host endpoint ⟨roots, false, none⟩ (some endpointCertLocator)

/-- Whether the server of a request is accepted, and the client afterwards.
`AutoRenewingCertHandler` replaces the root by the one that its locator downloads and tries
once more. -/
def sendAsync (host : ClientHost) (client : HttpClient)
    (download : ServiceCertLocator → Except String String) (presented : Presented) :
    Bool × HttpClient :=
  if client.handler.accepts host presented then (true, client)
  else
    match client.certLocator with
    | none => (false, client)
    | some certLocator =>
        match download certLocator with
        | .error _ => (false, client)
        | .ok serviceCertPem =>
            match setRootCertsCollection host [serviceCertPem] with
            | .error _ => (false, client)
            | .ok roots =>
                let renewed := { client.handler with roots := roots }
                (renewed.accepts host presented, { client with handler := renewed })

def cacheKey (host : ClientHost) (call : ClientCall) : List Char :=
  (toKey call).toList.map host.foldChar

/-- The calls of a manager that starts without clients, with what they return. -/
def clientRun (host : ClientHost) (calls : List ClientCall) :
    List (ClientCall × Except ClientFailure HttpClient) :=
  answers (cacheKey host) (initializeClient host) [] calls

/-- How servers are authenticated: by the verdict on what they show, or by the certificates
that a locator finds. -/
inductive Authentication where
  | byVerdict (accepts : Presented → Bool)
  | byLocator (locator : ServiceCertLocator)

structure ClientSettings where
  authentication : Authentication
  clientCert : Option ClientCertificate

/-- A server that the platform does not accept is accepted when its chain ends in one of the
given certificates, or when there are none and verification is skipped. -/
def verifies (host : ClientHost) (endpointCerts : List String) (skipTlsVerify : Bool)
    (cert : String) (chain : List String) : Bool :=
  if endpointCerts.isEmpty then skipTlsVerify else host.chainBuilds endpointCerts cert chain

def verdict (verify : String → List String → Bool) (presented : Presented) : Bool :=
  presented.noPolicyErrors || presented.certificate.any fun cert =>
    presented.chain.any fun chain => verify cert chain

/-- What a call asks for. -/
def ClientCall.settings (host : ClientHost) : ClientCall → ClientSettings
  | .certs _ endpointCerts _ skipTlsVerify clientCert =>
      ⟨.byVerdict (verdict (verifies host endpointCerts skipTlsVerify)), clientCert⟩
  | .locator _ endpointCertLocator _ _ => ⟨.byLocator endpointCertLocator, none⟩

def HttpClient.settings (host : ClientHost) (client : HttpClient) : ClientSettings where
  authentication :=
    match client.certLocator with
    | none => .byVerdict (client.handler.accepts host)
    | some locator => .byLocator locator
  clientCert := client.handler.clientCert

/-- Every client that is returned has the settings of its own call. -/
def KeepsSettings (host : ClientHost) (calls : List ClientCall) : Prop :=
  ∀ answer ∈ clientRun host calls, ∀ client, answer.2 = .ok client →
    client.settings host = answer.1.settings host

/-- Requests leave the settings of a client as they are, also when its root is renewed. -/
theorem send_async_settings (host : ClientHost) (client : HttpClient)
    (download : ServiceCertLocator → Except String String) (presented : Presented) :
    (sendAsync host client download presented).2.settings host = client.settings host := by
  unfold sendAsync
  split
  · rfl
  · split
    · rfl
    next located =>
      repeat' split
      all_goals simp only [HttpClient.settings, located]

theorem root_certs_ok (host : ClientHost) (pems : List String) (roots : Option (List String)) :
    setRootCertsCollection host pems = .ok roots ↔
      pems.all host.isCertificate = true ∧ roots = if pems.isEmpty then none else some pems := by
  unfold setRootCertsCollection
  split
  next empty =>
    rw [List.isEmpty_iff.mp empty]
    exact ⟨fun same => ⟨rfl, (Except.ok.inj same).symm⟩, fun same => congrArg _ same.2.symm⟩
  · split
    next readable =>
      exact ⟨fun same => ⟨readable, (Except.ok.inj same).symm⟩,
        fun same => congrArg _ same.2.symm⟩
    next unreadable => exact ⟨nofun, fun same => absurd same.1 unreadable⟩

theorem client_at_ok (host : ClientHost) (endpoint : String)
    (handler : ServerCertValidationHandler) (certLocator : Option ServiceCertLocator)
    (client : HttpClient) :
    clientAt host endpoint handler certLocator = .ok client ↔
      host.isUri (addressOf endpoint) = true ∧
        client = ⟨addressOf endpoint, handler, certLocator⟩ := by
  unfold clientAt
  split
  next isUri =>
    exact ⟨fun same => ⟨isUri, (Except.ok.inj same).symm⟩, fun same => congrArg _ same.2.symm⟩
  next noUri => exact ⟨nofun, fun same => absurd same.1 noUri⟩

theorem accepts_given (host : ClientHost) (pems : List String) (skipTlsVerify : Bool)
    (clientCert : Option ClientCertificate) :
    ServerCertValidationHandler.accepts host
        ⟨if pems.isEmpty then none else some pems, skipTlsVerify, clientCert⟩ =
      verdict (verifies host pems skipTlsVerify) := by
  funext presented
  obtain ⟨noErrors, cert, chain⟩ := presented
  cases noErrors <;> cases cert <;> cases chain <;> cases pems <;> rfl

/-- A client can be made: the certificate was found, all certificates can be read and the
address is one. -/
def Makes (host : ClientHost) : ClientCall → Prop
  | .certs endpoint endpointCerts _ _ _ =>
      endpointCerts.all host.isCertificate = true ∧ host.isUri (addressOf endpoint) = true
  | .locator endpoint _ _ download =>
      ∃ pem, download = .ok pem ∧ host.isCertificate pem = true ∧
        host.isUri (addressOf endpoint) = true

theorem initialize_client_settings (host : ClientHost) (call : ClientCall) (client : HttpClient)
    (made : initializeClient host call = .ok client) :
    client.settings host = call.settings host := by
  cases call with
  | certs endpoint endpointCerts policyKey skipTlsVerify clientCert =>
      obtain ⟨roots, read, built⟩ := of_bind made
      obtain ⟨_, rfl⟩ := (root_certs_ok host _ roots).mp read
      obtain ⟨_, rfl⟩ := (client_at_ok host _ _ _ client).mp built
      simp only [HttpClient.settings, ClientCall.settings, accepts_given]
  | locator endpoint endpointCertLocator policyKey download =>
      cases download with
      | error message => cases made
      | ok pem =>
          obtain ⟨roots, read, built⟩ := of_bind made
          obtain ⟨_, rfl⟩ := (client_at_ok host _ _ _ client).mp built
          rfl

theorem initialize_client_ok (host : ClientHost) (call : ClientCall) :
    (∃ client, initializeClient host call = .ok client) ↔ Makes host call := by
  cases call with
  | certs endpoint endpointCerts policyKey skipTlsVerify clientCert =>
      simp only [initializeClient, bind_eq_ok, root_certs_ok, client_at_ok, Makes]
      simp
  | locator endpoint endpointCertLocator policyKey download =>
      cases download with
      | error message => simp [initializeClient, Makes]
      | ok pem =>
          simp only [initializeClient, bind_eq_ok, root_certs_ok, client_at_ok, Makes]
          simp

/-- The arguments that the key is made of. -/
def keyArguments : ClientCall → List String
  | .certs endpoint endpointCerts policyKey _ _ => endpoint :: (endpointCerts ++ [policyKey])
  | .locator endpoint endpointCertLocator policyKey _ =>
      [endpoint, endpointCertLocator.certificateDiscoveryEndpoint, policyKey]

/-- The parts of these arguments between underscores, without regard to case. -/
def keyParts (host : ClientHost) (call : ClientCall) : List (List Char) :=
  ((keyArguments call).flatMap fun text => text.toList.splitOn '_').map (List.map host.foldChar)

theorem to_key_split (call : ClientCall) :
    (toKey call).toList.splitOn '_' =
      (keyArguments call).flatMap fun text => text.toList.splitOn '_' := by
  have underscore : "_".toList = ['_'] := rfl
  cases call with
  | certs endpoint endpointCerts policyKey skipTlsVerify clientCert =>
      cases endpointCerts with
      | nil => simp [toKey, keyArguments, underscore, List.splitOn_append_cons_self]
      | cons cert certs =>
          have split : (String.intercalate "_" (cert :: certs)).toList.splitOn '_' = _ :=
            split_on_intercalate cert certs
          simp only [toKey, keyArguments, List.isEmpty_cons, Bool.false_eq_true, if_false,
            String.toList_append, underscore, List.append_assoc, List.cons_append,
            List.nil_append, List.splitOn_append_cons_self, split, List.flatMap_cons,
            List.flatMap_append, List.flatMap_nil, List.append_nil]
  | locator endpoint endpointCertLocator policyKey download =>
      simp [toKey, keyArguments, underscore, List.splitOn_append_cons_self]

theorem cache_key_eq_iff (host : ClientHost) (first later : ClientCall) :
    cacheKey host first = cacheKey host later ↔ keyParts host first = keyParts host later := by
  rw [cacheKey, cacheKey, map_eq_iff_split_on host.foldChar host.underscore, to_key_split,
    to_key_split]
  rfl

/-- Both calls are of one overload, with one client certificate and certificates and a flag
that verify the same servers, or with one locator. -/
def ArgumentsAgree (host : ClientHost) : ClientCall → ClientCall → Prop
  | .certs _ endpointCerts _ skipTlsVerify clientCert, .certs _ otherCerts _ otherSkip other =>
      (∀ cert chain, verifies host endpointCerts skipTlsVerify cert chain =
        verifies host otherCerts otherSkip cert chain) ∧ clientCert = other
  | .locator _ endpointCertLocator _ _, .locator _ other _ _ => endpointCertLocator = other
  | _, _ => False

theorem verdict_inj (verify other : String → List String → Bool) :
    verdict verify = verdict other ↔ ∀ cert chain, verify cert chain = other cert chain := by
  constructor
  · intro same cert chain
    simpa [verdict] using congrFun same ⟨false, some cert, some chain⟩
  · intro same
    rw [funext fun cert => funext (same cert)]

theorem settings_eq_iff (host : ClientHost) (first later : ClientCall) :
    first.settings host = later.settings host ↔ ArgumentsAgree host first later := by
  cases first <;> cases later <;>
    simp [ClientCall.settings, ArgumentsAgree, verdict_inj]

/-- `HttpRetries.Policies.DefaultRetryPolicy(logger).PolicyKey` -/
def defaultRetryPolicyKey : String := "DefaultRetryPolicy"

def governanceClientCall (ccfEndpoint ccfServiceCert : String) (signing : ClientCertificate) :
    ClientCall :=
  certCall ccfEndpoint defaultRetryPolicyKey (some ccfServiceCert) false (some signing)

theorem to_upper_eq_underscore (char : Char) : char.toUpper = '_' ↔ char = '_' := by
  unfold Char.toUpper
  split
  next lower =>
    rw [← Char.val_inj, ← Char.val_inj]
    grind
  · rfl

/-- A platform that reads every certificate and address, and folds ASCII letters. A chain is
trusted when it ends in a root. -/
def asciiClientHost : ClientHost where
  foldChar := Char.toUpper
  underscore := to_upper_eq_underscore
  isCertificate _ := true
  isUri _ := true
  chainBuilds roots cert chain := (cert :: chain).getLast?.any roots.contains

def aliceSigning : ClientCertificate := ⟨"alice", "alice-key"⟩

def bobSigning : ClientCertificate := ⟨"bob", "bob-key"⟩

end CleanRoom.RestApi
