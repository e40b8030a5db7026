import CleanRoom.Governance.AcceptedOnce
import CleanRoom.Library.Joining

/-!
# Signing keys and their rotation

The OIDC issuer and the signing service each have a signing key. The members request a
first key with an `enable` action and further ones with `rotate` actions. These write the
number of the request to a governance table. The endpoint that generates keys writes to a
private table, and makes a key only where the one that is there is for another request.
-/

namespace CleanRoom.Governance

open JavaScript Throwing

structure KeyPair where
  publicKey : String
  privateKey : String

structure SigningKeyItem where
  kid : String
  reqId : Option String
  publicKey : String
  privateKey : String

structure GenerateKeyResponse where
  reqId : Option String
  kid : String

def govText (table : GovTable) (key : String) (ledger : Ledger) : Option String :=
  match ledger.kvGet (.fixed table) key with
  | some (.string text) => some text
  | _ => none

def textOrUndefined (text : Option String) : String := text.getD "undefined"

/-- The key that is kept afterwards stands beside the answer. The pair is the one that
`generateRsaKeyPair` would make. -/
def generateKey (table : GovTable) (code message : String) (pair : KeyPair) (ledger : Ledger)
    (existingItem : Option SigningKeyItem) :
    Except RequestFailure (GenerateKeyResponse × SigningKeyItem) :=
  if govText table "enabled" ledger ≠ some "true" then refuse 405 code message
  else
    let reqId := govText table "generateSigningKeyRequestId" ledger
    let kid := textOrUndefined (govText table "generateSigningKeyKid" ledger)
    let item : SigningKeyItem :=
      { kid := kid ++ "-" ++ textOrUndefined reqId
        reqId := reqId
        publicKey := pair.publicKey
        privateKey := pair.privateKey }
    match existingItem with
    | some existing =>
        if existing.reqId = reqId then .ok (⟨reqId, existing.kid⟩, existing)
        else .ok (⟨item.reqId, item.kid⟩, item)
    | none => .ok (⟨item.reqId, item.kid⟩, item)

def generateIssuerSigningKey :=
  generateKey .oidcIssuer "OidcIssuerNotEnabled" "Oidc issuer support has not been enabled."

def generateSigningKey :=
  generateKey .signing "SigningNotEnabled" "Signing support has not been enabled."

inductive KeyManager where
  | oidcIssuer
  | signing
deriving DecidableEq

namespace KeyManager

def table : KeyManager → GovTable
  | oidcIssuer => .oidcIssuer
  | signing => .signing

def enable : KeyManager → ActionName
  | oidcIssuer => .enableOidcIssuer
  | signing => .enableSigning

def rotate : KeyManager → ActionName
  | oidcIssuer => .oidcIssuerEnableRotateSigningKey
  | signing => .signingEnableRotateSigningKey

def generate : KeyManager → KeyPair → Ledger → Option SigningKeyItem →
    Except RequestFailure (GenerateKeyResponse × SigningKeyItem)
  | oidcIssuer => generateIssuerSigningKey
  | signing => generateSigningKey

end KeyManager

structure KeyStore where
  ledger : Ledger
  keys : KeyManager → Option SigningKeyItem

inductive KeyEvent where
  | governance (event : Event)
  | generate (manager : KeyManager) (pair : KeyPair)

def keyStep (host : CcfHost) (store : KeyStore) : KeyEvent → KeyStore
  | .governance event => { store with ledger := advance host store.ledger event }
  | .generate manager pair =>
      match manager.generate pair store.ledger (store.keys manager) with
      | .ok (_, item) => { store with keys := Function.update store.keys manager (some item) }
      | .error _ => store

def keyRun (host : CcfHost) (store : KeyStore) (events : List KeyEvent) : KeyStore :=
  events.foldl (keyStep host) store

def settledActions (host : CcfHost) (proposal : Proposal) (votes : List Vote) (ledger : Ledger) :
    List ProposedAction :=
  match resolve host ledger proposal.actions proposal.proposerId votes with
  | .ok .accepted => proposal.actions
  | _ => []

def appliedActions (host : CcfHost) (ledger : Ledger) (event : Event) : List ProposedAction :=
  match step host ledger event with
  | .error _ => []
  | .ok _ =>
      match event with
      | .propose memberId proposalId actions =>
          let proposal := newProposal memberId actions
          settledActions host proposal [] (ledger.putProposal proposalId proposal)
      | .ballot memberId proposalId votes =>
          match ledger.proposals.lookup proposalId with
          | none => []
          | some proposal =>
              let proposal := proposal.addBallot memberId
              settledActions host proposal votes (ledger.putProposal proposalId proposal)
      | _ => []

def KeyEvent.actions (host : CcfHost) (store : KeyStore) : KeyEvent → List ProposedAction
  | .governance event => appliedActions host store.ledger event
  | .generate _ _ => []

def keyActions (host : CcfHost) : KeyStore → List KeyEvent → List ProposedAction
  | _, [] => []
  | store, event :: events =>
      event.actions host store ++ keyActions host (keyStep host store event) events

def KeyEvent.issued (manager : KeyManager) (store : KeyStore) : KeyEvent → Option SigningKeyItem
  | .governance _ => none
  | .generate other pair =>
      if other = manager then
        match manager.generate pair store.ledger (store.keys manager) with
        | .ok (response, item) =>
            if (store.keys manager).map SigningKeyItem.reqId = some response.reqId then none
            else some item
        | .error _ => none
      else none

def issuedKeys (host : CcfHost) (manager : KeyManager) :
    KeyStore → List KeyEvent → List SigningKeyItem
  | _, [] => []
  | store, event :: events =>
      (event.issued manager store).toList ++
        issuedKeys host manager (keyStep host store event) events

def requestNumber (manager : KeyManager) (ledger : Ledger) : Nat :=
  ((govText manager.table "generateSigningKeyRequestId" ledger).bind parseDecimal).getD 0

/-- What one action does to the number. The first `enable` makes it one, and later ones
change nothing. A `rotate` counts it up once there has been an `enable`. -/
def nextNumber (manager : KeyManager) (number : Nat) (action : ProposedAction) : Nat :=
  if action.name = manager.enable then if number = 0 then 1 else number
  else if action.name = manager.rotate then if number = 0 then 0 else countedUp number
  else number

theorem next_number_positive (manager : KeyManager) (number : Nat) (action : ProposedAction)
    (positive : number ≠ 0) : nextNumber manager number action ≠ 0 := by
  unfold nextNumber countedUp
  split_ifs <;> omega

theorem parse_digits (chars : List Char) (value : Nat)
    (digits : ∀ char ∈ chars, char.isDigit = true) :
    (chars.foldlM (fun value char =>
      if '0' ≤ char ∧ char ≤ '9' then some (10 * value + (char.toNat - '0'.toNat)) else none)
      value) = some (Nat.ofDigitChars 10 chars value) := by
  induction chars generalizing value with
  | nil => rfl
  | cons char chars ih =>
      obtain ⟨digit, rest⟩ := List.forall_mem_cons.mp digits
      have between : '0' ≤ char ∧ char ≤ '9' := by
        simp only [Char.isDigit, Bool.and_eq_true, decide_eq_true_eq] at digit
        exact digit
      rw [List.foldlM_cons, if_pos between, Nat.ofDigitChars_cons]
      exact ih _ rest

variable {manager : KeyManager} {number : Nat} {base : String} {ledger after : Ledger}
  {item : SigningKeyItem} {issued : List SigningKeyItem} {host : CcfHost} {store : KeyStore}
  {numbers : List Nat} {args : JsValue} {pair : KeyPair} {event : Event}

theorem parse_decimal_number : parseDecimal (toString number) = some number := by
  have text : (toString number).toList = Nat.toDigits 10 number := Nat.toList_repr
  unfold parseDecimal
  rw [text, if_neg Nat.toDigits_ne_nil, parse_digits]
  · rw [Nat.ofDigitChars_ten_toDigits]
  · exact fun char member => Nat.isDigit_of_mem_toDigits (by decide) (by decide) member

def Configured (manager : KeyManager) (base : String) (number : Nat) (ledger : Ledger) : Prop :=
  if number = 0 then
    ledger.kvGet (.fixed manager.table) "enabled" = none ∧
      ledger.kvGet (.fixed manager.table) "generateSigningKeyRequestId" = none
  else
    ledger.kvGet (.fixed manager.table) "enabled" = some (.string "true") ∧
      ledger.kvGet (.fixed manager.table) "generateSigningKeyRequestId" =
        some (.string (toString number)) ∧
      ledger.kvGet (.fixed manager.table) "generateSigningKeyKid" = some (.string base)

theorem configured_number (ledger : Ledger) (configured : Configured manager base number ledger) :
    requestNumber manager ledger = number := by
  unfold Configured at configured
  unfold requestNumber govText
  split at configured
  next zero =>
    rw [configured.2, zero]
    rfl
  · rw [configured.2.1, Option.bind_some, parse_decimal_number]
    rfl

theorem configured_of_same (configured : Configured manager base number ledger)
    (same : after.gov (.fixed manager.table) = ledger.gov (.fixed manager.table)) :
    Configured manager base number after := by
  unfold Configured Ledger.kvGet at configured ⊢
  rw [same]
  exact configured

theorem apply_enable_key_ok (table : GovTable)
    (applied : applyEnableKey table args ledger = .ok after) :
    (ledger.kvHas (.fixed table) "enabled" = true ∧ after = ledger) ∨
      (ledger.kvHas (.fixed table) "enabled" = false ∧ ∃ kid,
        after = ((ledger.kvSet (.fixed table) "enabled" (.string "true")).kvSet (.fixed table)
          "generateSigningKeyRequestId" (.string "1")).kvSet (.fixed table)
            "generateSigningKeyKid" (.string kid)) := by
  unfold applyEnableKey at applied
  cases enabled : ledger.kvHas (.fixed table) "enabled" with
  | true =>
      rw [enabled] at applied
      cases applied
      exact .inl ⟨rfl, rfl⟩
  | false =>
      rw [enabled] at applied
      obtain ⟨given, _, named⟩ := of_bind applied
      obtain ⟨kid, _, written⟩ := of_bind named
      cases written
      exact .inr ⟨rfl, kid, rfl⟩

/-- The first `enable` decides the name that the keys begin with. -/
theorem enable_configured (manager : KeyManager) (base : String) (number : Nat)
    (ledger after : Ledger) (configured : Configured manager base number ledger) (args : JsValue)
    (applied : applyEnableKey manager.table args ledger = .ok after) :
    ∃ base', (number ≠ 0 → base' = base) ∧
      Configured manager base' (if number = 0 then 1 else number) after := by
  unfold Configured at configured
  split at configured
  next zero =>
    rcases apply_enable_key_ok manager.table applied with
      ⟨enabled, _⟩ | ⟨_, kid, rfl⟩
    · rw [Ledger.kvHas, configured.1] at enabled
      cases enabled
    · refine ⟨kid, fun positive => absurd zero positive, ?_⟩
      have one : toString 1 = "1" := rfl
      rw [if_pos zero, Configured, if_neg (by decide), one]
      simp [Ledger.kv_get_set]
  next positive =>
    rcases apply_enable_key_ok manager.table applied with
      ⟨_, rfl⟩ | ⟨disabled, _⟩
    · refine ⟨base, fun _ => rfl, ?_⟩
      rw [if_neg positive, Configured, if_neg positive]
      exact configured
    · rw [Ledger.kvHas, configured.1] at disabled
      cases disabled

theorem counted_up_positive (positive : number ≠ 0) : countedUp number ≠ 0 := by
  unfold countedUp
  split <;> omega

theorem rotate_configured (configured : Configured manager base number ledger)
    (applied : applyRotateKey manager.table ledger = .ok after) :
    Configured manager base (if number = 0 then 0 else countedUp number) after := by
  unfold Configured at configured
  unfold applyRotateKey at applied
  split at configured
  next zero =>
    rw [configured.2] at applied
    cases applied
    rw [if_pos zero, Configured, if_pos rfl]
    exact configured
  next positive =>
    rw [configured.2.1] at applied
    cases applied
    have next : nextRequestId (toString number) = toString (countedUp number) := by
      rw [nextRequestId, parse_decimal_number]
    rw [if_neg positive, Configured, if_neg (counted_up_positive positive), next]
    simp [Ledger.kv_get_set, configured.1, configured.2.2]

theorem other_action_footprint (name : ActionName) (notEnable : name ≠ manager.enable)
    (notRotate : name ≠ manager.rotate) (notUrl : name ≠ .setOidcIssuerUrl) :
    Area.fixed manager.table ∉ name.footprint := by
  cases manager <;> cases name <;>
    simp_all [ActionName.footprint, KeyManager.table, KeyManager.enable, KeyManager.rotate]

theorem url_configured (configured : Configured manager base number ledger)
    (applied : applySetOidcIssuerUrl args ledger = .ok after) :
    Configured manager base number after := by
  obtain ⟨given, _, named⟩ := of_bind applied
  obtain ⟨url, _, written⟩ := of_bind named
  cases written
  cases manager with
  | oidcIssuer =>
      unfold Configured at configured ⊢
      simpa [KeyManager.table, Ledger.kv_get_set] using configured
  | signing =>
      apply configured_of_same configured
      exact Ledger.set_table_other _ _ _ _ (by decide)

theorem action_configured (host : CcfHost) (manager : KeyManager) (base : String) (number : Nat)
    (ledger after : Ledger) (configured : Configured manager base number ledger)
    (action : ProposedAction) (proposalId : String)
    (applied : applyAction host action.args proposalId ledger action.name = .ok after) :
    ∃ base', (number ≠ 0 → base' = base) ∧
      Configured manager base' (nextNumber manager number action) after := by
  unfold nextNumber
  split
  next enables =>
    rw [enables] at applied
    apply enable_configured manager base number ledger after configured action.args
    cases manager <;> exact applied
  next notEnable =>
    refine ⟨base, fun _ => rfl, ?_⟩
    split
    next rotates =>
      rw [rotates] at applied
      apply rotate_configured configured
      cases manager <;> exact applied
    next notRotate =>
      by_cases isUrl : action.name = .setOidcIssuerUrl
      · rw [isUrl] at applied
        exact url_configured configured applied
      · apply configured_of_same configured
        have confined := apply_action_confined host action.args proposalId ledger action.name
          after applied
        apply confined.gov
        exact other_action_footprint action.name notEnable notRotate isUrl

theorem apply_configured (host : CcfHost) (manager : KeyManager) (base : String) (number : Nat)
    (actions : List ProposedAction) (proposalId : String) (ledger after : Ledger)
    (configured : Configured manager base number ledger)
    (applied : apply host actions proposalId ledger = .ok after) :
    ∃ base', (number ≠ 0 → base' = base) ∧
      Configured manager base' (actions.foldl (nextNumber manager) number) after := by
  induction actions generalizing base number ledger with
  | nil =>
      cases applied
      exact ⟨base, fun _ => rfl, configured⟩
  | cons action actions ih =>
      unfold apply at applied
      rw [List.foldlM_cons] at applied
      obtain ⟨middle, first, rest⟩ := of_bind applied
      obtain ⟨base', kept, configured'⟩ :=
        action_configured host manager base number ledger middle configured action proposalId first
      obtain ⟨base'', kept', configured''⟩ := ih base' _ middle configured' rest
      refine ⟨base'', fun positive => ?_, configured''⟩
      rw [kept' (next_number_positive manager number action positive), kept positive]

theorem settled_configured (host : CcfHost) (manager : KeyManager) (base : String) (number : Nat)
    (proposalId : String) (proposal : Proposal) (votes : List Vote) (ledger after : Ledger)
    (configured : Configured manager base number ledger)
    (settled : Settled host proposalId proposal votes ledger after) :
    ∃ base', (number ≠ 0 → base' = base) ∧
      Configured manager base'
        ((settledActions host proposal votes ledger).foldl (nextNumber manager) number) after := by
  unfold settledActions
  cases settled with
  | opened resolution same =>
      rw [resolution, same]
      exact ⟨base, fun _ => rfl, configured⟩
  | rejected resolution closed =>
      rw [resolution, closed]
      exact ⟨base, fun _ => rfl, configured⟩
  | accepted resolution applied =>
      rw [resolution]
      have recorded : Configured manager base number
          (ledger.putProposal proposalId (proposal.close .accepted votes)) := configured
      exact apply_configured host manager base number proposal.actions proposalId _ after
        recorded applied

theorem advance_configured (ledger : Ledger) (configured : Configured manager base number ledger) :
    ∃ base', (number ≠ 0 → base' = base) ∧
      Configured manager base'
        ((appliedActions host ledger event).foldl (nextNumber manager) number)
        (advance host ledger event) := by
  unfold advance appliedActions
  cases stepped : step host ledger event with
  | error failure => exact ⟨base, fun _ => rfl, configured⟩
  | ok after =>
      cases step_cases host ledger after event stepped with
      | propose memberId proposalId actions after _ _ _ settled =>
          exact settled_configured host manager base number proposalId _ _ _ after configured
            settled
      | ballot memberId proposalId votes proposal after _ found _ _ settled =>
          dsimp only
          rw [found]
          exact settled_configured host manager base number proposalId _ _ _ after configured
            settled
      | withdraw memberId proposalId proposal _ _ => exact ⟨base, fun _ => rfl, configured⟩
      | ack memberId info _ => exact ⟨base, fun _ => rfl, configured⟩
      | putContract id body after put =>
          obtain ⟨value, _, rfl⟩ := put_contract_ok ledger after put
          exact ⟨base, fun _ => rfl, configured⟩
      | putMemberDocument id body after put =>
          obtain ⟨value, _, rfl⟩ := put_member_document_ok ledger after put
          exact ⟨base, fun _ => rfl, configured⟩

def SigningKeyItem.label (item : SigningKeyItem) : Option String × String := (item.reqId, item.kid)

def numberedLabel (base : String) (number : Nat) : Option String × String :=
  (some (toString number), base ++ "-" ++ toString number)

structure Issued (manager : KeyManager) (base : String) (number : Nat) (store : KeyStore)
    (issued : List SigningKeyItem) : Prop where
  configured : Configured manager base number store.ledger
  numbered : ∃ numbers : List Nat,
    issued.map SigningKeyItem.label = numbers.map (numberedLabel base) ∧
      numbers.Pairwise (· < ·) ∧ ∀ earlier ∈ numbers, 0 < earlier ∧ earlier ≤ number
  current : store.keys manager = issued.getLast?

theorem le_next_number (manager : KeyManager) (number : Nat) (action : ProposedAction) :
    number ≤ nextNumber manager number action := by
  unfold nextNumber countedUp
  split_ifs <;> omega

theorem le_numbers (manager : KeyManager) (actions : List ProposedAction) (number : Nat) :
    number ≤ actions.foldl (nextNumber manager) number := by
  induction actions generalizing number with
  | nil => exact Nat.le_refl number
  | cons action actions ih => exact Nat.le_trans (le_next_number manager number action) (ih _)

theorem governance_issued (known : Issued manager base number store issued) :
    ∃ base', (number ≠ 0 → base' = base) ∧
      Issued manager base' ((appliedActions host store.ledger event).foldl (nextNumber manager)
        number) (keyStep host store (.governance event)) issued := by
  obtain ⟨base', kept, configured⟩ :=
    advance_configured store.ledger known.configured
  refine ⟨base', kept, configured, ?_, known.current⟩
  obtain ⟨numbers, labelled, increasing, bounded⟩ := known.numbered
  refine ⟨numbers, ?_, increasing, fun earlier member => ⟨(bounded earlier member).1,
    Nat.le_trans (bounded earlier member).2 (le_numbers manager _ number)⟩⟩
  rw [labelled]
  cases numbers with
  | nil => rfl
  | cons earlier numbers =>
      -- A key has been made, so there has been an `enable` before.
      have positive := bounded earlier List.mem_cons_self
      rw [kept (by omega)]

theorem generate_configured (ledger : Ledger) (configured : Configured manager base number ledger)
    (existing : Option SigningKeyItem) (response : GenerateKeyResponse)
    (generated : manager.generate pair ledger existing = .ok (response, item)) :
    number ≠ 0 ∧ response.reqId = some (toString number) ∧
      item.reqId = some (toString number) ∧
      (existing.map SigningKeyItem.reqId = some (some (toString number)) → existing = some item) ∧
      (existing.map SigningKeyItem.reqId ≠ some (some (toString number)) →
        item.label = numberedLabel base number) := by
  have made : ∃ code message, generateKey manager.table code message pair ledger existing =
      .ok (response, item) := by
    cases manager with
    | oidcIssuer => exact ⟨_, _, generated⟩
    | signing => exact ⟨_, _, generated⟩
  obtain ⟨code, message, made⟩ := made
  unfold Configured at configured
  unfold generateKey govText at made
  split at configured
  · rw [configured.1] at made
    cases made
  next positive =>
    obtain ⟨enabled, requested, named⟩ := configured
    rw [enabled, requested, named] at made
    refine ⟨positive, ?_⟩
    rw [if_neg (by simp)] at made
    cases existing with
    | none =>
        cases made
        exact ⟨rfl, rfl, fun none => (by cases none), fun _ => rfl⟩
    | some old =>
        dsimp only at made
        split at made
        next same =>
          cases made
          exact ⟨rfl, same, fun _ => rfl, fun other => absurd (by rw [Option.map_some, same]) other⟩
        next other =>
          cases made
          refine ⟨rfl, rfl, fun same => absurd ?_ other, fun _ => rfl⟩
          simpa using same

theorem last_of_member (increasing : numbers.Pairwise (· < ·))
    (bounded : ∀ earlier ∈ numbers, 0 < earlier ∧ earlier ≤ number) (member : number ∈ numbers) :
    numbers.getLast? = some number := by
  induction numbers with
  | nil => cases member
  | cons first numbers ih =>
      obtain ⟨below, rest⟩ := List.pairwise_cons.mp increasing
      cases numbers with
      | nil => rw [List.mem_singleton.mp member, List.getLast?_singleton]
      | cons second numbers =>
          rw [List.getLast?_cons_cons]
          apply ih rest (fun earlier inside => bounded earlier (List.mem_cons_of_mem _ inside))
          rcases List.mem_cons.mp member with rfl | inside
          · have higher := below second List.mem_cons_self
            have low := bounded second (List.mem_cons_of_mem _ List.mem_cons_self)
            omega
          · exact inside

theorem numbered_append
    (labelled : issued.map SigningKeyItem.label = numbers.map (numberedLabel base))
    (increasing : numbers.Pairwise (· < ·))
    (bounded : ∀ earlier ∈ numbers, 0 < earlier ∧ earlier ≤ number) (positive : number ≠ 0)
    (other : issued.getLast?.map SigningKeyItem.reqId ≠ some (some (toString number)))
    (label : item.label = numberedLabel base number) :
    ∃ numbers : List Nat,
      (issued ++ [item]).map SigningKeyItem.label = numbers.map (numberedLabel base) ∧
        numbers.Pairwise (· < ·) ∧ ∀ earlier ∈ numbers, 0 < earlier ∧ earlier ≤ number := by
  have fresh : number ∉ numbers := by
    intro member
    apply other
    have last := congrArg (Option.map Prod.fst) (congrArg List.getLast? labelled)
    rw [List.getLast?_map, List.getLast?_map,
      last_of_member increasing bounded member, Option.map_map] at last
    exact last
  refine ⟨numbers ++ [number], ?_, ?_, ?_⟩
  · rw [List.map_append, List.map_append, labelled, List.map_singleton, List.map_singleton, label]
  · rw [List.pairwise_append]
    refine ⟨increasing, List.pairwise_singleton _ _, fun earlier member last inside => ?_⟩
    rw [List.mem_singleton.mp inside]
    have bound := bounded earlier member
    have different : earlier ≠ number := fun same => fresh (same ▸ member)
    omega
  · intro earlier member
    rcases List.mem_append.mp member with old | new
    · exact bounded earlier old
    · rw [List.mem_singleton.mp new]
      omega

theorem generate_issued (manager other : KeyManager)
    (known : Issued manager base number store issued) :
    Issued manager base number (keyStep host store (.generate other pair))
      (issued ++ (KeyEvent.issued manager store (.generate other pair)).toList) := by
  unfold keyStep KeyEvent.issued
  dsimp only
  by_cases here : other = manager
  · subst here
    rw [if_pos rfl]
    cases made : other.generate pair store.ledger (store.keys other) with
    | error failure =>
        rw [Option.toList_none, List.append_nil]
        exact known
    | ok result =>
        obtain ⟨response, item⟩ := result
        obtain ⟨positive, requested, _, same, new⟩ := generate_configured
          store.ledger known.configured (store.keys other) response made
        dsimp only
        rw [requested]
        split
        next current =>
          rw [Option.toList_none, List.append_nil]
          refine ⟨known.configured, known.numbered, ?_⟩
          rw [← known.current, same current]
          exact Function.update_self _ _ _
        next stale =>
          obtain ⟨numbers, labelled, increasing, bounded⟩ := known.numbered
          refine ⟨known.configured, ?_, ?_⟩
          · apply numbered_append labelled increasing bounded
              positive
            · rw [← known.current]
              exact stale
            · exact new stale
          · rw [Option.toList_some, List.getLast?_concat]
            exact Function.update_self _ _ _
  · rw [if_neg here, Option.toList_none, List.append_nil]
    split
    · refine ⟨known.configured, known.numbered, ?_⟩
      rw [← known.current]
      exact Function.update_of_ne (Ne.symm here) _ _
    · exact known

theorem key_step_issued (host : CcfHost) (manager : KeyManager) (base : String) (number : Nat)
    (store : KeyStore) (issued : List SigningKeyItem) (event : KeyEvent)
    (known : Issued manager base number store issued) :
    ∃ base', Issued manager base' ((event.actions host store).foldl (nextNumber manager) number)
      (keyStep host store event) (issued ++ (event.issued manager store).toList) := by
  cases event with
  | governance event =>
      obtain ⟨base', _, after⟩ :=
        governance_issued known
      rw [KeyEvent.issued, Option.toList_none, List.append_nil]
      exact ⟨base', after⟩
  | generate other pair =>
      exact ⟨base, generate_issued manager other known⟩

theorem key_run_issued (host : CcfHost) (manager : KeyManager) (base : String) (number : Nat)
    (store : KeyStore) (issued : List SigningKeyItem) (events : List KeyEvent)
    (known : Issued manager base number store issued) :
    ∃ base', Issued manager base' ((keyActions host store events).foldl (nextNumber manager) number)
      (keyRun host store events) (issued ++ issuedKeys host manager store events) := by
  induction events generalizing base number store issued with
  | nil =>
      rw [issuedKeys, List.append_nil]
      exact ⟨base, known⟩
  | cons event events ih =>
      obtain ⟨base', after⟩ := key_step_issued host manager base number store issued event known
      rw [issuedKeys, keyActions, List.foldl_append, ← List.append_assoc]
      exact ih base' _ _ _ after

structure Serves (manager : KeyManager) (number : Nat) (item : SigningKeyItem)
    (store : KeyStore) : Prop where
  configured : ∃ base, Configured manager base number store.ledger
  positive : number ≠ 0
  current : store.keys manager = some item
  requested : item.reqId = some (toString number)

theorem numbers_without_rotate (actions : List ProposedAction) (positive : number ≠ 0)
    (quiet : ∀ action ∈ actions, action.name ≠ manager.rotate) :
    actions.foldl (nextNumber manager) number = number := by
  induction actions with
  | nil => rfl
  | cons action actions ih =>
      obtain ⟨first, rest⟩ := List.forall_mem_cons.mp quiet
      have same : nextNumber manager number action = number := by
        simp [nextNumber, first, positive]
      rw [List.foldl_cons, same]
      exact ih rest

theorem serves_step (event : KeyEvent) (serves : Serves manager number item store)
    (quiet : ∀ action ∈ event.actions host store, action.name ≠ manager.rotate) :
    Serves manager number item (keyStep host store event) := by
  obtain ⟨base, configured⟩ := serves.configured
  cases event with
  | governance event =>
      obtain ⟨base', _, after⟩ :=
        advance_configured store.ledger configured
      have same : (appliedActions host store.ledger event).foldl (nextNumber manager) number =
          number := numbers_without_rotate _ serves.positive quiet
      rw [same] at after
      exact ⟨⟨base', after⟩, serves.positive, serves.current, serves.requested⟩
  | generate other pair =>
      dsimp only [keyStep]
      cases made : other.generate pair store.ledger (store.keys other) with
      | error failure => exact serves
      | ok result =>
          obtain ⟨response, made'⟩ := result
          refine ⟨⟨base, configured⟩, serves.positive, ?_, serves.requested⟩
          by_cases here : other = manager
          · subst here
            obtain ⟨_, _, _, same, _⟩ := generate_configured store.ledger
              configured (store.keys other) response made
            rw [serves.current] at same
            have kept := same (by rw [Option.map_some, serves.requested])
            rw [kept]
            exact Function.update_self _ _ _
          · rw [← serves.current]
            exact Function.update_of_ne (Ne.symm here) _ _

theorem serves_run (events : List KeyEvent) (serves : Serves manager number item store)
    (quiet : ∀ action ∈ keyActions host store events, action.name ≠ manager.rotate) :
    Serves manager number item (keyRun host store events) := by
  induction events generalizing store with
  | nil => exact serves
  | cons event events ih =>
      rw [keyActions] at quiet
      apply ih
      · apply serves_step event serves
        exact fun action member => quiet action (List.mem_append_left _ member)
      · exact fun action member => quiet action (List.mem_append_right _ member)

theorem numbered_label_nodup (increasing : numbers.Pairwise (· < ·)) :
    (numbers.map fun number => some (toString number)).Nodup ∧
      (numbers.map fun number => base ++ "-" ++ toString number).Nodup := by
  have nodup : numbers.Nodup := increasing.imp Nat.ne_of_lt
  constructor
  · apply nodup.map
    intro first second same
    exact Joining.to_string_inj (Option.some.inj same)
  · apply nodup.map
    intro first second same
    have joined : Joining.joined '-' base (toString first) =
        Joining.joined '-' base (toString second) := same
    exact Joining.to_string_inj (Joining.joined_right_injective _ _ _ _ joined)

/-- The number of requests follows from the actions that were applied. No two keys of a
manager are for one request, or of one name. The last key that was made is the present
one, and it stays until a key is requested again. -/
theorem signing_keys_follow_requests (host : CcfHost) (start : KeyStore) (manager : KeyManager)
    (notEnabled : start.ledger.kvGet (.fixed manager.table) "enabled" = none)
    (noRequest : start.ledger.kvGet (.fixed manager.table) "generateSigningKeyRequestId" = none)
    (noKey : start.keys manager = none) (events : List KeyEvent) :
    let store := keyRun host start events
    let issued := issuedKeys host manager start events
    requestNumber manager store.ledger =
        (keyActions host start events).foldl (nextNumber manager) 0 ∧
      (issued.map SigningKeyItem.reqId).Nodup ∧ (issued.map SigningKeyItem.kid).Nodup ∧
      store.keys manager = issued.getLast? ∧
      ∀ pair response item,
        manager.generate pair store.ledger (store.keys manager) = .ok (response, item) →
        ∀ more,
          let called := keyStep host store (.generate manager pair)
          (∀ action ∈ keyActions host called more, action.name ≠ manager.rotate) →
          (keyRun host called more).keys manager = some item := by
  intro store issued
  have initial : Issued manager "" 0 start [] := by
    refine ⟨?_, ⟨[], rfl, List.Pairwise.nil, by simp⟩, noKey⟩
    rw [Configured, if_pos rfl]
    exact ⟨notEnabled, noRequest⟩
  obtain ⟨base, known⟩ := key_run_issued host manager "" 0 start [] events initial
  rw [List.nil_append] at known
  obtain ⟨numbers, labelled, increasing, _⟩ := known.numbered
  obtain ⟨requests, names⟩ := numbered_label_nodup increasing
  refine ⟨configured_number _ known.configured, ?_, ?_, known.current, ?_⟩
  · have firsts := congrArg (List.map Prod.fst) labelled
    rw [List.map_map, List.map_map] at firsts
    exact firsts ▸ requests
  · have seconds := congrArg (List.map Prod.snd) labelled
    rw [List.map_map, List.map_map] at seconds
    exact seconds ▸ names
  · intro pair response item made more called quiet
    obtain ⟨positive, _, requested, _, _⟩ := generate_configured store.ledger
      known.configured (store.keys manager) response made
    have serves : Serves manager ((keyActions host start events).foldl (nextNumber manager) 0)
        item called := by
      refine ⟨⟨base, ?_⟩, positive, ?_, requested⟩
      · simpa [called, keyStep, made] using known.configured
      · simp [called, keyStep, made]
    exact (serves_run more serves quiet).current

def keyStart : KeyStore := ⟨freshLedger, fun _ => none⟩

def votedIn (proposalId : String) (action : ProposedAction) : List KeyEvent :=
  [.governance (.propose "m1" proposalId [action]),
    .governance (.ballot "m1" proposalId [⟨"m1", true⟩])]

def enableSigningAction (kid : String) : ProposedAction :=
  ⟨.enableSigning, .object [("kid", .string kid)]⟩

/-- A second `enable` is accepted and leaves the number as it is. -/
theorem second_enable_requests_nothing :
    let first := votedIn "p1" (enableSigningAction "k")
    let second := votedIn "p2" (enableSigningAction "other")
    (keyActions idleHost keyStart (first ++ second)).map ProposedAction.name =
        [.enableSigning, .enableSigning] ∧
      requestNumber .signing (keyRun idleHost keyStart first).ledger = 1 ∧
      requestNumber .signing (keyRun idleHost keyStart (first ++ second)).ledger = 1 := by
  decide +kernel

def rotatedKeys : List KeyEvent :=
  votedIn "p1" (enableSigningAction "k") ++ [.generate .signing ⟨"public1", "private1"⟩] ++
    votedIn "p2" ⟨.signingEnableRotateSigningKey, .undefined⟩ ++
    [.generate .signing ⟨"public2", "private2"⟩, .generate .signing ⟨"public3", "private3"⟩]

theorem rotated_keys_follow_requests :
    let store := keyRun idleHost keyStart rotatedKeys
    let issued := issuedKeys idleHost .signing keyStart rotatedKeys
    issued.map SigningKeyItem.kid = ["k-1", "k-2"] ∧ requestNumber .signing store.ledger = 2 ∧
      (issued.map SigningKeyItem.reqId).Nodup ∧ (issued.map SigningKeyItem.kid).Nodup ∧
      store.keys .signing = issued.getLast? := by
  obtain ⟨_, requests, names, current, _⟩ :=
    signing_keys_follow_requests idleHost keyStart .signing rfl rfl rfl rotatedKeys
  exact ⟨by decide +kernel, by decide +kernel, requests, names, current⟩

end CleanRoom.Governance
