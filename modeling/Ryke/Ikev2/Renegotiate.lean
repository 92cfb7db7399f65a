import Ryke.Ikev2.Gate

/-! Renegotiation of `IKE_SA_INIT`. The responder answers a missing cookie and a group that
it did not select with a challenge, and keeps nothing; an initiator that does what a challenge
says meets each of them once at most. -/

namespace Ryke.Ikev2.Renegotiate
open Lib Crypto

/-! ## The initiator -/

structure Initiator where
  spi : UInt64
  nonce : Bytes
  saBody : Bytes

structure Attempt where
  group : UInt16
  cookie : Option Bytes
  deriving DecidableEq

/-- The payloads of the kind are there, and all of them have this body. -/
structure Only (chain : List Payload) (kind : PayloadType) (body : Bytes) : Prop where
  member : (kind, body) ∈ chain
  same : ∀ other, (kind, other) ∈ chain → other = body

def CookieIn (chain : List Payload) (data : Bytes) : Prop :=
  ∃ body notify, (.notify, body) ∈ chain ∧ Notify.parse body = .ok notify ∧
    notify.notifyType = notify_type.cookie ∧ notify.data = data

/-- The message is one of the attempt, with whatever other payloads in whatever order.
Toward the group that the responder selects, the public value is one that it takes. -/
structure Sends (initiator : Initiator) (group : DhGroup) (attempt : Attempt) (builder : MessageBuilder) : Prop where
  formed : builder.WellFormed
  spi : builder.header.initiatorSpi = initiator.spi
  sa : Only builder.payloads .securityAssociation initiator.saBody
  nonce : Only builder.payloads .nonce initiator.nonce
  ke : ∃ dhPublic, Only builder.payloads .keyExchange (KeyExchange.mk attempt.group dhPublic).toBytes ∧
    (attempt.group = group.transformId → dhPublic.length = group.publicLen ∧ group.validPublic dhPublic = true)
  cookie : ∀ data, CookieIn builder.payloads data ↔ attempt.cookie = some data

def notifyOf (kind : UInt16) (item : Result RawPayload) : Option Bytes := do
  let payload ← item.toOption
  if payload.payloadType = .notify then
    let notify ← (Notify.parse payload.data).toOption
    if notify.notifyType = kind then some notify.data else none
  else none

def notifyData (kind : UInt16) (message : Bytes) : Option Bytes := do
  let header ← (IkeHeader.parse message).toOption
  (payloads header.nextPayload (message.drop IkeHeader.len)).findSome? (notifyOf kind)

def Attempt.react (attempt : Attempt) : Result SaInitResult → Attempt
  | .ok (.cookieRequired response) =>
      { attempt with cookie := (notifyData notify_type.cookie response).or attempt.cookie }
  | .ok (.invalidKe response _) =>
      { attempt with
        group := ((notifyData notify_type.invalidKePayload response).map (u16At · 0)).getD attempt.group }
  | _ => attempt

/-- Attempts, messages and answers. An initiator with an SA may go on with the same attempt. -/
structure Run (P : Primitives) (initiator : Initiator) (group : DhGroup) (cookie : Option CookiePolicy)
    (ourAddr peerAddr : SocketAddr) where
  attempt : Nat → Attempt
  builder : Nat → MessageBuilder
  secret : Nat → LocalSecret
  result : Nat → Result SaInitResult
  sends : ∀ n, Sends initiator group (attempt n) (builder n)
  answered : ∀ n, result n = responderRespondNatt P (builder n).build (secret n) ourAddr peerAddr cookie
  reacts : ∀ n, attempt (n + 1) = (attempt n).react (result n)

/-! ## What the responder reads -/

theorem foldlM_settles {σ β γ : Type} {step : σ → β → Result σ} {get : σ → γ} {value : γ} {chain : List β}
    (each : ∀ item ∈ chain, ∀ state next, step state item = .ok next → get next = value ∨ get next = get state)
    {start final : σ} (folded : chain.foldlM step start = .ok final)
    (set : get start = value ∨ ∃ item ∈ chain, ∀ state next, step state item = .ok next → get next = value) :
    get final = value := by
  induction chain generalizing start with
  | nil =>
    cases folded
    rcases set with set | ⟨item, member, -⟩
    · exact set
    · exact absurd member List.not_mem_nil
  | cons item rest ih =>
    rw [List.foldlM_cons] at folded
    obtain ⟨next, here, later⟩ := bind_eq_ok folded
    apply ih (fun other member => each other (List.mem_cons_of_mem _ member)) later
    rcases set with set | ⟨setter, member, sets⟩
    · left
      rcases each item List.mem_cons_self start next here with value | kept
      · exact value
      · exact kept.trans set
    · rcases List.mem_cons.mp member with rfl | member
      · exact .inl (sets start next here)
      · exact .inr ⟨setter, member, sets⟩

theorem foldlM_isOk {σ β : Type} {step : σ → β → Result σ} {chain : List β}
    (each : ∀ item ∈ chain, ∀ state, ∃ next, step state item = .ok next) (start : σ) :
    ∃ final, chain.foldlM step start = .ok final := by
  induction chain generalizing start with
  | nil => exact ⟨start, rfl⟩
  | cons item rest ih =>
    obtain ⟨next, here⟩ := each item List.mem_cons_self start
    rw [List.foldlM_cons, here]
    exact ih (fun other member => each other (List.mem_cons_of_mem _ member)) next

inductive Adds (found : SaInitFound) (payload : Payload) : SaInitFound → Prop
  | sa {sa : SecurityAssociation} (kind : payload.1 = .securityAssociation)
      (parsed : SecurityAssociation.parse payload.2 = .ok sa) : Adds found payload { found with sa := some sa }
  | ke {ke : KeyExchange} (kind : payload.1 = .keyExchange) (parsed : KeyExchange.parse payload.2 = .ok ke) :
      Adds found payload { found with ke := some ke }
  | nonce (kind : payload.1 = .nonce) : Adds found payload { found with nonce := some ⟨payload.2⟩ }
  | hashes {notify : Notify} (kind : payload.1 = .notify) (parsed : Notify.parse payload.2 = .ok notify)
      (other : notify.notifyType ≠ notify_type.cookie) :
      Adds found payload { found with signatureHashes := parseSignatureHashes notify.data }
  | cookie {notify : Notify} (kind : payload.1 = .notify) (parsed : Notify.parse payload.2 = .ok notify)
      (isCookie : notify.notifyType = notify_type.cookie) :
      Adds found payload { found with cookie := some notify.data }
  | passed (notSa : payload.1 ≠ .securityAssociation) (notKe : payload.1 ≠ .keyExchange) (notNonce : payload.1 ≠ .nonce)
      (noCookie : payload.1 = .notify → ∀ notify, Notify.parse payload.2 = .ok notify →
        notify.notifyType ≠ notify_type.cookie) : Adds found payload found

theorem adds_of_add {found next : SaInitFound} {payload : Payload} (added : found.add (raw payload) = .ok next) :
    Adds found payload next := by
  obtain ⟨kind, body⟩ := payload
  cases kind with
  | securityAssociation =>
    obtain ⟨sa, parsed, added⟩ := bind_eq_ok added
    cases added
    exact .sa rfl parsed
  | keyExchange =>
    obtain ⟨ke, parsed, added⟩ := bind_eq_ok added
    cases added
    exact .ke rfl parsed
  | nonce =>
    cases added
    exact .nonce rfl
  | notify =>
    have value : found.add (raw (.notify, body)) = found.add ⟨.notify, false, body⟩ := rfl
    rw [value] at added
    have notSa : PayloadType.notify ≠ .securityAssociation := by decide
    have notKe : PayloadType.notify ≠ .keyExchange := by decide
    have notNonce : PayloadType.notify ≠ .nonce := by decide
    cases parsed : Notify.parse body with
    | error error =>
      simp only [SaInitFound.add, parsed] at added
      cases added
      refine .passed notSa notKe notNonce fun _ notify parsed' => ?_
      cases parsed.symm.trans parsed'
    | ok notify =>
      simp only [SaInitFound.add, parsed] at added
      by_cases hashes : notify.notifyType = notify_type.signatureHashAlgorithms
      · rw [if_pos hashes] at added
        cases added
        refine .hashes rfl parsed ?_
        rw [hashes]
        decide
      · rw [if_neg hashes] at added
        by_cases isCookie : notify.notifyType = notify_type.cookie
        · rw [if_pos isCookie] at added
          cases added
          exact .cookie rfl parsed isCookie
        · rw [if_neg isCookie] at added
          cases added
          refine .passed notSa notKe notNonce fun _ other parsed' => ?_
          cases parsed.symm.trans parsed'
          exact isCookie
  | _ =>
    cases added
    apply Adds.passed <;> (intro same; cases same)

section
variable {found next : SaInitFound} {payload : Payload}

theorem Adds.sa_field (adds : Adds found payload next) :
    (∃ sa, payload.1 = .securityAssociation ∧ SecurityAssociation.parse payload.2 = .ok sa ∧ next.sa = some sa) ∨
      payload.1 ≠ .securityAssociation ∧ next.sa = found.sa := by
  cases adds with
  | sa kind parsed => exact .inl ⟨_, kind, parsed, rfl⟩
  | passed notSa => exact .inr ⟨notSa, rfl⟩
  | _ kind => exact .inr ⟨by rw [kind]; decide, rfl⟩

theorem Adds.ke_field (adds : Adds found payload next) :
    (∃ ke, payload.1 = .keyExchange ∧ KeyExchange.parse payload.2 = .ok ke ∧ next.ke = some ke) ∨
      payload.1 ≠ .keyExchange ∧ next.ke = found.ke := by
  cases adds with
  | ke kind parsed => exact .inl ⟨_, kind, parsed, rfl⟩
  | passed _ notKe => exact .inr ⟨notKe, rfl⟩
  | _ kind => exact .inr ⟨by rw [kind]; decide, rfl⟩

theorem Adds.nonce_field (adds : Adds found payload next) :
    (payload.1 = .nonce ∧ next.nonce = some ⟨payload.2⟩) ∨ payload.1 ≠ .nonce ∧ next.nonce = found.nonce := by
  cases adds with
  | nonce kind => exact .inl ⟨kind, rfl⟩
  | passed _ _ notNonce => exact .inr ⟨notNonce, rfl⟩
  | _ kind => exact .inr ⟨by rw [kind]; decide, rfl⟩

def IsCookie (payload : Payload) (data : Bytes) : Prop :=
  ∃ notify, payload.1 = .notify ∧ Notify.parse payload.2 = .ok notify ∧ notify.notifyType = notify_type.cookie ∧
    notify.data = data

theorem Adds.cookie_field (adds : Adds found payload next) :
    (∃ data, IsCookie payload data ∧ next.cookie = some data) ∨
      (∀ data, ¬ IsCookie payload data) ∧ next.cookie = found.cookie := by
  cases adds with
  | cookie kind parsed isCookie => exact .inl ⟨_, ⟨_, kind, parsed, isCookie, rfl⟩, rfl⟩
  | hashes kind parsed other =>
    right
    refine ⟨?_, rfl⟩
    rintro data ⟨notify, -, parsed', isCookie, -⟩
    cases parsed.symm.trans parsed'
    exact other isCookie
  | passed _ _ _ noCookie =>
    right
    refine ⟨?_, rfl⟩
    rintro data ⟨notify, kind, parsed, isCookie, -⟩
    exact noCookie kind notify parsed isCookie
  | _ kind =>
    right
    refine ⟨?_, rfl⟩
    rintro data ⟨notify, kind', -⟩
    rw [kind] at kind'
    cases kind'

end

theorem Only.settles {γ : Type} {get : SaInitFound → Option γ} {value : γ} {chain : List Payload} {kind : PayloadType}
    {body : Bytes} (only : Only chain kind body)
    (each : ∀ payload (state next : SaInitFound), state.add (raw payload) = .ok next →
      (payload.1 = kind ∧ (payload.2 = body → get next = some value)) ∨ payload.1 ≠ kind ∧ get next = get state)
    {found : SaInitFound}
    (folded : chain.foldlM (fun (found : SaInitFound) payload => found.add (raw payload)) {} = .ok found) :
    get found = some value := by
  apply foldlM_settles ?_ folded
  · refine .inr ⟨(kind, body), only.member, fun state next added => ?_⟩
    rcases each _ state next added with ⟨-, sets⟩ | ⟨other, -⟩
    · exact sets rfl
    · exact absurd rfl other
  · rintro ⟨kind', body'⟩ member state next added
    rcases each _ state next added with ⟨rfl, sets⟩ | ⟨-, kept⟩
    · exact .inl (sets (only.same body' member))
    · exact .inr kept

section
variable {initiator : Initiator} {group : DhGroup} {attempt : Attempt} {builder : MessageBuilder}

theorem Sends.each_isOk (sends : Sends initiator group attempt builder) {sa : SecurityAssociation}
    (parsedSa : SecurityAssociation.parse initiator.saBody = .ok sa) (payload : Payload)
    (member : payload ∈ builder.payloads) (found : SaInitFound) : ∃ next, found.add (raw payload) = .ok next := by
  obtain ⟨kind, body⟩ := payload
  cases kind with
  | securityAssociation =>
    have parsed : SecurityAssociation.parse body = .ok sa := by rw [sends.sa.same body member, parsedSa]
    refine ⟨{ found with sa := some sa }, ?_⟩
    change (SecurityAssociation.parse body >>= fun sa => Except.ok { found with sa := some sa }) = _
    rw [parsed, ok_bind]
  | keyExchange =>
    obtain ⟨dhPublic, only, -⟩ := sends.ke
    have parsed : KeyExchange.parse body = .ok ⟨attempt.group, dhPublic⟩ := by
      rw [only.same body member, KeyExchange.parse_toBytes]
    refine ⟨{ found with ke := some ⟨attempt.group, dhPublic⟩ }, ?_⟩
    change (KeyExchange.parse body >>= fun ke => Except.ok { found with ke := some ke }) = _
    rw [parsed, ok_bind]
  | notify =>
    cases parsed : Notify.parse body with
    | error error =>
      refine ⟨found, ?_⟩
      simp only [SaInitFound.add, raw, parsed]
    | ok notify =>
      simp only [SaInitFound.add, raw, parsed]
      split
      · exact ⟨_, rfl⟩
      · split
        · exact ⟨_, rfl⟩
        · exact ⟨_, rfl⟩
  | _ => exact ⟨_, rfl⟩

structure Reads (initiator : Initiator) (sa : SecurityAssociation) (group : DhGroup) (attempt : Attempt)
    (header : IkeHeader) (payloads : SaInitPayloads) : Prop where
  spi : header.initiatorSpi = initiator.spi
  sa : payloads.sa = sa
  nonce : payloads.nonce.data = initiator.nonce
  keGroup : payloads.ke.dhGroup = attempt.group
  cookie : payloads.cookie = attempt.cookie
  usable : attempt.group = group.transformId →
    payloads.ke.data.length = group.publicLen ∧ group.validPublic payloads.ke.data = true

theorem Sends.read (sends : Sends initiator group attempt builder) {sa : SecurityAssociation}
    (parsedSa : SecurityAssociation.parse initiator.saBody = .ok sa) :
    ∃ payloads, parseSaInit builder.fullHeader (builder.build.drop IkeHeader.len) = .ok payloads ∧
      Reads initiator sa group attempt builder.fullHeader payloads := by
  have walk := MessageBuilder.payloads_build sends.formed []
  rw [List.append_nil] at walk
  obtain ⟨dhPublic, ke, usable⟩ := sends.ke
  obtain ⟨found, folded⟩ := foldlM_isOk (sends.each_isOk parsedSa) {}
  have foundSa : found.sa = some sa := by
    apply sends.sa.settles (fun payload state next added => ?_) folded
    rcases (adds_of_add added).sa_field with ⟨sa', kind, parsed, value⟩ | other
    · refine .inl ⟨kind, fun isBody => value.trans ?_⟩
      rw [isBody, parsedSa] at parsed
      rw [Except.ok.inj parsed]
    · exact .inr other
  have foundKe : found.ke = some ⟨attempt.group, dhPublic⟩ := by
    apply ke.settles (fun payload state next added => ?_) folded
    rcases (adds_of_add added).ke_field with ⟨ke', kind, parsed, value⟩ | other
    · refine .inl ⟨kind, fun isBody => value.trans ?_⟩
      rw [isBody, KeyExchange.parse_toBytes] at parsed
      rw [Except.ok.inj parsed]
    · exact .inr other
  have foundNonce : found.nonce = some ⟨initiator.nonce⟩ := by
    apply sends.nonce.settles (fun payload state next added => ?_) folded
    rcases (adds_of_add added).nonce_field with ⟨kind, value⟩ | other
    · exact .inl ⟨kind, fun isBody => by rw [value, isBody]⟩
    · exact .inr other
  have foundCookie : found.cookie = attempt.cookie := by
    refine @foldlM_settles _ _ _ _ SaInitFound.cookie _ _ ?_ _ _ folded ?_
    · rintro ⟨kind, body⟩ member state next added
      rcases (adds_of_add added).cookie_field with ⟨data, ⟨notify, rfl, parsed, isCookie, own⟩, value⟩ | ⟨-, kept⟩
      · exact .inl (value.trans ((sends.cookie data).mp ⟨body, notify, member, parsed, isCookie, own⟩).symm)
      · exact .inr kept
    · cases echoed : attempt.cookie with
      | none => exact .inl rfl
      | some data =>
        obtain ⟨body, notify, member, parsed, isCookie, own⟩ := (sends.cookie data).mpr echoed
        refine .inr ⟨_, member, fun state next added => ?_⟩
        rcases (adds_of_add added).cookie_field with ⟨data', ⟨notify', -, parsed', -, own'⟩, value⟩ | ⟨notCookie, -⟩
        · cases parsed.symm.trans parsed'
          rw [value, ← own', own]
        · exact absurd ⟨notify, rfl, parsed, isCookie, own⟩ (notCookie data)
  refine ⟨⟨sa, ⟨attempt.group, dhPublic⟩, ⟨initiator.nonce⟩, found.signatureHashes, attempt.cookie⟩, ?_,
    sends.spi, rfl, rfl, rfl, rfl, usable⟩
  rw [parseSaInit, walk, forPayloads_map_ok, folded, ok_bind, foundSa, okOr_some, ok_bind, foundKe, okOr_some, ok_bind,
    foundNonce, okOr_some, ok_bind, foundCookie]

/-! ## What the responder answers -/

def demanded (P : Primitives) (initiator : Initiator) (cookie : Option CookiePolicy) : Option Bytes := do
  let policy ← cookie
  if policy.required then some (ikeCookie P policy.secret initiator.spi initiator.nonce policy.peer) else none

/-- The attempt carries the cookie that is asked for, if one is. -/
def Pays (P : Primitives) (initiator : Initiator) (cookie : Option CookiePolicy) (attempt : Attempt) : Prop :=
  ∀ data, demanded P initiator cookie = some data → attempt.cookie = some data

theorem Reads.cookieChallenge_eq (P : Primitives) {sa : SecurityAssociation} {header : IkeHeader}
    {payloads : SaInitPayloads} (reads : Reads initiator sa group attempt header payloads)
    (cookie : Option CookiePolicy) :
    cookieChallenge P header payloads cookie =
      (demanded P initiator cookie).bind fun data =>
        if attempt.cookie ≠ some data then some (buildCookieChallenge initiator.spi data) else none := by
  cases cookie with
  | none => rfl
  | some policy =>
    obtain ⟨secret, peer, required⟩ := policy
    cases required with
    | false => rfl
    | true =>
      change (if payloads.cookie ≠ some (ikeCookie P secret header.initiatorSpi payloads.nonce.data peer) then
        some (buildCookieChallenge header.initiatorSpi (ikeCookie P secret header.initiatorSpi payloads.nonce.data peer))
        else none) = _
      rw [reads.spi, reads.nonce, reads.cookie]
      rfl

inductive Answers (P : Primitives) (initiator : Initiator) (group : DhGroup) (cookie : Option CookiePolicy)
    (attempt : Attempt) : Result SaInitResult → Prop
  | cookieRequired {data : Bytes} (asked : demanded P initiator cookie = some data)
      (missing : attempt.cookie ≠ some data) :
      Answers P initiator group cookie attempt (.ok (.cookieRequired (buildCookieChallenge initiator.spi data)))
  | invalidKe (pays : Pays P initiator cookie attempt) (other : attempt.group ≠ group.transformId) :
      Answers P initiator group cookie attempt
        (.ok (.invalidKe (buildInvalidKe initiator.spi group.transformId) group.transformId))
  | established (pays : Pays P initiator cookie attempt) (same : attempt.group = group.transformId) (response : Bytes)
      (sa : CompletedSaInit) : Answers P initiator group cookie attempt (.ok (.established response sa))

theorem Sends.answers (P : Primitives) (sends : Sends initiator group attempt builder) {sa : SecurityAssociation}
    (parsedSa : SecurityAssociation.parse initiator.saBody = .ok sa) {suite : ChosenSuite}
    (chosen : select sa = some suite) (known : DhGroup.fromTransformId suite.dhId = some group)
    (cookie : Option CookiePolicy) (secret : LocalSecret) (ourAddr peerAddr : SocketAddr) :
    Answers P initiator group cookie attempt
      (responderRespondNatt P builder.build secret ourAddr peerAddr cookie) := by
  obtain ⟨payloads, read, reads⟩ := sends.read parsedSa
  have parsed : IkeHeader.parse builder.build = .ok builder.fullHeader := by
    have parsed := MessageBuilder.parse_build sends.formed []
    rwa [List.append_nil] at parsed
  have challenge := reads.cookieChallenge_eq P cookie
  rw [← reads.sa] at chosen
  rw [responderRespondNatt]
  by_cases pays : Pays P initiator cookie attempt
  · have free : cookieChallenge P builder.fullHeader payloads cookie = none := by
      rw [challenge]
      cases asked : demanded P initiator cookie with
      | none => rfl
      | some data => exact if_neg (not_not.mpr (pays data asked))
    by_cases same : attempt.group = group.transformId
    · obtain ⟨size, valid⟩ := reads.usable same
      have carries : Carries builder.build builder.fullHeader payloads suite group :=
        ⟨parsed, read, chosen, known, reads.keGroup.trans same, size, valid⟩
      obtain ⟨response, established, answered⟩ := (responderRespondInner_established_iff P builder.build secret
        (some (ourAddr, peerAddr)) cookie).mpr ⟨_, _, suite, group, carries, free⟩
      rw [answered]
      exact .established pays same response established
    · rw [responderRespondInner, parsed, ok_bind, read, ok_bind, free]
      dsimp only
      rw [chosen, okOr_some, ok_bind, known, okOr_some, ok_bind, reads.keGroup, if_pos same, reads.spi]
      exact .invalidKe pays same
  · obtain ⟨data, unpaid⟩ := not_forall.mp pays
    obtain ⟨asked, missing⟩ := Classical.not_imp.mp unpaid
    have reply : cookieChallenge P builder.fullHeader payloads cookie =
        some (buildCookieChallenge initiator.spi data) := by
      rw [challenge, asked]
      exact if_pos missing
    rw [responderRespondInner, parsed, ok_bind, read, ok_bind, reply]
    exact .cookieRequired asked missing

end

/-! ## What the initiator reads -/

theorem notifyData_buildNotifyOnly (spi : UInt64) {kind : UInt16} {data : Bytes} (small : 8 + data.length < 65536) :
    notifyData kind (buildNotifyOnly spi (.status kind data)) = some data := by
  have size : 4 + (Notify.status kind data).toBytes.length < 65536 := by
    simp [Notify.toBytes, Notify.status]
    omega
  obtain ⟨header, parsed, -, walk⟩ := buildNotifyOnly_read spi size
  have read : Notify.parse (Notify.status kind data).toBytes = .ok (.status kind data) :=
    Notify.parse_toBytes (by simp [Notify.status])
  rw [notifyData, parsed]
  change (payloads _ _).findSome? _ = _
  rw [walk, List.findSome?_singleton]
  change (do let notify ← (Notify.parse (Notify.status kind data).toBytes).toOption
             if notify.notifyType = kind then some notify.data else none) = _
  rw [read]
  exact if_pos rfl

theorem react_cookieRequired (attempt : Attempt) (spi : UInt64) {data : Bytes} (small : 8 + data.length < 65536) :
    attempt.react (.ok (.cookieRequired (buildCookieChallenge spi data))) = ⟨attempt.group, some data⟩ := by
  simp only [Attempt.react, buildCookieChallenge, notifyData_buildNotifyOnly spi small, Option.some_or]

theorem react_invalidKe (attempt : Attempt) (spi : UInt64) (group : UInt16) :
    attempt.react (.ok (.invalidKe (buildInvalidKe spi group) group)) = ⟨group, attempt.cookie⟩ := by
  have small : 8 + (u16Bytes group).length < 65536 := by simp
  have named : u16At (u16Bytes group) 0 = group := be16_split group
  simp only [Attempt.react, buildInvalidKe, notifyData_buildNotifyOnly spi small, Option.map_some, Option.getD_some,
    named]

/-! ## Runs -/

section
variable {P : Primitives} {initiator : Initiator} {group : DhGroup} {cookie : Option CookiePolicy}
  {ourAddr peerAddr : SocketAddr}

def IsCookieRequired (result : Result SaInitResult) : Prop := ∃ response, result = .ok (.cookieRequired response)
def IsInvalidKe (result : Result SaInitResult) : Prop := ∃ response named, result = .ok (.invalidKe response named)
def IsEstablished (result : Result SaInitResult) : Prop := ∃ response sa, result = .ok (.established response sa)

theorem demanded_length {data : Bytes} (asked : demanded P initiator cookie = some data) : data.length = 32 := by
  obtain ⟨policy, -, asked⟩ := Option.bind_eq_some_iff.mp asked
  split at asked
  · rw [← Option.some.inj asked]
    exact P.sha256_length _
  · cases asked

/-- What one answer leaves of an attempt: what it paid stays paid, and what it is asked for it does. -/
theorem Answers.step {attempt : Attempt} {result : Result SaInitResult}
    (answers : Answers P initiator group cookie attempt result) :
    (Pays P initiator cookie attempt → Pays P initiator cookie (attempt.react result)) ∧
      (attempt.group = group.transformId → (attempt.react result).group = group.transformId) ∧
      (IsCookieRequired result → ¬ Pays P initiator cookie attempt ∧ Pays P initiator cookie (attempt.react result)) ∧
      (IsInvalidKe result → attempt.group ≠ group.transformId ∧ (attempt.react result).group = group.transformId) ∧
      (IsCookieRequired result ∨ IsInvalidKe result ∨ IsEstablished result) := by
  cases answers with
  | @cookieRequired data asked missing =>
    have small : 8 + data.length < 65536 := by
      rw [demanded_length asked]
      decide
    rw [react_cookieRequired attempt initiator.spi small]
    have paid : Pays P initiator cookie ⟨attempt.group, some data⟩ := by
      intro other asked'
      rw [← asked, asked']
    refine ⟨fun _ => paid, id, fun _ => ⟨fun pays => missing (pays data asked), paid⟩, ?_, .inl ⟨_, rfl⟩⟩
    rintro ⟨response, named, wrong⟩
    cases wrong
  | invalidKe pays other =>
    rw [react_invalidKe]
    refine ⟨id, fun _ => rfl, ?_, fun _ => ⟨other, rfl⟩, .inr (.inl ⟨_, _, rfl⟩)⟩
    rintro ⟨response, wrong⟩
    cases wrong
  | established pays same response sa =>
    refine ⟨id, id, ?_, ?_, .inr (.inr ⟨_, _, rfl⟩)⟩
    · rintro ⟨response, wrong⟩
      cases wrong
    · rintro ⟨response, named, wrong⟩
      cases wrong

end

/-- What is asked for only while it is not done, and is then done for good, is asked for once. -/
theorem once_of_kept {asked done : Nat → Prop} (keep : ∀ n, done n → done (n + 1))
    (asks : ∀ n, asked n → ¬ done n ∧ done (n + 1)) {m n : Nat} (first : asked m) (second : asked n) : m = n := by
  have later : ∀ {i j : Nat}, i < j → asked i → ¬ asked j := by
    intro i j before here
    have kept : done j := by
      induction j, before using Nat.le_induction with
      | base => exact (asks i here).2
      | succ j _ ih => exact keep j ih
    exact fun again => (asks j again).1 kept
  rcases lt_trichotomy m n with less | same | more
  · exact absurd second (later less first)
  · exact same
  · exact absurd first (later more second)

/-- Behind two challenges, each met once at most, an attempt settles: the third at the latest. -/
theorem settled_by_third {first second settled : Nat → Prop} (firstOnce : ∀ m n, first m → first n → m = n)
    (secondOnce : ∀ m n, second m → second n → m = n) (challenged : ∀ n, ¬ settled n → first n ∨ second n) :
    ∃ n ≤ 2, settled n ∧ ∀ m < n, first m ∨ second m := by
  classical
  by_cases reached : ∃ n, n ≤ 2 ∧ settled n
  · obtain ⟨within, settles⟩ := Nat.find_spec reached
    refine ⟨Nat.find reached, within, settles, fun m before => ?_⟩
    apply challenged m
    intro sooner
    exact Nat.find_min reached before ⟨before.le.trans within, sooner⟩
  · -- three challenges of two kinds
    have open_ : ∀ n ≤ 2, first n ∨ second n := fun n within => challenged n fun done => reached ⟨n, within, done⟩
    have zero := open_ 0 (by decide)
    have one := open_ 1 (by decide)
    have two := open_ 2 le_rfl
    grind

/-- An initiator that does what it is told has an SA at its third attempt at the latest. It is
asked for a cookie once at most, and once at most for another group, which is the selected one. -/
theorem renegotiation_converges (P : Primitives) (initiator : Initiator) (sa : SecurityAssociation)
    (suite : ChosenSuite) (group : DhGroup) (cookie : Option CookiePolicy) (ourAddr peerAddr : SocketAddr)
    (parsedSa : SecurityAssociation.parse initiator.saBody = .ok sa) (chosen : select sa = some suite)
    (known : DhGroup.fromTransformId suite.dhId = some group)
    (run : Run P initiator group cookie ourAddr peerAddr) :
    (∃ n ≤ 2, IsEstablished (run.result n) ∧
      ∀ m < n, IsCookieRequired (run.result m) ∨ IsInvalidKe (run.result m)) ∧
    (∀ m n, IsCookieRequired (run.result m) → IsCookieRequired (run.result n) → m = n) ∧
    (∀ m n, IsInvalidKe (run.result m) → IsInvalidKe (run.result n) → m = n) ∧
    ∀ n response named, run.result n = .ok (.invalidKe response named) → named = group.transformId ∧
      notifyData notify_type.invalidKePayload response = some (u16Bytes group.transformId) := by
  have answers : ∀ n, Answers P initiator group cookie (run.attempt n) (run.result n) := by
    intro n
    rw [run.answered n]
    exact (run.sends n).answers P parsedSa chosen known cookie _ ourAddr peerAddr
  have step := fun n => (answers n).step
  simp only [← run.reacts] at step
  have cookieOnce : ∀ m n, IsCookieRequired (run.result m) → IsCookieRequired (run.result n) → m = n := by
    intro m n
    exact once_of_kept (fun n => (step n).1) (fun n => (step n).2.2.1)
  have groupOnce : ∀ m n, IsInvalidKe (run.result m) → IsInvalidKe (run.result n) → m = n := by
    intro m n
    exact once_of_kept (fun n => (step n).2.1) (fun n => (step n).2.2.2.1)
  have challenged : ∀ n, ¬ IsEstablished (run.result n) →
      IsCookieRequired (run.result n) ∨ IsInvalidKe (run.result n) := by
    intro n notYet
    exact (step n).2.2.2.2.imp_right fun rest => rest.resolve_right notYet
  refine ⟨settled_by_third cookieOnce groupOnce challenged, cookieOnce, groupOnce, ?_⟩
  intro n response named result
  have answer := answers n
  rw [result] at answer
  cases answer with
  | invalidKe pays other =>
    exact ⟨rfl, notifyData_buildNotifyOnly initiator.spi (by simp)⟩

namespace Toy
open Ryke.Ikev2.Toy

def initiator : Initiator := ⟨0xA1, cookieNonce, defaultOffer.toBytes⟩

def policy : CookiePolicy := ⟨[7], cookiePeer, true⟩

def attempt : Nat → Attempt
  | 0 => ⟨14, none⟩
  | 1 => ⟨14, some cookie⟩
  | _ + 2 => ⟨31, some cookie⟩

def builder (attempt : Attempt) : MessageBuilder :=
  saInitBuilder (baseHeader 0xA1 0 requestFlags) defaultOffer attempt.group (Ryke.Toy.lastByte 7) cookieNonce
    (attempt.cookie.map (Notify.status notify_type.cookie)).toList

theorem mem_builder {attempt : Attempt} {payload : Payload} :
    payload ∈ (builder attempt).payloads ↔
      (payload = (.securityAssociation, initiator.saBody) ∨
        payload = (.keyExchange, (KeyExchange.mk attempt.group (Ryke.Toy.lastByte 7)).toBytes) ∨
        payload = (.nonce, initiator.nonce) ∨ payload = (.notify, sighashNotify.toBytes)) ∨
      ∃ data, attempt.cookie = some data ∧ payload = (.notify, (Notify.status notify_type.cookie data).toBytes) := by
  cases echoed : attempt.cookie <;>
    simp [builder, saInitBuilder, echoed, Nonce.toBytes, initiator, or_assoc]

theorem parse_status {kind : UInt16} {data : Bytes} :
    Notify.parse (Notify.status kind data).toBytes = .ok (.status kind data) :=
  Notify.parse_toBytes (by simp [Notify.status])

theorem sends_builder (attempt : Attempt) (cookies : ∀ data, attempt.cookie = some data → data.length ≤ 32) :
    Sends initiator .x25519 attempt (builder attempt) where
  formed := by
    have two : (2 : UInt8) < 16 := by decide
    have zero : (0 : UInt8) < 16 := by decide
    refine ⟨two, zero, rfl, fun payload member => ?_⟩
    rcases mem_builder.mp member with (rfl | rfl | rfl | rfl) | ⟨data, echoed, rfl⟩
    · exact .of (by decide) (by decide)
    · exact .of (by decide) (by simp [KeyExchange.toBytes, Ryke.Toy.lastByte])
    · exact .of (by decide) (by decide)
    · exact .of (by decide) (by decide)
    · have short := cookies data echoed
      exact .of (by decide) (by simp [Notify.toBytes, Notify.status]; omega)
  spi := rfl
  sa := by
    refine ⟨mem_builder.mpr (.inl (.inl rfl)), fun other member => ?_⟩
    rcases mem_builder.mp member with (same | wrong | wrong | wrong) | ⟨data, -, wrong⟩
    · exact (Prod.mk.inj same).2
    all_goals cases (Prod.mk.inj wrong).1
  nonce := by
    refine ⟨mem_builder.mpr (.inl (.inr (.inr (.inl rfl)))), fun other member => ?_⟩
    rcases mem_builder.mp member with (wrong | wrong | same | wrong) | ⟨data, -, wrong⟩
    case inl.inr.inr.inl => exact (Prod.mk.inj same).2
    all_goals cases (Prod.mk.inj wrong).1
  ke := by
    refine ⟨Ryke.Toy.lastByte 7, ⟨mem_builder.mpr (.inl (.inr (.inl rfl))), fun other member => ?_⟩,
      fun _ => ⟨by decide, by decide⟩⟩
    rcases mem_builder.mp member with (wrong | same | wrong | wrong) | ⟨data, -, wrong⟩
    case inl.inr.inl => exact (Prod.mk.inj same).2
    all_goals cases (Prod.mk.inj wrong).1
  cookie := by
    intro data
    constructor
    · rintro ⟨body, notify, member, parsed, isCookie, rfl⟩
      rcases mem_builder.mp member with (wrong | wrong | wrong | hashes) | ⟨data, echoed, same⟩
      · cases (Prod.mk.inj wrong).1
      · cases (Prod.mk.inj wrong).1
      · cases (Prod.mk.inj wrong).1
      · rw [(Prod.mk.inj hashes).2, sighashNotify, parse_status] at parsed
        cases parsed
        exact absurd isCookie (by decide)
      · rw [(Prod.mk.inj same).2, parse_status] at parsed
        cases parsed
        exact echoed
    · intro echoed
      exact ⟨_, _, mem_builder.mpr (.inr ⟨data, echoed, rfl⟩), parse_status, rfl, rfl⟩

theorem cookies_short (n : Nat) (data : Bytes) (echoed : (attempt n).cookie = some data) : data.length ≤ 32 := by
  have own : data = cookie := by
    cases n with
    | zero => cases echoed
    | succ n =>
      cases n with
      | zero => exact (Option.some.inj echoed).symm
      | succ n => exact (Option.some.inj echoed).symm
  rw [own, cookie, ikeCookie, toy.sha256_length]

def run : Run toy initiator .x25519 (some policy) clientAddr clientAddr where
  attempt := attempt
  builder n := builder (attempt n)
  secret _ := responderSecret
  result n := responderRespondNatt toy (builder (attempt n)).build responderSecret clientAddr clientAddr (some policy)
  sends n := sends_builder (attempt n) (cookies_short n)
  answered _ := rfl
  reacts n := by
    cases n with
    | zero => decide +kernel
    | succ n =>
      cases n with
      | zero => decide +kernel
      | succ n =>
        change attempt 2 = (attempt 2).react (responderRespondNatt toy (builder (attempt 2)).build responderSecret
          clientAddr clientAddr (some policy))
        decide +kernel

end Toy

theorem renegotiation_converges_both_challenges :
    ∃ n ≤ 2, IsEstablished (Toy.run.result n) ∧
      ∀ m < n, IsCookieRequired (Toy.run.result m) ∨ IsInvalidKe (Toy.run.result m) :=
  (renegotiation_converges toy Toy.initiator defaultOffer (.gcm 1 31) .x25519 (some Toy.policy)
    Ryke.Ikev2.Toy.clientAddr Ryke.Ikev2.Toy.clientAddr (by decide) (by decide) rfl Toy.run).1

end Ryke.Ikev2.Renegotiate
