import Ryke.Ikev2.Server

/-! What the responder of `IKE_SA_INIT` lets in. It looks at the payloads of a datagram and
not at its flags, so a response is as good as a request; and its cookie is a hash over
fields put next to each other without a mark between them. -/

namespace Ryke.Ikev2
open Lib Crypto

/-! ## Responses fed back -/

/-- The datagram reads as an `IKE_SA_INIT` message with a supported suite and a public
value that the suite's group accepts. Its flags are not looked at. -/
structure Carries (datagram : Bytes) (header : IkeHeader) (payloads : SaInitPayloads) (suite : ChosenSuite)
    (group : DhGroup) : Prop where
  parsed : IkeHeader.parse datagram = .ok header
  read : parseSaInit header (datagram.drop IkeHeader.len) = .ok payloads
  chosen : select payloads.sa = some suite
  known : DhGroup.fromTransformId suite.dhId = some group
  sameGroup : payloads.ke.dhGroup = group.transformId
  size : payloads.ke.data.length = group.publicLen
  valid : group.validPublic payloads.ke.data = true

theorem received_iff_carries (P : Primitives) (secret : LocalSecret) (datagram : Bytes) (header : IkeHeader)
    (payloads : SaInitPayloads) (suite : ChosenSuite) (group : DhGroup) :
    (∃ shared, Received P secret datagram header payloads suite group shared) ↔
      Carries datagram header payloads suite group := by
  constructor
  · rintro ⟨shared, received⟩
    obtain ⟨size, valid⟩ := (group.shared_isOk_iff P secret.dhPrivate _).mp ⟨shared, received.agreed⟩
    exact ⟨received.parsed, received.read, received.chosen, received.known, received.sameGroup, size, valid⟩
  · intro carries
    obtain ⟨shared, agreed⟩ := (group.shared_isOk_iff P secret.dhPrivate _).mpr ⟨carries.size, carries.valid⟩
    exact ⟨shared, carries.parsed, carries.read, carries.chosen, carries.known, carries.sameGroup, agreed⟩

/-- What each answer tells of the datagram. -/
theorem responderRespondInner_answers {P : Primitives} {datagram : Bytes} {secret : LocalSecret}
    {natt : Option (SocketAddr × SocketAddr)} {cookie : Option CookiePolicy} {answer : SaInitResult}
    (answered : responderRespondInner P datagram secret natt cookie = .ok answer) :
    ∃ header payloads, IkeHeader.parse datagram = .ok header ∧
      parseSaInit header (datagram.drop IkeHeader.len) = .ok payloads ∧
      match answer with
      | .established _ _ => cookieChallenge P header payloads cookie = none
      | .invalidKe reply group => reply = buildInvalidKe header.initiatorSpi group
      | .cookieRequired reply => cookieChallenge P header payloads cookie = some reply := by
  obtain ⟨header, parsed, answered⟩ := bind_eq_ok answered
  obtain ⟨payloads, read, answered⟩ := bind_eq_ok answered
  refine ⟨header, payloads, parsed, read, ?_⟩
  split at answered
  next asked =>
    cases answered
    exact asked
  next free =>
    obtain ⟨suite, -, answered⟩ := bind_eq_ok answered
    obtain ⟨group, -, answered⟩ := bind_eq_ok answered
    split at answered
    next =>
      split at answered
      next =>
        cases answered
        rfl
      next => cases answered
    next =>
      obtain ⟨peerPublic, -, answered⟩ := bind_eq_ok answered
      obtain ⟨shared, -, answered⟩ := bind_eq_ok answered
      cases answered
      exact free

/-- A responder establishes an SA on what carries a key exchange, unless it asks for a
cookie that is not there. -/
theorem responderRespondInner_established_iff (P : Primitives) (datagram : Bytes) (secret : LocalSecret)
    (natt : Option (SocketAddr × SocketAddr)) (cookie : Option CookiePolicy) :
    (∃ response sa, responderRespondInner P datagram secret natt cookie = .ok (.established response sa)) ↔
      ∃ header payloads suite group, Carries datagram header payloads suite group ∧
        cookieChallenge P header payloads cookie = none := by
  constructor
  · rintro ⟨response, sa, answered⟩
    obtain ⟨header, payloads, group, shared, received, -⟩ := responderRespondInner_established answered
    refine ⟨header, payloads, sa.suite, group, (received_iff_carries P secret ..).mp ⟨shared, received⟩, ?_⟩
    obtain ⟨_, _, parsed, read, free⟩ := responderRespondInner_answers answered
    cases received.parsed.symm.trans parsed
    cases received.read.symm.trans read
    exact free
  · rintro ⟨header, payloads, suite, group, carries, free⟩
    obtain ⟨shared, received⟩ := (received_iff_carries P secret ..).mpr carries
    obtain ⟨sa, answered, -⟩ := received.respond natt free
    exact ⟨_, sa, answered⟩

def Carried (datagram : Bytes) : Prop :=
  ∃ header payloads suite group, Carries datagram header payloads suite group

theorem responderRespond_isOk_iff (P : Primitives) (datagram : Bytes) (secret : LocalSecret) :
    (∃ response sa, responderRespond P datagram secret = .ok (response, sa)) ↔ Carried datagram := by
  constructor
  · rintro ⟨response, sa, answered⟩
    obtain ⟨header, payloads, suite, group, carries, -⟩ :=
      (responderRespondInner_established_iff P datagram secret none none).mp
        ⟨response, sa, responderRespond_eq_ok answered⟩
    exact ⟨header, payloads, suite, group, carries⟩
  · rintro ⟨header, payloads, suite, group, carries⟩
    obtain ⟨response, sa, answered⟩ :=
      (responderRespondInner_established_iff P datagram secret none none).mpr
        ⟨header, payloads, suite, group, carries, rfl⟩
    refine ⟨response, sa, ?_⟩
    rw [responderRespond, answered]
    rfl

theorem responderRespondNatt_established_iff (P : Primitives) (datagram : Bytes) (secret : LocalSecret)
    (ourAddr peerAddr : SocketAddr) :
    (∃ cookie response sa, responderRespondNatt P datagram secret ourAddr peerAddr cookie =
      .ok (.established response sa)) ↔ Carried datagram := by
  constructor
  · rintro ⟨cookie, answered⟩
    obtain ⟨header, payloads, suite, group, carries, -⟩ :=
      (responderRespondInner_established_iff P datagram secret _ cookie).mp answered
    exact ⟨header, payloads, suite, group, carries⟩
  · rintro ⟨header, payloads, suite, group, carries⟩
    exact ⟨none, (responderRespondInner_established_iff P datagram secret _ none).mpr
      ⟨header, payloads, suite, group, carries, rfl⟩⟩

theorem responderResponse_header (P : Primitives) (secret : LocalSecret) (spiI : UInt64) (suite : ChosenSuite)
    (group : DhGroup) (natt : Option (SocketAddr × SocketAddr)) :
    ∃ header, IkeHeader.parse (responderResponse P secret spiI suite group natt) = .ok header ∧
      header.exchangeType = .ikeSaInit := by
  have two : (2 : UInt8) < 16 := by decide
  have zero : (0 : UInt8) < 16 := by decide
  exact ⟨_, IkeHeader.parse_toBytes ⟨rfl, two, zero, rfl⟩ _, rfl⟩

/-- The server sends nothing and keeps no session. -/
def Quiet {ε : Type} [Entropy ε] (P : Primitives) (server : Server ε) (datagram : Bytes) (sender : SocketAddr)
    (sendOk : Bool) : Prop :=
  (server.handleOne P (some (datagram, sender)) sendOk).sent = none ∧
    (server.handleOne P (some (datagram, sender)) sendOk).server.sessions = server.sessions

theorem quiet_iff {ε : Type} [Entropy ε] (P : Primitives) (server : Server ε) {datagram : Bytes}
    {header : IkeHeader} (parsed : IkeHeader.parse datagram = .ok header)
    (kind : header.exchangeType = .ikeSaInit) (sender : SocketAddr) :
    (∀ sendOk, Quiet P server datagram sender sendOk) ↔ ¬ Carried datagram := by
  have routed : ∀ sendOk, server.handleOne P (some (datagram, sender)) sendOk =
      server.handleSaInit P datagram sender sendOk := by
    intro sendOk
    simp only [Server.handleOne, parsed, kind]
  simp only [Quiet, routed]
  constructor
  · intro quiet carried
    obtain ⟨response, sa, answered⟩ := (responderRespond_isOk_iff P datagram
      (LocalSecret.generate server.entropy nonceLen).1).mpr carried
    have silent := (quiet true).1
    simp only [Server.handleSaInit, answered, if_true] at silent
    cases silent
  · intro refused sendOk
    cases answered : responderRespond P datagram (LocalSecret.generate server.entropy nonceLen).1 with
    | ok reply => exact absurd ((responderRespond_isOk_iff P datagram _).mp ⟨reply.1, reply.2, answered⟩) refused
    | error error => simp only [Server.handleSaInit, answered, and_self]

theorem carries_responderResponse (P : Primitives) {secret : LocalSecret} (spiI : UInt64) {suite : ChosenSuite}
    (supported : suite.Supported) {group : DhGroup} (known : DhGroup.fromTransformId suite.dhId = some group)
    (natt : Option (SocketAddr × SocketAddr)) (nonceFits : NonceFits secret)
    (valid : group.validPublic (group.public_ P secret.dhPrivate) = true) :
    ∃ header payloads, Carries (responderResponse P secret spiI suite group natt) header payloads suite group ∧
      header.initiatorSpi = spiI := by
  obtain ⟨header, parsed, spi, -, read⟩ := responderResponse_read P spiI supported group natt nonceFits []
  rw [List.append_nil] at parsed read
  exact ⟨header, _, ⟨parsed, read, select_toProposal supported, known, supported.dhId_eq known,
    group.public_length P _, valid⟩, spi⟩

/-- A response with a nonce that fits reads back with nothing but that public value. -/
theorem carried_responderResponse_iff (P : Primitives) {secret : LocalSecret} (spiI : UInt64) {suite : ChosenSuite}
    (supported : suite.Supported) {group : DhGroup} (known : DhGroup.fromTransformId suite.dhId = some group)
    (natt : Option (SocketAddr × SocketAddr)) (nonceFits : NonceFits secret) :
    Carried (responderResponse P secret spiI suite group natt) ↔
      group.validPublic (group.public_ P secret.dhPrivate) = true := by
  constructor
  · rintro ⟨header, payloads, chosen, other, carries⟩
    obtain ⟨own, parsed, -, -, read⟩ := responderResponse_read P spiI supported group natt nonceFits []
    rw [List.append_nil] at parsed read
    obtain rfl := Except.ok.inj (carries.parsed.symm.trans parsed)
    obtain rfl := Except.ok.inj (carries.read.symm.trans read)
    have sameGroup := carries.sameGroup
    dsimp only at sameGroup
    rw [supported.dhId_eq known] at sameGroup
    obtain rfl := DhGroup.transformId_injective sameGroup
    exact carries.valid
  · intro valid
    obtain ⟨header, payloads, carries, -⟩ := carries_responderResponse P spiI supported known natt nonceFits valid
    exact ⟨header, payloads, suite, group, carries⟩

theorem respond_responderResponse (P : Primitives) {secret : LocalSecret} (spiI : UInt64) {suite : ChosenSuite}
    (supported : suite.Supported) {group : DhGroup} (known : DhGroup.fromTransformId suite.dhId = some group)
    (natt : Option (SocketAddr × SocketAddr)) (nonceFits : NonceFits secret)
    (valid : group.validPublic (group.public_ P secret.dhPrivate) = true) (other : LocalSecret) :
    ∃ sa, responderRespond P (responderResponse P secret spiI suite group natt) other =
      .ok (responderResponse P other spiI suite group none, sa) := by
  obtain ⟨header, payloads, carries, rfl⟩ := carries_responderResponse P spiI supported known natt nonceFits valid
  obtain ⟨shared, received⟩ := (received_iff_carries P other ..).mpr carries
  have free : cookieChallenge P header payloads none = none := rfl
  obtain ⟨sa, answered, -⟩ := received.respond none free
  refine ⟨sa, ?_⟩
  rw [responderRespond, answered]
  rfl

/-- The messages of responders that answer each other: reply `n + 1` comes from secret `n`. -/
def replies (P : Primitives) (response : Bytes) (others : Nat → LocalSecret) (spiI : UInt64) (suite : ChosenSuite) :
    Nat → Bytes
  | 0 => response
  | n + 1 => responderResponse P (others n) spiI suite .x25519 none

theorem replies_answered (P : Primitives) {secret : LocalSecret} (spiI : UInt64) {suite : ChosenSuite}
    (supported : suite.Supported) (known : DhGroup.fromTransformId suite.dhId = some .x25519)
    (natt : Option (SocketAddr × SocketAddr)) (nonceFits : NonceFits secret) {others : Nat → LocalSecret}
    (othersFit : ∀ n, NonceFits (others n)) (n : Nat) :
    ∃ sa, responderRespond P
        (replies P (responderResponse P secret spiI suite .x25519 natt) others spiI suite n) (others n) =
      .ok (replies P (responderResponse P secret spiI suite .x25519 natt) others spiI suite (n + 1), sa) := by
  cases n with
  | zero => exact respond_responderResponse P spiI supported known natt nonceFits rfl (others 0)
  | succ n => exact respond_responderResponse P spiI supported known none (othersFit n) rfl (others (n + 1))

/-! ### Challenges -/

theorem buildNotifyOnly_read (spiI : UInt64) {notify : Notify} (small : 4 + notify.toBytes.length < 65536) :
    ∃ header, IkeHeader.parse (buildNotifyOnly spiI notify) = .ok header ∧ header.exchangeType = .ikeSaInit ∧
      payloads header.nextPayload ((buildNotifyOnly spiI notify).drop IkeHeader.len) =
        [.ok (raw (.notify, notify.toBytes))] := by
  have formed : MessageBuilder.WellFormed ⟨baseHeader spiI 0 responseFlags, [(.notify, notify.toBytes)]⟩ := by
    have two : (2 : UInt8) < 16 := by decide
    have zero : (0 : UInt8) < 16 := by decide
    refine ⟨two, zero, rfl, fun payload member => ?_⟩
    rw [List.mem_singleton.mp member]
    exact .of (by decide) small
  have parsed := MessageBuilder.parse_build formed []
  have walk := MessageBuilder.payloads_build formed []
  rw [List.append_nil] at parsed walk
  exact ⟨_, parsed, rfl, walk⟩

/-- No responder makes anything of the datagram: it has no SA payload. -/
structure Dismissed (ε : Type) [Entropy ε] (P : Primitives) (datagram : Bytes) : Prop where
  respond : ∀ secret, responderRespond P datagram secret = .error (.missingPayload "SA")
  natt : ∀ secret ourAddr peerAddr cookie,
    responderRespondNatt P datagram secret ourAddr peerAddr cookie = .error (.missingPayload "SA")
  server : ∀ (server : Server ε) sender sendOk, Quiet P server datagram sender sendOk

theorem add_notify (data : Bytes) : ∃ found, SaInitFound.add {} (raw (.notify, data)) = .ok found ∧ found.sa = none := by
  simp only [SaInitFound.add, raw]
  split
  next =>
    split
    next => exact ⟨_, rfl, rfl⟩
    next => split <;> exact ⟨_, rfl, rfl⟩
  next => exact ⟨_, rfl, rfl⟩

theorem dismissed_buildNotifyOnly {ε : Type} [Entropy ε] (P : Primitives) (spiI : UInt64) {notify : Notify}
    (small : 4 + notify.toBytes.length < 65536) : Dismissed ε P (buildNotifyOnly spiI notify) := by
  obtain ⟨header, parsed, kind, walk⟩ := buildNotifyOnly_read spiI small
  have read : parseSaInit header ((buildNotifyOnly spiI notify).drop IkeHeader.len) = .error (.missingPayload "SA") := by
    obtain ⟨found, added, noSa⟩ := add_notify notify.toBytes
    have folded : forPayloads [.ok (raw (.notify, notify.toBytes))] {} SaInitFound.add = .ok found := by
      rw [forPayloads, List.foldlM_cons, ok_bind, added]
      rfl
    rw [parseSaInit, walk, folded, ok_bind, noSa]
    rfl
  have refused : ∀ secret natt cookie, responderRespondInner P (buildNotifyOnly spiI notify) secret natt cookie =
      .error (.missingPayload "SA") := by
    intro secret natt cookie
    rw [responderRespondInner, parsed, ok_bind, read]
    rfl
  refine ⟨?_, fun secret ourAddr peerAddr cookie => refused secret _ cookie, ?_⟩
  · intro secret
    rw [responderRespond, refused]
    rfl
  · intro server sender sendOk
    refine (quiet_iff P server parsed kind sender).mpr ?_ sendOk
    rintro ⟨other, payloads, suite, group, carries⟩
    cases carries.parsed.symm.trans parsed
    cases carries.read.symm.trans read

theorem cookieChallenge_eq_some {P : Primitives} {header : IkeHeader} {payloads : SaInitPayloads}
    {cookie : Option CookiePolicy} {reply : Bytes} (asked : cookieChallenge P header payloads cookie = some reply) :
    ∃ policy, cookie = some policy ∧ reply = buildCookieChallenge header.initiatorSpi
      (ikeCookie P policy.secret header.initiatorSpi payloads.nonce.data policy.peer) := by
  obtain ⟨policy, isPolicy, asked⟩ := Option.bind_eq_some_iff.mp asked
  refine ⟨policy, isPolicy, ?_⟩
  split at asked
  next =>
    dsimp only at asked
    split at asked
    next => exact (Option.some.inj asked).symm
    next => cases asked
  next => cases asked

/-- A response establishes an SA at another responder exactly where it reads back with a
public value that the group accepts. Where its nonce fits, that is the responder's own
value; over X25519, every answer is answered in turn. What else it is answered with is a
COOKIE or an INVALID_KE_PAYLOAD notify, which nobody answers. -/
theorem reflected_response_refused_iff {ε : Type} [Entropy ε] (P : Primitives) (request : Bytes)
    (secret : LocalSecret) (response : Bytes) (sa : CompletedSaInit)
    (answered : Responds P request secret response sa) :
    (∀ other, (∀ reply sa', responderRespond P response other ≠ .ok (reply, sa')) ↔ ¬ Carried response) ∧
    (∀ other ourAddr peerAddr, (∀ cookie reply sa',
      responderRespondNatt P response other ourAddr peerAddr cookie ≠ .ok (.established reply sa')) ↔
        ¬ Carried response) ∧
    (∀ other ourAddr peerAddr cookie,
      (∀ reply, responderRespondNatt P response other ourAddr peerAddr cookie = .ok (.cookieRequired reply) →
        (∃ policy spiI ni, cookie = some policy ∧
          reply = buildCookieChallenge spiI (ikeCookie P policy.secret spiI ni policy.peer)) ∧ Dismissed ε P reply) ∧
      ∀ reply group, responderRespondNatt P response other ourAddr peerAddr cookie = .ok (.invalidKe reply group) →
        (∃ spiI, reply = buildInvalidKe spiI group) ∧ Dismissed ε P reply) ∧
    (∀ (server : Server ε) sender, (∀ sendOk, Quiet P server response sender sendOk) ↔ ¬ Carried response) ∧
    (NonceFits secret → ∃ group, DhGroup.fromTransformId sa.suite.dhId = some group ∧
      (¬ Carried response ↔ group.validPublic (group.public_ P secret.dhPrivate) = false)) ∧
    (NonceFits secret → sa.suite.dhId = transform_id.x25519 →
      ∀ others : Nat → LocalSecret, (∀ n, NonceFits (others n)) →
        ∃ replies : Nat → Bytes, replies 0 = response ∧
          ∀ n, ∃ sa', responderRespond P (replies n) (others n) = .ok (replies (n + 1), sa')) := by
  obtain ⟨natt, cookie, inner⟩ := answered.inner
  obtain ⟨header, payloads, group, shared, received, sent, -⟩ := responderRespondInner_established inner
  have supported := received.supported
  refine ⟨?_, ?_, ?_, ?_, ?_, ?_⟩
  · intro other
    rw [← responderRespond_isOk_iff P response other]
    simp only [not_exists, ne_eq]
  · intro other ourAddr peerAddr
    rw [← responderRespondNatt_established_iff P response other ourAddr peerAddr]
    simp only [not_exists, ne_eq]
  · intro other ourAddr peerAddr cookie
    refine ⟨?_, ?_⟩
    · intro reply challenged
      obtain ⟨asker, asked, -, -, challenge⟩ := responderRespondInner_answers challenged
      obtain ⟨policy, isPolicy, rfl⟩ := cookieChallenge_eq_some challenge
      refine ⟨⟨policy, asker.initiatorSpi, asked.nonce.data, isPolicy, rfl⟩, dismissed_buildNotifyOnly P _ ?_⟩
      simp only [Notify.toBytes, Notify.status, List.length_append, ikeCookie, P.sha256_length]
      decide
    · intro reply named refused
      obtain ⟨asker, _, -, -, form⟩ := responderRespondInner_answers refused
      have isReply : reply = buildInvalidKe asker.initiatorSpi named := form
      subst isReply
      exact ⟨⟨asker.initiatorSpi, rfl⟩, dismissed_buildNotifyOnly P _ (by simp [Notify.toBytes, Notify.status])⟩
  · intro server sender
    obtain ⟨own, parsed, kind⟩ := responderResponse_header P secret header.initiatorSpi sa.suite group natt
    rw [← sent] at parsed
    exact quiet_iff P server parsed kind sender
  · intro nonceFits
    refine ⟨group, received.known, ?_⟩
    rw [← Bool.not_eq_true, sent]
    exact not_congr (carried_responderResponse_iff P _ supported received.known natt nonceFits)
  · intro nonceFits isX25519 others othersFit
    have known := received.known
    rw [isX25519] at known
    obtain rfl : DhGroup.x25519 = group := Option.some.inj known
    refine ⟨replies P response others header.initiatorSpi sa.suite, rfl, ?_⟩
    intro n
    rw [sent]
    exact replies_answered P _ supported received.known natt nonceFits othersFit n

theorem reflected_response_carried :
    ∃ response sa, Responds toy (initiatorRequest toy Toy.initiatorSecret defaultOffer) Toy.responderSecret response sa ∧
      Carried response := by
  have runs : (do
      let (response, sa) ← responderRespond toy
        (initiatorRequest toy Toy.initiatorSecret defaultOffer) Toy.responderSecret
      .ok ((response, sa), sa.suite.dhId)).map Prod.snd = .ok 31 := by
    decide +kernel
  obtain ⟨_, both⟩ := exists_of_map_snd runs
  obtain ⟨⟨response, sa⟩, done, both⟩ := bind_eq_ok both
  have dhId : sa.suite.dhId = 31 := congrArg Prod.snd (Except.ok.inj both)
  obtain ⟨-, -, -, -, exact_, -⟩ :=
    @reflected_response_refused_iff Ryke.Toy.Counter _ toy _ _ _ _ (.inl done)
  obtain ⟨group, known, refused⟩ := exact_ (by decide)
  rw [dhId] at known
  obtain rfl : DhGroup.x25519 = group := Option.some.inj known
  refine ⟨response, sa, .inl done, ?_⟩
  by_contra notCarried
  exact absurd (refused.mp notCarried) (by decide)

/-- A responder's answer to the default offer is answered by another responder. -/
theorem reflected_response_answered :
    ¬ ∀ request secret response sa, Responds toy request secret response sa →
      ∀ other reply sa', responderRespond toy response other ≠ .ok (reply, sa') := by
  intro never
  have runs : (do
      let (response, _) ← responderRespond toy
        (initiatorRequest toy Toy.initiatorSecret defaultOffer) Toy.responderSecret
      responderRespond toy response Toy.initiatorSecret).isOk = true := by
    decide +kernel
  obtain ⟨⟨reply, sa'⟩, both⟩ := exists_of_isOk runs
  obtain ⟨⟨response, sa⟩, answered, again⟩ := bind_eq_ok both
  exact never _ _ response sa (.inl answered) _ reply sa' again

/-! ## Cookies -/

def cookieInput (secret : Bytes) (spiI : UInt64) (ni peer : Bytes) : Bytes := secret ++ u64Bytes spiI ++ ni ++ peer

/-- One nonce and one address are the other two, cut at another place. -/
structure Confusable (spiI : UInt64) (ni peer : Bytes) (spiI' : UInt64) (ni' peer' : Bytes) : Prop where
  spi : spiI = spiI'
  bytes : ni ++ peer = ni' ++ peer'
  lengths : peer.length ≠ peer'.length

structure Asks (request : Bytes) (spiI : UInt64) (ni : Bytes) (cookie : Option Bytes) : Prop where
  reads : ∃ header payloads, IkeHeader.parse request = .ok header ∧
    parseSaInit header (request.drop IkeHeader.len) = .ok payloads ∧ header.initiatorSpi = spiI ∧
    payloads.nonce.data = ni ∧ payloads.cookie = cookie

/-- The cookie of a challenge to a request from the address. -/
def Issued (P : Primitives) (secret cookie : Bytes) (spiI : UInt64) (ni peer : Bytes) : Prop :=
  ∃ request localSecret ourAddr peerAddr echoed, Asks request spiI ni echoed ∧
    responderRespondNatt P request localSecret ourAddr peerAddr (some ⟨secret, peer, true⟩) =
      .ok (.cookieRequired (buildCookieChallenge spiI cookie))

/-- A request from the address that echoes the cookie is not challenged. -/
def Passes (P : Primitives) (secret cookie : Bytes) (spiI : UInt64) (ni peer : Bytes) : Prop :=
  ∃ request localSecret ourAddr peerAddr, Asks request spiI ni (some cookie) ∧
    ∀ response, responderRespondNatt P request localSecret ourAddr peerAddr (some ⟨secret, peer, true⟩) ≠
      .ok (.cookieRequired response)

theorem buildCookieChallenge_injective {spiI : UInt64} {cookie cookie' : Bytes}
    (same : buildCookieChallenge spiI cookie = buildCookieChallenge spiI cookie') : cookie = cookie' := by
  rw [buildCookieChallenge, buildCookieChallenge, buildNotifyOnly, buildNotifyOnly, MessageBuilder.build,
    MessageBuilder.build] at same
  have chains := (List.append_inj same ((IkeHeader.toBytes_length _).trans (IkeHeader.toBytes_length _).symm)).2
  simp only [encodePayloadChain, List.append_nil] at chains
  have bodies := (List.append_inj chains rfl).2
  rw [Notify.toBytes, Notify.toBytes] at bodies
  exact (List.append_inj bodies rfl).2

theorem responderRespondNatt_gate (P : Primitives) {request : Bytes} {spiI : UInt64} {ni : Bytes}
    {echoed : Option Bytes} (asks : Asks request spiI ni echoed) (localSecret : LocalSecret)
    (ourAddr peerAddr : SocketAddr) (secret peer response : Bytes) :
    responderRespondNatt P request localSecret ourAddr peerAddr (some ⟨secret, peer, true⟩) =
        .ok (.cookieRequired response) ↔
      echoed ≠ some (ikeCookie P secret spiI ni peer) ∧
        response = buildCookieChallenge spiI (ikeCookie P secret spiI ni peer) := by
  obtain ⟨header, payloads, parsed, read, rfl, rfl, rfl⟩ := asks.reads
  have challenge : cookieChallenge P header payloads (some ⟨secret, peer, true⟩) =
      if payloads.cookie ≠ some (ikeCookie P secret header.initiatorSpi payloads.nonce.data peer) then
        some (buildCookieChallenge header.initiatorSpi
          (ikeCookie P secret header.initiatorSpi payloads.nonce.data peer))
      else none := rfl
  constructor
  · intro challenged
    obtain ⟨other, found, parsed', read', asked⟩ := responderRespondInner_answers challenged
    cases parsed.symm.trans parsed'
    cases read.symm.trans read'
    have sent : _ = some response := challenge.symm.trans asked
    split at sent
    next differs => exact ⟨differs, (Option.some.inj sent).symm⟩
    next => cases sent
  · rintro ⟨differs, rfl⟩
    rw [responderRespondNatt, responderRespondInner, parsed, ok_bind, read, ok_bind, challenge, if_pos differs]

theorem Issued.cookie_eq {P : Primitives} {secret cookie : Bytes} {spiI : UInt64} {ni peer : Bytes}
    (issued : Issued P secret cookie spiI ni peer) : cookie = ikeCookie P secret spiI ni peer := by
  obtain ⟨request, localSecret, ourAddr, peerAddr, echoed, asks, challenged⟩ := issued
  exact buildCookieChallenge_injective ((responderRespondNatt_gate P asks ..).mp challenged).2

theorem Passes.cookie_eq {P : Primitives} {secret cookie : Bytes} {spiI : UInt64} {ni peer : Bytes}
    (passes : Passes P secret cookie spiI ni peer) : cookie = ikeCookie P secret spiI ni peer := by
  obtain ⟨request, localSecret, ourAddr, peerAddr, asks, free⟩ := passes
  by_contra differs
  exact free _ ((responderRespondNatt_gate P asks localSecret ourAddr peerAddr secret peer _).mpr
    ⟨fun same => differs (Option.some.inj same), rfl⟩)

theorem cookieInput_eq {secret : Bytes} {spiI : UInt64} {ni peer : Bytes} {spiI' : UInt64} {ni' peer' : Bytes}
    (same : cookieInput secret spiI ni peer = cookieInput secret spiI' ni' peer') :
    spiI = spiI' ∧ ni ++ peer = ni' ++ peer' := by
  simp only [cookieInput, List.append_assoc] at same
  have spis := List.append_inj (List.append_cancel_left same) rfl
  exact ⟨u64Bytes_injective spis.1, spis.2⟩

/-- Fields that hash the same are the same, unless they are cut at another place. -/
theorem eq_iff_not_confusable {spiI : UInt64} {ni peer : Bytes} {spiI' : UInt64} {ni' peer' : Bytes}
    (spi : spiI = spiI') (bytes : ni ++ peer = ni' ++ peer') :
    (spiI = spiI' ∧ ni = ni' ∧ peer = peer') ↔ ¬ Confusable spiI ni peer spiI' ni' peer' := by
  constructor
  · rintro ⟨-, -, rfl⟩ confusable
    exact confusable.lengths rfl
  · intro clear_
    have lengths : peer.length = peer'.length := by
      by_contra differ
      exact clear_ ⟨spi, bytes, differ⟩
    exact ⟨spi, List.append_inj' bytes lengths⟩

/-- A cookie binds SPI, nonce and address exactly where the nonce and the address cannot be
cut at another place; so does the gate that checks it. -/
theorem cookie_binding_iff (P : Primitives) (secret : Bytes) (spiI : UInt64) (ni peer : Bytes) (spiI' : UInt64)
    (ni' peer' : Bytes)
    (noCollision : P.sha256 (cookieInput secret spiI ni peer) = P.sha256 (cookieInput secret spiI' ni' peer') →
      cookieInput secret spiI ni peer = cookieInput secret spiI' ni' peer') :
    ((ikeCookie P secret spiI ni peer = ikeCookie P secret spiI' ni' peer' →
        spiI = spiI' ∧ ni = ni' ∧ peer = peer') ↔ ¬ Confusable spiI ni peer spiI' ni' peer') ∧
    ∀ cookie, Issued P secret cookie spiI ni peer → Passes P secret cookie spiI' ni' peer' →
      ((spiI = spiI' ∧ ni = ni' ∧ peer = peer') ↔ ¬ Confusable spiI ni peer spiI' ni' peer') := by
  constructor
  · constructor
    · intro binds confusable
      have same : ikeCookie P secret spiI ni peer = ikeCookie P secret spiI' ni' peer' := by
        simp only [ikeCookie, List.append_assoc, confusable.spi, confusable.bytes]
      exact confusable.lengths (congrArg List.length (binds same).2.2)
    · intro clear_ same
      obtain ⟨spi, bytes⟩ := cookieInput_eq (noCollision same)
      exact (eq_iff_not_confusable spi bytes).mpr clear_
  · intro cookie issued passes
    obtain ⟨spi, bytes⟩ := cookieInput_eq (noCollision (issued.cookie_eq.symm.trans passes.cookie_eq))
    exact eq_iff_not_confusable spi bytes

namespace Toy

def cookieRequest (ni : Bytes) (cookie : Option Bytes) : Bytes :=
  buildSaInit (baseHeader 0xA1 0 requestFlags) defaultOffer 31 (Ryke.Toy.lastByte 7) ni
    (cookie.map (Notify.status notify_type.cookie)).toList

def cookieNonce : Bytes := List.replicate 16 1
def cookiePeer : Bytes := List.replicate 16 2

def longerNonce : Bytes := cookieNonce ++ List.replicate 12 2
def shorterPeer : Bytes := List.replicate 4 2

def cookie : Bytes := ikeCookie toy [7] 0xA1 cookieNonce cookiePeer

theorem asks_cookieRequest {ni : Bytes} {cookie : Option Bytes}
    (reads : (do
      let header ← IkeHeader.parse (cookieRequest ni cookie)
      let payloads ← parseSaInit header ((cookieRequest ni cookie).drop IkeHeader.len)
      .ok (header.initiatorSpi, payloads.nonce.data, payloads.cookie)) =
        (.ok (0xA1, ni, cookie) : Result (UInt64 × Bytes × Option Bytes))) :
    Asks (cookieRequest ni cookie) 0xA1 ni cookie := by
  obtain ⟨header, parsed, reads⟩ := bind_eq_ok reads
  obtain ⟨payloads, read, reads⟩ := bind_eq_ok reads
  have fields := Except.ok.inj reads
  simp only [Prod.mk.injEq] at fields
  exact ⟨header, payloads, parsed, read, fields.1, fields.2.1, fields.2.2⟩

theorem issued_cookie : Issued toy [7] cookie 0xA1 cookieNonce cookiePeer := by
  have asks : Asks (cookieRequest cookieNonce none) 0xA1 cookieNonce none := asks_cookieRequest (by decide +kernel)
  exact ⟨_, responderSecret, clientAddr, clientAddr, none, asks,
    (responderRespondNatt_gate toy asks ..).mpr ⟨nofun, rfl⟩⟩

theorem passes_cookie {ni peer : Bytes} (asks : Asks (cookieRequest ni (some cookie)) 0xA1 ni (some cookie))
    (same : cookie = ikeCookie toy [7] 0xA1 ni peer) : Passes toy [7] cookie 0xA1 ni peer := by
  refine ⟨_, responderSecret, clientAddr, clientAddr, asks, ?_⟩
  intro response challenged
  exact ((responderRespondNatt_gate toy asks ..).mp challenged).1 (congrArg some same)

end Toy

theorem cookie_binding_own :
    ∃ cookie, Issued toy [7] cookie 0xA1 Toy.cookieNonce Toy.cookiePeer ∧
      Passes toy [7] cookie 0xA1 Toy.cookieNonce Toy.cookiePeer ∧
      ¬ Confusable 0xA1 Toy.cookieNonce Toy.cookiePeer 0xA1 Toy.cookieNonce Toy.cookiePeer := by
  have passes : Passes toy [7] Toy.cookie 0xA1 Toy.cookieNonce Toy.cookiePeer :=
    Toy.passes_cookie (Toy.asks_cookieRequest (by decide +kernel)) rfl
  have binds := (cookie_binding_iff toy [7] 0xA1 Toy.cookieNonce Toy.cookiePeer 0xA1 Toy.cookieNonce Toy.cookiePeer
    (fun _ => rfl)).2 Toy.cookie Toy.issued_cookie passes
  exact ⟨Toy.cookie, Toy.issued_cookie, passes, binds.mp ⟨rfl, rfl, rfl⟩⟩

/-- A cookie issued to an IPv6 address passes from an IPv4 address with a longer nonce. -/
theorem cookie_crosses_families :
    ¬ ∀ cookie spiI ni peer spiI' ni' peer', (peer.length = 4 ∨ peer.length = 16) →
      (peer'.length = 4 ∨ peer'.length = 16) →
      (toy.sha256 (cookieInput [7] spiI ni peer) = toy.sha256 (cookieInput [7] spiI' ni' peer') →
        cookieInput [7] spiI ni peer = cookieInput [7] spiI' ni' peer') →
      Issued toy [7] cookie spiI ni peer → Passes toy [7] cookie spiI' ni' peer' →
      spiI = spiI' ∧ ni = ni' ∧ peer = peer' := by
  intro binds
  have sameInput : cookieInput [7] 0xA1 Toy.cookieNonce Toy.cookiePeer =
      cookieInput [7] 0xA1 Toy.longerNonce Toy.shorterPeer := by
    decide
  have passes : Passes toy [7] Toy.cookie 0xA1 Toy.longerNonce Toy.shorterPeer :=
    Toy.passes_cookie (Toy.asks_cookieRequest (by decide +kernel)) (congrArg toy.sha256 sameInput)
  have same := binds Toy.cookie 0xA1 Toy.cookieNonce Toy.cookiePeer 0xA1 Toy.longerNonce Toy.shorterPeer
    (.inr (by decide)) (.inl (by decide)) (fun _ => sameInput) Toy.issued_cookie passes
  exact absurd same.2.2 (by decide)

end Ryke.Ikev2
