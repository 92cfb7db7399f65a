import Ryke.Ikev2.Message
import Ryke.Ikev2.Negotiate
import Ryke.Toy

/-! The `IKE_SA_INIT` exchange for both roles. The initiator and a responder that
accept each other's messages end with the same keys, whatever was offered. -/

namespace Ryke.Ikev2
open Lib Crypto

structure LocalSecret where
  dhPrivate : Bytes
  nonce : Bytes
  spi : UInt64
  dhPrivate_length : dhPrivate.length = 32

structure CompletedSaInit where
  role : Role
  spiI : UInt64
  spiR : UInt64
  suite : ChosenSuite
  keys : SessionKeys
  ni : Bytes
  nr : Bytes
  initMessage : Bytes
  respMessage : Bytes
  peerSignatureHashes : List UInt16
  deriving DecidableEq, Inhabited, Repr

/-- Fresh inputs from a source of randomness; the SPI is forced non-zero. -/
def LocalSecret.generate {ε : Type} [Entropy ε] (entropy : ε) (nonceLen : Nat) : LocalSecret × ε :=
  let dh := Entropy.nextArray32 entropy
  let nonce := Entropy.fill dh.2 nonceLen
  let spi := Entropy.nextU64 nonce.2
  (⟨dh.1, nonce.1, if spi.1 = 0 then 1 else spi.1, Entropy.fill_length entropy 32⟩, spi.2)

def defaultOffer : SecurityAssociation :=
  ⟨[⟨1, protocol_id.ike, [],
    [⟨transform_type.encr, transform_id.aesGcm16, some 256⟩,
      ⟨transform_type.prf, transform_id.prfHmacSha2256, none⟩,
      ⟨transform_type.dh, transform_id.x25519, none⟩]⟩]⟩

/-! ## NAT detection -/

/-- `SHA1(SPIi | SPIr | IP | Port)`. -/
def natDetectionHash (P : Primitives) (spiI spiR : UInt64) (ip : IpAddr) (port : UInt16) : Bytes :=
  P.sha1 (u64Bytes spiI ++ u64Bytes spiR ++ ip.octets ++ u16Bytes port)

def sourceIpNotify (P : Primitives) (spiI spiR : UInt64) (ip : IpAddr) (port : UInt16) : Notify :=
  .status notify_type.natDetectionSourceIp (natDetectionHash P spiI spiR ip port)

def destinationIpNotify (P : Primitives) (spiI spiR : UInt64) (ip : IpAddr) (port : UInt16) : Notify :=
  .status notify_type.natDetectionDestinationIp (natDetectionHash P spiI spiR ip port)

/-! ## Payloads of the exchange -/

structure SaInitPayloads where
  sa : SecurityAssociation
  ke : KeyExchange
  nonce : Nonce
  signatureHashes : List UInt16
  cookie : Option Bytes
  deriving DecidableEq, Repr

structure SaInitFound where
  sa : Option SecurityAssociation := none
  ke : Option KeyExchange := none
  nonce : Option Nonce := none
  signatureHashes : List UInt16 := []
  cookie : Option Bytes := none

/-- Bare 16-bit hash identifiers; a trailing odd byte is ignored. -/
def parseSignatureHashes : Bytes → List UInt16
  | b0 :: b1 :: rest => be16 b0 b1 :: parseSignatureHashes rest
  | _ => []

def SaInitFound.add (found : SaInitFound) (payload : RawPayload) : Result SaInitFound :=
  match payload.payloadType with
  | .securityAssociation => do
      let sa ← SecurityAssociation.parse payload.data
      .ok { found with sa := some sa }
  | .keyExchange => do
      let ke ← KeyExchange.parse payload.data
      .ok { found with ke := some ke }
  | .nonce => .ok { found with nonce := some (Nonce.parse payload.data) }
  | .notify =>
      match Notify.parse payload.data with
      | .ok notify =>
          if notify.notifyType = notify_type.signatureHashAlgorithms then
            .ok { found with signatureHashes := parseSignatureHashes notify.data }
          else if notify.notifyType = notify_type.cookie then
            .ok { found with cookie := some notify.data }
          else .ok found
      | .error _ => .ok found
  | _ => .ok found

def parseSaInit (header : IkeHeader) (body : Bytes) : Result SaInitPayloads := do
  let found ← forPayloads (payloads header.nextPayload body) {} SaInitFound.add
  let sa ← okOr found.sa (.missingPayload "SA")
  let ke ← okOr found.ke (.missingPayload "KE")
  let nonce ← okOr found.nonce (.missingPayload "Nonce")
  .ok ⟨sa, ke, nonce, found.signatureHashes, found.cookie⟩

def supportedSignatureHashes : List UInt16 := [2]

def sighashNotify : Notify :=
  .status notify_type.signatureHashAlgorithms (supportedSignatureHashes.flatMap u16Bytes)

def baseHeader (spiI spiR : UInt64) (flags : Flags) : IkeHeader where
  initiatorSpi := spiI
  responderSpi := spiR
  nextPayload := .noNext
  majorVersion := 2
  minorVersion := 0
  exchangeType := .ikeSaInit
  flags := flags
  messageId := 0
  length := 0

def saInitBuilder (header : IkeHeader) (sa : SecurityAssociation) (dhGroup : UInt16) (dhPublic nonce : Bytes)
    (extraNotifies : List Notify) : MessageBuilder where
  header := header
  payloads :=
    [(.securityAssociation, sa.toBytes), (.keyExchange, (KeyExchange.mk dhGroup dhPublic).toBytes),
      (.nonce, (Nonce.mk nonce).toBytes), (.notify, sighashNotify.toBytes)] ++
    extraNotifies.map fun notify => (.notify, notify.toBytes)

def buildSaInit (header : IkeHeader) (sa : SecurityAssociation) (dhGroup : UInt16) (dhPublic nonce : Bytes)
    (extraNotifies : List Notify) : Bytes :=
  (saInitBuilder header sa dhGroup dhPublic nonce extraNotifies).build

def dhPeer (ke : KeyExchange) (group : DhGroup) : Result Bytes :=
  if ke.dhGroup ≠ group.transformId then .error (.dhGroupMismatch group.transformId ke.dhGroup)
  else if ke.data.length ≠ group.publicLen then .error (.badKeyExchange ke.dhGroup ke.data.length)
  else .ok ke.data

/-- The group of the first proposal's first D-H transform; X25519 where there is none. -/
def offerDhGroup (offer : SecurityAssociation) : DhGroup :=
  let group : Option DhGroup := do
    let proposal ← offer.proposals.head?
    let transform ← proposal.transforms.find? fun t => t.transformType == transform_type.dh
    DhGroup.fromTransformId transform.transformId
  group.getD .x25519

def requestFlags : Flags := ⟨true, false, false⟩
def responseFlags : Flags := ⟨false, false, true⟩

/-! ## The two roles -/

def initiatorRequest (P : Primitives) (secret : LocalSecret) (offer : SecurityAssociation) : Bytes :=
  let group := offerDhGroup offer
  buildSaInit (baseHeader secret.spi 0 requestFlags) offer group.transformId
    (group.public_ P secret.dhPrivate) secret.nonce []

structure CookiePolicy where
  secret : Bytes
  peer : Bytes
  required : Bool

/-- `SHA-256(secret | SPIi | Ni | peer_addr)`. -/
def ikeCookie (P : Primitives) (secret : Bytes) (spiI : UInt64) (ni peer : Bytes) : Bytes :=
  P.sha256 (secret ++ u64Bytes spiI ++ ni ++ peer)

def buildNotifyOnly (spiI : UInt64) (notify : Notify) : Bytes :=
  MessageBuilder.build ⟨baseHeader spiI 0 responseFlags, [(.notify, notify.toBytes)]⟩

def buildCookieChallenge (spiI : UInt64) (cookie : Bytes) : Bytes :=
  buildNotifyOnly spiI (.status notify_type.cookie cookie)

def buildInvalidKe (spiI : UInt64) (group : UInt16) : Bytes :=
  buildNotifyOnly spiI (.status notify_type.invalidKePayload (u16Bytes group))

inductive SaInitResult where
  | established (response : Bytes) (sa : CompletedSaInit)
  | invalidKe (response : Bytes) (group : UInt16)
  | cookieRequired (response : Bytes)

/-- The challenge to send instead of an answer, if the policy asks for a cookie that
the request does not carry. -/
def cookieChallenge (P : Primitives) (header : IkeHeader) (request : SaInitPayloads)
    (cookie : Option CookiePolicy) : Option Bytes := do
  let policy ← cookie
  if policy.required then
    let expected := ikeCookie P policy.secret header.initiatorSpi request.nonce.data policy.peer
    if request.cookie ≠ some expected then some (buildCookieChallenge header.initiatorSpi expected)
    else none
  else none

def natNotifies (P : Primitives) (spiI spiR : UInt64) (natt : Option (SocketAddr × SocketAddr)) :
    List Notify :=
  match natt with
  | some (our, peer) =>
      [sourceIpNotify P spiI spiR our.ip our.port, destinationIpNotify P spiI spiR peer.ip peer.port]
  | none => []

def responderResponse (P : Primitives) (secret : LocalSecret) (spiI : UInt64) (suite : ChosenSuite)
    (group : DhGroup) (natt : Option (SocketAddr × SocketAddr)) : Bytes :=
  buildSaInit (baseHeader spiI secret.spi responseFlags) ⟨[suite.toProposal]⟩ suite.dhId
    (group.public_ P secret.dhPrivate) secret.nonce (natNotifies P spiI secret.spi natt)

def responderRespondInner (P : Primitives) (request : Bytes) (secret : LocalSecret)
    (natt : Option (SocketAddr × SocketAddr)) (cookie : Option CookiePolicy) : Result SaInitResult := do
  let header ← IkeHeader.parse request
  let payloads ← parseSaInit header (request.drop IkeHeader.len)
  match cookieChallenge P header payloads cookie with
  | some response => .ok (.cookieRequired response)
  | none =>
    let suite ← okOr (select payloads.sa) .noProposalChosen
    let group ← okOr (DhGroup.fromTransformId suite.dhId) .noProposalChosen
    if payloads.ke.dhGroup ≠ group.transformId then
      match natt with
      | some _ =>
          .ok (.invalidKe (buildInvalidKe header.initiatorSpi group.transformId) group.transformId)
      | none => .error (.dhGroupMismatch group.transformId payloads.ke.dhGroup)
    else
      let peerPublic ← dhPeer payloads.ke group
      let shared ← group.shared P secret.dhPrivate peerPublic
      let spiI := header.initiatorSpi
      let response := responderResponse P secret spiI suite group natt
      .ok (.established response {
        role := .responder
        spiI := spiI
        spiR := secret.spi
        suite := suite
        keys := deriveSessionKeys P shared payloads.nonce.data secret.nonce spiI secret.spi suite.keyLengths
        ni := payloads.nonce.data
        nr := secret.nonce
        initMessage := request
        respMessage := response
        peerSignatureHashes := payloads.signatureHashes })

def responderRespond (P : Primitives) (request : Bytes) (secret : LocalSecret) :
    Result (Bytes × CompletedSaInit) := do
  match ← responderRespondInner P request secret none none with
  | .established response sa => .ok (response, sa)
  | .invalidKe _ group => .error (.dhGroupMismatch group group)
  | .cookieRequired _ => .error .noProposalChosen

/-- The responder with NAT traversal and group renegotiation. -/
def responderRespondNatt (P : Primitives) (request : Bytes) (secret : LocalSecret)
    (ourAddr peerAddr : SocketAddr) (cookie : Option CookiePolicy) : Result SaInitResult :=
  responderRespondInner P request secret (some (ourAddr, peerAddr)) cookie

def initiatorComplete (P : Primitives) (secret : LocalSecret) (request response : Bytes) :
    Result CompletedSaInit := do
  let header ← IkeHeader.parse response
  let payloads ← parseSaInit header (response.drop IkeHeader.len)
  let suite ← okOr (select payloads.sa) .noProposalChosen
  let group ← okOr (DhGroup.fromTransformId suite.dhId) .noProposalChosen
  let peerPublic ← dhPeer payloads.ke group
  let shared ← group.shared P secret.dhPrivate peerPublic
  let spiR := header.responderSpi
  .ok {
    role := .initiator
    spiI := secret.spi
    spiR := spiR
    suite := suite
    keys := deriveSessionKeys P shared secret.nonce payloads.nonce.data secret.spi spiR suite.keyLengths
    ni := secret.nonce
    nr := payloads.nonce.data
    initMessage := request
    respMessage := response
    peerSignatureHashes := payloads.signatureHashes }

/-! ## What an accepted message was -/

theorem dhPeer_eq_ok {ke : KeyExchange} {group : DhGroup} {peer : Bytes}
    (accepted : dhPeer ke group = .ok peer) : ke.dhGroup = group.transformId ∧ peer = ke.data := by
  obtain ⟨same, accepted⟩ := guard_eq_ok accepted
  obtain ⟨size, accepted⟩ := guard_eq_ok accepted
  cases accepted
  exact ⟨not_not.mp same, rfl⟩

structure Received (P : Primitives) (secret : LocalSecret) (message : Bytes) (header : IkeHeader)
    (payloads : SaInitPayloads) (suite : ChosenSuite) (group : DhGroup) (shared : Bytes) : Prop where
  parsed : IkeHeader.parse message = .ok header
  read : parseSaInit header (message.drop IkeHeader.len) = .ok payloads
  chosen : select payloads.sa = some suite
  known : DhGroup.fromTransformId suite.dhId = some group
  sameGroup : payloads.ke.dhGroup = group.transformId
  agreed : group.shared P secret.dhPrivate payloads.ke.data = .ok shared

theorem Received.supported {P : Primitives} {secret : LocalSecret} {message : Bytes} {header : IkeHeader}
    {payloads : SaInitPayloads} {suite : ChosenSuite} {group : DhGroup} {shared : Bytes}
    (received : Received P secret message header payloads suite group shared) : suite.Supported :=
  select_supported received.chosen

theorem responderRespondInner_established {P : Primitives} {request response : Bytes}
    {secret : LocalSecret} {natt : Option (SocketAddr × SocketAddr)} {cookie : Option CookiePolicy}
    {sa : CompletedSaInit}
    (answered : responderRespondInner P request secret natt cookie = .ok (.established response sa)) :
    ∃ header payloads group shared, Received P secret request header payloads sa.suite group shared ∧
      response = responderResponse P secret header.initiatorSpi sa.suite group natt ∧
      sa = {
        role := .responder
        spiI := header.initiatorSpi
        spiR := secret.spi
        suite := sa.suite
        keys := deriveSessionKeys P shared payloads.nonce.data secret.nonce header.initiatorSpi secret.spi
          sa.suite.keyLengths
        ni := payloads.nonce.data
        nr := secret.nonce
        initMessage := request
        respMessage := response
        peerSignatureHashes := payloads.signatureHashes } := by
  unfold responderRespondInner at answered
  obtain ⟨header, parsed, answered⟩ := bind_eq_ok answered
  obtain ⟨payloads, read, answered⟩ := bind_eq_ok answered
  split at answered
  next => cases answered
  next =>
    obtain ⟨suite, chosen, answered⟩ := bind_eq_ok answered
    obtain ⟨group, known, answered⟩ := bind_eq_ok answered
    split at answered
    next => split at answered <;> cases answered
    next same =>
      obtain ⟨peer, ofPeer, answered⟩ := bind_eq_ok answered
      obtain ⟨shared, agreed, answered⟩ := bind_eq_ok answered
      cases answered
      obtain ⟨rightGroup, rfl⟩ := dhPeer_eq_ok ofPeer
      exact ⟨header, payloads, group, shared,
        ⟨parsed, read, okOr_eq_ok chosen, okOr_eq_ok known, rightGroup, agreed⟩, rfl, rfl⟩

theorem initiatorComplete_eq_ok {P : Primitives} {secret : LocalSecret} {request response : Bytes}
    {sa : CompletedSaInit} (completed : initiatorComplete P secret request response = .ok sa) :
    ∃ header payloads group shared, Received P secret response header payloads sa.suite group shared ∧
      sa = {
        role := .initiator
        spiI := secret.spi
        spiR := header.responderSpi
        suite := sa.suite
        keys := deriveSessionKeys P shared secret.nonce payloads.nonce.data secret.spi header.responderSpi
          sa.suite.keyLengths
        ni := secret.nonce
        nr := payloads.nonce.data
        initMessage := request
        respMessage := response
        peerSignatureHashes := payloads.signatureHashes } := by
  unfold initiatorComplete at completed
  obtain ⟨header, parsed, completed⟩ := bind_eq_ok completed
  obtain ⟨payloads, read, completed⟩ := bind_eq_ok completed
  obtain ⟨suite, chosen, completed⟩ := bind_eq_ok completed
  obtain ⟨group, known, completed⟩ := bind_eq_ok completed
  obtain ⟨peer, ofPeer, completed⟩ := bind_eq_ok completed
  obtain ⟨shared, agreed, completed⟩ := bind_eq_ok completed
  cases completed
  obtain ⟨rightGroup, rfl⟩ := dhPeer_eq_ok ofPeer
  exact ⟨header, payloads, group, shared,
    ⟨parsed, read, okOr_eq_ok chosen, okOr_eq_ok known, rightGroup, agreed⟩, rfl⟩

theorem responderRespond_eq_ok {P : Primitives} {request response : Bytes} {secret : LocalSecret}
    {sa : CompletedSaInit} (answered : responderRespond P request secret = .ok (response, sa)) :
    responderRespondInner P request secret none none = .ok (.established response sa) := by
  unfold responderRespond at answered
  obtain ⟨result, inner, answered⟩ := bind_eq_ok answered
  rw [inner]
  cases result with
  | established _ _ => cases answered; rfl
  | invalidKe _ _ => cases answered
  | cookieRequired _ => cases answered

/-! ## What is accepted -/

section
variable {P : Primitives} {secret : LocalSecret} {message : Bytes} {header : IkeHeader} {payloads : SaInitPayloads}
  {suite : ChosenSuite} {group : DhGroup} {shared : Bytes}

theorem Received.dhId (received : Received P secret message header payloads suite group shared) :
    suite.dhId = group.transformId :=
  received.supported.dhId_eq received.known

theorem Received.dhPeer (received : Received P secret message header payloads suite group shared) :
    Ikev2.dhPeer payloads.ke group = .ok payloads.ke.data := by
  have size := (DhGroup.shared_eq_ok received.agreed).1
  rw [Ikev2.dhPeer, if_neg (not_not.mpr received.sameGroup), if_neg (not_not.mpr size)]

theorem Received.complete (received : Received P secret message header payloads suite group shared)
    (request : Bytes) : ∃ sa, initiatorComplete P secret request message = .ok sa ∧ sa.suite = suite := by
  rw [initiatorComplete, received.parsed, ok_bind, received.read, ok_bind, received.chosen, okOr_some, ok_bind,
    received.known, okOr_some, ok_bind, received.dhPeer, ok_bind, received.agreed, ok_bind]
  exact ⟨_, rfl, rfl⟩

theorem Received.respond (received : Received P secret message header payloads suite group shared)
    (natt : Option (SocketAddr × SocketAddr)) {cookie : Option CookiePolicy}
    (free : cookieChallenge P header payloads cookie = none) :
    ∃ sa, responderRespondInner P message secret natt cookie =
        .ok (.established (responderResponse P secret header.initiatorSpi suite group natt) sa) ∧
      sa.suite = suite := by
  rw [responderRespondInner, received.parsed, ok_bind, received.read, ok_bind, free]
  dsimp only
  rw [received.chosen, okOr_some, ok_bind, received.known, okOr_some, ok_bind,
    if_neg (not_not.mpr received.sameGroup), received.dhPeer, ok_bind, received.agreed, ok_bind]
  exact ⟨_, rfl, rfl⟩

end

/-! ## Reading back what was built -/

/-- The offers whose proposals and whole body fit their length fields. -/
def OfferFits (offer : SecurityAssociation) : Prop :=
  (∀ proposal ∈ offer.proposals, proposal.Fits) ∧ 4 + offer.toBytes.length < 65536

instance (offer : SecurityAssociation) : Decidable (OfferFits offer) := inferInstanceAs (Decidable (_ ∧ _))

def NonceFits (secret : LocalSecret) : Prop := 4 + secret.nonce.length < 65536

instance (secret : LocalSecret) : Decidable (NonceFits secret) := inferInstanceAs (Decidable (_ < _))

/-- A notify that the parser of the exchange passes over. -/
structure Passive (notify : Notify) : Prop where
  spi : notify.spi.length < 256
  size : 4 + notify.toBytes.length < 65536
  notHashes : notify.notifyType ≠ notify_type.signatureHashAlgorithms
  notCookie : notify.notifyType ≠ notify_type.cookie

theorem natNotifies_passive (P : Primitives) (spiI spiR : UInt64)
    (natt : Option (SocketAddr × SocketAddr)) (notify : Notify)
    (member : notify ∈ natNotifies P spiI spiR natt) : Passive notify := by
  have status : ∀ (kind : UInt16) (ip : IpAddr) (port : UInt16),
      kind ≠ notify_type.signatureHashAlgorithms → kind ≠ notify_type.cookie →
      Passive (.status kind (natDetectionHash P spiI spiR ip port)) := by
    intro kind ip port notHashes notCookie
    exact ⟨by simp [Notify.status], by simp [Notify.status, Notify.toBytes, natDetectionHash, P.sha1_length],
      notHashes, notCookie⟩
  cases natt with
  | none => cases member
  | some addrs =>
    obtain ⟨our, peer⟩ := addrs
    rcases List.mem_cons.mp member with rfl | member
    · exact status _ _ _ (by decide) (by decide)
    · rw [List.mem_singleton] at member
      subst member
      exact status _ _ _ (by decide) (by decide)

theorem SaInitFound.add_passive (found : SaInitFound) {notify : Notify} (passive : Passive notify) :
    found.add (raw (.notify, notify.toBytes)) = .ok found := by
  simp only [SaInitFound.add, raw, Notify.parse_toBytes passive.spi, if_neg passive.notHashes,
    if_neg passive.notCookie]

theorem foldlM_add_passive (notifies : List Notify) (passive : ∀ notify ∈ notifies, Passive notify)
    (found : SaInitFound) :
    (notifies.map fun notify => ((.notify, notify.toBytes) : Payload)).foldlM
      (fun found payload => found.add (raw payload)) found = .ok found := by
  induction notifies with
  | nil => rfl
  | cons notify rest ih =>
    rw [List.map_cons, List.foldlM_cons, found.add_passive (passive _ List.mem_cons_self)]
    exact ih fun other member => passive other (List.mem_cons_of_mem _ member)

theorem saInitBuilder_wellFormed (spiI spiR : UInt64) (flags : Flags) {sa : SecurityAssociation}
    (dhGroup : UInt16) {dhPublic nonce : Bytes} {notifies : List Notify}
    (saSmall : 4 + sa.toBytes.length < 65536) (publicSmall : 8 + dhPublic.length < 65536)
    (nonceSmall : 4 + nonce.length < 65536) (passive : ∀ notify ∈ notifies, Passive notify) :
    (saInitBuilder (baseHeader spiI spiR flags) sa dhGroup dhPublic nonce notifies).WellFormed := by
  have two : (2 : UInt8) < 16 := by decide
  have zero : (0 : UInt8) < 16 := by decide
  refine ⟨two, zero, rfl, fun payload member => ?_⟩
  simp only [saInitBuilder, List.mem_append, List.mem_cons, List.not_mem_nil, or_false, List.mem_map]
    at member
  rcases member with (rfl | rfl | rfl | rfl) | ⟨notify, inList, rfl⟩
  · exact .of (by decide) saSmall
  · exact .of (by decide) (by simp [KeyExchange.toBytes]; omega)
  · exact .of (by decide) nonceSmall
  · exact .of (by decide) (by decide)
  · exact .of (by decide) (passive notify inList).size

theorem parseSaInit_build (spiI spiR : UInt64) (flags : Flags) {sa : SecurityAssociation}
    {dhGroup : UInt16} {dhPublic nonce : Bytes} {notifies : List Notify}
    (saFits : OfferFits sa) (publicSmall : 8 + dhPublic.length < 65536)
    (nonceSmall : 4 + nonce.length < 65536) (passive : ∀ notify ∈ notifies, Passive notify) (rest : Bytes) :
    ∃ header, IkeHeader.parse (buildSaInit (baseHeader spiI spiR flags) sa dhGroup dhPublic nonce notifies ++
        rest) = .ok header ∧ header.initiatorSpi = spiI ∧ header.responderSpi = spiR ∧
      parseSaInit header ((buildSaInit (baseHeader spiI spiR flags) sa dhGroup dhPublic nonce notifies ++
        rest).drop IkeHeader.len) = .ok ⟨sa, ⟨dhGroup, dhPublic⟩, ⟨nonce⟩, [2], none⟩ := by
  have formed := saInitBuilder_wellFormed spiI spiR flags dhGroup saFits.2 publicSmall nonceSmall passive
  refine ⟨_, MessageBuilder.parse_build formed rest, rfl, rfl, ?_⟩
  have walk := MessageBuilder.payloads_build formed rest
  rw [parseSaInit, buildSaInit, walk, forPayloads_map_ok]
  have hashes : Notify.parse sighashNotify.toBytes = .ok sighashNotify := Notify.parse_toBytes (by decide)
  have kind : sighashNotify.notifyType = notify_type.signatureHashAlgorithms := rfl
  simp only [saInitBuilder, List.foldlM_append, List.foldlM_cons, SaInitFound.add, raw,
    SecurityAssociation.parse_toBytes saFits.1, KeyExchange.parse_toBytes, hashes, if_pos kind]
  change (do
    let found ← (notifies.map fun notify : Notify => ((.notify, notify.toBytes) : Payload)).foldlM
      (fun (found : SaInitFound) (payload : Payload) => found.add (raw payload))
      ⟨some sa, some ⟨dhGroup, dhPublic⟩, some ⟨nonce⟩, [2], none⟩
    let sa ← okOr found.sa (.missingPayload "SA")
    let ke ← okOr found.ke (.missingPayload "KE")
    let nonce ← okOr found.nonce (.missingPayload "Nonce")
    Except.ok (SaInitPayloads.mk sa ke nonce found.signatureHashes found.cookie)) = _
  rw [foldlM_add_passive notifies passive]
  rfl

theorem public_small (P : Primitives) (group : DhGroup) (secret : Bytes) :
    8 + (group.public_ P secret).length < 65536 := by
  rw [group.public_length]
  cases group <;> decide

theorem OfferFits.toProposal {suite : ChosenSuite} (supported : suite.Supported) :
    OfferFits ⟨[suite.toProposal]⟩ := by
  have fits := supported.toProposal_fits
  refine ⟨fun proposal member => List.mem_singleton.mp member ▸ fits, ?_⟩
  have body := writeTransforms_length_le suite.toProposal.transforms
  have spi : suite.toProposal.spi.length = 0 := rfl
  simp only [SecurityAssociation.toBytes, writeProposals, List.flatten_cons, List.flatten_nil,
    List.append_nil, Proposal.write, List.length_append, List.length_cons, List.length_nil, u16Bytes_length]
  have count := fits.2
  omega

theorem initiatorRequest_read (P : Primitives) {secret : LocalSecret} {offer : SecurityAssociation}
    (offerFits : OfferFits offer) (nonceFits : NonceFits secret) (rest : Bytes) :
    ∃ header, IkeHeader.parse (initiatorRequest P secret offer ++ rest) = .ok header ∧
      header.initiatorSpi = secret.spi ∧ header.responderSpi = 0 ∧
      parseSaInit header ((initiatorRequest P secret offer ++ rest).drop IkeHeader.len) =
        .ok ⟨offer, ⟨(offerDhGroup offer).transformId, (offerDhGroup offer).public_ P secret.dhPrivate⟩,
          ⟨secret.nonce⟩, [2], none⟩ :=
  parseSaInit_build secret.spi 0 requestFlags offerFits (public_small P _ _) nonceFits
    (fun _ member => absurd member List.not_mem_nil) rest

theorem responderResponse_read (P : Primitives) {secret : LocalSecret} (spiI : UInt64)
    {suite : ChosenSuite} (supported : suite.Supported) (group : DhGroup)
    (natt : Option (SocketAddr × SocketAddr)) (nonceFits : NonceFits secret) (rest : Bytes) :
    ∃ header, IkeHeader.parse (responderResponse P secret spiI suite group natt ++ rest) = .ok header ∧
      header.initiatorSpi = spiI ∧ header.responderSpi = secret.spi ∧
      parseSaInit header ((responderResponse P secret spiI suite group natt ++ rest).drop IkeHeader.len) =
        .ok ⟨⟨[suite.toProposal]⟩, ⟨suite.dhId, group.public_ P secret.dhPrivate⟩, ⟨secret.nonce⟩, [2],
          none⟩ :=
  parseSaInit_build spiI secret.spi responseFlags (.toProposal supported) (public_small P _ _) nonceFits
    (natNotifies_passive P spiI secret.spi natt) rest

theorem parseSaInit_cut {spiI spiR : UInt64} {flags : Flags} {sa : SecurityAssociation} {dhGroup : UInt16}
    {dhPublic nonce : Bytes} (saFits : OfferFits sa) (publicSmall : 8 + dhPublic.length < 65536)
    (nonceSmall : 4 + nonce.length < 65536) {front lost : Bytes}
    (cut : front ++ lost = buildSaInit (baseHeader spiI spiR flags) sa dhGroup dhPublic nonce [])
    {header : IkeHeader} {payloads : SaInitPayloads} (parsed : IkeHeader.parse front = .ok header)
    (read : parseSaInit header (front.drop IkeHeader.len) = .ok payloads) : lost = [] := by
  by_contra nonempty
  have formed := saInitBuilder_wellFormed spiI spiR flags dhGroup saFits.2 publicSmall nonceSmall
    (fun notify (member : notify ∈ ([] : List Notify)) => absurd member List.not_mem_nil)
  obtain ⟨error, malformed⟩ := MessageBuilder.payloads_cut_build formed cut nonempty parsed
  obtain ⟨found, walked, -⟩ := bind_eq_ok read
  exact forPayloads_no_error walked error malformed

/-! ## Agreement -/

/-- The responder accepted `request` and answered with `response`, on either path. -/
def Responds (P : Primitives) (request : Bytes) (secret : LocalSecret) (response : Bytes)
    (sa : CompletedSaInit) : Prop :=
  responderRespond P request secret = .ok (response, sa) ∨
    ∃ ourAddr peerAddr cookie,
      responderRespondNatt P request secret ourAddr peerAddr cookie = .ok (.established response sa)

theorem Responds.inner {P : Primitives} {request response : Bytes} {secret : LocalSecret}
    {sa : CompletedSaInit} (answered : Responds P request secret response sa) :
    ∃ natt cookie, responderRespondInner P request secret natt cookie = .ok (.established response sa) := by
  rcases answered with plain | ⟨ourAddr, peerAddr, cookie, natted⟩
  · exact ⟨none, none, responderRespond_eq_ok plain⟩
  · exact ⟨some (ourAddr, peerAddr), cookie, natted⟩

theorem Received.unique {P : Primitives} {secret : LocalSecret} {message : Bytes} {header : IkeHeader}
    {payloads : SaInitPayloads} {suite : ChosenSuite} {group : DhGroup} {shared : Bytes}
    (received : Received P secret message header payloads suite group shared) {otherHeader : IkeHeader}
    {otherPayloads : SaInitPayloads} (parsed : IkeHeader.parse message = .ok otherHeader)
    (read : parseSaInit otherHeader (message.drop IkeHeader.len) = .ok otherPayloads) :
    header = otherHeader ∧ payloads = otherPayloads := by
  obtain rfl := Except.ok.inj (received.parsed.symm.trans parsed)
  exact ⟨rfl, Except.ok.inj (received.read.symm.trans read)⟩

/-- Both ends of an `IKE_SA_INIT` that each accepted the other's message agree. -/
theorem saInit_agreement (P : Primitives) (commutes : P.X25519Commutes)
    (initiator responder : LocalSecret) (offer : SecurityAssociation) (offerFits : OfferFits offer)
    (initiatorFits : NonceFits initiator) (responderFits : NonceFits responder) (response : Bytes)
    (initSa respSa : CompletedSaInit)
    (answered : Responds P (initiatorRequest P initiator offer) responder response respSa)
    (completed : initiatorComplete P initiator (initiatorRequest P initiator offer) response = .ok initSa) :
    initSa.suite = respSa.suite ∧ initSa.keys = respSa.keys ∧ initSa.spiI = respSa.spiI ∧
      initSa.spiR = respSa.spiR ∧ initSa.ni = respSa.ni ∧ initSa.nr = respSa.nr ∧
      initSa.initMessage = respSa.initMessage ∧ initSa.respMessage = respSa.respMessage ∧
      initSa.role = .initiator ∧ respSa.role = .responder := by
  obtain ⟨natt, cookie, inner⟩ := answered.inner
  obtain ⟨header, payloads, group, sharedR, received, sent, respForm⟩ :=
    responderRespondInner_established inner
  obtain ⟨header', payloads', group', sharedI, received', initForm⟩ := initiatorComplete_eq_ok completed
  obtain ⟨reqHeader, reqParsed, reqSpi, -, reqRead⟩ :=
    initiatorRequest_read P offerFits initiatorFits []
  rw [List.append_nil] at reqParsed reqRead
  obtain ⟨rfl, rfl⟩ := received.unique reqParsed reqRead
  obtain ⟨ansHeader, ansParsed, -, ansSpi, ansRead⟩ :=
    responderResponse_read P header.initiatorSpi received.supported group natt responderFits []
  rw [List.append_nil, ← sent] at ansParsed ansRead
  obtain ⟨rfl, rfl⟩ := received'.unique ansParsed ansRead
  have sameSuite : initSa.suite = respSa.suite :=
    Option.some.inj (received'.chosen.symm.trans (select_toProposal received.supported))
  have known := received'.known
  rw [sameSuite, received.known] at known
  obtain rfl := Option.some.inj known
  have sameGroup : offerDhGroup offer = group := DhGroup.transformId_injective received.sameGroup
  have agreed : group.shared P responder.dhPrivate (group.public_ P initiator.dhPrivate) = .ok sharedR := by
    rw [← sameGroup]
    exact sameGroup ▸ received.agreed
  have sameSecret : sharedI = sharedR :=
    DhGroup.shared_agree commutes received'.agreed agreed
  rw [respForm, initForm]
  simp only [sameSuite, sameSecret, reqSpi, ansSpi, and_self]

namespace Toy
open Ryke.Toy

def initiatorSecret : LocalSecret := ⟨lastByte 7, lastByte 0x11, 0xA1, rfl⟩
def responderSecret : LocalSecret := ⟨lastByte 9, lastByte 0x22, 0xB2, rfl⟩

end Toy

theorem saInit_agreement_default :
    ∃ response initSa respSa,
      Responds toy (initiatorRequest toy Toy.initiatorSecret defaultOffer) Toy.responderSecret response respSa ∧
      initiatorComplete toy Toy.initiatorSecret (initiatorRequest toy Toy.initiatorSecret defaultOffer)
        response = .ok initSa ∧
      initSa.keys = respSa.keys := by
  have runs : (do
      let (response, _) ← responderRespond toy
        (initiatorRequest toy Toy.initiatorSecret defaultOffer) Toy.responderSecret
      initiatorComplete toy Toy.initiatorSecret
        (initiatorRequest toy Toy.initiatorSecret defaultOffer) response).isOk = true := by
    decide +kernel
  obtain ⟨initSa, both⟩ := exists_of_isOk runs
  obtain ⟨⟨response, respSa⟩, answered, completed⟩ := bind_eq_ok both
  have agreement := saInit_agreement toy Ryke.Toy.toy_commutes Toy.initiatorSecret Toy.responderSecret defaultOffer
    (by decide) (by decide) (by decide) response initSa respSa (.inl answered) completed
  exact ⟨response, initSa, respSa, .inl answered, completed, agreement.2.1⟩

end Ryke.Ikev2
