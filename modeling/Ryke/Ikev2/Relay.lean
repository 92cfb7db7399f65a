import Ryke.Ikev2.AuthComplete
import Ryke.Ikev2.DataPlane
import Ryke.Ikev2.EapSteps
import Ryke.Ikev2.Network
import Ryke.Lib.Relay

/-! An IKEv2 handshake over a network that keeps the order and loses nothing, to a server
that other clients use at the same time: `connect` returns, and the server holds the mirror
image of the CHILD SA that it returned. -/

namespace Ryke.Ikev2
open Lib Crypto

/-! ## `IKE_SA_INIT` between honest ends -/

def defaultSuite : ChosenSuite := .gcm 1 DhGroup.x25519.transformId

theorem x25519_shared (P : Primitives) (own other : Bytes) :
    DhGroup.x25519.shared P own (DhGroup.x25519.public_ P other) =
      .ok (DhGroup.x25519.agreed P own (DhGroup.x25519.public_ P other)) :=
  if_neg (not_not.mpr (DhGroup.public_length P .x25519 other))

theorem received_of_read {P : Primitives} (own other : LocalSecret) {message : Bytes} {header : IkeHeader}
    {offer : SecurityAssociation} {nonce : Nonce} {hashes : List UInt16} {cookie : Option Bytes}
    (parsed : IkeHeader.parse message = .ok header)
    (read : parseSaInit header (message.drop IkeHeader.len) =
      .ok ⟨offer, ⟨DhGroup.x25519.transformId, DhGroup.x25519.public_ P other.dhPrivate⟩, nonce, hashes, cookie⟩)
    (chosen : select offer = some defaultSuite) :
    Received P own message header
      ⟨offer, ⟨DhGroup.x25519.transformId, DhGroup.x25519.public_ P other.dhPrivate⟩, nonce, hashes, cookie⟩ defaultSuite
      .x25519 (DhGroup.x25519.agreed P own.dhPrivate (DhGroup.x25519.public_ P other.dhPrivate)) :=
  ⟨parsed, read, chosen, rfl, rfl, x25519_shared P own.dhPrivate other.dhPrivate⟩

/-- What is read settles the suite, the group and the shared secret. -/
theorem Received.same {P : Primitives} {secret : LocalSecret} {message : Bytes} {header : IkeHeader}
    {payloads : SaInitPayloads} {suite other : ChosenSuite} {group otherGroup : DhGroup} {shared otherShared : Bytes}
    (received : Received P secret message header payloads suite group shared)
    (again : Received P secret message header payloads other otherGroup otherShared) :
    suite = other ∧ shared = otherShared := by
  obtain rfl := Option.some.inj (received.chosen.symm.trans again.chosen)
  obtain rfl := Option.some.inj (received.known.symm.trans again.known)
  exact ⟨rfl, Except.ok.inj (received.agreed.symm.trans again.agreed)⟩

theorem initiatorRequest_kind (P : Primitives) {secret : LocalSecret} (nonceFits : NonceFits secret) :
    ∃ header, IkeHeader.parse (initiatorRequest P secret defaultOffer) = .ok header ∧
      header.exchangeType = .ikeSaInit := by
  have formed := saInitBuilder_wellFormed secret.spi 0 requestFlags DhGroup.x25519.transformId
    (by decide : OfferFits defaultOffer).2 (public_small P .x25519 secret.dhPrivate) nonceFits
    (fun notify (member : notify ∈ ([] : List Notify)) => absurd member List.not_mem_nil)
  have parsed := MessageBuilder.parse_build formed []
  rw [List.append_nil] at parsed
  exact ⟨_, parsed, rfl⟩

theorem saInit_matching (P : Primitives) (commutes : P.X25519Commutes) {initiator responder : LocalSecret}
    (initiatorFits : NonceFits initiator) (responderFits : NonceFits responder) :
    ∃ response initSa respSa,
      responderRespond P (initiatorRequest P initiator defaultOffer) responder = .ok (response, respSa) ∧
      initiatorComplete P initiator (initiatorRequest P initiator defaultOffer) response = .ok initSa ∧
      Matching initSa respSa ∧ initSa.spiI = initiator.spi := by
  let request := initiatorRequest P initiator defaultOffer
  let response := responderResponse P responder initiator.spi defaultSuite .x25519 none
  obtain ⟨header, parsed, isSpi, -, read⟩ :=
    initiatorRequest_read P (by decide : OfferFits defaultOffer) initiatorFits []
  rw [List.append_nil] at parsed read
  have received := received_of_read responder initiator parsed read rfl
  obtain ⟨respSa, established, suiteR⟩ := received.respond none (rfl : cookieChallenge P header _ none = none)
  rw [isSpi] at established
  obtain ⟨header', parsed', isSpi', isSpiR, read'⟩ := responderResponse_read P initiator.spi
    (ChosenSuite.Supported.gcm 1 .x25519) .x25519 none responderFits []
  rw [List.append_nil] at parsed' read'
  have received' := received_of_read initiator responder parsed' read' rfl
  obtain ⟨initSa, completed, suiteI⟩ := received'.complete request
  have answered : responderRespond P request responder = .ok (response, respSa) := by
    rw [responderRespond, established, ok_bind]
  obtain ⟨headerR, payloadsR, groupR, sharedR, atR, -, formR⟩ := responderRespondInner_established established
  obtain ⟨rfl, rfl⟩ := atR.unique parsed read
  obtain ⟨rightSuiteR, rfl⟩ := atR.same received
  obtain ⟨headerI, payloadsI, groupI, sharedI, atI, formI⟩ := initiatorComplete_eq_ok completed
  obtain ⟨rfl, rfl⟩ := atI.unique parsed' read'
  obtain ⟨rightSuiteI, rfl⟩ := atI.same received'
  have secrets := DhGroup.agreed_comm P .x25519 (fun _ => commutes) initiator.dhPrivate responder.dhPrivate
  have lengths : defaultSuite.keyLengths.encr = 36 := rfl
  rw [rightSuiteR, isSpi] at formR
  rw [rightSuiteI, isSpiR, secrets] at formI
  refine ⟨response, initSa, respSa, answered, completed, ?_, congrArg CompletedSaInit.spiI formI⟩
  rw [formR, formI]
  refine ⟨rfl, rfl, rfl, rfl, rfl, rfl, rfl, rfl, rfl, ?_, ?_⟩
  · exact (splitSessionKeys_encr_length (prfPlus_length ..)).1.trans lengths
  · exact (splitSessionKeys_encr_length (prfPlus_length ..)).2.trans lengths

/-! ## `IKE_AUTH` between honest ends -/

theorem espOffer_length (spi : UInt32) : (espOffer spi).toBytes.length = 32 := rfl

theorem fullTunnelTs_length : fullTunnelTs.length = 20 := rfl

theorem pskRequestChain_small (P : Primitives) (sa : CompletedSaInit) (psk : Bytes) (id : Identification)
    (childSpi : UInt32) (small : id.toBytes.length < 65000) :
    skPayloadLen (encodePayloadChain (pskRequestChain P sa psk id childSpi)) < 65536 := by
  rw [skPayloadLen, encodePayloadChain_length, pskRequestChain, initiatorAuthChain_psk]
  simp only [List.map_cons, List.map_nil, List.sum_cons, List.sum_nil, initiatorAuth, pskAuthPayload_length,
    espOffer_length, fullTunnelTs_length, ivLen, icvLen]
  omega

theorem pskAnswerChain_small (P : Primitives) (sa : CompletedSaInit) (psk : Bytes) (id : Identification)
    (childSpi : UInt32) (small : id.toBytes.length < 65000) :
    skPayloadLen (encodePayloadChain (pskAnswerChain P sa psk id childSpi none)) < 65536 := by
  have mobike : mobikeSupported.toBytes.length = 4 := rfl
  rw [skPayloadLen, encodePayloadChain_length, pskAnswerChain, responderAuthChain_none]
  simp only [List.map_cons, List.map_nil, List.sum_cons, List.sum_nil, responderAuth, pskAuthPayload_length,
    espOffer_length, fullTunnelTs_length, ivLen, icvLen, mobike]
  omega

section Auth

variable {P : Primitives} (correct : P.GcmCorrect) (seals : P.GcmSeals) {initSa respSa : CompletedSaInit}
  (matching : Matching initSa respSa) (psk : Bytes) {idI idR : Identification} (idIFits : idI.toBytes.length < 65000)
  (idRFits : idR.toBytes.length < 65000)

include seals matching idIFits in
theorem auth_requested (childSpi : UInt32) (iv : Iv) :
    ∃ request, initiatorAuthRequest P initSa (.psk idI psk) childSpi iv = .ok request :=
  exists_buildEncryptedGcm seals (ikeAuthHeader initSa false)
    (firstPayloadType (pskRequestChain P initSa psk idI childSpi)) iv matching.sizeEi
    (pskRequestChain_small P initSa psk idI childSpi idIFits)

theorem parse_auth_requested {cfg : AuthConfig} {childSpi : UInt32} {iv : Iv} {request : Bytes}
    (requested : initiatorAuthRequest P initSa cfg childSpi iv = .ok request) :
    ∃ header, IkeHeader.parse request = .ok header ∧ header.exchangeType = .ikeAuth ∧
      header.initiatorSpi = initSa.spiI ∧ header.responderSpi = initSa.spiR := by
  have two : (2 : UInt8) < 16 := by decide
  have zero : (0 : UInt8) < 16 := by decide
  obtain ⟨⟨auth, certs⟩, -, built⟩ := bind_eq_ok requested
  obtain ⟨length, parsed⟩ := parse_buildEncryptedGcm two zero rfl built
  exact ⟨_, parsed, rfl, rfl, rfl⟩

include correct seals matching idIFits idRFits in
theorem auth_answered {childI : UInt32} {ivI : Iv} {request : Bytes}
    (requested : initiatorAuthRequest P initSa (.psk idI psk) childI ivI = .ok request) (childR : UInt32) (ivR : Iv) :
    ∃ response, responderProcessAuth P respSa request (.psk idR psk) childR ivR none = .ok (response, idI, childI) ∧
      initiatorVerifyAuth P initSa response (.psk idI psk) = .ok (idR, childR, none) := by
  have requestFits := pskRequestChain_small P initSa psk idI childI idIFits
  have answerFits := pskAnswerChain_small P respSa psk idR childR idRFits
  have respEr : respSa.keys.skEr.length = 36 := by
    rw [matching.keys]
    exact matching.sizeEr
  obtain ⟨response, answered⟩ := exists_buildEncryptedGcm seals (ikeAuthHeader respSa true)
    (firstPayloadType (pskAnswerChain P respSa psk idR childR none)) ivR respEr answerFits
  refine ⟨response, ?_, ?_⟩
  · have opened := openEncryptedGcm_built correct requestFits requested
    rw [← matching.keys] at opened
    have read := parse_initiatorAuthChain P idI psk (initiatorAuth P initSa psk idI) childI requestFits
    have verified : verifyPsk P (initiatorAuth P initSa psk idI) psk
        (initiatorSignedOctets P respSa.initMessage respSa.nr respSa.keys.skPi idI.toBytes) = .ok () := by
      rw [matching.initMessage, matching.nr, matching.keys]
      exact verifyPsk_pskAuthPayload P psk _
    exact responderProcessAuth_of_verified opened read verified (Identification.parse_toBytes idI) rfl rfl answered
  · have opened := openEncryptedGcm_built correct answerFits answered
    rw [matching.keys] at opened
    have read := parse_responderAuthChain idR psk (responderAuth P respSa psk idR) childR none answerFits
    have verified : verifyPsk P (responderAuth P respSa psk idR) psk
        (responderSignedOctets P initSa.respMessage initSa.ni initSa.keys.skPr idR.toBytes) = .ok () := by
      rw [← matching.respMessage, ← matching.ni, ← matching.keys]
      exact verifyPsk_pskAuthPayload P psk _
    exact initiatorVerifyAuth_of_verified opened read verified (Identification.parse_toBytes idR) rfl

end Auth

/-! ## What the server does with the messages -/

def initiatorSpiOf (received : Option (Bytes × SocketAddr)) : Option UInt64 := do
  let (data, _) ← received
  let header ← (IkeHeader.parse data).toOption
  some header.initiatorSpi

theorem initiatorSpiOf_parsed {data : Bytes} {header : IkeHeader} (parsed : IkeHeader.parse data = .ok header)
    (sender : SocketAddr) : initiatorSpiOf (some (data, sender)) = some header.initiatorSpi := by
  simp only [initiatorSpiOf, Option.bind_eq_bind, Option.bind_some, parsed, Except.toOption]

namespace Server

variable {δ : Type}

/-- Two servers that hold the same for the IKE SAs of an initiator's SPI, and authenticate alike. -/
structure SameFor (spiI : UInt64) (before after : Server δ) : Prop where
  auth : after.auth = before.auth
  session : ∀ spiR, after.sessions.get (spiI, spiR) = before.sessions.get (spiI, spiR)
  child : ∀ spiR, after.children.get (spiI, spiR) = before.children.get (spiI, spiR)

theorem handleOne_sameFor [Entropy δ] (P : Primitives) (self : Server δ) {received : Option (Bytes × SocketAddr)}
    (sendOk : Bool) {spiI : UInt64} (foreign : initiatorSpiOf received ≠ some spiI) :
    SameFor spiI self (self.handleOne P received sendOk).server := by
  have elsewhere : ∀ own, initiatorSpiOf received = some own → ∀ spiR spiR' : UInt64, (spiI, spiR) ≠ (own, spiR') := by
    rintro own isOwn spiR spiR' same
    rw [(Prod.mk.inj same).1] at foreign
    exact foreign isOwn
  have effect := self.handleOne_effect P received sendOk
  generalize self.handleOne P received sendOk = outcome at effect
  cases effect with
  | idle => exact ⟨rfl, fun _ => rfl, fun _ => rfl⟩
  | saInit data sender response sa got answered =>
    subst got
    obtain ⟨header, payloads, group, shared, read, -, form⟩ :=
      responderRespondInner_established (responderRespond_eq_ok answered)
    have own : sa.spiI = header.initiatorSpi := by rw [form]
    refine ⟨rfl, fun spiR => ?_, fun _ => rfl⟩
    exact Table.get_insert_of_ne _ _ (own ▸ elsewhere _ (initiatorSpiOf_parsed read.parsed sender) spiR sa.spiR)
  | auth data sender header sa response peerId peerChildSpi got parsed =>
    subst got
    refine ⟨rfl, fun _ => rfl, fun spiR => ?_⟩
    exact Table.get_insert_of_ne _ _ (elsewhere _ (initiatorSpiOf_parsed parsed sender) spiR header.responderSpi)

theorem takeChild_sameFor (self : Server δ) {spiI own : UInt64} (foreign : own ≠ spiI) (spiR : UInt64) :
    SameFor spiI self (self.takeChild own spiR).2 := by
  refine ⟨rfl, fun _ => rfl, fun other => ?_⟩
  have apart : (spiI, other) ≠ (own, spiR) := fun same => foreign (Prod.mk.inj same).1.symm
  change (self.children.remove (own, spiR)).get (spiI, other) = _
  rw [Table.get_remove, if_neg apart]

end Server

/-! ## Messages in order -/

structure Parties (ε δ : Type) where
  client : Connect ε
  server : Server δ

inductive Outside where
  | foreign (received : Option (Bytes × SocketAddr)) (sendOk : Bool)
  | takeChild (spiI spiR : UInt64)
  deriving DecidableEq

def Foreign (spiI : UInt64) : RelayAction Outside → Prop
  | .outside (.foreign received _) => initiatorSpiOf received ≠ some spiI
  | .outside (.takeChild own _) => own ≠ spiI
  | _ => True

instance (spiI : UInt64) : (action : RelayAction Outside) → Decidable (Foreign spiI action)
  | .outside (.foreign received _) => inferInstanceAs (Decidable (initiatorSpiOf received ≠ some spiI))
  | .outside (.takeChild own _) => inferInstanceAs (Decidable (own ≠ spiI))
  | .connect | .deliverServer | .deliverClient => inferInstanceAs (Decidable True)

namespace Parties

variable {ε δ : Type}

/-- Both ends over such a network. The client has the given address, and the socket takes
every message. -/
def ends [Entropy ε] [Entropy δ] (P : Primitives) (cfg : ConnectConfig) (addr : SocketAddr) :
    Ends (Parties ε δ) Bytes Outside where
  start self :=
    match self.client with
    | .idle entropy =>
        let (sent, client) := Connect.start P entropy true
        (sent.toList, { self with client := client })
    | _ => ([], self)
  atServer data self :=
    let outcome := self.server.handleOne P (some (data, addr)) true
    ((outcome.sent.map Prod.fst).toList, { self with server := outcome.server })
  atClient data self :=
    let (sent, client) := self.client.receive P cfg data true
    (sent.toList, { self with client := client })
  outside action self :=
    match action with
    | .foreign received sendOk => { self with server := (self.server.handleOne P received sendOk).server }
    | .takeChild spiI spiR => { self with server := (self.server.takeChild spiI spiR).2 }

def script : List (RelayAction Outside) := [.connect, .deliverServer, .deliverClient, .deliverServer, .deliverClient]

def spiOf [Entropy ε] (entropy : ε) : UInt64 := (LocalSecret.generate entropy nonceLen).1.spi

/-- Where a handshake stands: what is left of the script, and what the two ends hold. -/
inductive Stage [Entropy ε] (P : Primitives) (cfg : ConnectConfig) (entropy : ε) (auth : AuthConfig) :
    List (RelayAction Outside) → Relay (Parties ε δ) Bytes → Prop where
  | idle (server : Server δ) (same : server.auth = auth) :
      Stage P cfg entropy auth script ⟨⟨.idle entropy, server⟩, [], []⟩
  | offered (server : Server δ) (same : server.auth = auth) (secret : LocalSecret) (after : ε)
      (generated : LocalSecret.generate entropy nonceLen = (secret, after)) :
      Stage P cfg entropy auth (script.drop 1)
        ⟨⟨.awaitInit secret (initiatorRequest P secret defaultOffer) after, server⟩,
          [initiatorRequest P secret defaultOffer], []⟩
  | answered (server : Server δ) (same : server.auth = auth) (secret : LocalSecret) (after : ε) (request response : Bytes)
      (initSa respSa : CompletedSaInit) (completed : initiatorComplete P secret request response = .ok initSa)
      (matching : Matching initSa respSa) (own : initSa.spiI = spiOf entropy)
      (stored : server.sessions.get (spiOf entropy, initSa.spiR) = some respSa) :
      Stage P cfg entropy auth (script.drop 2) ⟨⟨.awaitInit secret request after, server⟩, [], [response]⟩
  | asked (server : Server δ) (same : server.auth = auth) (iv : Iv) (request : Bytes) (initSa respSa : CompletedSaInit)
      (requested : initiatorAuthRequest P initSa cfg.auth cfg.childSpi iv = .ok request)
      (matching : Matching initSa respSa) (own : initSa.spiI = spiOf entropy)
      (stored : server.sessions.get (spiOf entropy, initSa.spiR) = some respSa) :
      Stage P cfg entropy auth (script.drop 3) ⟨⟨.awaitAuth initSa, server⟩, [request], []⟩
  | authed (server : Server δ) (response : Bytes) (initSa : CompletedSaInit) (childSpi : UInt32) (held : ChildSa)
      (own : initSa.spiI = spiOf entropy)
      (verified : initiatorVerifyAuth P initSa response cfg.auth = .ok (auth.id, childSpi, none))
      (isHeld : server.child (spiOf entropy) initSa.spiR = some held)
      (mirrored : World.Mirrored held
        (.derive P initSa.keys.skD initSa.ni initSa.nr .initiator cfg.childSpi childSpi)) :
      Stage P cfg entropy auth (script.drop 4) ⟨⟨.awaitAuth initSa, server⟩, [], [response]⟩
  | done (server : Server δ) (initSa : CompletedSaInit) (child held : ChildSa) (own : initSa.spiI = spiOf entropy)
      (isHeld : server.child (spiOf entropy) initSa.spiR = some held) (mirrored : World.Mirrored held child) :
      Stage P cfg entropy auth [] ⟨⟨.connected initSa auth.id child none, server⟩, [], []⟩

theorem Stage.server [Entropy ε] {P : Primitives} {cfg : ConnectConfig} {entropy : ε} {auth : AuthConfig}
    {left : List (RelayAction Outside)} {self : Relay (Parties ε δ) Bytes} (stage : Stage P cfg entropy auth left self)
    {after : Server δ} (same : Server.SameFor (spiOf entropy) self.ends.server after) :
    Stage P cfg entropy auth left { self with ends := { self.ends with server := after } } := by
  obtain ⟨config, session, child⟩ := same
  cases stage with
  | idle server isAuth => exact .idle after (config.trans isAuth)
  | offered server isAuth secret source generated => exact .offered after (config.trans isAuth) secret source generated
  | answered server isAuth secret source request response initSa respSa completed matching own stored =>
    exact .answered after (config.trans isAuth) secret source request response initSa respSa completed matching own
      ((session _).trans stored)
  | asked server isAuth iv request initSa respSa requested matching own stored =>
    exact .asked after (config.trans isAuth) iv request initSa respSa requested matching own ((session _).trans stored)
  | authed server response initSa childSpi held own verified isHeld mirrored =>
    exact .authed after response initSa childSpi held own verified ((child _).trans isHeld) mirrored
  | done server initSa childI held own isHeld mirrored =>
    exact .done after initSa childI held own ((child _).trans isHeld) mirrored

structure Honest (psk : Bytes) (cfg : ConnectConfig) (auth : AuthConfig) : Prop where
  client : cfg.auth = .psk cfg.auth.id psk
  server : auth = .psk auth.id psk
  idI : cfg.auth.id.toBytes.length < 65000
  idR : auth.id.toBytes.length < 65000

section Steps

variable [Entropy ε] [Entropy δ] {P : Primitives} {cfg : ConnectConfig} {entropy : ε} {auth : AuthConfig}
  (addr : SocketAddr)

theorem offered_answered (commutes : P.X25519Commutes) {server : Server δ} (same : server.auth = auth)
    {secret : LocalSecret} {after : ε} (generated : LocalSecret.generate entropy nonceLen = (secret, after)) :
    Stage P cfg entropy auth (script.drop 2) ((ends P cfg addr).machine
      ⟨⟨.awaitInit secret (initiatorRequest P secret defaultOffer) after, server⟩,
        [initiatorRequest P secret defaultOffer], []⟩ .deliverServer).2 := by
  have spi : secret.spi = spiOf entropy := by
    rw [spiOf, generated]
  have initiatorFits : NonceFits secret := by
    have fits := World.generate_nonceFits entropy
    rwa [generated] at fits
  obtain ⟨response, initSa, respSa, answered, completed, matching, own⟩ :=
    saInit_matching P commutes initiatorFits (World.generate_nonceFits server.entropy)
  obtain ⟨header, parsed, kind⟩ := initiatorRequest_kind P initiatorFits
  have handled : server.handleOne P (some (initiatorRequest P secret defaultOffer, addr)) true =
      server.handleSaInit P (initiatorRequest P secret defaultOffer) addr true := by
    simp only [Server.handleOne, parsed, kind]
  simp only [Ends.machine, ends, handled, Server.handleSaInit, answered, if_true, Option.map_some, Option.toList_some,
    List.nil_append]
  refine Stage.answered _ ?_ secret after _ response initSa respSa completed matching (own.trans spi) ?_
  · exact same
  · rw [← own.trans spi, ← matching.spiI, ← matching.spiR]
    exact Table.get_insert_self _ _ _

theorem answered_asked (seals : P.GcmSeals) {psk : Bytes} (honest : Honest psk cfg auth) {server : Server δ}
    (same : server.auth = auth) {secret : LocalSecret} {after : ε} {request response : Bytes}
    {initSa respSa : CompletedSaInit} (completed : initiatorComplete P secret request response = .ok initSa)
    (matching : Matching initSa respSa) (own : initSa.spiI = spiOf entropy)
    (stored : server.sessions.get (spiOf entropy, initSa.spiR) = some respSa) :
    Stage P cfg entropy auth (script.drop 3)
      ((ends P cfg addr).machine ⟨⟨.awaitInit secret request after, server⟩, [], [response]⟩ .deliverClient).2 := by
  obtain ⟨message, requested⟩ := auth_requested seals matching psk honest.idI cfg.childSpi (Iv.draw after).1
  rw [← honest.client] at requested
  simp only [Ends.machine, ends, Connect.receive, Connect.completeInit, completed, requested, if_true, Option.toList_some,
    List.nil_append]
  exact .asked server same _ message initSa respSa requested matching own stored

theorem asked_authed (correct : P.GcmCorrect) (seals : P.GcmSeals) {psk : Bytes} (honest : Honest psk cfg auth)
    {server : Server δ} (same : server.auth = auth) {iv : Iv} {request : Bytes} {initSa respSa : CompletedSaInit}
    (requested : initiatorAuthRequest P initSa cfg.auth cfg.childSpi iv = .ok request)
    (matching : Matching initSa respSa) (own : initSa.spiI = spiOf entropy)
    (stored : server.sessions.get (spiOf entropy, initSa.spiR) = some respSa) :
    Stage P cfg entropy auth (script.drop 4)
      ((ends P cfg addr).machine ⟨⟨.awaitAuth initSa, server⟩, [request], []⟩ .deliverServer).2 := by
  have asked := requested
  rw [honest.client] at asked
  obtain ⟨response, answered, verified⟩ := auth_answered correct seals matching psk honest.idI honest.idR asked
    (Server.drawAuth server.entropy).1.1 (Server.drawAuth server.entropy).1.2
  rw [← honest.server, ← same] at answered
  rw [← honest.client] at verified
  have processed : server.processAuth P respSa request = .ok (response, cfg.auth.id, cfg.childSpi) := answered
  obtain ⟨header, parsed, kind, isI, isR⟩ := parse_auth_requested requested
  have session : server.sessions.get (header.initiatorSpi, header.responderSpi) = some respSa := by
    rw [isI, isR, own]
    exact stored
  have handled : server.handleOne P (some (request, addr)) true =
      server.handleAuth P (header.initiatorSpi, header.responderSpi) request addr true := by
    simp only [Server.handleOne, parsed, kind]
  simp only [Ends.machine, ends, handled, Server.handleAuth, session, processed, if_true, Option.map_some,
    Option.toList_some, List.nil_append]
  let held : ChildSa :=
    .derive P respSa.keys.skD respSa.ni respSa.nr .responder (Server.drawAuth server.entropy).1.1 cfg.childSpi
  refine .authed _ response initSa (Server.drawAuth server.entropy).1.1 held own verified ?_ ?_
  · rw [isI, isR, own]
    exact Table.get_insert_self _ _ _
  · have mirrored := World.mirrored_derive P initSa.keys.skD initSa.ni initSa.nr
      (Server.drawAuth server.entropy).1.1 cfg.childSpi
    rwa [← matching.keys, ← matching.ni, ← matching.nr] at mirrored ⊢

theorem authed_done {server : Server δ} {response : Bytes} {initSa : CompletedSaInit} {childSpi : UInt32} {held : ChildSa}
    (own : initSa.spiI = spiOf entropy)
    (verified : initiatorVerifyAuth P initSa response cfg.auth = .ok (auth.id, childSpi, none))
    (isHeld : server.child (spiOf entropy) initSa.spiR = some held)
    (mirrored : World.Mirrored held
      (.derive P initSa.keys.skD initSa.ni initSa.nr .initiator cfg.childSpi childSpi)) :
    Stage P cfg entropy auth []
      ((ends P cfg addr).machine ⟨⟨.awaitAuth initSa, server⟩, [], [response]⟩ .deliverClient).2 := by
  simp only [Ends.machine, ends, Connect.receive, Connect.completeAuth, verified, Option.toList_none, List.append_nil]
  exact .done server initSa _ held own isHeld mirrored

structure Working (P : Primitives) : Prop where
  commutes : P.X25519Commutes
  correct : P.GcmCorrect
  seals : P.GcmSeals

theorem Stage.advance (working : Working P) {psk : Bytes} (honest : Honest psk cfg auth) {input : RelayAction Outside}
    {left : List (RelayAction Outside)} {self : Relay (Parties ε δ) Bytes}
    (stage : Stage P cfg entropy auth (input :: left) self) :
    Stage P cfg entropy auth left ((ends P cfg addr).machine self input).2 := by
  generalize whole : input :: left = rest at stage
  cases stage with
  | idle server same =>
    cases whole
    exact .offered server same _ _ rfl
  | offered server same secret after generated =>
    cases whole
    exact offered_answered addr working.commutes same generated
  | answered server same secret after request response initSa respSa completed matching own stored =>
    cases whole
    exact answered_asked addr working.seals honest same completed matching own stored
  | asked server same iv request initSa respSa requested matching own stored =>
    cases whole
    exact asked_authed addr working.correct working.seals honest same requested matching own stored
  | authed server response initSa childSpi held own verified isHeld mirrored =>
    cases whole
    exact authed_done addr own verified isHeld mirrored
  | done => cases whole

theorem Stage.keep {input : RelayAction Outside} {left : List (RelayAction Outside)} {self : Relay (Parties ε δ) Bytes}
    (foreign : Foreign (spiOf entropy) input) (other : left.head? ≠ some input)
    (stage : Stage P cfg entropy auth left self) :
    Stage P cfg entropy auth left ((ends P cfg addr).machine self input).2 := by
  have still : ((ends P cfg addr).machine self input).2 = self →
      Stage P cfg entropy auth left ((ends P cfg addr).machine self input).2 := by
    intro same
    rw [same]
    exact stage
  cases input with
  | connect =>
    apply still
    cases stage with
    | idle => exact absurd rfl other
    | offered | answered | asked | authed | done => simp only [Ends.machine, ends, List.append_nil]
  | deliverServer =>
    apply still
    cases stage with
    | offered | asked => exact absurd rfl other
    | idle | answered | authed | done => rfl
  | deliverClient =>
    apply still
    cases stage with
    | answered | authed => exact absurd rfl other
    | idle | offered | asked | done => rfl
  | outside action =>
    cases action with
    | foreign received sendOk => exact stage.server (Server.handleOne_sameFor P self.ends.server sendOk foreign)
    | takeChild own spiR => exact stage.server (Server.takeChild_sameFor self.ends.server foreign spiR)

end Steps

/-- The client is back with the server's identity and a child, and the server holds the
mirror image of it for the IKE SA. -/
def Connected (spiI : UInt64) (peer : Identification) (self : Parties ε δ) : Prop :=
  ∃ sa child held, self.client = .connected sa peer child none ∧ sa.spiI = spiI ∧
    self.server.child spiI sa.spiR = some held ∧ World.Mirrored held child

theorem Stage.connected [Entropy ε] {P : Primitives} {cfg : ConnectConfig} {entropy : ε} {auth : AuthConfig}
    {self : Relay (Parties ε δ) Bytes} (stage : Stage P cfg entropy auth [] self) :
    Connected (spiOf entropy) auth.id self.ends := by
  generalize nothing : ([] : List (RelayAction Outside)) = left at stage
  cases stage with
  | done server initSa child held own isHeld mirrored => exact ⟨initSa, child, held, rfl, own, isHeld, mirrored⟩
  | idle | offered | answered | asked | authed => cases nothing

/-- Whatever the server held before: a schedule in which the handshake gets its five turns in
order connects, with any datagrams under other SPIs and any other turns between. -/
theorem returns_of_script [Entropy ε] [Entropy δ] (P : Primitives) (working : Working P) (cfg : ConnectConfig)
    (addr : SocketAddr) (entropy : ε) (server : Server δ) (psk : Bytes) (honest : Honest psk cfg server.auth)
    (schedule : List (RelayAction Outside)) (turns : script.Sublist schedule)
    (foreign : ∀ action ∈ schedule, Foreign (spiOf entropy) action) :
    Connected (spiOf entropy) server.auth.id
      ((ends P cfg addr).machine.final ⟨⟨.idle entropy, server⟩, [], []⟩ schedule).ends := by
  have all : ∀ call ∈ (ends P cfg addr).machine.calls ⟨⟨.idle entropy, server⟩, [], []⟩ schedule,
      Foreign (spiOf entropy) call.input :=
    fun call isCall => foreign call.input (Machine.input_mem isCall)
  exact Stage.connected (Machine.plays (Stage P cfg entropy server.auth) (fun call => Foreign (spiOf entropy) call.input)
    (fun _ _ _ _ stage => stage.advance addr working honest)
    (fun _ _ _ foreign other stage => stage.keep addr foreign other) turns (Stage.idle server rfl) all)

end Parties

namespace Toy
open Ryke.Toy

def connectConfig : ConnectConfig := ⟨.psk alice psk, 5⟩

def otherRequest : RelayAction Outside := .outside (.foreign (some (saInitRequest, clientAddr)) true)

def busy : List (RelayAction Outside) := Parties.script.flatMap fun turn => [otherRequest, turn] ++ [.connect]

end Toy

namespace Parties
open Ryke.Toy

theorem returns_busy :
    Connected (spiOf (⟨1⟩ : Counter)) Toy.serverConfig.id
      ((ends toyMac Toy.connectConfig Toy.clientAddr).machine.final ⟨⟨.idle (⟨1⟩ : Counter), Toy.server⟩, [], []⟩
        Toy.busy).ends :=
  returns_of_script toyMac ⟨toy_commutes, toyMac_gcmCorrect, toyMac_gcmSeals⟩ Toy.connectConfig Toy.clientAddr
    (⟨1⟩ : Counter) Toy.server Toy.psk ⟨rfl, rfl, by decide, by decide⟩ Toy.busy (by decide) (by decide +kernel)

end Parties

end Ryke.Ikev2
