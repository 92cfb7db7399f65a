import Ryke.Ikev2.Binding
import Ryke.Ikev2.Server

/-! A client's `connect` and a server over a network that may lose, repeat, delay and
reorder datagrams. Every datagram that was sent stays deliverable, any number of times. -/

namespace Ryke.Ikev2
open Lib Crypto

/-- Where a call of `Client::connect` stands. -/
inductive Connect (ε : Type) where
  | idle (entropy : ε)
  | awaitInit (secret : LocalSecret) (request : Bytes) (entropy : ε)
  | awaitAuth (sa : CompletedSaInit)
  | connected (sa : CompletedSaInit) (peer : Identification) (child : ChildSa) (assigned : Option Ipv4Addr)
  | failed (error : DriverError)

structure ConnectConfig where
  auth : AuthConfig
  childSpi : UInt32

namespace Connect

variable {ε : Type} [Entropy ε]

def start (P : Primitives) (entropy : ε) (sendOk : Bool) : Option Bytes × Connect ε :=
  let (secret, entropy) := LocalSecret.generate entropy nonceLen
  let request := initiatorRequest P secret defaultOffer
  if sendOk then (some request, .awaitInit secret request entropy) else (none, .failed .io)

def completeInit (P : Primitives) (cfg : ConnectConfig) (secret : LocalSecret) (request response : Bytes)
    (entropy : ε) (sendOk : Bool) : Option Bytes × Connect ε :=
  match initiatorComplete P secret request response with
  | .error error => (none, .failed (.ike error))
  | .ok sa =>
      match initiatorAuthRequest P sa cfg.auth cfg.childSpi (Iv.draw entropy).1 with
      | .error error => (none, .failed (.ike error))
      | .ok message => if sendOk then (some message, .awaitAuth sa) else (none, .failed .io)

theorem completeInit_cases (P : Primitives) (cfg : ConnectConfig) (secret : LocalSecret)
    (request response : Bytes) (entropy : ε) (sendOk : Bool) :
    (∃ error, completeInit P cfg secret request response entropy sendOk = (none, .failed error)) ∨
      ∃ sa message, initiatorComplete P secret request response = .ok sa ∧
        initiatorAuthRequest P sa cfg.auth cfg.childSpi (Iv.draw entropy).1 = .ok message ∧
        completeInit P cfg secret request response entropy sendOk = (some message, .awaitAuth sa) := by
  unfold completeInit
  split
  next error _ => exact .inl ⟨_, rfl⟩
  next sa completed =>
    split
    next error _ => exact .inl ⟨_, rfl⟩
    next message requested =>
      split
      next => exact .inr ⟨sa, message, completed, requested, rfl⟩
      next => exact .inl ⟨_, rfl⟩

def completeAuth (P : Primitives) (cfg : ConnectConfig) (sa : CompletedSaInit) (response : Bytes) : Connect ε :=
  match initiatorVerifyAuth P sa response cfg.auth with
  | .error error => .failed (.ike error)
  | .ok (peer, peerChildSpi, assigned) =>
      .connected sa peer (.derive P sa.keys.skD sa.ni sa.nr .initiator cfg.childSpi peerChildSpi) assigned

def receive (P : Primitives) (cfg : ConnectConfig) (self : Connect ε) (response : Bytes) (sendOk : Bool) :
    Option Bytes × Connect ε :=
  match self with
  | .awaitInit secret request entropy => completeInit P cfg secret request response entropy sendOk
  | .awaitAuth sa => (none, completeAuth P cfg sa response)
  | other => (none, other)

def timeout (self : Connect ε) : Connect ε :=
  match self with
  | .awaitInit _ _ _ | .awaitAuth _ => .failed .io
  | other => other

end Connect

structure World (ε δ : Type) where
  client : Connect ε
  server : Server δ
  toServer : List Bytes
  toClient : List Bytes

inductive NetAction where
  | connect (sendOk : Bool)
  /-- Deliver the n-th datagram ever sent to the server. -/
  | toServer (n : Nat) (sendOk : Bool)
  | toClient (n : Nat) (sendOk : Bool)
  | clientTimeout
  | serverTimeout

namespace World

variable {ε δ : Type}

def machine [Entropy ε] [Entropy δ] (P : Primitives) (cfg : ConnectConfig) (addr : SocketAddr) :
    Machine (World ε δ) NetAction (Option Bytes) := fun self action =>
  match action with
  | .connect sendOk =>
      match self.client with
      | .idle entropy =>
          let (sent, client) := Connect.start P entropy sendOk
          (sent, { self with client := client, toServer := self.toServer ++ sent.toList })
      | _ => (none, self)
  | .toServer n sendOk =>
      match self.toServer[n]? with
      | none => (none, self)
      | some data =>
          let outcome := self.server.handleOne P (some (data, addr)) sendOk
          let sent := outcome.sent.map Prod.fst
          (sent, { self with server := outcome.server, toClient := self.toClient ++ sent.toList })
  | .toClient n sendOk =>
      match self.toClient[n]? with
      | none => (none, self)
      | some data =>
          let (sent, client) := self.client.receive P cfg data sendOk
          (sent, { self with client := client, toServer := self.toServer ++ sent.toList })
  | .clientTimeout => (none, { self with client := self.client.timeout })
  | .serverTimeout => (none, { self with server := (self.server.handleOne P none true).server })

def init (clientEntropy : ε) (serverEntropy : δ) (auth : AuthConfig) : World ε δ :=
  ⟨.idle clientEntropy, .bind serverEntropy auth, [], []⟩

def wire (self : World ε δ) : List Bytes := (self.toServer ++ self.toClient).map sealedText

def Mirrored (server client : ChildSa) : Prop :=
  (server.inbound.spi = client.outbound.spi ∧ server.inbound.key = client.outbound.key ∧
      server.inbound.salt = client.outbound.salt) ∧
    (server.outbound.spi = client.inbound.spi ∧ server.outbound.key = client.inbound.key ∧
      server.outbound.salt = client.inbound.salt)

/-- Once `connect` has returned, the child that the server holds for it fits. -/
def Agreed (world : World ε δ) : Prop :=
  ∀ sa peer child assigned, world.client = .connected sa peer child assigned →
    ∀ held, world.server.child sa.spiI sa.spiR = some held → Mirrored held child

def received (call : Call (World ε δ) NetAction (Option Bytes)) (addr : SocketAddr) : Option (Bytes × SocketAddr) :=
  match call.input with
  | .toServer n _ => call.before.toServer[n]?.map (·, addr)
  | _ => none

def sends (call : Call (World ε δ) NetAction (Option Bytes)) : Bool :=
  match call.input with
  | .toServer _ sendOk => sendOk
  | _ => false

/-- No `IKE_AUTH` is accepted and answered for an SPI pair that already has a child. -/
def Once [Entropy δ] (P : Primitives) (addr : SocketAddr) (call : Call (World ε δ) NetAction (Option Bytes)) : Prop :=
  ∀ key ∈ call.before.server.acceptsAuth P (received call addr) (sends call),
    call.before.server.children.get key = none

instance [Entropy δ] (P : Primitives) (addr : SocketAddr) (call : Call (World ε δ) NetAction (Option Bytes)) :
    Decidable (Once P addr call) :=
  Option.decidableForallMem _

def scheduleOf (P : Primitives) (secret : LocalSecret) (message : Bytes) (sa : CompletedSaInit) :
    List (Bytes × Bytes) :=
  keyQueries P (sharedWith P secret message) sa.ni sa.nr sa.spiI sa.spiR sa.suite.keyLengths

def queries [Entropy δ] (P : Primitives) (call : Call (World ε δ) NetAction (Option Bytes)) : List (Bytes × Bytes) :=
  match call.input with
  | .toServer n _ =>
      match call.before.toServer[n]? with
      | none => []
      | some data =>
          let secret := (LocalSecret.generate call.before.server.entropy nonceLen).1
          match responderRespond P data secret with
          | .ok (_, sa) => scheduleOf P secret data sa
          | .error _ => []
  | .toClient n _ =>
      match call.before.client, call.before.toClient[n]? with
      | .awaitInit secret request _, some response =>
          match initiatorComplete P secret request response with
          | .ok sa => scheduleOf P secret response sa
          | .error _ => []
      | _, _ => []
  | _ => []

/-! ## What the messages on the wire can be -/

/-- A message without an SK payload in front, such as those of `IKE_SA_INIT`. -/
def Plain (message : Bytes) : Prop :=
  ∀ header, IkeHeader.parse message = .ok header → header.nextPayload ≠ .encrypted

theorem Plain.not_opened {message : Bytes} (plain : Plain message) {P : Primitives} {skE : Bytes}
    {result : PayloadType × Bytes} : ¬ openEncryptedGcm P message skE = .ok result := by
  intro opened
  unfold openEncryptedGcm at opened
  obtain ⟨_, _, opened⟩ := bind_eq_ok opened
  obtain ⟨header, parsed, opened⟩ := bind_eq_ok opened
  obtain ⟨encrypted, opened⟩ := guard_eq_ok opened
  exact plain header parsed (not_not.mp encrypted)

theorem plain_buildSaInit (spiI spiR : UInt64) (flags : Flags) {sa : SecurityAssociation} (dhGroup : UInt16)
    {dhPublic nonce : Bytes} {notifies : List Notify} (saSmall : 4 + sa.toBytes.length < 65536)
    (publicSmall : 8 + dhPublic.length < 65536) (nonceSmall : 4 + nonce.length < 65536)
    (passive : ∀ notify ∈ notifies, Passive notify) :
    Plain (buildSaInit (baseHeader spiI spiR flags) sa dhGroup dhPublic nonce notifies) := by
  intro header parsed
  have formed := saInitBuilder_wellFormed spiI spiR flags dhGroup saSmall publicSmall nonceSmall passive
  have own := MessageBuilder.parse_build formed []
  rw [List.append_nil] at own
  cases own.symm.trans parsed
  intro same
  cases same

theorem generate_nonceFits [Entropy ε] (entropy : ε) : NonceFits (LocalSecret.generate entropy nonceLen).1 := by
  have size : (LocalSecret.generate entropy nonceLen).1.nonce.length = 32 :=
    Entropy.fill_length (Entropy.nextArray32 entropy).2 32
  rw [NonceFits, size]
  decide

theorem plain_initiatorRequest [Entropy ε] (P : Primitives) (entropy : ε) :
    Plain (initiatorRequest P (LocalSecret.generate entropy nonceLen).1 defaultOffer) :=
  plain_buildSaInit _ _ _ _ (by decide) (public_small P _ _) (generate_nonceFits entropy)
    (fun _ member => absurd member List.not_mem_nil)

theorem plain_response [Entropy ε] {P : Primitives} {data response : Bytes} {entropy : ε} {sa : CompletedSaInit}
    (answered : responderRespond P data (LocalSecret.generate entropy nonceLen).1 = .ok (response, sa)) :
    Plain response := by
  obtain ⟨header, payloads, group, shared, received, rfl, -⟩ :=
    responderRespondInner_established (responderRespond_eq_ok answered)
  exact plain_buildSaInit _ _ _ _ (OfferFits.toProposal received.supported).2 (public_small P _ _)
    (generate_nonceFits entropy) (natNotifies_passive P _ _ none)

/-- The server's `IKE_AUTH` response, with its ESP SPI. -/
def AuthAnswer (P : Primitives) (message : Bytes) (childSpi : UInt32) : Prop :=
  ∃ header chain idBody auth skE iv, AuthShape chain idBody auth childSpi ∧
    buildEncryptedGcm P header (firstPayloadType chain) (encodePayloadChain chain) skE iv = .ok message

theorem AuthAnswer.verified {P : Primitives} {message : Bytes} {childSpi peerChildSpi : UInt32}
    (ideal : P.GcmIdeal [sealedText message]) (answer : AuthAnswer P message childSpi)
    {sa : CompletedSaInit} {cfg : AuthConfig} {peer : Identification}
    {assigned : Option Ipv4Addr}
    (verified : initiatorVerifyAuth P sa message cfg = .ok (peer, peerChildSpi, assigned)) :
    peerChildSpi = childSpi := by
  obtain ⟨header, chain, idBody, auth, skE, iv, shape, built⟩ := answer
  obtain ⟨first, inner, got, opened, read, -, -, spi⟩ := initiatorVerifyAuth_eq_ok verified
  obtain ⟨-, -, -, -, own⟩ := shape.read ideal built opened read
  exact Option.some.inj (spi.symm.trans own)

/-! ## Key schedules -/

structure Keyed (P : Primitives) (queries : List (Bytes × Bytes)) (sa : CompletedSaInit) : Prop where
  supported : sa.suite.Supported
  schedule : ∃ shared,
    sa.keys = deriveSessionKeys P shared sa.ni sa.nr sa.spiI sa.spiR sa.suite.keyLengths ∧
      ∀ query ∈ keyQueries P shared sa.ni sa.nr sa.spiI sa.spiR sa.suite.keyLengths, query ∈ queries

theorem Keyed.mono {P : Primitives} {fewer more : List (Bytes × Bytes)} {sa : CompletedSaInit}
    (keyed : Keyed P fewer sa) (within : ∀ query ∈ fewer, query ∈ more) : Keyed P more sa := by
  obtain ⟨supported, shared, keys, inputs⟩ := keyed
  exact ⟨supported, shared, keys, fun query member => within query (inputs query member)⟩

theorem keyed_of_received {P : Primitives} {secret : LocalSecret} {message : Bytes} {header : IkeHeader}
    {payloads : SaInitPayloads} {group : DhGroup} {shared : Bytes} {sa : CompletedSaInit}
    (received : Received P secret message header payloads sa.suite group shared)
    (keys : sa.keys = deriveSessionKeys P shared sa.ni sa.nr sa.spiI sa.spiR sa.suite.keyLengths) :
    Keyed P (scheduleOf P secret message sa) sa := by
  refine ⟨received.supported, shared, keys, ?_⟩
  intro query member
  rw [scheduleOf, received.sharedWith_eq]
  exact member

theorem keyed_of_responds {P : Primitives} {data response : Bytes} {secret : LocalSecret} {sa : CompletedSaInit}
    (answered : responderRespond P data secret = .ok (response, sa)) :
    Keyed P (scheduleOf P secret data sa) sa := by
  obtain ⟨header, payloads, group, shared, received, -, form⟩ :=
    responderRespondInner_established (responderRespond_eq_ok answered)
  apply keyed_of_received received
  rw [form]

theorem keyed_of_completes {P : Primitives} {request response : Bytes} {secret : LocalSecret}
    {sa : CompletedSaInit} (completed : initiatorComplete P secret request response = .ok sa) :
    Keyed P (scheduleOf P secret response sa) sa := by
  obtain ⟨header, payloads, group, shared, received, form⟩ := initiatorComplete_eq_ok completed
  apply keyed_of_received received
  rw [form]

theorem Keyed.same {P : Primitives} {queries : List (Bytes × Bytes)} (noCollision : P.NoCollision queries)
    {sa other : CompletedSaInit} (keyed : Keyed P queries sa) (keyedOther : Keyed P queries other)
    (sameEi : other.keys.skEi = sa.keys.skEi) (size : sa.keys.skEi.length = 36) :
    other.keys = sa.keys ∧ other.ni ++ other.nr = sa.ni ++ sa.nr := by
  obtain ⟨supported, shared, keys, inputs⟩ := keyed
  obtain ⟨supportedOther, sharedOther, keysOther, inputsOther⟩ := keyedOther
  obtain ⟨lengths, keys⟩ := gcm_of_skEi supported keys size
  obtain ⟨lengthsOther, keysOther⟩ := gcm_of_skEi supportedOther keysOther (by rw [sameEi, size])
  rw [lengths] at inputs
  rw [lengthsOther] at inputsOther
  rw [keys, keysOther] at sameEi
  obtain ⟨sameShared, nonces, spiI, spiR⟩ := same_schedule noCollision inputsOther inputs sameEi
  refine ⟨?_, nonces⟩
  rw [keys, keysOther, deriveSessionKeys, deriveSessionKeys, skeyseed, skeyseed, keySeed, keySeed, nonces,
    sameShared, spiI, spiR]

theorem derive_congr (P : Primitives) (skD : Bytes) {ni nr ni' nr' : Bytes} (nonces : ni ++ nr = ni' ++ nr')
    (role : Role) (localSpi peerSpi : UInt32) :
    ChildSa.derive P skD ni nr role localSpi peerSpi = ChildSa.derive P skD ni' nr' role localSpi peerSpi := by
  have keys : deriveChildKeys P skD ni nr 36 0 = deriveChildKeys P skD ni' nr' 36 0 := by
    rw [deriveChildKeys, nonces]
    rfl
  unfold ChildSa.derive
  simp only [keys]

theorem mirrored_derive (P : Primitives) (skD ni nr : Bytes) (serverSpi clientSpi : UInt32) :
    Mirrored (.derive P skD ni nr .responder serverSpi clientSpi)
      (.derive P skD ni nr .initiator clientSpi serverSpi) :=
  ⟨⟨rfl, rfl, rfl⟩, rfl, rfl, rfl⟩

theorem parse_initiatorAuthRequest {P : Primitives} {sa : CompletedSaInit} {cfg : AuthConfig} {childSpi : UInt32}
    {iv : Iv} {request : Bytes} (requested : initiatorAuthRequest P sa cfg childSpi iv = .ok request)
    {header : IkeHeader} (parsed : IkeHeader.parse request = .ok header) :
    header.initiatorSpi = sa.spiI ∧ header.responderSpi = sa.spiR := by
  obtain ⟨⟨auth, certs⟩, -, built⟩ := bind_eq_ok requested
  obtain ⟨sealed, -, built⟩ := bind_eq_ok built
  cases built
  rw [skAad, List.append_assoc, IkeHeader.parse_toBytes
    ⟨rfl, (by decide : (2 : UInt8) < 16), (by decide : (0 : UInt8) < 16), rfl⟩] at parsed
  cases parsed
  exact ⟨rfl, rfl⟩

/-- A session that accepts the client's request has its encryption key and learns its
ESP SPI; what it answers carries the server's. -/
theorem accepted_request [Entropy δ] {P : Primitives} {sa session : CompletedSaInit} {cfg : ConnectConfig}
    {iv : Iv} {request : Bytes} (ideal : P.GcmIdeal [sealedText request])
    (requested : initiatorAuthRequest P sa cfg.auth cfg.childSpi iv = .ok request)
    {server : Server δ} {response : Bytes} {peerId : Identification} {peerChildSpi : UInt32}
    (processed : server.processAuth P session request = .ok (response, peerId, peerChildSpi)) :
    session.keys.skEi = sa.keys.skEi ∧ sa.keys.skEi.length = 36 ∧ peerChildSpi = cfg.childSpi ∧
      AuthAnswer P response (Server.drawAuth server.entropy).1.1 := by
  obtain ⟨⟨auth, certs⟩, signed, sealed⟩ := bind_eq_ok requested
  obtain ⟨first, inner, got, ownAuth, ownCerts, opened, read, -, -, spi, ownSigned, answered⟩ :=
    responderProcessAuth_eq_ok processed
  obtain ⟨sameKey, size, -, -, own⟩ :=
    (initiatorAuthChain_shape (buildLocalAuth_neutral signed) cfg.childSpi).read ideal sealed opened read
  exact ⟨sameKey, size, Option.some.inj (spi.symm.trans own), _, _, _, _, _, _,
    responderAuthChain_shape (buildLocalAuth_neutral ownSigned) _ none, answered⟩

/-! ## The invariant -/

def Quiet (toClient : List Bytes) (server : Server δ) : Prop :=
  (∀ message ∈ toClient, Plain message) ∧ ∀ key, server.children.get key = none

/-- The server has a child for the SA, and its answer carries the SPI of that child. -/
def Answered (P : Primitives) (cfg : ConnectConfig) (sa : CompletedSaInit) (serverSpi : UInt32)
    (toClient : List Bytes) (server : Server δ) : Prop :=
  server.children.get (sa.spiI, sa.spiR) =
      some (.derive P sa.keys.skD sa.ni sa.nr .responder serverSpi cfg.childSpi) ∧
    ∀ message ∈ toClient, Plain message ∨ AuthAnswer P message serverSpi

structure Asked (P : Primitives) (cfg : ConnectConfig) (queries : List (Bytes × Bytes)) (sa : CompletedSaInit)
    (toServer : List Bytes) : Prop where
  keyed : Keyed P queries sa
  request : ∃ iv request, initiatorAuthRequest P sa cfg.auth cfg.childSpi iv = .ok request ∧
    ∀ message ∈ toServer, Plain message ∨ message = request

def ClientInv (P : Primitives) (cfg : ConnectConfig) (queries : List (Bytes × Bytes)) (world : World ε δ) : Prop :=
  match world.client with
  | .idle _ | .awaitInit _ _ _ =>
      (∀ message ∈ world.toServer, Plain message) ∧ Quiet world.toClient world.server
  | .awaitAuth sa => Asked P cfg queries sa world.toServer ∧
      (Quiet world.toClient world.server ∨ ∃ spi, Answered P cfg sa spi world.toClient world.server)
  | .connected sa _ child _ => Asked P cfg queries sa world.toServer ∧
      ∃ spi, Answered P cfg sa spi world.toClient world.server ∧
        child = .derive P sa.keys.skD sa.ni sa.nr .initiator cfg.childSpi spi
  | .failed _ => True

structure Inv (P : Primitives) (cfg : ConnectConfig) (queries : List (Bytes × Bytes)) (world : World ε δ) : Prop where
  sessions : ∀ key sa, world.server.sessions.get key = some sa → Keyed P queries sa
  client : ClientInv P cfg queries world

theorem Inv.agreed {P : Primitives} {cfg : ConnectConfig} {queries : List (Bytes × Bytes)} {world : World ε δ}
    (inv : Inv P cfg queries world) : Agreed world := by
  intro sa peer child assigned connected held isHeld
  have client := inv.client
  rw [ClientInv, connected] at client
  obtain ⟨-, spi, ⟨own, -⟩, rfl⟩ := client
  cases own.symm.trans isHeld
  exact mirrored_derive P _ _ _ _ _

theorem Asked.mono {P : Primitives} {cfg : ConnectConfig} {fewer more : List (Bytes × Bytes)} {sa : CompletedSaInit}
    {toServer : List Bytes} (asked : Asked P cfg fewer sa toServer) (within : ∀ query ∈ fewer, query ∈ more) :
    Asked P cfg more sa toServer :=
  ⟨asked.keyed.mono within, asked.request⟩

/-! ## Steps of the server -/

section ServerStep

variable {P : Primitives} {cfg : ConnectConfig} {queries : List (Bytes × Bytes)} {server : Server δ}
  {data : Bytes} {addr : SocketAddr} {sendOk : Bool} {outcome : Outcome δ} {toClient : List Bytes}

theorem mem_append_sent {message : Bytes} {sent : Option (Bytes × SocketAddr)}
    (member : message ∈ toClient ++ (sent.map Prod.fst).toList) :
    message ∈ toClient ∨ ∃ receiver, sent = some (message, receiver) := by
  rcases List.mem_append.mp member with before | now
  · exact .inl before
  · cases sent with
    | none => cases now
    | some pair =>
      simp only [Option.map_some, Option.toList_some, List.mem_singleton] at now
      exact .inr ⟨pair.2, by rw [now]⟩

def Unanswered (server : Server δ) (outcome : Outcome δ) : Prop :=
  outcome.server.children = server.children ∧
    ∀ message receiver, outcome.sent = some (message, receiver) → Plain message

theorem plain_step [Entropy δ] (step : server.Step P (some (data, addr)) sendOk outcome) (plain : Plain data) :
    Unanswered server outcome := by
  cases step with
  | quiet _ children _ silent =>
    refine ⟨children, fun message receiver sent => ?_⟩
    rw [silent] at sent
    cases sent
  | saInit _ _ response sa _ answered own _ children _ =>
    refine ⟨children, fun message receiver sent => ?_⟩
    cases own.symm.trans sent
    exact plain_response answered
  | auth own _ header key session _ _ _ got _ _ _ _ processed =>
    cases got
    obtain ⟨_, _, _, _, _, opened, -⟩ := responderProcessAuth_eq_ok processed
    exact absurd opened plain.not_opened

theorem keyed_step [Entropy δ] (step : server.Step P (some (data, addr)) sendOk outcome)
    (keyed : ∀ key sa, server.sessions.get key = some sa → Keyed P queries sa)
    (schedule : ∀ response sa, responderRespond P data (LocalSecret.generate server.entropy nonceLen).1 =
      .ok (response, sa) → ∀ query ∈ scheduleOf P (LocalSecret.generate server.entropy nonceLen).1 data sa,
        query ∈ queries) :
    ∀ key sa, outcome.server.sessions.get key = some sa → Keyed P queries sa := by
  intro key sa stored
  cases step with
  | quiet sessions _ _ _ => exact keyed key sa (sessions ▸ stored)
  | saInit own _ response added got answered _ sessions _ _ =>
    cases got
    rw [sessions, Table.get_insert] at stored
    split at stored
    next =>
      cases stored
      exact (keyed_of_responds answered).mono (schedule response sa answered)
    next => exact keyed key sa stored
  | auth _ _ _ _ _ _ _ _ _ _ _ _ _ _ _ sessions _ _ => exact keyed key sa (sessions ▸ stored)

theorem Quiet.keep (quiet : Quiet toClient server) (unanswered : Unanswered server outcome) :
    Quiet (toClient ++ (outcome.sent.map Prod.fst).toList) outcome.server := by
  obtain ⟨children, sent⟩ := unanswered
  refine ⟨fun message member => ?_, fun key => ?_⟩
  · rcases mem_append_sent member with before | ⟨receiver, now⟩
    · exact quiet.1 message before
    · exact sent message receiver now
  · rw [children]
    exact quiet.2 key

theorem Answered.keep {sa : CompletedSaInit} {serverSpi : UInt32}
    (answered : Answered P cfg sa serverSpi toClient server) (unanswered : Unanswered server outcome) :
    Answered P cfg sa serverSpi (toClient ++ (outcome.sent.map Prod.fst).toList) outcome.server := by
  obtain ⟨children, sent⟩ := unanswered
  refine ⟨?_, fun message member => ?_⟩
  · rw [children]
    exact answered.1
  · rcases mem_append_sent member with before | ⟨receiver, now⟩
    · exact answered.2 message before
    · exact .inl (sent message receiver now)

theorem Quiet.answer {sa : CompletedSaInit} {serverSpi : UInt32} (quiet : Quiet toClient server)
    (children : outcome.server.children = server.children.insert (sa.spiI, sa.spiR)
      (.derive P sa.keys.skD sa.ni sa.nr .responder serverSpi cfg.childSpi))
    (sent : ∀ message receiver, outcome.sent = some (message, receiver) → AuthAnswer P message serverSpi) :
    Answered P cfg sa serverSpi (toClient ++ (outcome.sent.map Prod.fst).toList) outcome.server := by
  refine ⟨?_, fun message member => ?_⟩
  · rw [children, Table.get_insert_self]
  · rcases mem_append_sent member with before | ⟨receiver, now⟩
    · exact .inl (quiet.1 message before)
    · exact .inr (sent message receiver now)

theorem step_request [Entropy δ] (ideal : P.GcmIdeal [sealedText data]) (noCollision : P.NoCollision queries)
    {sa : CompletedSaInit} {iv : Iv} (keyed : Keyed P queries sa)
    (requested : initiatorAuthRequest P sa cfg.auth cfg.childSpi iv = .ok data)
    (sessions : ∀ key sa, server.sessions.get key = some sa → Keyed P queries sa)
    (once : ∀ key ∈ server.acceptsAuth P (some (data, addr)) sendOk, server.children.get key = none)
    (step : server.Step P (some (data, addr)) sendOk outcome) :
    Unanswered server outcome ∨
      server.children.get (sa.spiI, sa.spiR) = none ∧
        ∃ serverSpi, outcome.server.children = server.children.insert (sa.spiI, sa.spiR)
            (.derive P sa.keys.skD sa.ni sa.nr .responder serverSpi cfg.childSpi) ∧
          ∀ message receiver, outcome.sent = some (message, receiver) → AuthAnswer P message serverSpi := by
  cases step with
  | quiet _ children _ silent =>
    refine .inl ⟨children, fun message receiver sent => ?_⟩
    rw [silent] at sent
    cases sent
  | saInit _ _ response _ _ answered own _ children _ =>
    refine .inl ⟨children, fun message receiver sent => ?_⟩
    cases own.symm.trans sent
    exact plain_response answered
  | auth _ _ header key session response _ peerChildSpi got parsed own accepts stored processed sent _ children _ =>
    cases got
    obtain ⟨sameEi, size, rfl, answer⟩ := accepted_request ideal requested processed
    obtain ⟨spiI, spiR⟩ := parse_initiatorAuthRequest requested parsed
    rw [spiI, spiR] at own
    subst own
    obtain ⟨sameKeys, nonces⟩ := keyed.same noCollision (sessions _ session stored) sameEi size
    rw [sameKeys, derive_congr P _ nonces] at children
    refine .inr ⟨once _ accepts, _, children, fun message receiver isSent => ?_⟩
    cases sent.symm.trans isSent
    exact answer

end ServerStep

theorem not_verified_plain {P : Primitives} {sa : CompletedSaInit} {message : Bytes} {cfg : AuthConfig}
    {result : Identification × UInt32 × Option Ipv4Addr} (plain : Plain message) :
    ¬ initiatorVerifyAuth P sa message cfg = .ok result := by
  intro verified
  obtain ⟨peer, spi, assigned⟩ := result
  obtain ⟨_, _, _, opened, -⟩ := initiatorVerifyAuth_eq_ok verified
  exact plain.not_opened opened

theorem Inv.mono {P : Primitives} {cfg : ConnectConfig} {fewer more : List (Bytes × Bytes)} {world : World ε δ}
    (inv : Inv P cfg fewer world) (within : ∀ query ∈ fewer, query ∈ more) : Inv P cfg more world := by
  refine ⟨fun key sa stored => (inv.sessions key sa stored).mono within, ?_⟩
  have client := inv.client
  unfold ClientInv at client ⊢
  split at client
  next => exact client
  next => exact client
  next => exact ⟨client.1.mono within, client.2⟩
  next => exact ⟨client.1.mono within, client.2⟩
  next => trivial

theorem Inv.toServer [Entropy δ] {P : Primitives} {cfg : ConnectConfig} {addr : SocketAddr}
    {queries : List (Bytes × Bytes)} (noCollision : P.NoCollision queries) {self : World ε δ}
    (inv : Inv P cfg queries self) {data : Bytes} (ideal : P.GcmIdeal [sealedText data]) (sent : data ∈ self.toServer)
    {sendOk : Bool} {outcome : Outcome δ} (step : self.server.Step P (some (data, addr)) sendOk outcome)
    (schedule : ∀ response sa, responderRespond P data (LocalSecret.generate self.server.entropy nonceLen).1 =
      .ok (response, sa) → ∀ query ∈ scheduleOf P (LocalSecret.generate self.server.entropy nonceLen).1 data sa,
        query ∈ queries)
    (once : ∀ key ∈ self.server.acceptsAuth P (some (data, addr)) sendOk, self.server.children.get key = none) :
    Inv P cfg queries { self with
      server := outcome.server
      toClient := self.toClient ++ (outcome.sent.map Prod.fst).toList } := by
  refine ⟨keyed_step step inv.sessions schedule, ?_⟩
  have client := inv.client
  unfold ClientInv at client ⊢
  dsimp only
  split at client
  next => exact ⟨client.1, client.2.keep (plain_step step (client.1 data sent))⟩
  next => exact ⟨client.1, client.2.keep (plain_step step (client.1 data sent))⟩
  next sa _ =>
    obtain ⟨asked, status⟩ := client
    obtain ⟨iv, request, requested, only⟩ := asked.request
    refine ⟨asked, ?_⟩
    rcases only data sent with plain | rfl
    · rcases status with quiet | ⟨spi, answered⟩
      · exact .inl (quiet.keep (plain_step step plain))
      · exact .inr ⟨spi, answered.keep (plain_step step plain)⟩
    · rcases step_request ideal noCollision asked.keyed requested inv.sessions once step with
        unanswered | ⟨free, spi, children, answer⟩
      · rcases status with quiet | ⟨spi, answered⟩
        · exact .inl (quiet.keep unanswered)
        · exact .inr ⟨spi, answered.keep unanswered⟩
      · rcases status with quiet | ⟨spi, answered⟩
        · exact .inr ⟨_, quiet.answer children answer⟩
        · cases answered.1.symm.trans free
  next sa _ child _ _ =>
    obtain ⟨asked, spi, answered, rfl⟩ := client
    obtain ⟨iv, request, requested, only⟩ := asked.request
    refine ⟨asked, spi, ?_, rfl⟩
    rcases only data sent with plain | rfl
    · exact answered.keep (plain_step step plain)
    · rcases step_request ideal noCollision asked.keyed requested inv.sessions once step with
        unanswered | ⟨free, _⟩
      · exact answered.keep unanswered
      · cases answered.1.symm.trans free
  next => trivial

theorem Inv.toClient [Entropy ε] {P : Primitives} {cfg : ConnectConfig} {queries : List (Bytes × Bytes)}
    {self : World ε δ} (inv : Inv P cfg queries self) {data : Bytes} (ideal : P.GcmIdeal [sealedText data])
    (sent : data ∈ self.toClient) (sendOk : Bool)
    (schedule : ∀ secret request entropy sa, self.client = .awaitInit secret request entropy →
      initiatorComplete P secret request data = .ok sa → ∀ query ∈ scheduleOf P secret data sa, query ∈ queries) :
    Inv P cfg queries { self with
      client := (self.client.receive P cfg data sendOk).2
      toServer := self.toServer ++ (self.client.receive P cfg data sendOk).1.toList } := by
  refine ⟨inv.sessions, ?_⟩
  have client := inv.client
  cases stands : self.client with
  | idle entropy =>
    rw [ClientInv, stands] at client
    simp only [ClientInv, Connect.receive, Option.toList_none, List.append_nil]
    exact client
  | awaitInit secret request entropy =>
    rw [ClientInv, stands] at client
    simp only [ClientInv, Connect.receive]
    rcases Connect.completeInit_cases P cfg secret request data entropy sendOk with
      ⟨error, failed⟩ | ⟨sa, message, completed, requested, asks⟩
    · rw [failed]
      trivial
    · rw [asks]
      refine ⟨⟨(keyed_of_completes completed).mono (schedule secret request entropy sa stands completed),
        _, message, requested, fun other member => ?_⟩, .inl client.2⟩
      rcases List.mem_append.mp member with before | now
      · exact .inl (client.1 other before)
      · exact .inr (List.mem_singleton.mp now)
  | awaitAuth sa =>
    rw [ClientInv, stands] at client
    simp only [ClientInv, Connect.receive, Connect.completeAuth, Option.toList_none, List.append_nil]
    obtain ⟨asked, status⟩ := client
    cases verified : initiatorVerifyAuth P sa data cfg.auth with
    | error error => trivial
    | ok result =>
      obtain ⟨peer, peerChildSpi, assigned⟩ := result
      refine ⟨asked, ?_⟩
      rcases status with quiet | ⟨spi, answered⟩
      · exact absurd verified (not_verified_plain (quiet.1 data sent))
      · rcases answered.2 data sent with plain | answer
        · exact absurd verified (not_verified_plain plain)
        · obtain rfl := answer.verified ideal verified
          exact ⟨_, answered, rfl⟩
  | connected sa peer child assigned =>
    rw [ClientInv, stands] at client
    simp only [ClientInv, Connect.receive, Option.toList_none, List.append_nil]
    exact client
  | failed error => trivial

theorem Inv.connect [Entropy ε] {P : Primitives} {cfg : ConnectConfig} {queries : List (Bytes × Bytes)}
    {self : World ε δ} (inv : Inv P cfg queries self) {entropy : ε} (isIdle : self.client = .idle entropy)
    (sendOk : Bool) :
    Inv P cfg queries { self with
      client := (Connect.start P entropy sendOk).2
      toServer := self.toServer ++ (Connect.start P entropy sendOk).1.toList } := by
  refine ⟨inv.sessions, ?_⟩
  have client := inv.client
  rw [ClientInv, isIdle] at client
  cases sendOk with
  | false => trivial
  | true =>
    refine ⟨fun message member => ?_, client.2⟩
    rcases List.mem_append.mp member with before | now
    · exact client.1 message before
    · rw [List.mem_singleton.mp now]
      exact plain_initiatorRequest P entropy

theorem Inv.clientTimeout {P : Primitives} {cfg : ConnectConfig} {queries : List (Bytes × Bytes)}
    {self : World ε δ} (inv : Inv P cfg queries self) :
    Inv P cfg queries { self with client := self.client.timeout } := by
  refine ⟨inv.sessions, ?_⟩
  have client := inv.client
  cases stands : self.client with
  | awaitInit secret request entropy => trivial
  | awaitAuth sa => trivial
  | idle entropy => rwa [ClientInv, stands] at client
  | connected sa peer child assigned => rwa [ClientInv, stands] at client
  | failed error => trivial

theorem Inv.step [Entropy ε] [Entropy δ] {P : Primitives} {cfg : ConnectConfig} {addr : SocketAddr}
    {queries : List (Bytes × Bytes)} (noCollision : P.NoCollision queries) {self : World ε δ}
    (inv : Inv P cfg queries self) (ideal : P.GcmIdeal self.wire) (action : NetAction)
    (schedule : ∀ query ∈ World.queries P ((machine P cfg addr).call self action), query ∈ queries)
    (once : Once P addr ((machine P cfg addr).call self action)) :
    Inv P cfg queries (machine P cfg addr self action).2 := by
  cases action with
  | connect sendOk =>
    cases stands : self.client with
    | idle entropy =>
      simp only [machine, stands]
      exact inv.connect stands sendOk
    | awaitInit | awaitAuth | connected | failed =>
      simp only [machine, stands]
      exact inv
  | toServer n sendOk =>
    cases sent : self.toServer[n]? with
    | none =>
      simp only [machine, sent]
      exact inv
    | some data =>
      simp only [machine, sent]
      have member := List.mem_of_getElem? sent
      refine inv.toServer noCollision
        (ideal.single (List.mem_map_of_mem (List.mem_append_left _ member))) member
        (self.server.handleOne_step P (some (data, addr)) sendOk) ?_ ?_
      · intro response sa answered query member
        apply schedule
        simp only [World.queries, Machine.call, sent, answered]
        exact member
      · intro key accepts
        apply once
        simp only [received, Machine.call, sent, Option.map_some]
        exact accepts
  | toClient n sendOk =>
    cases sent : self.toClient[n]? with
    | none =>
      simp only [machine, sent]
      exact inv
    | some data =>
      simp only [machine, sent]
      have member := List.mem_of_getElem? sent
      refine inv.toClient (ideal.single (List.mem_map_of_mem (List.mem_append_right _ member))) member sendOk ?_
      intro secret request entropy sa stands completed query member
      apply schedule
      simp only [World.queries, Machine.call, stands, sent, completed]
      exact member
  | clientTimeout => exact inv.clientTimeout
  | serverTimeout => exact inv

theorem wire_grows [Entropy ε] [Entropy δ] (P : Primitives) (cfg : ConnectConfig) (addr : SocketAddr) (self : World ε δ)
    (action : NetAction) : ∀ text ∈ self.wire, text ∈ (machine P cfg addr self action).2.wire := by
  have further : ∀ (client : Connect ε) (server : Server δ) toServer toClient, self.toServer ⊆ toServer →
      self.toClient ⊆ toClient →
      ∀ text ∈ self.wire, text ∈ wire ⟨client, server, toServer, toClient⟩ := by
    intro client server toServer toClient towards back text member
    obtain ⟨message, sent, rfl⟩ := List.mem_map.mp member
    apply List.mem_map_of_mem
    rcases List.mem_append.mp sent with toward | backward
    · exact List.mem_append_left _ (towards toward)
    · exact List.mem_append_right _ (back backward)
  cases action with
  | connect sendOk =>
    unfold machine
    cases self.client with
    | idle entropy => exact further _ _ _ _ (List.subset_append_left _ _) (List.Subset.refl _)
    | awaitInit | awaitAuth | connected | failed => exact fun _ member => member
  | toServer n sendOk =>
    unfold machine
    dsimp only
    split
    next => exact fun _ member => member
    next => exact further _ _ _ _ (List.Subset.refl _) (List.subset_append_left _ _)
  | toClient n sendOk =>
    unfold machine
    dsimp only
    split
    next => exact fun _ member => member
    next => exact further _ _ _ _ (List.subset_append_left _ _) (List.Subset.refl _)
  | clientTimeout => exact fun _ member => member
  | serverTimeout => exact fun _ member => member

/-- Where no `IKE_AUTH` is accepted twice, both ends of a completed `connect` hold
mirror images of one CHILD SA. -/
theorem agreed_of_once [Entropy ε] [Entropy δ] (P : Primitives) (cfg : ConnectConfig) (auth : AuthConfig)
    (addr : SocketAddr) (clientEntropy : ε) (serverEntropy : δ) (actions : List NetAction)
    (ideal : P.GcmIdeal ((machine P cfg addr).final (init clientEntropy serverEntropy auth) actions).wire)
    (noCollision : P.NoCollision
      (((machine P cfg addr).calls (init clientEntropy serverEntropy auth) actions).flatMap (queries P)))
    (once : ∀ call ∈ (machine P cfg addr).calls (init clientEntropy serverEntropy auth) actions, Once P addr call) :
    Agreed ((machine P cfg addr).final (init clientEntropy serverEntropy auth) actions) := by
  have inv := Machine.history (machine P cfg addr) (init clientEntropy serverEntropy auth)
    (fun past world => P.GcmIdeal world.wire → P.NoCollision (past.flatMap (queries P)) →
      (∀ call ∈ past, Once P addr call) → Inv P cfg (past.flatMap (queries P)) world)
    (fun _ _ _ => ⟨nofun, nofun, nofun, fun _ => rfl⟩)
    (by
      intro past world action holds ideal noCollision once
      have sealed := ideal.mono (wire_grows P cfg addr world action)
      have grows : ∀ query ∈ past.flatMap (queries P),
          query ∈ (past ++ [(machine P cfg addr).call world action]).flatMap (queries P) := by
        intro query member
        rw [List.flatMap_append]
        exact List.mem_append_left _ member
      have before := holds sealed
        (fun first inFirst second inSecond => noCollision first (grows _ inFirst) second (grows _ inSecond))
        (fun call member => once call (List.mem_append_left _ member))
      refine (before.mono grows).step noCollision sealed action ?_
        (once _ (List.mem_append_right _ List.mem_cons_self))
      intro query member
      rw [List.flatMap_append]
      exact List.mem_append_right _ (List.mem_flatMap.mpr ⟨_, List.mem_cons_self, member⟩))
    actions ideal noCollision once
  exact inv.agreed

end World

namespace Toy
open Ryke.Toy

def netConfig : ConnectConfig := ⟨.psk alice psk, 9⟩

def netStart : World Counter Counter := .init ⟨0x40⟩ ⟨1⟩ serverConfig

def inOrder : List NetAction := [.connect true, .toServer 0 true, .toClient 0 true, .toServer 1 true, .toClient 1 true]

def duplicated : List NetAction := inOrder ++ [.toServer 1 true]

def spis (world : World Counter Counter) : Option (UInt32 × UInt32) :=
  match world.client with
  | .connected sa _ child _ => (world.server.child sa.spiI sa.spiR).map fun held =>
      (child.outbound.spi, held.inbound.spi)
  | _ => none

end Toy

namespace World

theorem agreed_of_once_in_order :
    Toy.spis ((machine toy Toy.netConfig Toy.clientAddr).final Toy.netStart Toy.inOrder) = some (4, 4) ∧
      Agreed ((machine toy Toy.netConfig Toy.clientAddr).final Toy.netStart Toy.inOrder) := by
  have noCollision : toy.NoCollision
      (((machine toy Toy.netConfig Toy.clientAddr).calls Toy.netStart Toy.inOrder).flatMap (queries toy)) := by
    unfold Primitives.NoCollision
    decide +kernel
  have once : ∀ call ∈ (machine toy Toy.netConfig Toy.clientAddr).calls Toy.netStart Toy.inOrder,
      Once toy Toy.clientAddr call := by
    decide +kernel
  have ends : Toy.spis ((machine toy Toy.netConfig Toy.clientAddr).final Toy.netStart Toy.inOrder) = some (4, 4) := by
    decide +kernel
  exact ⟨ends, agreed_of_once toy Toy.netConfig Toy.serverConfig Toy.clientAddr (⟨0x40⟩ : Ryke.Toy.Counter)
    (⟨1⟩ : Ryke.Toy.Counter) Toy.inOrder (Ryke.Toy.toy_gcmIdeal _) noCollision once⟩

/-- A repeated `IKE_AUTH` request leaves the server with a child whose SPI the client
never learns. -/
theorem not_agreed_duplicated :
    ¬ Agreed ((machine toy Toy.netConfig Toy.clientAddr).final Toy.netStart Toy.duplicated) := by
  have apart : Toy.spis ((machine toy Toy.netConfig Toy.clientAddr).final Toy.netStart Toy.duplicated) = some (4, 6) := by
    decide +kernel
  intro agreed
  unfold Toy.spis at apart
  split at apart
  next sa peer child assigned connected =>
    obtain ⟨held, isHeld, both⟩ := Option.map_eq_some_iff.mp apart
    have same := (agreed sa peer child assigned connected held isHeld).1.1
    obtain ⟨clientSpi, serverSpi⟩ := Prod.mk.inj both
    rw [clientSpi, serverSpi] at same
    exact absurd same (by decide)
  next => cases apart

end World

end Ryke.Ikev2
