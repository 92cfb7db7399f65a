import Ryke.Esp
import Ryke.Ikev2.IkeAuth
import Ryke.Lib.Run
import Ryke.Lib.Table

/-! The UDP responder: sessions and CHILD SAs keyed by the SPI pair, one datagram at a
time, with everything that a datagram can do to them. -/

namespace Ryke.Ikev2
open Lib Crypto

def nonceLen : Nat := 32

abbrev SpiPair := UInt64 × UInt64

inductive ServerEvent where
  | saInit (spiI spiR : UInt64)
  | established (spiI spiR : UInt64) (peerId : Identification)
  | ignored
  deriving DecidableEq, Repr

structure Server (ε : Type) where
  entropy : ε
  auth : AuthConfig
  sessions : Table SpiPair CompletedSaInit
  children : Table SpiPair ChildSa

structure Outcome (ε : Type) where
  event : Except DriverError ServerEvent
  sent : Option (Bytes × SocketAddr)
  server : Server ε

namespace Server

variable {ε : Type} [Entropy ε]

def bind (entropy : ε) (auth : AuthConfig) : Server ε := ⟨entropy, auth, .empty, .empty⟩

def child (self : Server ε) (spiI spiR : UInt64) : Option ChildSa := self.children.get (spiI, spiR)

def takeChild (self : Server ε) (spiI spiR : UInt64) : Option ChildSa × Server ε :=
  (self.children.get (spiI, spiR), { self with children := self.children.remove (spiI, spiR) })

def handleSaInit (P : Primitives) (self : Server ε) (data : Bytes) (sender : SocketAddr) (sendOk : Bool) :
    Outcome ε :=
  let (secret, entropy) := LocalSecret.generate self.entropy nonceLen
  let self := { self with entropy := entropy }
  match responderRespond P data secret with
  | .error error => ⟨.error (.ike error), none, self⟩
  | .ok (response, sa) =>
      if sendOk then
        ⟨.ok (.saInit sa.spiI sa.spiR), some (response, sender),
          { self with sessions := self.sessions.insert (sa.spiI, sa.spiR) sa }⟩
      else ⟨.error .io, none, self⟩

def drawAuth (entropy : ε) : (UInt32 × Iv) × ε :=
  let (word, entropy) := Entropy.nextU64 entropy
  let (iv, entropy) := Iv.draw entropy
  ((word.toUInt32, iv), entropy)

/-- `responder_process_auth` on a datagram for a session, with what the server draws for it. -/
def processAuth (P : Primitives) (self : Server ε) (sa : CompletedSaInit) (data : Bytes) :
    Result (Bytes × Identification × UInt32) :=
  let ((childSpi, iv), _) := drawAuth self.entropy
  responderProcessAuth P sa data self.auth childSpi iv none

def handleAuth (P : Primitives) (self : Server ε) (key : SpiPair) (data : Bytes) (sender : SocketAddr)
    (sendOk : Bool) : Outcome ε :=
  match self.sessions.get key with
  | none => ⟨.ok .ignored, none, self⟩
  | some sa =>
      let ((childSpi, _), entropy) := drawAuth self.entropy
      let after := { self with entropy := entropy }
      match self.processAuth P sa data with
      | .error error => ⟨.error (.ike error), none, after⟩
      | .ok (response, peerId, peerChildSpi) =>
          if sendOk then
            let child := ChildSa.derive P sa.keys.skD sa.ni sa.nr .responder childSpi peerChildSpi
            ⟨.ok (.established key.1 key.2 peerId), some (response, sender),
              { after with children := after.children.insert key child }⟩
          else ⟨.error .io, none, after⟩

/-- One datagram, or none where the socket failed; `sendOk` says whether the socket
takes the answer. -/
def handleOne (P : Primitives) (self : Server ε) (received : Option (Bytes × SocketAddr)) (sendOk : Bool) :
    Outcome ε :=
  match received with
  | none => ⟨.error .io, none, self⟩
  | some (data, sender) =>
      match IkeHeader.parse data with
      | .error error => ⟨.error (.ike error), none, self⟩
      | .ok header =>
          match header.exchangeType with
          | .ikeSaInit => self.handleSaInit P data sender sendOk
          | .ikeAuth => self.handleAuth P (header.initiatorSpi, header.responderSpi) data sender sendOk
          | _ => ⟨.ok .ignored, none, self⟩

/-- The SPI pair of an `IKE_AUTH` datagram that its session's AUTH check accepts and whose answer
is sent. -/
def acceptsAuth (P : Primitives) (self : Server ε) (received : Option (Bytes × SocketAddr)) (sendOk : Bool) :
    Option SpiPair :=
  match received with
  | none => none
  | some (data, _) =>
      match IkeHeader.parse data with
      | .error _ => none
      | .ok header =>
          let key := (header.initiatorSpi, header.responderSpi)
          match self.sessions.get key with
          | none => none
          | some sa =>
              if header.exchangeType = .ikeAuth ∧ (self.processAuth P sa data).isOk ∧ sendOk then some key else none

theorem acceptsAuth_of_processed {P : Primitives} {self : Server ε} {data : Bytes} {header : IkeHeader}
    {sa : CompletedSaInit} {answer : Bytes × Identification × UInt32} (parsed : IkeHeader.parse data = .ok header)
    (kind : header.exchangeType = .ikeAuth)
    (session : self.sessions.get (header.initiatorSpi, header.responderSpi) = some sa)
    (processed : self.processAuth P sa data = .ok answer) (sender : SocketAddr) :
    self.acceptsAuth P (some (data, sender)) true = some (header.initiatorSpi, header.responderSpi) := by
  have isOk : (self.processAuth P sa data).isOk = true := by
    rw [processed]
    rfl
  simp only [acceptsAuth, parsed, session]
  exact if_pos ⟨kind, isOk, trivial⟩

/-- Everything one datagram can do to the two tables. -/
inductive Step (P : Primitives) (before : Server ε) (received : Option (Bytes × SocketAddr)) (sendOk : Bool) :
    Outcome ε → Prop where
  | quiet {outcome : Outcome ε} (sessions : outcome.server.sessions = before.sessions)
      (children : outcome.server.children = before.children) (auth : outcome.server.auth = before.auth)
      (silent : outcome.sent = none) : Step P before received sendOk outcome
  | saInit {outcome : Outcome ε} (data : Bytes) (sender : SocketAddr) (response : Bytes) (sa : CompletedSaInit)
      (got : received = some (data, sender))
      (answered : responderRespond P data (LocalSecret.generate before.entropy nonceLen).1 = .ok (response, sa))
      (sent : outcome.sent = some (response, sender))
      (sessions : outcome.server.sessions = before.sessions.insert (sa.spiI, sa.spiR) sa)
      (children : outcome.server.children = before.children) (auth : outcome.server.auth = before.auth) :
      Step P before received sendOk outcome
  | auth {outcome : Outcome ε} (data : Bytes) (sender : SocketAddr) (header : IkeHeader) (key : SpiPair)
      (sa : CompletedSaInit) (response : Bytes) (peerId : Identification) (peerChildSpi : UInt32)
      (got : received = some (data, sender)) (parsed : IkeHeader.parse data = .ok header)
      (own : key = (header.initiatorSpi, header.responderSpi))
      (accepts : before.acceptsAuth P received sendOk = some key)
      (session : before.sessions.get key = some sa)
      (processed : before.processAuth P sa data = .ok (response, peerId, peerChildSpi))
      (sent : outcome.sent = some (response, sender)) (sessions : outcome.server.sessions = before.sessions)
      (children : outcome.server.children = before.children.insert key
        (.derive P sa.keys.skD sa.ni sa.nr .responder (drawAuth before.entropy).1.1 peerChildSpi))
      (auth : outcome.server.auth = before.auth) : Step P before received sendOk outcome

/-- Every outcome of one datagram, as a whole. -/
inductive Effect (P : Primitives) (self : Server ε) (received : Option (Bytes × SocketAddr)) (sendOk : Bool) :
    Outcome ε → Prop where
  | idle (entropy : ε) (event : Except DriverError ServerEvent)
      (isIdle : event = .ok .ignored ∨ ∃ error, event = .error error) :
      Effect P self received sendOk ⟨event, none, { self with entropy := entropy }⟩
  | saInit (data : Bytes) (sender : SocketAddr) (response : Bytes) (sa : CompletedSaInit)
      (got : received = some (data, sender))
      (answered : responderRespond P data (LocalSecret.generate self.entropy nonceLen).1 = .ok (response, sa)) :
      Effect P self received sendOk ⟨.ok (.saInit sa.spiI sa.spiR), some (response, sender),
        { self with
          entropy := (LocalSecret.generate self.entropy nonceLen).2
          sessions := self.sessions.insert (sa.spiI, sa.spiR) sa }⟩
  | auth (data : Bytes) (sender : SocketAddr) (header : IkeHeader) (sa : CompletedSaInit) (response : Bytes)
      (peerId : Identification) (peerChildSpi : UInt32) (got : received = some (data, sender))
      (parsed : IkeHeader.parse data = .ok header) (kind : header.exchangeType = .ikeAuth)
      (session : self.sessions.get (header.initiatorSpi, header.responderSpi) = some sa)
      (processed : self.processAuth P sa data = .ok (response, peerId, peerChildSpi)) (sends : sendOk = true) :
      Effect P self received sendOk ⟨.ok (.established header.initiatorSpi header.responderSpi peerId),
        some (response, sender), { self with
          entropy := (drawAuth self.entropy).2
          children := self.children.insert (header.initiatorSpi, header.responderSpi)
            (.derive P sa.keys.skD sa.ni sa.nr .responder (drawAuth self.entropy).1.1 peerChildSpi) }⟩

theorem handleSaInit_effect (P : Primitives) (self : Server ε) (data : Bytes) (sender : SocketAddr)
    (sendOk : Bool) : Effect P self (some (data, sender)) sendOk (self.handleSaInit P data sender sendOk) := by
  unfold handleSaInit
  dsimp only
  split
  next => exact .idle _ _ (.inr ⟨_, rfl⟩)
  next response sa answered =>
    split
    next => exact .saInit data sender response sa rfl answered
    next => exact .idle _ _ (.inr ⟨_, rfl⟩)

theorem handleAuth_effect (P : Primitives) (self : Server ε) {data : Bytes} (sender : SocketAddr) (sendOk : Bool)
    {header : IkeHeader} (parsed : IkeHeader.parse data = .ok header) (kind : header.exchangeType = .ikeAuth) :
    Effect P self (some (data, sender)) sendOk
      (self.handleAuth P (header.initiatorSpi, header.responderSpi) data sender sendOk) := by
  unfold handleAuth
  split
  next => exact .idle self.entropy _ (.inl rfl)
  next sa session =>
    dsimp only
    split
    next => exact .idle _ _ (.inr ⟨_, rfl⟩)
    next response peerId peerChildSpi processed =>
      split
      next sends =>
        exact .auth data sender header sa response peerId peerChildSpi rfl parsed kind session processed sends
      next => exact .idle _ _ (.inr ⟨_, rfl⟩)

theorem handleOne_effect (P : Primitives) (self : Server ε) (received : Option (Bytes × SocketAddr))
    (sendOk : Bool) : Effect P self received sendOk (self.handleOne P received sendOk) := by
  unfold handleOne
  split
  next => exact .idle self.entropy _ (.inr ⟨_, rfl⟩)
  next data sender =>
    split
    next => exact .idle self.entropy _ (.inr ⟨_, rfl⟩)
    next header parsed =>
      split
      next => exact handleSaInit_effect P self data sender sendOk
      next kind => exact handleAuth_effect P self sender sendOk parsed kind
      next => exact .idle self.entropy _ (.inl rfl)

theorem handleOne_step (P : Primitives) (self : Server ε) (received : Option (Bytes × SocketAddr))
    (sendOk : Bool) : Step P self received sendOk (self.handleOne P received sendOk) := by
  have effect := handleOne_effect P self received sendOk
  generalize self.handleOne P received sendOk = outcome at effect
  cases effect with
  | idle => exact .quiet rfl rfl rfl rfl
  | saInit data sender response sa got answered => exact .saInit data sender response sa got answered rfl rfl rfl rfl
  | auth data sender header sa response peerId peerChildSpi got parsed kind session processed sends =>
    have accepts : self.acceptsAuth P received sendOk = some (header.initiatorSpi, header.responderSpi) := by
      rw [got, sends]
      exact acceptsAuth_of_processed parsed kind session processed sender
    exact .auth data sender header _ sa response peerId peerChildSpi got parsed rfl accepts session processed
      rfl rfl rfl rfl

end Server

def Toy.clientAddr : SocketAddr := ⟨.v4 ⟨10, 0, 0, 2⟩, 500⟩

end Ryke.Ikev2
