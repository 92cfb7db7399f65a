import Ryke.Ikev1.Quick
import Ryke.Lib.Table

/-! The UDP responder of IKEv1: sessions and CHILD SAs keyed by the initiator's cookie,
one datagram at a time, with everything that a datagram can do to them. -/

namespace Ryke.Ikev1
open Lib

inductive ServerEvent where
  | phase1SaInit
  | phase1Established
  | quickSaInit
  | childSaEstablished (ckyI : Cookie)
  | ignored
  deriving DecidableEq, Repr

structure Session where
  phase1 : Option Phase1State
  quick : Option QuickResponder
  deriving DecidableEq

structure Server (ε : Type) where
  entropy : ε
  cfg : Phase1Config
  sessions : Table Cookie Session
  children : Table Cookie ChildSa

structure Outcome (ε : Type) where
  event : Except DriverError ServerEvent
  sent : Option (Bytes × SocketAddr)
  server : Server ε

namespace Server

variable {ε : Type}

def bind (entropy : ε) (cfg : Phase1Config) : Server ε := ⟨entropy, cfg, .empty, .empty⟩

def child (self : Server ε) (ckyI : Cookie) : Option ChildSa := self.children.get ckyI

def takeChild (self : Server ε) (ckyI : Cookie) : Option ChildSa × Server ε :=
  (self.children.get ckyI, { self with children := self.children.remove ckyI })

def phase1 (self : Server ε) (ckyI : Cookie) : Option Phase1State := (self.sessions.get ckyI).bind Session.phase1

/-- Aggressive-Mode message 1. Whatever was stored for the cookie is replaced. -/
def handleOffer [Entropy ε] (P : Primitives) (self : Server ε) (ckyI : Cookie) (data : Bytes) (sender : SocketAddr)
    (sendOk : Bool) : Outcome ε :=
  let (answered, entropy) := respondAggressive P self.cfg data self.entropy
  let self := { self with entropy := entropy }
  match answered with
  | .error error => ⟨.error (.ike error), none, self⟩
  | .ok (msg2, st) =>
      if sendOk then
        ⟨.ok .phase1SaInit, some (msg2, sender), { self with sessions := self.sessions.insert ckyI ⟨some st, none⟩ }⟩
      else ⟨.error .io, none, self⟩

def handleHashI (P : Primitives) (self : Server ε) (ckyI : Cookie) (data : Bytes) : Outcome ε :=
  match self.phase1 ckyI with
  | none => ⟨.ok .ignored, none, self⟩
  | some st =>
      match st.verifyHashI P data with
      | .error error => ⟨.error (.ike error), none, self⟩
      | .ok () => ⟨.ok .phase1Established, none, self⟩

def has (ps : List Payload) (payloadType : UInt8) : Bool := ps.any fun p => p.payloadType == payloadType

def handleAggressive [Entropy ε] (P : Primitives) (self : Server ε) (hdr : IsakmpHeader) (data : Bytes)
    (sender : SocketAddr) (sendOk : Bool) : Outcome ε :=
  match parsePayloads hdr.nextPayload (data.drop IsakmpHeader.len) with
  | .error error => ⟨.error (.ike error), none, self⟩
  | .ok ps =>
      if has ps payload.sa then self.handleOffer P hdr.initCookie data sender sendOk
      else if has ps payload.hash then self.handleHashI P hdr.initCookie data
      else ⟨.ok .ignored, none, self⟩

def handleQuick1 [Entropy ε] (P : Primitives) (self : Server ε) (ckyI : Cookie) (session : Session) (st : Phase1State)
    (data : Bytes) (sender : SocketAddr) (sendOk : Bool) : Outcome ε :=
  let (answered, entropy) := respondQuick P st data self.entropy
  let self := { self with entropy := entropy }
  match answered with
  | .error error => ⟨.error (.ike error), none, self⟩
  | .ok (msg2, qr) =>
      if sendOk then
        ⟨.ok .quickSaInit, some (msg2, sender),
          { self with sessions := self.sessions.insert ckyI { session with quick := some qr } }⟩
      else ⟨.error .io, none, self⟩

/-- Quick-Mode message 3. The exchange leaves the session before it is completed. -/
def handleQuick3 (P : Primitives) (self : Server ε) (ckyI : Cookie) (session : Session) (qr : QuickResponder)
    (data : Bytes) : Outcome ε :=
  let self := { self with sessions := self.sessions.insert ckyI { session with quick := none } }
  match qr.complete P data with
  | .error error => ⟨.error (.ike error), none, self⟩
  | .ok child =>
      ⟨.ok (.childSaEstablished ckyI), none, { self with children := self.children.insert ckyI child }⟩

def handleQuick [Entropy ε] (P : Primitives) (self : Server ε) (ckyI : Cookie) (data : Bytes) (sender : SocketAddr)
    (sendOk : Bool) : Outcome ε :=
  match self.sessions.get ckyI with
  | none => ⟨.ok .ignored, none, self⟩
  | some session =>
      match session.phase1, session.quick with
      | none, _ => ⟨.ok .ignored, none, self⟩
      | some st, none => self.handleQuick1 P ckyI session st data sender sendOk
      | some _, some qr => self.handleQuick3 P ckyI session qr data

/-- One datagram, or none where the socket failed; `sendOk` says whether the socket
takes the answer. -/
def handleOne [Entropy ε] (P : Primitives) (self : Server ε) (received : Option (Bytes × SocketAddr))
    (sendOk : Bool) : Outcome ε :=
  match received with
  | none => ⟨.error .io, none, self⟩
  | some (data, sender) =>
      match IsakmpHeader.parse data with
      | .error error => ⟨.error (.ike error), none, self⟩
      | .ok hdr =>
          if hdr.exchangeType = exchange.aggressive then self.handleAggressive P hdr data sender sendOk
          else if hdr.exchangeType = exchange.quick then self.handleQuick P hdr.initCookie data sender sendOk
          else ⟨.ok .ignored, none, self⟩

/-! ## What a datagram is to the server -/

/-- The header of a datagram of the given exchange. -/
def headed (exchangeType : UInt8) (received : Option (Bytes × SocketAddr)) : Option (IsakmpHeader × Bytes) :=
  match received with
  | none => none
  | some (data, _) =>
      match IsakmpHeader.parse data with
      | .error _ => none
      | .ok hdr => if hdr.exchangeType = exchangeType then some (hdr, data) else none

def verifiesHashI (P : Primitives) (self : Server ε) (received : Option (Bytes × SocketAddr)) :
    Option (Cookie × Phase1State) := do
  let (hdr, data) ← headed exchange.aggressive received
  let ps ← (parsePayloads hdr.nextPayload (data.drop IsakmpHeader.len)).toOption
  let st ← self.phase1 hdr.initCookie
  if ¬ has ps payload.sa ∧ has ps payload.hash ∧ (st.verifyHashI P data).isOk then some (hdr.initCookie, st) else none

/-- The cookie and the stored Phase-1 state of a Quick-Mode message 1 that carries its
HASH(1), sent to a session without an exchange in progress. -/
def startsQuick (P : Primitives) (self : Server ε) (received : Option (Bytes × SocketAddr)) :
    Option (Cookie × Phase1State) := do
  let (hdr, data) ← headed exchange.quick received
  let session ← self.sessions.get hdr.initCookie
  let st ← session.phase1
  if session.quick = none ∧ (readQuick P st data).isOk then some (hdr.initCookie, st) else none

def continuesQuick (self : Server ε) (received : Option (Bytes × SocketAddr)) :
    Option (Cookie × QuickResponder × Bytes) := do
  let (hdr, data) ← headed exchange.quick received
  let session ← self.sessions.get hdr.initCookie
  let _ ← session.phase1
  let qr ← session.quick
  some (hdr.initCookie, qr, data)

/-- Everything one datagram can do to the two tables. -/
inductive Step [Entropy ε] (P : Primitives) (before : Server ε) (received : Option (Bytes × SocketAddr)) :
    Outcome ε → Prop where
  | quiet {outcome : Outcome ε} (sessions : outcome.server.sessions = before.sessions)
      (children : outcome.server.children = before.children)
      (idle : outcome.event = .ok .ignored ∨ ∃ error, outcome.event = .error error) : Step P before received outcome
  | offered {outcome : Outcome ε} (ckyI : Cookie) (st : Phase1State)
      (sessions : outcome.server.sessions = before.sessions.insert ckyI ⟨some st, none⟩)
      (children : outcome.server.children = before.children) (event : outcome.event = .ok .phase1SaInit) :
      Step P before received outcome
  | verified {outcome : Outcome ε} (ckyI : Cookie) (st : Phase1State)
      (verifies : before.verifiesHashI P received = some (ckyI, st))
      (sessions : outcome.server.sessions = before.sessions)
      (children : outcome.server.children = before.children) (event : outcome.event = .ok .phase1Established) :
      Step P before received outcome
  | started {outcome : Outcome ε} (ckyI : Cookie) (st : Phase1State) (data : Bytes) (sender : SocketAddr)
      (msg2 : Bytes) (qr : QuickResponder) (got : received = some (data, sender))
      (starts : before.startsQuick P received = some (ckyI, st)) (stored : before.phase1 ckyI = some st)
      (answered : (respondQuick P st data before.entropy).1 = .ok (msg2, qr))
      (sessions : outcome.server.sessions = before.sessions.insert ckyI ⟨some st, some qr⟩)
      (children : outcome.server.children = before.children) (event : outcome.event = .ok .quickSaInit) :
      Step P before received outcome
  | dropped {outcome : Outcome ε} (ckyI : Cookie) (st : Phase1State) (qr : QuickResponder) (data : Bytes)
      (continues : before.continuesQuick received = some (ckyI, qr, data))
      (stored : before.sessions.get ckyI = some ⟨some st, some qr⟩) (fails : qr.carriesHash3 P data = false)
      (sessions : outcome.server.sessions = before.sessions.insert ckyI ⟨some st, none⟩)
      (children : outcome.server.children = before.children) (event : ∃ error, outcome.event = .error error) :
      Step P before received outcome
  | completed {outcome : Outcome ε} (ckyI : Cookie) (st : Phase1State) (qr : QuickResponder) (data : Bytes)
      (child : ChildSa) (continues : before.continuesQuick received = some (ckyI, qr, data))
      (stored : before.sessions.get ckyI = some ⟨some st, some qr⟩) (completes : qr.complete P data = .ok child)
      (sessions : outcome.server.sessions = before.sessions.insert ckyI ⟨some st, none⟩)
      (children : outcome.server.children = before.children.insert ckyI child)
      (event : outcome.event = .ok (.childSaEstablished ckyI)) : Step P before received outcome

theorem headed_eq {data : Bytes} {hdr : IsakmpHeader} (parsed : IsakmpHeader.parse data = .ok hdr)
    {exchangeType : UInt8} (kind : hdr.exchangeType = exchangeType) (sender : SocketAddr) :
    headed exchangeType (some (data, sender)) = some (hdr, data) := by
  simp only [headed, parsed, if_pos kind]

theorem handleOffer_step [Entropy ε] (P : Primitives) (self : Server ε) (ckyI : Cookie) (data : Bytes)
    (sender : SocketAddr) (sendOk : Bool) (received : Option (Bytes × SocketAddr)) :
    Step P self received (self.handleOffer P ckyI data sender sendOk) := by
  unfold handleOffer
  dsimp only
  split
  next error _ => exact .quiet rfl rfl (.inr ⟨_, rfl⟩)
  next msg2 st _ =>
    split
    next => exact .offered ckyI st rfl rfl rfl
    next => exact .quiet rfl rfl (.inr ⟨_, rfl⟩)

theorem handleHashI_step [Entropy ε] (P : Primitives) (self : Server ε) {data : Bytes} {hdr : IsakmpHeader}
    {ps : List Payload} (sender : SocketAddr) (parsed : IsakmpHeader.parse data = .ok hdr)
    (kind : hdr.exchangeType = exchange.aggressive)
    (chain : parsePayloads hdr.nextPayload (data.drop IsakmpHeader.len) = .ok ps)
    (noSa : ¬ has ps payload.sa = true) (hash : has ps payload.hash = true) :
    Step P self (some (data, sender)) (self.handleHashI P hdr.initCookie data) := by
  unfold handleHashI
  split
  next => exact .quiet rfl rfl (.inl rfl)
  next st stored =>
    split
    next => exact .quiet rfl rfl (.inr ⟨_, rfl⟩)
    next accepted =>
      have verifies : self.verifiesHashI P (some (data, sender)) = some (hdr.initCookie, st) := by
        have all : ¬ has ps payload.sa = true ∧ has ps payload.hash = true ∧
            (st.verifyHashI P data).isOk = true := ⟨noSa, hash, by rw [accepted]; rfl⟩
        rw [verifiesHashI, headed_eq parsed kind]
        simp only [Option.bind_eq_bind, Option.bind_some, chain, Except.toOption, stored, if_pos all]
      exact .verified hdr.initCookie st verifies rfl rfl rfl

theorem handleAggressive_step [Entropy ε] (P : Primitives) (self : Server ε) {data : Bytes} {hdr : IsakmpHeader}
    (sender : SocketAddr) (sendOk : Bool) (parsed : IsakmpHeader.parse data = .ok hdr)
    (kind : hdr.exchangeType = exchange.aggressive) :
    Step P self (some (data, sender)) (self.handleAggressive P hdr data sender sendOk) := by
  unfold handleAggressive
  split
  next => exact .quiet rfl rfl (.inr ⟨_, rfl⟩)
  next ps chain =>
    split
    next => exact handleOffer_step P self hdr.initCookie data sender sendOk _
    next noSa =>
      split
      next hash => exact handleHashI_step P self sender parsed kind chain noSa hash
      next => exact .quiet rfl rfl (.inl rfl)

theorem readQuick_of_respondQuick [Entropy ε] {P : Primitives} {st : Phase1State} {data : Bytes} {entropy : ε}
    {answer : Bytes × QuickResponder} (answered : (respondQuick P st data entropy).1 = .ok answer) :
    (readQuick P st data).isOk = true := by
  unfold respondQuick at answered
  cases read : readQuick P st data with
  | error error => rw [read] at answered; cases answered
  | ok parts => rfl

theorem handleQuick1_step [Entropy ε] (P : Primitives) (self : Server ε) {data : Bytes} {hdr : IsakmpHeader}
    {st : Phase1State} (sender : SocketAddr) (sendOk : Bool) (parsed : IsakmpHeader.parse data = .ok hdr)
    (kind : hdr.exchangeType = exchange.quick) (stored : self.sessions.get hdr.initCookie = some ⟨some st, none⟩) :
    Step P self (some (data, sender))
      (self.handleQuick1 P hdr.initCookie ⟨some st, none⟩ st data sender sendOk) := by
  unfold handleQuick1
  dsimp only
  split
  next => exact .quiet rfl rfl (.inr ⟨_, rfl⟩)
  next msg2 qr answered =>
    split
    next =>
      have starts : self.startsQuick P (some (data, sender)) = some (hdr.initCookie, st) := by
        rw [startsQuick, headed_eq parsed kind]
        simp only [Option.bind_eq_bind, Option.bind_some, stored]
        exact if_pos ⟨trivial, readQuick_of_respondQuick answered⟩
      have state : self.phase1 hdr.initCookie = some st := by rw [phase1, stored]; rfl
      exact .started hdr.initCookie st data sender msg2 qr rfl starts state answered rfl rfl rfl
    next => exact .quiet rfl rfl (.inr ⟨_, rfl⟩)

theorem continuesQuick_eq {self : Server ε} {data : Bytes} {hdr : IsakmpHeader} {st : Phase1State}
    {qr : QuickResponder} (parsed : IsakmpHeader.parse data = .ok hdr) (kind : hdr.exchangeType = exchange.quick)
    (stored : self.sessions.get hdr.initCookie = some ⟨some st, some qr⟩) (sender : SocketAddr) :
    self.continuesQuick (some (data, sender)) = some (hdr.initCookie, qr, data) := by
  rw [continuesQuick, headed_eq parsed kind]
  simp only [Option.bind_eq_bind, Option.bind_some, stored]

theorem handleQuick3_step [Entropy ε] (P : Primitives) (self : Server ε) {data : Bytes} {hdr : IsakmpHeader}
    {st : Phase1State} {qr : QuickResponder} (sender : SocketAddr) (parsed : IsakmpHeader.parse data = .ok hdr)
    (kind : hdr.exchangeType = exchange.quick)
    (stored : self.sessions.get hdr.initCookie = some ⟨some st, some qr⟩) :
    Step P self (some (data, sender)) (self.handleQuick3 P hdr.initCookie ⟨some st, some qr⟩ qr data) := by
  have continues := continuesQuick_eq parsed kind stored sender
  unfold handleQuick3
  dsimp only
  split
  next error failed =>
    have fails : qr.carriesHash3 P data = false := by rw [← qr.complete_isOk, failed]; rfl
    exact .dropped hdr.initCookie st qr data continues stored fails rfl rfl ⟨_, rfl⟩
  next child completes => exact .completed hdr.initCookie st qr data child continues stored completes rfl rfl rfl

theorem handleOne_step [Entropy ε] (P : Primitives) (self : Server ε) (received : Option (Bytes × SocketAddr))
    (sendOk : Bool) : Step P self received (self.handleOne P received sendOk) := by
  unfold handleOne
  split
  next => exact .quiet rfl rfl (.inr ⟨_, rfl⟩)
  next data sender =>
    split
    next => exact .quiet rfl rfl (.inr ⟨_, rfl⟩)
    next hdr parsed =>
      split
      next kind => exact handleAggressive_step P self sender sendOk parsed kind
      next =>
        split
        next kind =>
          unfold handleQuick
          split
          next => exact .quiet rfl rfl (.inl rfl)
          next session stored =>
            obtain ⟨phase1, quick⟩ := session
            cases phase1 with
            | none => exact .quiet rfl rfl (.inl rfl)
            | some st =>
              cases quick with
              | none => exact handleQuick1_step P self sender sendOk parsed kind stored
              | some qr => exact handleQuick3_step P self sender parsed kind stored
        next => exact .quiet rfl rfl (.inl rfl)

/-! ## Errors -/

/-- A Quick-Mode datagram held against an exchange in progress whose HASH(3) it does not
carry. -/
def discards (P : Primitives) (self : Server ε) (received : Option (Bytes × SocketAddr)) : Bool :=
  match self.continuesQuick received with
  | none => false
  | some (_, qr, data) => !qr.carriesHash3 P data

theorem headed_eq_some {exchangeType : UInt8} {received : Option (Bytes × SocketAddr)} {hdr : IsakmpHeader}
    {data : Bytes} (found : headed exchangeType received = some (hdr, data)) :
    ∃ sender, received = some (data, sender) ∧ IsakmpHeader.parse data = .ok hdr ∧
      hdr.exchangeType = exchangeType := by
  unfold headed at found
  split at found
  next => cases found
  next bytes sender =>
    split at found
    next => cases found
    next header parsed =>
      split at found
      next kind =>
        cases found
        exact ⟨sender, rfl, parsed, kind⟩
      next => cases found

theorem continuesQuick_eq_some {self : Server ε} {received : Option (Bytes × SocketAddr)} {ckyI : Cookie}
    {qr : QuickResponder} {data : Bytes} (continues : self.continuesQuick received = some (ckyI, qr, data)) :
    ∃ hdr sender st, received = some (data, sender) ∧ IsakmpHeader.parse data = .ok hdr ∧
      hdr.exchangeType = exchange.quick ∧ hdr.initCookie = ckyI ∧
      self.sessions.get ckyI = some ⟨some st, some qr⟩ := by
  unfold continuesQuick at continues
  obtain ⟨⟨hdr, bytes⟩, found, continues⟩ := Option.bind_eq_some_iff.mp continues
  obtain ⟨⟨phase1, quick⟩, stored, continues⟩ := Option.bind_eq_some_iff.mp continues
  obtain ⟨st, rfl, continues⟩ := Option.bind_eq_some_iff.mp continues
  obtain ⟨_, rfl, same⟩ := Option.bind_eq_some_iff.mp continues
  cases same
  obtain ⟨sender, got, parsed, kind⟩ := headed_eq_some found
  exact ⟨hdr, sender, st, got, parsed, kind, rfl, stored⟩

/-- The exchange is taken out of its session before the datagram is read. -/
theorem handleOne_discards [Entropy ε] {P : Primitives} {self : Server ε} {received : Option (Bytes × SocketAddr)}
    (drops : self.discards P received = true) (sendOk : Bool) :
    (∃ error, (self.handleOne P received sendOk).event = .error error) ∧
      (self.handleOne P received sendOk).server.sessions ≠ self.sessions := by
  unfold discards at drops
  split at drops
  next => cases drops
  next ckyI qr data continues =>
    obtain ⟨hdr, sender, st, rfl, parsed, kind, rfl, stored⟩ := continuesQuick_eq_some continues
    have other : ¬ hdr.exchangeType = exchange.aggressive := by rw [kind]; decide
    have handled : self.handleOne P (some (data, sender)) sendOk =
        self.handleQuick3 P hdr.initCookie ⟨some st, some qr⟩ qr data := by
      simp only [handleOne, parsed, if_neg other, if_pos kind, handleQuick, stored]
    rw [handled]
    cases result : qr.complete P data with
    | ok child =>
      rw [← qr.complete_isOk, result] at drops
      cases drops
    | error error =>
      simp only [handleQuick3, result]
      refine ⟨⟨_, rfl⟩, fun same => ?_⟩
      have gone := congrArg (fun table => Table.get table hdr.initCookie) same
      rw [Table.get_insert_self, stored] at gone
      cases gone

theorem handleOne_error [Entropy ε] {P : Primitives} {self : Server ε} {received : Option (Bytes × SocketAddr)}
    (keeps : ¬ self.discards P received = true) {sendOk : Bool} {error : DriverError}
    (failed : (self.handleOne P received sendOk).event = .error error) :
    (self.handleOne P received sendOk).server.sessions = self.sessions ∧
      (self.handleOne P received sendOk).server.children = self.children := by
  cases handleOne_step P self received sendOk with
  | quiet sessions children _ => exact ⟨sessions, children⟩
  | offered _ _ _ _ event => rw [event] at failed; cases failed
  | verified _ _ _ _ _ event => rw [event] at failed; cases failed
  | started _ _ _ _ _ _ _ _ _ _ _ _ event => rw [event] at failed; cases failed
  | completed _ _ _ _ _ _ _ _ _ _ event => rw [event] at failed; cases failed
  | dropped _ _ _ _ continues _ fails _ _ _ =>
    refine absurd ?_ keeps
    rw [discards, continues]
    dsimp only
    rw [fails]
    rfl

end Server

end Ryke.Ikev1
