import Ryke.Ikev2.Network
import Ryke.Ikev2.ServerRuns
import Ryke.Ikev1.ServerRuns

/-! ESP and IKE on one port. An IKE message on UDP 4500 follows a marker of four zero
bytes, and an ESP packet starts with its SPI, so a packet sealed under the SPI zero is
taken for IKE. An end sends with the SPI that its peer named, which neither IKE version
checks, and neither draws its own SPI anew where it comes out as zero. -/

namespace Ryke
open Lib

def nonEspMarker : Bytes := [0, 0, 0, 0]

def isIkeOn4500 (datagram : Bytes) : Bool := datagram.length ≥ 4 && datagram.take 4 == nonEspMarker

/-! ## What an SA seals -/

/-- However long the SA is used, none of its packets is taken for IKE. -/
def EspSa.ToldFromIke (P : Primitives) (self : EspSa) : Prop :=
  ∀ inputs, ∀ call ∈ (sealer P).calls self inputs, ∀ packet, call.output = .ok packet → isIkeOn4500 packet = false

theorem u32Bytes_eq_zero_iff (v : UInt32) : u32Bytes v = nonEspMarker ↔ v = 0 := by
  constructor
  · intro zeros
    simp only [u32Bytes, nonEspMarker, List.cons.injEq] at zeros
    obtain ⟨b0, b1, b2, b3, -⟩ := zeros
    rw [← be32_split v, b0, b1, b2, b3]
    rfl
  · rintro rfl
    rfl

/-- A sealed packet is taken for IKE exactly under the SPI zero. -/
theorem EspSa.isIkeOn4500_seal {P : Primitives} {self : EspSa} {inner packet : Bytes} {nextHeader : UInt8}
    (done : (self.seal_ P inner nextHeader).1 = .ok packet) : isIkeOn4500 packet = true ↔ self.spi = 0 := by
  obtain ⟨seq, sealed, -, rfl⟩ := seal_eq_ok done
  have front : (u32Bytes self.spi ++ u32Bytes seq ++ u64Bytes seq.toUInt64 ++ sealed).take 4 = u32Bytes self.spi := rfl
  have long : 4 ≤ (u32Bytes self.spi ++ u32Bytes seq ++ u64Bytes seq.toUInt64 ++ sealed).length := by
    simp only [List.length_append, u32Bytes_length]
    omega
  rw [← u32Bytes_eq_zero_iff, isIkeOn4500, front, decide_eq_true long, Bool.true_and, beq_iff_eq]

theorem EspSa.toldFromIke {P : Primitives} {self : EspSa} (nonzero : self.spi ≠ 0) : self.ToldFromIke P := by
  intro inputs call isCall packet done
  obtain ⟨past, ⟨inner, nextHeader⟩, rfl⟩ := Machine.mem_calls isCall
  have spi : ((sealer P).final self past).spi = self.spi :=
    Machine.invariant (sealer P) self (fun state => state.spi = self.spi) rfl
      (fun state input same => (state.seal_spec P input.1 input.2).1.trans same) _
  rw [Bool.eq_false_iff]
  intro taken
  exact nonzero (spi ▸ (isIkeOn4500_seal done).mp taken)

end Ryke

/-! ## IKEv2 -/

namespace Ryke.Ikev2
open Lib

def readChildSpi (P : Primitives) (message skE : Bytes) : Option UInt32 := do
  let (first, inner) ← (openEncryptedGcm P message skE).toOption
  let got ← (parseAuthInner first inner).toOption
  got.childSpi

theorem readChildSpi_eq {P : Primitives} {message skE inner : Bytes} {first : PayloadType} {got : AuthPayloads}
    (opened : openEncryptedGcm P message skE = .ok (first, inner))
    (read : parseAuthInner first inner = .ok got) : readChildSpi P message skE = got.childSpi := by
  simp only [readChildSpi, opened, read, Except.toOption, Option.bind_eq_bind, Option.bind_some]

namespace Server

variable {ε : Type} [Entropy ε]

/-- The ESP SPI that a datagram names to the session whose AUTH check accepts it. -/
def peerSpi (P : Primitives) (self : Server ε) (received : Option (Bytes × SocketAddr)) : Option UInt32 := do
  let (data, _) ← received
  let key ← self.acceptsAuth P received true
  let sa ← self.sessions.get key
  readChildSpi P data sa.keys.skEi

/-- Every child sends with an SPI that is not zero. -/
def ChildrenNonzero (self : Server ε) : Prop :=
  ∀ spiI spiR child, self.child spiI spiR = some child → child.outbound.spi ≠ 0

theorem ChildrenNonzero.step {P : Primitives} {self : Server ε} (nonzero : self.ChildrenNonzero) {request : Request}
    (named : self.peerSpi P request.received ≠ some 0) : (machine P self request).2.ChildrenNonzero := by
  cases request with
  | takeChild i r =>
    intro spiI spiR child held
    change (self.children.remove (i, r)).get (spiI, spiR) = some child at held
    rw [Table.get_remove] at held
    split at held
    next => cases held
    next => exact nonzero spiI spiR child held
  | receive received sendOk =>
    have effect := handleOne_effect P self received sendOk
    change (self.handleOne P received sendOk).server.ChildrenNonzero
    generalize self.handleOne P received sendOk = outcome at effect
    cases effect with
    | idle => exact nonzero
    | saInit => exact nonzero
    | auth data sender header sa response peerId peerChildSpi got parsed kind session processed =>
      intro spiI spiR child held
      change (self.children.insert _ _).get (spiI, spiR) = some child at held
      rw [Table.get_insert] at held
      split at held
      next =>
        cases held
        obtain ⟨first, inner, payloads, _, _, opened, read, -, -, spi, -⟩ := responderProcessAuth_eq_ok processed
        intro zero
        apply named
        change self.peerSpi P received = some 0
        have accepts := acceptsAuth_of_processed parsed kind session processed
        rw [got, peerSpi]
        simp only [Option.bind_eq_bind, Option.bind_some, accepts sender, session, readChildSpi_eq opened read, spi]
        exact congrArg some zero
      next => exact nonzero spiI spiR child held

theorem child_toldFromIke (P : Primitives) (entropy : ε) (auth : AuthConfig) (requests : List Request)
    (named : ∀ call ∈ (machine P).calls (bind entropy auth) requests,
      call.before.peerSpi P call.input.received ≠ some 0) (spiI spiR : UInt64) (child : ChildSa)
    (held : ((machine P).final (bind entropy auth) requests).child spiI spiR = some child) :
    child.outbound.ToldFromIke P := by
  have nonzero := Machine.invariant_of_calls (machine P) (bind entropy auth) ChildrenNonzero
    (fun call => call.before.peerSpi P call.input.received ≠ some 0) nofun
    (fun state request named kept => kept.step named) named
  exact EspSa.toldFromIke (nonzero spiI spiR child held)

end Server

namespace Connect

variable {ε : Type}

/-- What can happen to a call of `connect`: it starts, a datagram reaches it, or the socket fails. -/
inductive Event where
  | start (sendOk : Bool)
  | receive (response : Bytes) (sendOk : Bool)
  | timeout

def machine [Entropy ε] (P : Primitives) (cfg : ConnectConfig) : Machine (Connect ε) Event (Option Bytes) := fun self event =>
  match event with
  | .start sendOk =>
      match self with
      | .idle entropy => Connect.start P entropy sendOk
      | other => (none, other)
  | .receive response sendOk => self.receive P cfg response sendOk
  | .timeout => (none, self.timeout)

/-- The ESP SPI that a datagram names to a client that waits for its `IKE_AUTH` response, and
whose AUTH check accepts it. -/
def peerSpi (P : Primitives) (cfg : ConnectConfig) (self : Connect ε) (event : Event) : Option UInt32 :=
  match self, event with
  | .awaitAuth sa, .receive response _ =>
      if (initiatorVerifyAuth P sa response cfg.auth).isOk then readChildSpi P response sa.keys.skEr else none
  | _, _ => none

def ChildNonzero (self : Connect ε) : Prop :=
  ∀ sa peer child assigned, self = .connected sa peer child assigned → child.outbound.spi ≠ 0

theorem childNonzero_completeAuth {P : Primitives} {cfg : ConnectConfig} {sa : CompletedSaInit} {response : Bytes}
    (named : (initiatorVerifyAuth P sa response cfg.auth).isOk = true → readChildSpi P response sa.keys.skEr ≠ some 0) :
    (completeAuth P cfg sa response : Connect ε).ChildNonzero := by
  intro sa' peer child assigned connected zero
  unfold completeAuth at connected
  split at connected
  next => cases connected
  next peerId peerChildSpi address verified =>
    cases connected
    obtain ⟨first, inner, got, opened, read, -, -, spi⟩ := initiatorVerifyAuth_eq_ok verified
    rw [verified, readChildSpi_eq opened read, spi] at named
    exact named rfl (congrArg some zero)

theorem ChildNonzero.step [Entropy ε] {P : Primitives} {cfg : ConnectConfig} {self : Connect ε} (nonzero : self.ChildNonzero)
    {event : Event} (named : self.peerSpi P cfg event ≠ some 0) : (machine P cfg self event).2.ChildNonzero := by
  cases event with
  | start sendOk =>
    cases self with
    | idle entropy =>
      change (Connect.start P entropy sendOk).2.ChildNonzero
      unfold Connect.start
      dsimp only
      split <;> exact nofun
    | _ => exact nonzero
  | receive response sendOk =>
    cases self with
    | awaitInit secret request entropy =>
      change (completeInit P cfg secret request response entropy sendOk).2.ChildNonzero
      rcases completeInit_cases P cfg secret request response entropy sendOk with
        ⟨error, failed⟩ | ⟨sa, message, -, -, sent⟩
      · rw [failed]
        exact nofun
      · rw [sent]
        exact nofun
    | awaitAuth sa =>
      apply childNonzero_completeAuth
      intro accepted
      rw [peerSpi, if_pos accepted] at named
      exact named
    | _ => exact nonzero
  | timeout =>
    cases self with
    | awaitInit => exact nofun
    | awaitAuth => exact nofun
    | _ => exact nonzero

theorem child_toldFromIke [Entropy ε] (P : Primitives) (cfg : ConnectConfig) (entropy : ε) (events : List Event)
    (named : ∀ call ∈ (machine P cfg).calls (.idle entropy) events, call.before.peerSpi P cfg call.input ≠ some 0)
    (sa : CompletedSaInit) (peer : Identification) (child : ChildSa) (assigned : Option Ipv4Addr)
    (connected : (machine P cfg).final (.idle entropy) events = .connected sa peer child assigned) :
    child.outbound.ToldFromIke P := by
  have nonzero := Machine.invariant_of_calls (machine P cfg) (.idle entropy) ChildNonzero
    (fun call => call.before.peerSpi P cfg call.input ≠ some 0) nofun
    (fun state event named kept => kept.step named) named
  exact EspSa.toldFromIke (nonzero sa peer child assigned connected)

end Connect

end Ryke.Ikev2

/-! ## IKEv1 -/

namespace Ryke.Ikev1
open Lib

theorem deriveChild_outbound {P : Primitives} {prf : Prf} {skeyidD ni nr : Bytes} {localSpi peerSpi : UInt32}
    {child : ChildSa} (derived : deriveChild P prf skeyidD ni nr localSpi peerSpi = .ok child) :
    child.outbound.spi = peerSpi := by
  rw [deriveChild_eq] at derived
  cases derived
  rfl

theorem outbound_of_complete {P : Primitives} {qr : QuickResponder} {msg3 : Bytes} {child : ChildSa}
    (completes : qr.complete P msg3 = .ok child) : child.outbound.spi = qr.peerSpi :=
  deriveChild_outbound (QuickResponder.complete_eq_ok completes)

def QuickInitiator.peerSpi (P : Primitives) (self : QuickInitiator) (msg2 : Bytes) : Option UInt32 := do
  let (_, ps, _) ← (decryptPayloads P msg2 self.encKey self.iv1).toOption
  if self.hashed P ps then (peerEspSpi ps).toOption else none

theorem QuickInitiator.child_toldFromIke {P : Primitives} {self : QuickInitiator} {msg2 msg3 : Bytes} {child : ChildSa}
    (named : self.peerSpi P msg2 ≠ some 0) (completed : self.complete P msg2 = .ok (msg3, child)) :
    child.outbound.ToldFromIke P := by
  obtain ⟨header, ps, iv2, nonceP, peer, decrypted, -, read, hashed, derived⟩ := complete_eq_ok completed
  apply EspSa.toldFromIke
  rw [deriveChild_outbound derived]
  rintro rfl
  apply named
  simp only [peerSpi, decrypted, read, hashed, Except.toOption, Option.bind_eq_bind, Option.bind_some, if_true]

namespace Server

variable {ε : Type}

/-- The ESP SPI that a Quick-Mode message 1, with a HASH(1) that holds, names to the session it
is for. -/
def peerSpi (P : Primitives) (self : Server ε) (received : Option (Bytes × SocketAddr)) : Option UInt32 := do
  let (hdr, data) ← headed exchange.quick received
  let st ← self.phase1 hdr.initCookie
  let (_, _, _, _, peerSpi) ← (readQuick P st data).toOption
  some peerSpi

structure SpisNonzero (state : Server ε) : Prop where
  quick : ∀ ckyI session qr, state.sessions.get ckyI = some session → session.quick = some qr → qr.peerSpi ≠ 0
  child : ∀ ckyI child, state.child ckyI = some child → child.outbound.spi ≠ 0

theorem peerSpi_of_respondQuick [Entropy ε] {P : Primitives} {st : Phase1State} {data : Bytes} {entropy : ε}
    {msg2 : Bytes} {qr : QuickResponder} (answered : (respondQuick P st data entropy).1 = .ok (msg2, qr)) :
    ∃ msgid ps iv1 ni, readQuick P st data = .ok (msgid, ps, iv1, ni, qr.peerSpi) := by
  unfold respondQuick at answered
  split at answered
  next => cases answered
  next msgid ps iv1 ni peerSpi read =>
    obtain ⟨⟨message, iv2⟩, -, answered⟩ := bind_eq_ok answered
    cases answered
    exact ⟨msgid, ps, iv1, ni, read⟩

theorem peerSpi_of_started [Entropy ε] {P : Primitives} {self : Server ε} {ckyI : Cookie} {st : Phase1State}
    {data msg2 : Bytes} {sender : SocketAddr} {qr : QuickResponder}
    (starts : self.startsQuick P (some (data, sender)) = some (ckyI, st))
    (answered : (respondQuick P st data self.entropy).1 = .ok (msg2, qr)) :
    self.peerSpi P (some (data, sender)) = some qr.peerSpi := by
  obtain ⟨msgid, ps, iv1, ni, read⟩ := peerSpi_of_respondQuick answered
  obtain ⟨⟨hdr, bytes⟩, found, starts⟩ := Option.bind_eq_some_iff.mp starts
  obtain ⟨session, stored, starts⟩ := Option.bind_eq_some_iff.mp starts
  obtain ⟨_, phase, starts⟩ := Option.bind_eq_some_iff.mp starts
  split at starts
  next =>
    cases starts
    obtain ⟨_, got, -, -⟩ := headed_eq_some found
    cases got
    have known : self.phase1 hdr.initCookie = some st := by
      rw [phase1, stored]
      exact phase
    simp only [peerSpi, found, known, read, Except.toOption, Option.bind_eq_bind, Option.bind_some]
  next => cases starts

theorem SpisNonzero.step [Entropy ε] {P : Primitives} {self : Server ε} (nonzero : self.SpisNonzero) {action : Action}
    (named : self.peerSpi P action.received ≠ some 0) : (machine P self action).2.SpisNonzero := by
  constructor
  · intro ckyI session qr stored inProgress
    rcases quick_origin stored inProgress with before | ⟨st, data, sender, msg2, got, starts, answered⟩
    · exact nonzero.quick ckyI session qr before inProgress
    · intro zero
      rw [got] at named starts
      rw [peerSpi_of_started starts answered, zero] at named
      exact named rfl
  · intro ckyI child held
    rcases child_origin held with before | ⟨st, qr, data, stored, completes⟩
    · exact nonzero.child ckyI child before
    · rw [outbound_of_complete completes]
      exact nonzero.quick ckyI _ qr stored rfl

theorem child_toldFromIke [Entropy ε] (P : Primitives) (entropy : ε) (cfg : Phase1Config) (actions : List Action)
    (named : ∀ call ∈ (machine P).calls (bind entropy cfg) actions,
      call.before.peerSpi P call.input.received ≠ some 0) (ckyI : Cookie) (child : ChildSa)
    (held : ((machine P).final (bind entropy cfg) actions).child ckyI = some child) :
    child.outbound.ToldFromIke P := by
  have nonzero := Machine.invariant_of_calls (machine P) (bind entropy cfg) SpisNonzero
    (fun call => call.before.peerSpi P call.input.received ≠ some 0) ⟨nofun, nofun⟩
    (fun state action named kept => kept.step named) named
  exact EspSa.toldFromIke (nonzero.child ckyI child held)

end Server

end Ryke.Ikev1

/-! ## Both versions -/

namespace Ryke
open Lib

/-- Where no message names the SPI zero to an end, every CHILD SA that the handshakes
leave it with, as IKEv2 server or client and as IKEv1 server or initiator, sends nothing
that would be taken for IKE. -/
theorem esp_told_from_ike {ε : Type} [Entropy ε] (P : Primitives) (entropy : ε) :
    (∀ auth requests,
      (∀ call ∈ (Ikev2.Server.machine P).calls (.bind entropy auth) requests,
        call.before.peerSpi P call.input.received ≠ some 0) →
      ∀ spiI spiR child, ((Ikev2.Server.machine P).final (.bind entropy auth) requests).child spiI spiR = some child →
        child.outbound.ToldFromIke P) ∧
    (∀ cfg events,
      (∀ call ∈ (Ikev2.Connect.machine P cfg).calls (.idle entropy) events,
        call.before.peerSpi P cfg call.input ≠ some 0) →
      ∀ sa peer child assigned,
        (Ikev2.Connect.machine P cfg).final (.idle entropy) events = .connected sa peer child assigned →
        child.outbound.ToldFromIke P) ∧
    (∀ cfg actions,
      (∀ call ∈ (Ikev1.Server.machine P).calls (.bind entropy cfg) actions,
        call.before.peerSpi P call.input.received ≠ some 0) →
      ∀ ckyI child, ((Ikev1.Server.machine P).final (.bind entropy cfg) actions).child ckyI = some child →
        child.outbound.ToldFromIke P) ∧
    ∀ (initiator : Ikev1.QuickInitiator) msg2 msg3 child, initiator.peerSpi P msg2 ≠ some 0 →
      initiator.complete P msg2 = .ok (msg3, child) → child.outbound.ToldFromIke P := by
  refine ⟨?_, ?_, ?_, ?_⟩
  · intro auth requests named
    exact Ikev2.Server.child_toldFromIke P entropy auth requests named
  · intro cfg events named
    exact Ikev2.Connect.child_toldFromIke P cfg entropy events named
  · intro cfg actions named
    exact Ikev1.Server.child_toldFromIke P entropy cfg actions named
  · intro initiator msg2 msg3 child named completed
    exact initiator.child_toldFromIke named completed

end Ryke

namespace Ryke.Ikev2.Toy
open Lib Ryke.Toy

def connected : World Counter Counter := (World.machine toy netConfig clientAddr).final netStart inOrder

def toServer : List Server.Request := connected.toServer.map fun data => .receive (some (data, clientAddr)) true

def toClient : List Connect.Event := .start true :: connected.toClient.map fun data => .receive data true

def zeroDrawn : World Counter Counter := .init ⟨0x40⟩ ⟨253⟩ serverConfig

def firstIsIke (client : Connect Counter) : Option Bool :=
  match client with
  | .connected _ _ child _ => (child.outbound.seal_ toy [1] 4).1.toOption.map isIkeOn4500
  | _ => none

end Ryke.Ikev2.Toy

namespace Ryke.Ikev1.Toy
open Lib

def quick2 : Bytes := answerTo [offer.1] quick1

end Ryke.Ikev1.Toy

namespace Ryke
open Lib Ryke.Toy

theorem esp_told_from_ike_handshakes :
    (∃ spiI spiR child, ((Ikev2.Server.machine toy).final (.bind (⟨1⟩ : Counter) Ikev2.Toy.serverConfig)
        Ikev2.Toy.toServer).child spiI spiR = some child ∧ child.outbound.ToldFromIke toy) ∧
      (∃ sa peer child assigned, (Ikev2.Connect.machine toy Ikev2.Toy.netConfig).final (.idle (⟨0x40⟩ : Counter))
        Ikev2.Toy.toClient = .connected sa peer child assigned ∧ child.outbound.ToldFromIke toy) ∧
      (∃ ckyI child, ((Ikev1.Server.machine toy).final (.bind (⟨10⟩ : Counter) ⟨[112], Ikev1.Toy.ourId⟩)
        Ikev1.Toy.inOrder).child ckyI = some child ∧ child.outbound.ToldFromIke toy) ∧
      ∃ msg1 initiator msg3 child, Ikev1.Toy.quick = some (msg1, initiator) ∧
        initiator.complete toy Ikev1.Toy.quick2 = .ok (msg3, child) ∧ child.outbound.ToldFromIke toy := by
  refine ⟨?_, ?_, ?_, ?_⟩
  · have named : ∀ call ∈ (Ikev2.Server.machine toy).calls (.bind (⟨1⟩ : Counter) Ikev2.Toy.serverConfig)
        Ikev2.Toy.toServer, call.before.peerSpi toy call.input.received ≠ some 0 := by
      decide +kernel
    have held : (((Ikev2.Server.machine toy).final (.bind (⟨1⟩ : Counter) Ikev2.Toy.serverConfig)
        Ikev2.Toy.toServer).child 0x42 3).isSome = true := by
      decide +kernel
    obtain ⟨child, isChild⟩ := Option.isSome_iff_exists.mp held
    exact ⟨_, _, child, isChild, (esp_told_from_ike toy (⟨1⟩ : Counter)).1 _ _ named _ _ child isChild⟩
  · have named : ∀ call ∈ (Ikev2.Connect.machine toy Ikev2.Toy.netConfig).calls (.idle (⟨0x40⟩ : Counter))
        Ikev2.Toy.toClient, call.before.peerSpi toy Ikev2.Toy.netConfig call.input ≠ some 0 := by
      decide +kernel
    have sends : Ikev2.Toy.firstIsIke ((Ikev2.Connect.machine toy Ikev2.Toy.netConfig).final (.idle (⟨0x40⟩ : Counter))
        Ikev2.Toy.toClient) = some false := by
      decide +kernel
    unfold Ikev2.Toy.firstIsIke at sends
    split at sends
    next sa peer child assigned connected =>
      exact ⟨sa, peer, child, assigned, connected,
        (esp_told_from_ike toy (⟨0x40⟩ : Counter)).2.1 _ _ named sa peer child assigned connected⟩
    next => cases sends
  · have named : ∀ call ∈ (Ikev1.Server.machine toy).calls (.bind (⟨10⟩ : Counter) ⟨[112], Ikev1.Toy.ourId⟩)
        Ikev1.Toy.inOrder, call.before.peerSpi toy call.input.received ≠ some 0 := by
      decide +kernel
    have held : (((Ikev1.Server.machine toy).final (.bind (⟨10⟩ : Counter) ⟨[112], Ikev1.Toy.ourId⟩)
        Ikev1.Toy.inOrder).child (Ikev1.Toy.offer.1.take 8)).isSome = true := by
      decide +kernel
    obtain ⟨child, isChild⟩ := Option.isSome_iff_exists.mp held
    exact ⟨_, child, isChild, (esp_told_from_ike toy (⟨10⟩ : Counter)).2.2.1 _ _ named _ child isChild⟩
  · have completes : (Ikev1.Toy.quick.bind fun started =>
        (started.2.complete toy Ikev1.Toy.quick2).toOption).isSome = true := by
      decide +kernel
    have named : ∀ started ∈ Ikev1.Toy.quick, started.2.peerSpi toy Ikev1.Toy.quick2 ≠ some 0 := by
      decide +kernel
    obtain ⟨⟨msg3, child⟩, done⟩ := Option.isSome_iff_exists.mp completes
    obtain ⟨⟨msg1, initiator⟩, started, done⟩ := Option.bind_eq_some_iff.mp done
    have completed : initiator.complete toy Ikev1.Toy.quick2 = .ok (msg3, child) := toOption_eq_some done
    have own : initiator.peerSpi toy Ikev1.Toy.quick2 ≠ some 0 := named (msg1, initiator) (Option.mem_def.mpr started)
    exact ⟨msg1, initiator, msg3, child, started, completed,
      (esp_told_from_ike toy (⟨20⟩ : Counter)).2.2.2 initiator Ikev1.Toy.quick2 msg3 child own completed⟩

/-- A client and a server connect, the server draws zero for its ESP SPI, and the client's
packets are taken for IKE. -/
theorem zero_spi_taken_for_ike :
    ∃ sa peer child assigned,
      ((Ikev2.World.machine toy Ikev2.Toy.netConfig Ikev2.Toy.clientAddr).final Ikev2.Toy.zeroDrawn
        Ikev2.Toy.inOrder).client = .connected sa peer child assigned ∧ ¬ child.outbound.ToldFromIke toy := by
  have taken : Ikev2.Toy.firstIsIke ((Ikev2.World.machine toy Ikev2.Toy.netConfig Ikev2.Toy.clientAddr).final
      Ikev2.Toy.zeroDrawn Ikev2.Toy.inOrder).client = some true := by
    decide +kernel
  unfold Ikev2.Toy.firstIsIke at taken
  split at taken
  next sa peer child assigned connected =>
    refine ⟨sa, peer, child, assigned, connected, ?_⟩
    intro told
    obtain ⟨packet, isPacket, isIke⟩ := Option.map_eq_some_iff.mp taken
    have esp := told [([1], 4)] _ List.mem_cons_self packet (toOption_eq_some isPacket)
    rw [esp] at isIke
    cases isIke
  next => cases taken

end Ryke
