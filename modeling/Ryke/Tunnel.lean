import Ryke.Esp
import Ryke.Lib.Run
import Ryke.Toy

/-! The data-plane driver and two of them facing each other. The network between them
hands over any packet that was sent, at any time, as often as it likes, and to either
end; a packet it never hands over is lost. -/

namespace Ryke
open Lib Crypto

structure Tunnel where
  sa : ChildSa
  peer : SocketAddr

namespace Tunnel

/-- Seal an inner packet and send it; `sendOk` says whether the socket takes it. -/
def send (P : Primitives) (self : Tunnel) (inner : Bytes) (nextHeader : UInt8) (sendOk : Bool) :
    Except DriverError Unit × Option (Bytes × SocketAddr) × Tunnel :=
  let (packet, outbound) := self.sa.outbound.seal_ P inner nextHeader
  let self := { self with sa := { self.sa with outbound := outbound } }
  match packet with
  | .error error => (.error (.ike error), none, self)
  | .ok packet => if sendOk then (.ok (), some (packet, self.peer), self) else (.error .io, none, self)

def recv (P : Primitives) (self : Tunnel) (received : Option (Bytes × SocketAddr)) :
    Except DriverError (Bytes × UInt8) :=
  match received with
  | none => .error .io
  | some (packet, _) => (self.sa.inbound.open_ P packet).mapError .ike

end Tunnel

structure Flight where
  origin : Role
  inner : Bytes
  nextHeader : UInt8
  packet : Bytes

/-- Both ends and every packet that was ever sent. -/
structure Link where
  ends : Role → Tunnel
  flights : List Flight

inductive LinkAction where
  | send (role : Role) (inner : Bytes) (nextHeader : UInt8) (sendOk : Bool)
  | deliver (n : Nat) (role : Role) (sender : SocketAddr)

namespace Link

def machine (P : Primitives) : Machine Link LinkAction (Option (Except DriverError (Bytes × UInt8))) := fun self action =>
  match action with
  | .send role inner nextHeader sendOk =>
      let (_, sent, tunnel) := (self.ends role).send P inner nextHeader sendOk
      let flights := sent.toList.map fun (packet, _) => ⟨role, inner, nextHeader, packet⟩
      (none, ⟨Function.update self.ends role tunnel, self.flights ++ flights⟩)
  | .deliver n role sender =>
      match self.flights[n]? with
      | none => (none, self)
      | some flight => (some ((self.ends role).recv P (some (flight.packet, sender))), self)

def start (P : Primitives) (skD ni nr : Bytes) (a b : UInt32) (addrs : Role → SocketAddr) : Link where
  ends role :=
    match role with
    | .initiator => ⟨.derive P skD ni nr .initiator a b, addrs .responder⟩
    | .responder => ⟨.derive P skD ni nr .responder b a, addrs .initiator⟩
  flights := []

/-- The two directions have keys of their own. -/
def KeysDiffer (P : Primitives) (skD ni nr : Bytes) : Prop :=
  (deriveChildKeys P skD ni nr 36 0).encrI ≠ (deriveChildKeys P skD ni nr 36 0).encrR

def wire (self : Link) : List Bytes := self.flights.map fun flight => EspSa.sealedText flight.packet

/-- A packet delivered to the other end gives what was sealed; delivered back it is
rejected, given that the keys differ. -/
def Faithful (keysDiffer : Prop) (call : Call Link LinkAction (Option (Except DriverError (Bytes × UInt8)))) : Prop :=
  ∀ n role sender flight, call.input = .deliver n role sender → call.before.flights[n]? = some flight →
    (role ≠ flight.origin → call.output = some (.ok (flight.inner, flight.nextHeader))) ∧
    (role = flight.origin → keysDiffer → ∃ error, call.output = some (.error error))

structure SameSa (sa other : EspSa) : Prop where
  spi : other.spi = sa.spi
  key : other.key = sa.key
  salt : other.salt = sa.salt

theorem SameSa.trans {first second third : EspSa} (ab : SameSa first second) (bc : SameSa second third) :
    SameSa first third :=
  ⟨bc.spi.trans ab.spi, bc.key.trans ab.key, bc.salt.trans ab.salt⟩

/-- Both ends are as they were derived, their counters apart, and every packet was sealed
by its end. -/
structure Inv (P : Primitives) (first state : Link) : Prop where
  outbound : ∀ role, SameSa (first.ends role).sa.outbound (state.ends role).sa.outbound
  inbound : ∀ role, (state.ends role).sa.inbound = (first.ends role).sa.inbound
  sealedBy : ∀ flight ∈ state.flights, ∃ sa, SameSa (first.ends flight.origin).sa.outbound sa ∧
    (sa.seal_ P flight.inner flight.nextHeader).1 = .ok flight.packet

theorem sameSa_seal (P : Primitives) (sa : EspSa) (inner : Bytes) (nextHeader : UInt8) :
    SameSa sa (sa.seal_ P inner nextHeader).2 := by
  obtain ⟨spi, key, salt, -, -⟩ := sa.seal_spec P inner nextHeader
  exact ⟨spi, key, salt⟩

theorem send_spec (P : Primitives) (self : Tunnel) (inner : Bytes) (nextHeader : UInt8) (sendOk : Bool) :
    (self.send P inner nextHeader sendOk).2.2.sa =
        { self.sa with outbound := (self.sa.outbound.seal_ P inner nextHeader).2 } ∧
      ∀ packet addr, (self.send P inner nextHeader sendOk).2.1 = some (packet, addr) →
        (self.sa.outbound.seal_ P inner nextHeader).1 = .ok packet := by
  unfold Tunnel.send
  dsimp only
  split
  next => exact ⟨rfl, nofun⟩
  next sealed =>
    cases sendOk with
    | false => exact ⟨rfl, nofun⟩
    | true =>
      refine ⟨rfl, ?_⟩
      intro packet addr sent
      cases sent
      assumption

theorem machine_send (P : Primitives) (self : Link) (role : Role) (inner : Bytes) (nextHeader : UInt8) (sendOk : Bool) :
    machine P self (.send role inner nextHeader sendOk) =
      (none, ⟨Function.update self.ends role ((self.ends role).send P inner nextHeader sendOk).2.2,
        self.flights ++ (((self.ends role).send P inner nextHeader sendOk).2.1.toList.map fun sent =>
          ⟨role, inner, nextHeader, sent.1⟩)⟩) := rfl

theorem machine_deliver (P : Primitives) {self : Link} {n : Nat} {flight : Flight}
    (found : self.flights[n]? = some flight) (role : Role) (sender : SocketAddr) :
    machine P self (.deliver n role sender) =
      (some (((self.ends role).sa.inbound.open_ P flight.packet).mapError .ike), self) := by
  simp only [machine, found]
  rfl

theorem machine_deliver_state (P : Primitives) (self : Link) (n : Nat) (role : Role) (sender : SocketAddr) :
    (machine P self (.deliver n role sender)).2 = self := by
  cases found : self.flights[n]? with
  | none => simp only [machine, found]
  | some flight => rw [machine_deliver P found]

theorem Inv.step {P : Primitives} {first self : Link} (inv : Inv P first self) (action : LinkAction) :
    Inv P first (machine P self action).2 := by
  cases action with
  | deliver n role sender =>
    rw [machine_deliver_state]
    exact inv
  | send role inner nextHeader sendOk =>
    obtain ⟨after, sent⟩ := send_spec P (self.ends role) inner nextHeader sendOk
    rw [machine_send]
    refine ⟨?_, ?_, ?_⟩
    · intro other
      dsimp only
      by_cases same : other = role
      · rw [same, Function.update_self, after]
        exact (inv.outbound role).trans (sameSa_seal P _ inner nextHeader)
      · rw [Function.update_of_ne same]
        exact inv.outbound other
    · intro other
      dsimp only
      by_cases same : other = role
      · rw [same, Function.update_self, after]
        exact inv.inbound role
      · rw [Function.update_of_ne same]
        exact inv.inbound other
    · intro flight member
      rcases List.mem_append.mp member with before | now
      · exact inv.sealedBy flight before
      · obtain ⟨⟨packet, addr⟩, isSent, rfl⟩ := List.mem_map.mp now
        exact ⟨_, inv.outbound role, sent packet addr (Option.mem_toList.mp isSent)⟩

theorem start_crossed (P : Primitives) (skD ni nr : Bytes) (a b : UInt32) (addrs : Role → SocketAddr) {role other : Role}
    (opposite : other ≠ role) : SameSa ((start P skD ni nr a b addrs).ends role).sa.outbound
      ((start P skD ni nr a b addrs).ends other).sa.inbound := by
  cases role with
  | initiator =>
    cases other with
    | initiator => exact absurd rfl opposite
    | responder => exact ⟨rfl, rfl, rfl⟩
  | responder =>
    cases other with
    | initiator => exact ⟨rfl, rfl, rfl⟩
    | responder => exact absurd rfl opposite

theorem start_apart {P : Primitives} {skD ni nr : Bytes} (differ : KeysDiffer P skD ni nr) (a b : UInt32)
    (addrs : Role → SocketAddr) (role : Role) :
    (((start P skD ni nr a b addrs).ends role).sa.inbound.key, ((start P skD ni nr a b addrs).ends role).sa.inbound.salt) ≠
      (((start P skD ni nr a b addrs).ends role).sa.outbound.key,
        ((start P skD ni nr a b addrs).ends role).sa.outbound.salt) := by
  have whole : ∀ first second : Bytes, (first.take 32, first.drop 32) = (second.take 32, second.drop 32) →
      first = second := by
    intro first second same
    rw [← List.take_append_drop 32 first, (Prod.mk.inj same).1, (Prod.mk.inj same).2, List.take_append_drop]
  cases role with
  | initiator => exact fun same => differ (whole _ _ same).symm
  | responder => exact fun same => differ (whole _ _ same)

theorem Inv.faithful {P : Primitives} (correct : P.GcmCorrect) {skD ni nr : Bytes} {a b : UInt32}
    {addrs : Role → SocketAddr} {self : Link} (ideal : P.GcmIdeal self.wire)
    (inv : Inv P (start P skD ni nr a b addrs) self) (action : LinkAction) :
    Faithful (KeysDiffer P skD ni nr) ((machine P).call self action) := by
  intro n role sender flight isInput found
  change action = _ at isInput
  subst isInput
  have output : ((machine P).call self (.deliver n role sender)).output =
      some (((self.ends role).sa.inbound.open_ P flight.packet).mapError .ike) :=
    congrArg Prod.fst (machine_deliver P found role sender)
  have member := List.mem_of_getElem? found
  obtain ⟨sa, same, sealed⟩ := inv.sealedBy flight member
  rw [output, inv.inbound role]
  constructor
  · intro opposite
    have crossed := start_crossed P skD ni nr a b addrs opposite
    rw [EspSa.open_sealed correct (crossed.spi.trans same.spi.symm) (crossed.key.trans same.key.symm)
      (crossed.salt.trans same.salt.symm) sealed]
    rfl
  · rintro rfl differ
    have apart := start_apart differ a b addrs flight.origin
    rw [← same.key, ← same.salt] at apart
    have own : P.GcmIdeal [EspSa.sealedText flight.packet] := ideal.single (List.mem_map_of_mem member)
    obtain ⟨error, rejected⟩ := EspSa.not_open_sealed apart own sealed
    rw [rejected]
    exact ⟨_, rfl⟩

/-- In every run of the two ends, however their packets are interleaved, reordered,
duplicated or lost, every delivery is faithful. -/
theorem deliveries_faithful (P : Primitives) (correct : P.GcmCorrect) (skD ni nr : Bytes) (a b : UInt32)
    (addrs : Role → SocketAddr) (actions : List LinkAction)
    (call : Call Link LinkAction (Option (Except DriverError (Bytes × UInt8))))
    (isCall : call ∈ (machine P).calls (start P skD ni nr a b addrs) actions) (ideal : P.GcmIdeal call.before.wire) :
    Faithful (KeysDiffer P skD ni nr) call := by
  obtain ⟨past, action, rfl⟩ := Machine.mem_calls isCall
  have inv := Machine.invariant (machine P) (start P skD ni nr a b addrs) (Inv P (start P skD ni nr a b addrs))
    ⟨fun role => ⟨rfl, rfl, rfl⟩, fun role => rfl, fun flight member => absurd member List.not_mem_nil⟩
    (fun state action inv => inv.step action) past
  exact inv.faithful correct ideal action

end Link

namespace Toy

def linkAddrs : Role → SocketAddr
  | .initiator => ⟨.v4 ⟨10, 0, 0, 1⟩, 4500⟩
  | .responder => ⟨.v4 ⟨10, 0, 0, 2⟩, 4500⟩

def linkStart : Link := .start toy [1] [2] [3] 5 7 linkAddrs

def crossing : List LinkAction :=
  [.send .initiator [1, 2, 3] 4 true, .send .responder [9] 41 true, .deliver 1 .initiator (linkAddrs .responder),
    .deliver 1 .initiator (linkAddrs .responder), .deliver 0 .responder (linkAddrs .initiator),
    .deliver 1 .responder (linkAddrs .responder)]

end Toy

namespace Link

/-- In that run the duplicate still opens and the reflected packet is rejected. -/
theorem deliveries_faithful_crossing :
    ((machine toy).calls Toy.linkStart Toy.crossing).map Call.output =
        [none, none, some (.ok ([9], 41)), some (.ok ([9], 41)), some (.ok ([1, 2, 3], 4)),
          some (.error (.ike (.crypto "ESP SPI does not match this SA")))] ∧
      ∀ call ∈ (machine toy).calls Toy.linkStart Toy.crossing, Faithful (KeysDiffer toy [1] [2] [3]) call := by
  refine ⟨by decide +kernel, ?_⟩
  intro call isCall
  exact deliveries_faithful toy Toy.toy_gcmCorrect [1] [2] [3] 5 7 Toy.linkAddrs Toy.crossing call isCall
    (Toy.toy_gcmIdeal _)

end Link

end Ryke
