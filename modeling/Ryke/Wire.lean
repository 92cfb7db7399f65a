import Ryke.Ikev2.Authentic
import Ryke.Ikev2.Mobike
import Ryke.Lib.Sealing
import Ryke.Tunnel

/-! The two ends of an IKE SA and of its CHILD SA, and a network that delivers whatever bytes
it likes to either of them, as a packet of the tunnel or as a control message. What an end
accepts is what the other end sent, and sent as that. -/

namespace Ryke.Ikev2
open Lib

/-! ## Bytes behind the declared part -/

theorem IkeHeader.parse_append {message : Bytes} (long : IkeHeader.len ≤ message.length) (rest : Bytes) :
    IkeHeader.parse (message ++ rest) = IkeHeader.parse message := by
  have longer : ¬ (message ++ rest).length < IkeHeader.len := by
    rw [List.length_append]
    omega
  have within : 28 ≤ message.length := long
  rw [IkeHeader.parse, IkeHeader.parse, if_neg longer, if_neg (by omega)]
  simp (disch := omega) only [u64At, u32At, byteAt_append_left]

/-- The opener reads nothing behind the end that the SK payload declares. -/
theorem openEncryptedGcm_append (P : Primitives) {message skE : Bytes} {declared : Nat}
    (isDeclared : (u16At (message.drop IkeHeader.len) 2).toNat = declared) (least : 4 + ivLen + icvLen ≤ declared)
    (whole : message.length = IkeHeader.len + declared) (rest : Bytes) :
    openEncryptedGcm P (message ++ rest) skE = openEncryptedGcm P message skE := by
  have wide : 28 ≤ declared := least
  have body : (message ++ rest).drop IkeHeader.len = message.drop IkeHeader.len ++ rest :=
    List.drop_append_of_le_length (by omega)
  have size : (message.drop IkeHeader.len).length = declared := by
    rw [List.length_drop]
    omega
  have front : (message ++ rest).take (IkeHeader.len + 4) = message.take (IkeHeader.len + 4) :=
    List.take_append_of_le_length (by omega)
  have first : byteAt (message.drop IkeHeader.len ++ rest) 0 = byteAt (message.drop IkeHeader.len) 0 :=
    byteAt_append_left (by omega)
  have length : u16At (message.drop IkeHeader.len ++ rest) 2 = u16At (message.drop IkeHeader.len) 2 := by
    rw [u16At, u16At, byteAt_append_left (by omega), byteAt_append_left (by omega)]
  have sealed : slice (message.drop IkeHeader.len ++ rest) 4 declared =
      slice (message.drop IkeHeader.len) 4 declared := by
    rw [slice, slice, List.drop_append_of_le_length (by omega), List.take_append_of_le_length (by
      rw [List.length_drop]
      omega)]
  have long : ¬ (message.drop IkeHeader.len ++ rest).length < 4 := by
    rw [List.length_append]
    omega
  have room : ¬ (declared < 4 + ivLen + icvLen ∨ declared > (message.drop IkeHeader.len ++ rest).length) := by
    rw [List.length_append]
    omega
  have room' : ¬ (declared < 4 + ivLen + icvLen ∨ declared > (message.drop IkeHeader.len).length) := by omega
  have long' : ¬ (message.drop IkeHeader.len).length < 4 := by omega
  unfold openEncryptedGcm
  dsimp only
  rw [IkeHeader.parse_append (by omega), body, front, first, length, isDeclared, sealed, if_neg long, if_neg room,
    if_neg long', if_neg room']

theorem buildEncryptedGcm_declared {P : Primitives} {header : IkeHeader} {firstInner : PayloadType}
    {inner skE message : Bytes} {iv : Iv} (small : skPayloadLen inner < 65536)
    (built : buildEncryptedGcm P header firstInner inner skE iv = .ok message) :
    (u16At (message.drop IkeHeader.len) 2).toNat = skPayloadLen inner ∧
      message.length = IkeHeader.len + skPayloadLen inner := by
  refine ⟨?_, buildEncryptedGcm_length built⟩
  obtain ⟨sealed, sealing, built⟩ := bind_eq_ok built
  cases built
  rw [skAad, List.append_assoc, List.drop_left' (IkeHeader.toBytes_length _)]
  simp only [u16Bytes, u16At, List.cons_append, List.nil_append, byteAt_cons_zero, byteAt_cons_succ, be16_split]
  exact Nat.mod_eq_of_lt small

theorem openEncryptedGcm_declaredPart {P : Primitives} {header : IkeHeader} {firstInner : PayloadType}
    {inner skE message datagram : Bytes} {iv : Iv} (small : skPayloadLen inner < 65536)
    (built : buildEncryptedGcm P header firstInner inner skE iv = .ok message) (same : message = declaredPart datagram)
    (other : Bytes) : openEncryptedGcm P datagram other = openEncryptedGcm P message other := by
  obtain ⟨declared, whole⟩ := buildEncryptedGcm_declared small built
  have least : 4 + ivLen + icvLen ≤ skPayloadLen inner := by
    rw [skPayloadLen]
    omega
  rw [eq_take_append same.symm]
  exact openEncryptedGcm_append P declared least whole _

section Controls

variable {P : Primitives} {sa peer : CompletedSaInit} {messageId : UInt32} {isResponse : Bool} {chain : List Payload}
  {iv : Iv} {message datagram : Bytes}

theorem openInformational_of_sent (correct : P.GcmCorrect) (facing : Facing sa peer)
    (proper : ∀ payload ∈ chain, payload.1.Proper) (small : skPayloadLen (encodePayloadChain chain) < 65536)
    (built : buildInformational P sa messageId isResponse chain iv = .ok message)
    (same : message = declaredPart datagram) :
    openInformational P peer datagram = .ok chain := by
  rw [openInformational, openEncryptedGcm_declaredPart small built same]
  exact openInformational_built correct facing proper small built

theorem openInformational_eq_ok (opened : openInformational P sa datagram = .ok chain) :
    (peerSkE sa).length = 36 ∧ IkeHeader.len + 4 ≤ (declaredPart datagram).length := by
  obtain ⟨⟨first, inner⟩, plainly, -⟩ := bind_eq_ok opened
  obtain ⟨declared, plaintext, isDeclared, least, most, decrypted, -, -⟩ := openEncryptedGcm_eq_ok plainly
  refine ⟨(gcmOpen_eq_ok decrypted).1, ?_⟩
  rw [List.length_drop] at most
  rw [declaredPart, ← isDeclared, List.length_take]
  omega

end Controls

end Ryke.Ikev2

namespace Ryke
open Lib Crypto Ikev2

inductive Content where
  | packet (inner : Bytes) (nextHeader : UInt8)
  | control (chain : List Payload)

structure Sent where
  origin : Role
  content : Content
  message : Bytes

structure Wire where
  sas : Role → CompletedSaInit
  tunnels : Role → Tunnel
  sent : List Sent

inductive WireAction where
  | send (role : Role) (inner : Bytes) (nextHeader : UInt8) (sendOk : Bool)
  | control (role : Role) (messageId : UInt32) (isResponse : Bool) (chain : List Payload) (iv : Iv)
  | recv (role : Role) (datagram : Bytes) (sender : SocketAddr)
  | inform (role : Role) (datagram : Bytes)

inductive WireAnswer where
  | silent
  | packet (result : Except DriverError (Bytes × UInt8))
  | control (result : Result (List Payload))

namespace Wire

def machine (P : Primitives) : Machine Wire WireAction WireAnswer := fun self action =>
  match action with
  | .send role inner nextHeader sendOk =>
      let (_, out, tunnel) := (self.tunnels role).send P inner nextHeader sendOk
      let sent := out.toList.map fun (packet, _) => ⟨role, .packet inner nextHeader, packet⟩
      (.silent, { self with tunnels := Function.update self.tunnels role tunnel, sent := self.sent ++ sent })
  | .control role messageId isResponse chain iv =>
      let out := buildInformational P (self.sas role) messageId isResponse chain iv
      let sent := out.toOption.toList.map fun message => ⟨role, .control chain, message⟩
      (.silent, { self with sent := self.sent ++ sent })
  | .recv role datagram sender => (.packet ((self.tunnels role).recv P (some (datagram, sender))), self)
  | .inform role datagram => (.control (openInformational P (self.sas role) datagram), self)

def start (P : Primitives) (initSa respSa : CompletedSaInit) (a b : UInt32) (addrs : Role → SocketAddr) : Wire where
  sas role :=
    match role with
    | .initiator => initSa
    | .responder => respSa
  tunnels := (Link.start P initSa.keys.skD initSa.ni initSa.nr a b addrs).ends
  sent := []

/-! ## What the AEAD sees of a message -/

def espSealed (sa : EspSa) (packet : Bytes) : Sealed := .ofMessage 8 sa.key sa.salt 8 packet

def skSealed (skE message : Bytes) : Sealed := .ofMessage ivLen (skE.take 32) (skE.drop 32) (IkeHeader.len + 4) message

def sealedAs (self : Wire) (sent : Sent) : Sealed :=
  match sent.content with
  | .packet _ _ => espSealed (self.tunnels sent.origin).sa.outbound sent.message
  | .control _ => skSealed (ourSkE (self.sas sent.origin)) sent.message

def opened (call : Call Wire WireAction WireAnswer) : List Sealed :=
  match call.input, call.output with
  | .recv role datagram _, .packet (.ok _) => [espSealed (call.before.tunnels role).sa.inbound datagram]
  | .inform role datagram, .control (.ok _) => [skSealed (peerSkE (call.before.sas role)) (declaredPart datagram)]
  | _, _ => []

/-- Nothing opens that was not sealed before. -/
def Unforged (call : Call Wire WireAction WireAnswer) : Prop :=
  ∀ inputs ∈ opened call, ∃ sent ∈ call.before.sent, call.before.sealedAs sent = inputs

instance (call : Call Wire WireAction WireAnswer) : Decidable (Unforged call) :=
  inferInstanceAs (Decidable (∀ inputs ∈ opened call, ∃ sent ∈ call.before.sent, call.before.sealedAs sent = inputs))

/-- Control messages have payloads that survive the wire. -/
def Fitting : WireAction → Prop
  | .control _ _ _ chain _ => (∀ payload ∈ chain, payload.1.Proper) ∧ skPayloadLen (encodePayloadChain chain) < 65536
  | _ => True

instance (action : WireAction) : Decidable (Fitting action) :=
  match action with
  | .control _ _ _ _ _ => inferInstanceAs (Decidable (_ ∧ _))
  | .send _ _ _ _ => .isTrue trivial
  | .recv _ _ _ => .isTrue trivial
  | .inform _ _ => .isTrue trivial

/-- An end accepts exactly what the other end sent, and as what it sent it. -/
structure Exact (call : Call Wire WireAction WireAnswer) : Prop where
  packets : ∀ role datagram sender, call.input = .recv role datagram sender → ∀ inner nextHeader,
    call.output = .packet (.ok (inner, nextHeader)) ↔
      ∃ sent ∈ call.before.sent, sent.origin ≠ role ∧ sent.content = .packet inner nextHeader ∧
        sent.message = datagram
  controls : ∀ role datagram, call.input = .inform role datagram → ∀ chain,
    call.output = .control (.ok chain) ↔
      ∃ sent ∈ call.before.sent, sent.origin ≠ role ∧ sent.content = .control chain ∧
        sent.message = declaredPart datagram

/-! ## The invariant -/

def SentBy (P : Primitives) (first : Wire) (sent : Sent) : Prop :=
  match sent.content with
  | .packet inner nextHeader => ∃ sa, Link.SameSa (first.tunnels sent.origin).sa.outbound sa ∧
      (sa.seal_ P inner nextHeader).1 = .ok sent.message
  | .control chain => (∀ payload ∈ chain, payload.1.Proper) ∧ skPayloadLen (encodePayloadChain chain) < 65536 ∧
      ∃ messageId isResponse iv,
        buildInformational P (first.sas sent.origin) messageId isResponse chain iv = .ok sent.message

structure Inv (P : Primitives) (first state : Wire) : Prop where
  sas : state.sas = first.sas
  outbound : ∀ role, Link.SameSa (first.tunnels role).sa.outbound (state.tunnels role).sa.outbound
  inbound : ∀ role, (state.tunnels role).sa.inbound = (first.tunnels role).sa.inbound
  sentBy : ∀ sent ∈ state.sent, SentBy P first sent

theorem Inv.base (P : Primitives) {first : Wire} (silent : first.sent = []) : Inv P first first where
  sas := rfl
  outbound _ := ⟨rfl, rfl, rfl⟩
  inbound _ := rfl
  sentBy sent member := by
    rw [silent] at member
    cases member

theorem machine_send (P : Primitives) (self : Wire) (role : Role) (inner : Bytes) (nextHeader : UInt8) (sendOk : Bool) :
    (machine P self (.send role inner nextHeader sendOk)).2 =
      { self with
        tunnels := Function.update self.tunnels role ((self.tunnels role).send P inner nextHeader sendOk).2.2
        sent := self.sent ++ (((self.tunnels role).send P inner nextHeader sendOk).2.1.toList.map fun out =>
          ⟨role, .packet inner nextHeader, out.1⟩) } := rfl

theorem Inv.step {P : Primitives} {first self : Wire} (inv : Inv P first self) {action : WireAction}
    (fitting : Fitting action) : Inv P first (machine P self action).2 := by
  cases action with
  | recv role datagram sender => exact inv
  | inform role datagram => exact inv
  | control role messageId isResponse chain iv =>
    refine ⟨inv.sas, inv.outbound, inv.inbound, ?_⟩
    intro sent member
    rcases List.mem_append.mp member with before | now
    · exact inv.sentBy sent before
    · obtain ⟨message, built, rfl⟩ := List.mem_map.mp now
      rw [Option.mem_toList, inv.sas] at built
      exact ⟨fitting.1, fitting.2, messageId, isResponse, iv, toOption_eq_some built⟩
  | send role inner nextHeader sendOk =>
    obtain ⟨after, sealed⟩ := Link.send_spec P (self.tunnels role) inner nextHeader sendOk
    rw [machine_send]
    refine ⟨inv.sas, ?_, ?_, ?_⟩
    · intro other
      dsimp only
      by_cases same : other = role
      · rw [same, Function.update_self, after]
        exact (inv.outbound role).trans (Link.sameSa_seal P _ inner nextHeader)
      · rw [Function.update_of_ne same]
        exact inv.outbound other
    · intro other
      dsimp only
      by_cases same : other = role
      · rw [same, Function.update_self, after]
        exact inv.inbound role
      · rw [Function.update_of_ne same]
        exact inv.inbound other
    · intro sent member
      rcases List.mem_append.mp member with before | now
      · exact inv.sentBy sent before
      · obtain ⟨⟨packet, addr⟩, isSent, rfl⟩ := List.mem_map.mp now
        exact ⟨_, inv.outbound role, sealed packet addr (Option.mem_toList.mp isSent)⟩

/-! ## Two ends that face each other -/

structure Paired (first : Wire) : Prop where
  facing : ∀ role other, other ≠ role → Facing (first.sas role) (first.sas other)
  skApart : ∀ role, peerSkE (first.sas role) ≠ ourSkE (first.sas role)
  crossed : ∀ role other, other ≠ role →
    Link.SameSa (first.tunnels role).sa.outbound (first.tunnels other).sa.inbound
  apart : ∀ role, ((first.tunnels role).sa.inbound.key, (first.tunnels role).sa.inbound.salt) ≠
    ((first.tunnels role).sa.outbound.key, (first.tunnels role).sa.outbound.salt)

theorem start_paired {P : Primitives} {initSa respSa : CompletedSaInit} (matching : Matching initSa respSa)
    (skDiffer : initSa.keys.skEi ≠ initSa.keys.skEr)
    (differ : Link.KeysDiffer P initSa.keys.skD initSa.ni initSa.nr) (a b : UInt32) (addrs : Role → SocketAddr) :
    (start P initSa respSa a b addrs).Paired where
  facing role other opposite := by
    cases role with
    | initiator =>
      cases other with
      | initiator => exact absurd rfl opposite
      | responder => exact matching.facing
    | responder =>
      cases other with
      | initiator => exact matching.facing_back
      | responder => exact absurd rfl opposite
  skApart role := by
    cases role with
    | initiator => exact peerSkE_ne_ourSkE skDiffer
    | responder =>
      apply peerSkE_ne_ourSkE
      change respSa.keys.skEi ≠ respSa.keys.skEr
      rw [matching.keys]
      exact skDiffer
  crossed _ _ opposite := Link.start_crossed P _ _ _ a b addrs opposite
  apart role := Link.start_apart differ a b addrs role

/-! ## What is accepted -/

theorem seal_length {P : Primitives} {sa : EspSa} {inner packet : Bytes} {nextHeader : UInt8}
    (done : (sa.seal_ P inner nextHeader).1 = .ok packet) : 8 ≤ packet.length := by
  obtain ⟨seq, sealed, -, rfl⟩ := EspSa.seal_eq_ok done
  rw [List.length_append, List.length_append]
  change 8 ≤ 8 + 8 + sealed.length
  omega

theorem control_length {P : Primitives} {sa : CompletedSaInit} {messageId : UInt32} {isResponse : Bool}
    {chain : List Payload} {iv : Iv} {message : Bytes}
    (built : buildInformational P sa messageId isResponse chain iv = .ok message) :
    IkeHeader.len + 4 ≤ message.length ∧ (ourSkE sa).length = 36 := by
  obtain ⟨sealed, sealing, built⟩ := bind_eq_ok built
  cases built
  rw [List.length_append, skAad_length]
  exact ⟨Nat.le_add_right _ _, (gcmSeal_eq_ok sealing).1⟩

theorem salt_length {skE : Bytes} (size : skE.length = 36) : (skE.drop 32).length = 4 := by
  rw [List.length_drop, size]

section Accepted

variable {P : Primitives} {first self : Wire}

/-- A packet that opens like a message of the log is that message, and it was sent as a packet. -/
theorem Inv.packet_of_sealed (inv : Inv P first self) {role : Role} {datagram : Bytes} {sent : Sent}
    (member : sent ∈ self.sent) (long : 8 ≤ datagram.length)
    (same : self.sealedAs sent = espSealed (self.tunnels role).sa.inbound datagram) :
    ∃ inner nextHeader, sent.content = .packet inner nextHeader ∧ sent.message = datagram ∧
      (self.tunnels sent.origin).sa.outbound.key = (self.tunnels role).sa.inbound.key ∧
      (self.tunnels sent.origin).sa.outbound.salt = (self.tunnels role).sa.inbound.salt := by
  have made := inv.sentBy sent member
  unfold sealedAs at same
  cases kind : sent.content with
  | packet inner nextHeader =>
    rw [SentBy, kind] at made
    obtain ⟨sa, -, sealed⟩ := made
    rw [kind] at same
    obtain ⟨key, salt, -, message⟩ := Sealed.ofMessage_inj
      ((self.tunnels sent.origin).sa.outbound.salt_length.trans (self.tunnels role).sa.inbound.salt_length.symm)
      (seal_length sealed) long same
    exact ⟨inner, nextHeader, rfl, message, key, salt⟩
  | control chain =>
    rw [SentBy, kind] at made
    obtain ⟨-, -, messageId, isResponse, iv, built⟩ := made
    obtain ⟨enough, size⟩ := control_length built
    rw [kind, inv.sas] at same
    -- the associated data of the two formats differ in length
    obtain ⟨-, -, formats, -⟩ := Sealed.ofMessage_inj
      ((salt_length size).trans (self.tunnels role).sa.inbound.salt_length.symm) enough long same
    exact absurd formats (by decide)

theorem Inv.control_of_sealed (inv : Inv P first self) {skE datagram : Bytes} {sent : Sent} (member : sent ∈ self.sent)
    (size : skE.length = 36) (long : IkeHeader.len + 4 ≤ datagram.length)
    (same : self.sealedAs sent = skSealed skE datagram) :
    ∃ chain, sent.content = .control chain ∧ sent.message = datagram ∧ ourSkE (self.sas sent.origin) = skE := by
  have made := inv.sentBy sent member
  unfold sealedAs at same
  cases kind : sent.content with
  | packet inner nextHeader =>
    rw [SentBy, kind] at made
    obtain ⟨sa, -, sealed⟩ := made
    rw [kind] at same
    obtain ⟨-, -, formats, -⟩ := Sealed.ofMessage_inj
      ((self.tunnels sent.origin).sa.outbound.salt_length.trans (salt_length size).symm) (seal_length sealed) long same
    exact absurd formats (by decide)
  | control chain =>
    rw [SentBy, kind] at made
    obtain ⟨-, -, messageId, isResponse, iv, built⟩ := made
    obtain ⟨enough, ownSize⟩ := control_length built
    rw [kind, inv.sas] at same
    obtain ⟨keys, salts, -, message⟩ :=
      Sealed.ofMessage_inj ((salt_length ownSize).trans (salt_length size).symm) enough long same
    have sameSkE : ourSkE (first.sas sent.origin) = skE := by
      rw [← List.take_append_drop 32 (ourSkE (first.sas sent.origin)), keys, salts, List.take_append_drop]
    rw [inv.sas]
    exact ⟨chain, rfl, message, sameSkE⟩

theorem Inv.recv_sent (inv : Inv P first self) (paired : first.Paired) (correct : P.GcmCorrect) {role : Role}
    {sent : Sent} (member : sent ∈ self.sent) (opposite : sent.origin ≠ role) {inner : Bytes} {nextHeader : UInt8}
    (kind : sent.content = .packet inner nextHeader) (sender : SocketAddr) :
    (self.tunnels role).recv P (some (sent.message, sender)) = .ok (inner, nextHeader) := by
  have made := inv.sentBy sent member
  rw [SentBy, kind] at made
  obtain ⟨sa, same, sealed⟩ := made
  have crossed := paired.crossed sent.origin role opposite.symm
  change ((self.tunnels role).sa.inbound.open_ P sent.message).mapError DriverError.ike = _
  rw [inv.inbound role, EspSa.open_sealed correct (crossed.spi.trans same.spi.symm) (crossed.key.trans same.key.symm)
    (crossed.salt.trans same.salt.symm) sealed]
  rfl

theorem Inv.inform_sent (inv : Inv P first self) (paired : first.Paired) (correct : P.GcmCorrect) {role : Role}
    {sent : Sent} (member : sent ∈ self.sent) (opposite : sent.origin ≠ role) {chain : List Payload}
    {datagram : Bytes} (kind : sent.content = .control chain) (same : sent.message = declaredPart datagram) :
    openInformational P (self.sas role) datagram = .ok chain := by
  have made := inv.sentBy sent member
  rw [SentBy, kind] at made
  obtain ⟨proper, small, messageId, isResponse, iv, built⟩ := made
  rw [inv.sas]
  exact openInformational_of_sent correct (paired.facing sent.origin role opposite.symm) proper small built same

theorem ok_of_mapError {α ε : Type} {result : Result α} {f : IkeError → ε} {value : α}
    (done : result.mapError f = .ok value) : result = .ok value := by
  cases result with
  | error error => cases done
  | ok found =>
    cases done
    rfl

theorem open_length {sa : EspSa} {datagram inner : Bytes} {nextHeader : UInt8}
    (opened : sa.open_ P datagram = .ok (inner, nextHeader)) : 8 ≤ datagram.length := by
  unfold EspSa.open_ at opened
  obtain ⟨long, -⟩ := guard_eq_ok opened
  omega

theorem Inv.packets_exact (inv : Inv P first self) (paired : first.Paired) (correct : P.GcmCorrect) (role : Role)
    (datagram : Bytes) (sender : SocketAddr)
    (unforged : Unforged ((machine P).call self (.recv role datagram sender))) (inner : Bytes) (nextHeader : UInt8) :
    (self.tunnels role).recv P (some (datagram, sender)) = .ok (inner, nextHeader) ↔
      ∃ sent ∈ self.sent, sent.origin ≠ role ∧ sent.content = .packet inner nextHeader ∧
        sent.message = datagram := by
  constructor
  · intro accepted
    have known : ∃ sent ∈ self.sent, self.sealedAs sent = espSealed (self.tunnels role).sa.inbound datagram := by
      apply unforged
      have output : ((machine P).call self (.recv role datagram sender)).output = .packet (.ok (inner, nextHeader)) :=
        congrArg WireAnswer.packet accepted
      rw [opened, output]
      exact List.mem_singleton_self _
    obtain ⟨sent, member, same⟩ := known
    obtain ⟨content, number, kind, message, key, salt⟩ := inv.packet_of_sealed member
      (open_length (ok_of_mapError accepted)) same
    have opposite : sent.origin ≠ role := by
      rintro rfl
      apply paired.apart sent.origin
      rw [← inv.inbound, ← key, ← salt, (inv.outbound _).key, (inv.outbound _).salt]
    have again := inv.recv_sent paired correct member opposite kind sender
    rw [message, accepted] at again
    cases again
    exact ⟨sent, member, opposite, kind, message⟩
  · rintro ⟨sent, member, opposite, kind, rfl⟩
    exact inv.recv_sent paired correct member opposite kind sender

theorem Inv.controls_exact (inv : Inv P first self) (paired : first.Paired) (correct : P.GcmCorrect) (role : Role)
    (datagram : Bytes) (unforged : Unforged ((machine P).call self (.inform role datagram)))
    (chain : List Payload) :
    openInformational P (self.sas role) datagram = .ok chain ↔
      ∃ sent ∈ self.sent, sent.origin ≠ role ∧ sent.content = .control chain ∧
        sent.message = declaredPart datagram := by
  constructor
  · intro accepted
    obtain ⟨size, long⟩ := openInformational_eq_ok accepted
    have known : ∃ sent ∈ self.sent,
        self.sealedAs sent = skSealed (peerSkE (self.sas role)) (declaredPart datagram) := by
      apply unforged
      have output : ((machine P).call self (.inform role datagram)).output = .control (.ok chain) :=
        congrArg WireAnswer.control accepted
      rw [opened, output]
      exact List.mem_singleton_self _
    obtain ⟨sent, member, same⟩ := known
    obtain ⟨content, kind, message, sameSkE⟩ := inv.control_of_sealed member size long same
    have opposite : sent.origin ≠ role := by
      rintro rfl
      rw [inv.sas] at sameSkE
      exact paired.skApart sent.origin sameSkE.symm
    have again := inv.inform_sent paired correct member opposite kind message
    rw [accepted] at again
    cases again
    exact ⟨sent, member, opposite, kind, message⟩
  · rintro ⟨sent, member, opposite, kind, same⟩
    exact inv.inform_sent paired correct member opposite kind same

end Accepted

/-- In every run of two ends that completed a handshake, over a network that delivers any bytes
to any of them, as often and in whatever order it likes, an end accepts a packet or a control
message exactly if the other end has sent it, and as what was sent, as long as nothing opens
that was not sealed. -/
theorem accepted_iff_sent (P : Primitives) (correct : P.GcmCorrect) (initSa respSa : CompletedSaInit)
    (matching : Matching initSa respSa) (skDiffer : initSa.keys.skEi ≠ initSa.keys.skEr)
    (differ : Link.KeysDiffer P initSa.keys.skD initSa.ni initSa.nr) (a b : UInt32) (addrs : Role → SocketAddr)
    (actions : List WireAction) (fitting : ∀ action ∈ actions, Fitting action)
    (unforged : ∀ call ∈ (machine P).calls (start P initSa respSa a b addrs) actions, Unforged call) :
    ∀ call ∈ (machine P).calls (start P initSa respSa a b addrs) actions, Exact call := by
  have paired := start_paired matching skDiffer differ a b addrs
  intro call isCall
  obtain ⟨k, found⟩ := List.mem_iff_getElem?.mp isCall
  obtain ⟨action, rfl⟩ := Machine.calls_getElem? found
  have inv : Inv P (start P initSa respSa a b addrs)
      ((machine P).final (start P initSa respSa a b addrs) (actions.take k)) := by
    refine Machine.invariant_of_calls (machine P) _ _ (fun call => Fitting call.input) (Inv.base P rfl)
      (fun state input known inv => inv.step known) ?_
    intro made isMade
    exact fitting made.input (List.mem_of_mem_take (Machine.input_mem isMade))
  have known := unforged _ isCall
  generalize (machine P).final (start P initSa respSa a b addrs) (actions.take k) = self at inv known
  constructor
  · intro role datagram sender isInput inner nextHeader
    change action = _ at isInput
    subst isInput
    have answers : ((machine P).call self (.recv role datagram sender)).output = .packet (.ok (inner, nextHeader)) ↔
        (self.tunnels role).recv P (some (datagram, sender)) = .ok (inner, nextHeader) :=
      ⟨WireAnswer.packet.inj, congrArg WireAnswer.packet⟩
    exact answers.trans (inv.packets_exact paired correct role datagram sender known inner nextHeader)
  · intro role datagram isInput chain
    change action = _ at isInput
    subst isInput
    have answers : ((machine P).call self (.inform role datagram)).output = .control (.ok chain) ↔
        openInformational P (self.sas role) datagram = .ok chain :=
      ⟨WireAnswer.control.inj, congrArg WireAnswer.control⟩
    exact answers.trans (inv.controls_exact paired correct role datagram known chain)

end Wire

namespace Toy

def announcement : Bytes := (buildUpdateSaAddresses toy Ikev2.Toy.initSa 2 (.ofU64 9)).toOption.getD []

def wireStart : Wire := .start toy Ikev2.Toy.initSa Ikev2.Toy.respSa 5 7 linkAddrs

def firstPacket : Bytes :=
  ((wireStart.tunnels .initiator).sa.outbound.seal_ toy [1, 2, 3] 4).1.toOption.getD []

/-- A packet and an announcement are sent. They arrive with bytes added, twice, in each other's
place and at their sender, and so do made-up bytes. -/
def tampered : List WireAction :=
  [.send .initiator [1, 2, 3] 4 true, .control .initiator 2 false [(.notify, updateSaAddresses.toBytes)] (.ofU64 9),
    .recv .responder firstPacket (linkAddrs .initiator), .inform .responder (announcement ++ [6, 6]),
    .inform .responder announcement, .recv .responder announcement (linkAddrs .initiator),
    .inform .responder firstPacket, .inform .initiator announcement, .recv .responder [1, 2] (linkAddrs .responder)]

end Toy

namespace Wire

/-- Three of the deliveries are accepted, and the address change is among them. -/
theorem accepted_iff_sent_tampered :
    (∀ call ∈ (machine toy).calls Toy.wireStart Toy.tampered, Exact call) ∧
      ((machine toy).calls Toy.wireStart Toy.tampered).map (fun call => (opened call).length) =
        [0, 0, 1, 1, 1, 0, 0, 0, 0] ∧
      containsUpdateSaAddresses [(.notify, updateSaAddresses.toBytes)] = true := by
  have differ : Link.KeysDiffer toy Ikev2.Toy.initSa.keys.skD Ikev2.Toy.initSa.ni Ikev2.Toy.initSa.nr := by
    unfold Link.KeysDiffer
    decide +kernel
  have exactly := accepted_iff_sent toy Toy.toy_gcmCorrect Ikev2.Toy.initSa Ikev2.Toy.respSa Ikev2.Toy.matching
    (by decide +kernel) differ 5 7 Toy.linkAddrs Toy.tampered (by decide +kernel) (by decide +kernel)
  exact ⟨exactly, by decide +kernel, by decide⟩

end Wire

end Ryke
