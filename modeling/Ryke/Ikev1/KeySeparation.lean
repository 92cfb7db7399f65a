import Ryke.Ikev1.Quick
import Ryke.Toy

/-! The keys of the two directions of a Quick-Mode CHILD SA. KEYMAT tells them apart by the
SPI of the receiving end and by nothing else, and both counters start at one: where both
ends use one SPI, packets in opposite directions share a key and a nonce. -/

namespace Ryke
open Lib

/-! ## Packets sealed on one SA -/

namespace EspSa

def sealedUnder (P : Primitives) (sa : EspSa) (packets : List (Bytes × UInt8)) : List (Bytes × Bytes) :=
  ((sealer P).calls sa packets).filterMap fun call =>
    if call.output.isOk then some (call.after.key, call.after.nonce call.after.iv) else none

def keyAndSalt (sa : EspSa) : Bytes × Bytes := (sa.key, sa.salt)

theorem keyAndSalt_sealer (P : Primitives) (sa : EspSa) (packet : Bytes × UInt8) :
    (sealer P sa packet).2.keyAndSalt = sa.keyAndSalt := by
  obtain ⟨-, key, salt, -⟩ := sa.seal_spec P packet.1 packet.2
  change (sa.seal_ P packet.1 packet.2).2.keyAndSalt = sa.keyAndSalt
  rw [keyAndSalt, key, salt]
  rfl

theorem keyAndSalt_final (P : Primitives) (sa : EspSa) (packets : List (Bytes × UInt8)) :
    ((sealer P).final sa packets).keyAndSalt = sa.keyAndSalt := by
  refine Machine.invariant (sealer P) sa (fun state => state.keyAndSalt = sa.keyAndSalt) rfl ?_ packets
  intro state packet same
  rw [keyAndSalt_sealer, same]

theorem mem_sealedUnder {P : Primitives} {sa : EspSa} {packets : List (Bytes × UInt8)} {entry : Bytes × Bytes}
    (member : entry ∈ sa.sealedUnder P packets) : ∃ iv, entry = (sa.key, sa.salt ++ iv) := by
  obtain ⟨call, isCall, answered⟩ := List.mem_filterMap.mp member
  obtain ⟨past, packet, isLast⟩ := Machine.mem_calls isCall
  have kept : call.after.keyAndSalt = sa.keyAndSalt := by
    rw [isLast]
    change (sealer P ((sealer P).final sa past) packet).2.keyAndSalt = sa.keyAndSalt
    rw [keyAndSalt_sealer, keyAndSalt_final]
  obtain ⟨key, salt⟩ := Prod.mk.inj kept
  split at answered
  next =>
    rw [nonce, key, salt] at answered
    exact ⟨_, (Option.some.inj answered).symm⟩
  next => cases answered

/-- Two SAs with different keys or salts never seal under one key and nonce. -/
theorem disjoint_sealedUnder {P : Primitives} {one other : EspSa} (apart : one.keyAndSalt ≠ other.keyAndSalt)
    (sent received : List (Bytes × UInt8)) :
    List.Disjoint (one.sealedUnder P sent) (other.sealedUnder P received) := by
  intro entry inOne inOther
  obtain ⟨iv, rfl⟩ := mem_sealedUnder inOne
  obtain ⟨otherIv, same⟩ := mem_sealedUnder inOther
  obtain ⟨key, nonce⟩ := Prod.mk.inj same
  have sizes : one.salt.length = other.salt.length := one.salt_length.trans other.salt_length.symm
  apply apart
  rw [keyAndSalt, keyAndSalt, key, (List.append_inj nonce sizes).1]

end EspSa

/-- The directions of a CHILD SA have different keys or salts, and whatever packets are
sealed in both, none shares its key and nonce with one that goes the other way. -/
structure Separated (P : Primitives) (child : ChildSa) : Prop where
  keys : child.inbound.keyAndSalt ≠ child.outbound.keyAndSalt
  nonces : ∀ received sent, List.Disjoint (child.inbound.sealedUnder P received) (child.outbound.sealedUnder P sent)

theorem separated_iff_keys (P : Primitives) (child : ChildSa) :
    Separated P child ↔ child.inbound.keyAndSalt ≠ child.outbound.keyAndSalt := by
  constructor
  · intro separated
    exact separated.keys
  · intro keys
    exact ⟨keys, EspSa.disjoint_sealedUnder keys⟩

namespace Ikev1
open Crypto

/-! ## What the keys are derived from -/

/-- What KEYMAT is computed from at one end of Quick Mode. -/
structure KeyInputs where
  prf : Prf
  skeyidD : Bytes
  ni : Bytes
  nr : Bytes
  localSpi : UInt32
  peerSpi : UInt32
  deriving DecidableEq

namespace KeyInputs

def child (P : Primitives) (inputs : KeyInputs) : Result ChildSa :=
  deriveChild P inputs.prf inputs.skeyidD inputs.ni inputs.nr inputs.localSpi inputs.peerSpi

def seed (inputs : KeyInputs) (spi : UInt32) : Bytes := [protocol.esp] ++ u32Bytes spi ++ inputs.ni ++ inputs.nr

def mac (P : Primitives) (inputs : KeyInputs) : Bytes → Bytes := inputs.prf.mac P inputs.skeyidD

/-- What the PRF is applied to under SKEYID_d: for each direction the seed, and the seed
behind its first block. -/
def prfInputs (P : Primitives) (inputs : KeyInputs) : List Bytes :=
  [inputs.localSpi, inputs.peerSpi].flatMap fun spi =>
    [inputs.seed spi, inputs.mac P (inputs.seed spi) ++ inputs.seed spi]

/-- The PRF does not collide on distinct inputs that occur. -/
def NoCollision (P : Primitives) (inputs : KeyInputs) : Prop :=
  ∀ x ∈ inputs.prfInputs P, ∀ y ∈ inputs.prfInputs P, inputs.mac P x = inputs.mac P y → x = y

instance (P : Primitives) (inputs : KeyInputs) : Decidable (inputs.NoCollision P) :=
  inferInstanceAs (Decidable (∀ x ∈ _, ∀ y ∈ _, _ = _ → _ = _))

theorem seed_injective (inputs : KeyInputs) {one other : UInt32} (same : inputs.seed one = inputs.seed other) :
    one = other := by
  have spis : [protocol.esp] ++ u32Bytes one = [protocol.esp] ++ u32Bytes other :=
    List.append_cancel_right (List.append_cancel_right same)
  exact u32Bytes_injective (List.append_cancel_left spis)

theorem keymat_eq (P : Primitives) (inputs : KeyInputs) (spi : UInt32) :
    keymat P inputs.prf inputs.skeyidD protocol.esp (u32Bytes spi) inputs.ni inputs.nr espKeymatLen =
      (inputs.mac P (inputs.seed spi) ++
        inputs.mac P (inputs.mac P (inputs.seed spi) ++ inputs.seed spi)).take espKeymatLen := by
  have bounds : inputs.prf.outputLen < espKeymatLen ∧ espKeymatLen ≤ inputs.prf.outputLen + inputs.prf.outputLen := by
    cases inputs.prf <;> decide
  refine feedback_eq_two _ ?_ ?_
  · rw [Prf.mac_length]
    exact bounds.1
  · rw [Prf.mac_length, Prf.mac_length]
    exact bounds.2

theorem take_key (P : Primitives) (inputs : KeyInputs) (spi : UInt32) :
    ((keymat P inputs.prf inputs.skeyidD protocol.esp (u32Bytes spi) inputs.ni inputs.nr espKeymatLen).take 32).take
      inputs.prf.outputLen = inputs.mac P (inputs.seed spi) := by
  have block : (inputs.mac P (inputs.seed spi)).length = inputs.prf.outputLen := Prf.mac_length ..
  have within : min (min inputs.prf.outputLen 32) espKeymatLen = inputs.prf.outputLen := by
    cases inputs.prf <;> rfl
  rw [keymat_eq, List.take_take, List.take_take, within]
  exact List.take_left' block

theorem separated_iff {P : Primitives} {inputs : KeyInputs} (noCollision : inputs.NoCollision P) {child : ChildSa}
    (derived : inputs.child P = .ok child) : Separated P child ↔ inputs.localSpi ≠ inputs.peerSpi := by
  rw [KeyInputs.child, deriveChild_eq] at derived
  rw [separated_iff_keys, ← Except.ok.inj derived, not_iff_not]
  constructor
  · intro shared
    have keys := congrArg (List.take inputs.prf.outputLen) (Prod.mk.inj shared).1
    have blocks : inputs.mac P (inputs.seed inputs.localSpi) = inputs.mac P (inputs.seed inputs.peerSpi) := by
      rw [← take_key, ← take_key]
      exact keys
    exact inputs.seed_injective (noCollision _ (by simp [prfInputs]) _ (by simp [prfInputs]) blocks)
  · intro spis
    unfold EspSa.keyAndSalt EspSa.ofMaterial
    rw [spis]

end KeyInputs

/-! ## Both ends -/

def QuickInitiator.keyInputs (P : Primitives) (qi : QuickInitiator) (msg2 : Bytes) : Result KeyInputs := do
  let (_, ps, _) ← decryptPayloads P msg2 qi.encKey qi.iv1
  let nonceP ← okOr (find ps payload.nonce) (.missingPayload "NONCE")
  let peerSpi ← peerEspSpi ps
  .ok ⟨qi.prf, qi.skeyidD, qi.ni, nonceP.data, qi.localSpi, peerSpi⟩

def QuickResponder.keyInputs (qr : QuickResponder) : KeyInputs :=
  ⟨qr.prf, qr.skeyidD, qr.ni, qr.nr, qr.localSpi, qr.peerSpi⟩

theorem QuickInitiator.complete_derives {P : Primitives} {qi : QuickInitiator} {msg2 msg3 : Bytes} {child : ChildSa}
    (completed : qi.complete P msg2 = .ok (msg3, child)) :
    ∃ inputs, qi.keyInputs P msg2 = .ok inputs ∧ inputs.localSpi = qi.localSpi ∧ inputs.child P = .ok child := by
  obtain ⟨header, ps, iv2, nonceP, peerSpi, decrypted, nonceFound, spiRead, -, derived⟩ := complete_eq_ok completed
  refine ⟨⟨qi.prf, qi.skeyidD, qi.ni, nonceP.data, qi.localSpi, peerSpi⟩, ?_, rfl, derived⟩
  rw [keyInputs, decrypted, ok_bind]
  dsimp only
  rw [nonceFound, okOr_some, ok_bind, spiRead, ok_bind]

/-- At either end the directions of a CHILD SA are kept apart exactly when the peer's SPI,
read in its message, is not the end's own. -/
theorem complete_separated_iff (P : Primitives) :
    (∀ (qi : QuickInitiator) (msg2 msg3 : Bytes) (child : ChildSa), qi.complete P msg2 = .ok (msg3, child) →
      ∃ inputs, qi.keyInputs P msg2 = .ok inputs ∧
        (inputs.NoCollision P → (Separated P child ↔ qi.localSpi ≠ inputs.peerSpi))) ∧
    ∀ (qr : QuickResponder) (msg3 : Bytes) (child : ChildSa), qr.complete P msg3 = .ok child →
      qr.keyInputs.NoCollision P → (Separated P child ↔ qr.localSpi ≠ qr.peerSpi) := by
  constructor
  · intro qi msg2 msg3 child completed
    obtain ⟨inputs, reads, own, derived⟩ := QuickInitiator.complete_derives completed
    refine ⟨inputs, reads, fun noCollision => ?_⟩
    rw [← own]
    exact KeyInputs.separated_iff noCollision derived
  · intro qr msg3 child completed noCollision
    exact KeyInputs.separated_iff noCollision (QuickResponder.complete_eq_ok completed)

namespace Toy
open Ryke.Toy

def phase1 : Phase1State :=
  derivePhase1 toyMac .sha256 .modp1024 [112] (List.replicate 8 1) (List.replicate 8 2) [3] [4] [5] (lastByte 6)
    (lastByte 7) [8] [9] 32

def opening (count : UInt8) : Result (Bytes × QuickInitiator) :=
  (initiateQuick toyMac phase1 (⟨count⟩ : Counter) ([10, 0, 0, 0], [255, 0, 0, 0]) ([10, 0, 0, 0], [255, 0, 0, 0])).1

def answered (count peerCount : UInt8) : Result (QuickInitiator × Bytes × QuickResponder) := do
  let (msg1, qi) ← opening count
  let (msg2, qr) ← (respondQuick toyMac phase1 msg1 (⟨peerCount⟩ : Counter)).1
  .ok (qi, msg2, qr)

def packet : Bytes × UInt8 := ([69, 0, 0, 20], 4)

end Toy

open Ryke.Toy

/-- Two ends that drew different SPIs. -/
theorem complete_separated_drawn_apart : ∃ qi msg2 qr msg3 childI childR, Toy.answered 20 13 = .ok (qi, msg2, qr) ∧
    qi.complete toyMac msg2 = .ok (msg3, childI) ∧ qr.complete toyMac msg3 = .ok childR ∧
    Separated toyMac childI ∧ Separated toyMac childR := by
  have run : (Toy.answered 20 13).toOption.any (fun sent =>
      (sent.1.complete toyMac sent.2.1).toOption.any fun done =>
        (sent.2.2.complete toyMac done.1).toOption.any fun _ =>
          ((sent.1.keyInputs toyMac sent.2.1).toOption.any fun inputs =>
            decide (inputs.NoCollision toyMac ∧ sent.1.localSpi ≠ inputs.peerSpi)) &&
            decide (sent.2.2.keyInputs.NoCollision toyMac ∧ sent.2.2.localSpi ≠ sent.2.2.peerSpi)) = true := by
    decide +kernel
  obtain ⟨⟨qi, msg2, qr⟩, answered, run⟩ := exists_of_any run
  obtain ⟨⟨msg3, childI⟩, completed, run⟩ := exists_of_any run
  obtain ⟨childR, accepted, run⟩ := exists_of_any run
  obtain ⟨initiator, responder⟩ := Bool.and_eq_true_iff.mp run
  obtain ⟨inputs, reads, checked⟩ := exists_of_any initiator
  obtain ⟨noCollision, apart⟩ := of_decide_eq_true checked
  obtain ⟨noCollisionR, apartR⟩ := of_decide_eq_true responder
  refine ⟨qi, msg2, qr, msg3, childI, childR, answered, completed, accepted, ?_, ?_⟩
  · obtain ⟨known, readsSame, criterion⟩ := (complete_separated_iff toyMac).1 qi msg2 msg3 childI completed
    have same : inputs = known := Except.ok.inj (reads.symm.trans readsSame)
    subst same
    exact (criterion noCollision).mpr apart
  · exact ((complete_separated_iff toyMac).2 qr msg3 childR accepted noCollisionR).mpr apartR

/-- Two ends that drew the same SPI: no input of the PRF collides, and the first packets in
the two directions are sealed under one key and nonce. -/
theorem complete_not_separated_drawn_alike : ∃ qi msg2 qr msg3 child inputs,
    Toy.answered 13 13 = .ok (qi, msg2, qr) ∧ qi.complete toyMac msg2 = .ok (msg3, child) ∧
    qi.keyInputs toyMac msg2 = .ok inputs ∧ inputs.NoCollision toyMac ∧ ¬ Separated toyMac child ∧
    child.inbound.sealedUnder toyMac [Toy.packet] = child.outbound.sealedUnder toyMac [Toy.packet] ∧
    child.outbound.sealedUnder toyMac [Toy.packet] ≠ [] := by
  have run : (Toy.answered 13 13).toOption.any (fun sent =>
      (sent.1.complete toyMac sent.2.1).toOption.any fun done =>
        (sent.1.keyInputs toyMac sent.2.1).toOption.any fun inputs =>
          decide (inputs.NoCollision toyMac ∧ done.2.inbound.keyAndSalt = done.2.outbound.keyAndSalt ∧
            done.2.inbound.sealedUnder toyMac [Toy.packet] = done.2.outbound.sealedUnder toyMac [Toy.packet] ∧
            done.2.outbound.sealedUnder toyMac [Toy.packet] ≠ [])) = true := by
    decide +kernel
  obtain ⟨⟨qi, msg2, qr⟩, answered, run⟩ := exists_of_any run
  obtain ⟨⟨msg3, child⟩, completed, run⟩ := exists_of_any run
  obtain ⟨inputs, reads, run⟩ := exists_of_any run
  obtain ⟨noCollision, sameKeys, sameNonces, sealed⟩ := of_decide_eq_true run
  refine ⟨qi, msg2, qr, msg3, child, inputs, answered, completed, reads, noCollision, ?_, sameNonces, sealed⟩
  intro separated
  exact separated.keys sameKeys

end Ikev1

end Ryke
