import Ryke.Ikev2.EapAuth

/-! The INFORMATIONAL exchange: encrypted control messages, or an empty one that probes
the peer. Each end seals under its own direction's key, so what one end built opens at
the other and not at itself. -/

namespace Ryke.Ikev2
open Lib

def informationalHeader (sa : CompletedSaInit) (messageId : UInt32) (isResponse : Bool) : IkeHeader where
  initiatorSpi := sa.spiI
  responderSpi := sa.spiR
  nextPayload := .noNext
  majorVersion := 2
  minorVersion := 0
  exchangeType := .informational
  flags := ⟨sa.role == .initiator, false, isResponse⟩
  messageId := messageId
  length := 0

def buildInformational (P : Primitives) (sa : CompletedSaInit) (messageId : UInt32) (isResponse : Bool)
    (innerPayloads : List Payload) (iv : Iv) : Result Bytes :=
  buildEncryptedGcm P (informationalHeader sa messageId isResponse) (firstPayloadType innerPayloads)
    (encodePayloadChain innerPayloads) (ourSkE sa) iv

/-- A liveness probe: an empty request. -/
def dpdRequest (P : Primitives) (sa : CompletedSaInit) (messageId : UInt32) (iv : Iv) : Result Bytes :=
  buildInformational P sa messageId false [] iv

def openInformational (P : Primitives) (sa : CompletedSaInit) (message : Bytes) : Result (List Payload) := do
  let (first, inner) ← openEncryptedGcm P message (peerSkE sa)
  forPayloads (payloads first inner) [] fun out payload => .ok (out ++ [(payload.payloadType, payload.data)])

/-- The two ends of an IKE SA: the same AES-GCM keys and SPIs, and opposite roles. -/
structure Facing (sa peer : CompletedSaInit) : Prop where
  skEi : peer.keys.skEi = sa.keys.skEi
  skEr : peer.keys.skEr = sa.keys.skEr
  sizeEi : sa.keys.skEi.length = 36
  sizeEr : sa.keys.skEr.length = 36
  spiI : peer.spiI = sa.spiI
  spiR : peer.spiR = sa.spiR
  roles : peer.role ≠ sa.role

namespace Facing

variable {sa peer : CompletedSaInit}

theorem symm (facing : Facing sa peer) : Facing peer sa :=
  ⟨facing.skEi.symm, facing.skEr.symm, facing.skEi ▸ facing.sizeEi, facing.skEr ▸ facing.sizeEr, facing.spiI.symm,
    facing.spiR.symm, facing.roles.symm⟩

theorem peerSkE_eq (facing : Facing sa peer) : peerSkE peer = ourSkE sa := by
  have roles := facing.roles
  unfold peerSkE ourSkE
  cases mine : sa.role <;> cases theirs : peer.role <;> rw [mine, theirs] at roles
  · exact absurd rfl roles
  · exact facing.skEi
  · exact facing.skEr
  · exact absurd rfl roles

theorem ourSkE_length (facing : Facing sa peer) : (ourSkE sa).length = 36 := by
  unfold ourSkE
  cases sa.role with
  | initiator => exact facing.sizeEi
  | responder => exact facing.sizeEr

theorem peerSkE_length (facing : Facing sa peer) : (peerSkE sa).length = 36 := by
  unfold peerSkE
  cases sa.role with
  | initiator => exact facing.sizeEr
  | responder => exact facing.sizeEi

end Facing

theorem peerSkE_ne_ourSkE {sa : CompletedSaInit} (differ : sa.keys.skEi ≠ sa.keys.skEr) : peerSkE sa ≠ ourSkE sa := by
  unfold peerSkE ourSkE
  cases sa.role with
  | initiator => exact differ.symm
  | responder => exact differ

theorem PayloadType.fromU8_toU8_fromU8 (byte : UInt8) : fromU8 (fromU8 byte).toU8 = fromU8 byte := by
  have every : ∀ i : Fin 256, fromU8 (fromU8 (UInt8.ofNat i.val)).toU8 = fromU8 (UInt8.ofNat i.val) := by
    decide +kernel
  simpa using every ⟨byte.toNat, byte.toNat_lt⟩

theorem openInformational_built {P : Primitives} (correct : P.GcmCorrect) {sa peer : CompletedSaInit}
    (facing : Facing sa peer) {messageId : UInt32} {isResponse : Bool} {chain : List Payload} {iv : Iv} {message : Bytes}
    (proper : ∀ payload ∈ chain, payload.1.Proper) (small : skPayloadLen (encodePayloadChain chain) < 65536)
    (built : buildInformational P sa messageId isResponse chain iv = .ok message) :
    openInformational P peer message = .ok chain := by
  have fits := fits_of_small (List.forall_mem_map.mpr proper) small
  rw [openInformational, facing.peerSkE_eq, openEncryptedGcm_built correct small built, ok_bind,
    fromU8_firstPayloadType fits]
  exact forPayloads_collect fits

/-- What an end built opens at its peer to the same list, and at itself not at all. -/
theorem informational_roundtrip (P : Primitives) (correct : P.GcmCorrect) (sa peer : CompletedSaInit)
    (facing : Facing sa peer) (messageId : UInt32) (isResponse : Bool) (chain : List Payload) (iv : Iv)
    (ideal : ∀ message, buildInformational P sa messageId isResponse chain iv = .ok message →
      P.GcmIdeal [sealedText message])
    (canonical : ∀ payload ∈ chain, (∃ byte, payload.1 = .fromU8 byte) ∧ payload.1 ≠ .noNext)
    (small : skPayloadLen (encodePayloadChain chain) < 65536)
    (encrypts : (P.gcmEncrypt ((ourSkE sa).take 32) ((ourSkE sa).drop 32 ++ iv.bytes)
      (skAad (informationalHeader sa messageId isResponse) (firstPayloadType chain) (encodePayloadChain chain))
      (encodePayloadChain chain ++ [0])).isSome = true) :
    ∃ message, buildInformational P sa messageId isResponse chain iv = .ok message ∧
      openInformational P peer message = .ok chain ∧
      (sa.keys.skEi ≠ sa.keys.skEr → openInformational P sa message = .error .badIntegrity) := by
  obtain ⟨sealed, encrypted⟩ := Option.isSome_iff_exists.mp encrypts
  have proper : ∀ payload ∈ chain, payload.1.Proper := by
    intro payload isPayload
    obtain ⟨⟨byte, isImage⟩, more⟩ := canonical payload isPayload
    refine ⟨?_, more⟩
    rw [isImage, PayloadType.fromU8_toU8_fromU8]
  have sealing := gcmSeal_of_encrypt facing.ourSkE_length encrypted
  have built : buildInformational P sa messageId isResponse chain iv =
      .ok (skAad (informationalHeader sa messageId isResponse) (firstPayloadType chain) (encodePayloadChain chain) ++
        (iv.bytes ++ sealed)) := by
    rw [buildInformational, buildEncryptedGcm, sealing]
    rfl
  refine ⟨_, built, openInformational_built correct facing proper small built, ?_⟩
  intro differ
  rw [openInformational, openEncryptedGcm_other_key (ideal _ built) small built facing.peerSkE_length
    (peerSkE_ne_ourSkE differ)]
  rfl

namespace Toy

def control : List Payload := [(.delete, [3, 4, 0, 1, 0, 0, 0, 5]), (.notify, [])]

theorem facing : Facing initSa respSa := by
  refine ⟨?_, ?_, ?_, ?_, ?_, ?_, ?_⟩ <;> decide +kernel

end Toy

theorem informational_roundtrip_control :
    ∃ message, buildInformational toy Toy.initSa 2 false Toy.control (.ofU64 9) = .ok message ∧
      openInformational toy Toy.respSa message = .ok Toy.control ∧
      openInformational toy Toy.initSa message = .error .badIntegrity := by
  obtain ⟨message, built, opened, reflected⟩ := informational_roundtrip toy Ryke.Toy.toy_gcmCorrect Toy.initSa
    Toy.respSa Toy.facing 2 false Toy.control (.ofU64 9) (fun _ _ => Ryke.Toy.toy_gcmIdeal _)
    (by
      intro payload member
      rw [Toy.control, List.mem_cons, List.mem_singleton] at member
      rcases member with rfl | rfl
      · exact ⟨⟨42, rfl⟩, nofun⟩
      · exact ⟨⟨41, rfl⟩, nofun⟩)
    (by decide) (by decide +kernel)
  exact ⟨message, built, opened, reflected (by decide +kernel)⟩

end Ryke.Ikev2
