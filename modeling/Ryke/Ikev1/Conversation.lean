import Ryke.Ikev1.Crypto1
import Ryke.Lib.Thread
import Ryke.Toy

/-! Whole conversations of encrypted messages. Each end hands its IV on from message to
message, and both keep the same one for as long as the sender can encrypt at all. -/

namespace Ryke.Ikev1
open Lib

structure Outgoing where
  header : IsakmpHeader
  payloads : List (UInt8 × Bytes)

namespace Outgoing

/-- Cookies of their size, payloads of a kind and a size that the chain can carry, and no other HASH. -/
structure Fits (message : Outgoing) : Prop where
  initCookie : message.header.initCookie.length = 8
  respCookie : message.header.respCookie.length = 8
  payloads : ∀ item ∈ message.payloads, item.1 ≠ payload.none ∧ item.1 ≠ payload.hash ∧ 4 + item.2.length < 65536

def hash (P : Primitives) (prf : Prf) (skeyidA : Bytes) (message : Outgoing) : Bytes :=
  prf.mac P skeyidA (u32Bytes message.header.messageId ++ (encodePayloads message.payloads).2)

def delivered (P : Primitives) (prf : Prf) (skeyidA : Bytes) (message : Outgoing) : List Payload :=
  ⟨payload.hash, message.hash P prf skeyidA⟩ :: message.payloads.map readBack

end Outgoing

def sendNext (P : Primitives) (prf : Prf) (skeyidA encKey iv : Bytes) (message : Outgoing) : Result (Bytes × Bytes) :=
  buildEncrypted P message.header prf skeyidA encKey iv message.payloads

def receiveNext (P : Primitives) (prf : Prf) (skeyidA encKey iv data : Bytes) : Result (List Payload × Bytes) := do
  let (_, payloads, next) ← parseEncrypted P data prf skeyidA encKey iv
  .ok (payloads, next)

/-! ## One message -/

theorem aes256CbcEncrypt_sizes {P : Primitives} {key iv plaintext ct : Bytes}
    (done : aes256CbcEncrypt P key iv plaintext = .ok ct) : key.length = 32 ∧ iv.length = aesBlock := by
  obtain ⟨-, done⟩ := guard_eq_ok done
  obtain ⟨sizes, -⟩ := guard_eq_ok done
  rw [not_or, not_not, not_not] at sizes
  exact sizes

theorem sendNext_sizes {P : Primitives} {prf : Prf} {skeyidA encKey iv data next : Bytes} {message : Outgoing}
    (sent : sendNext P prf skeyidA encKey iv message = .ok (data, next)) :
    encKey.length = 32 ∧ iv.length = aesBlock := by
  obtain ⟨ct, encrypted, -⟩ := bind_eq_ok sent
  exact aes256CbcEncrypt_sizes encrypted

theorem sendNext_eq (P : Primitives) (prf : Prf) (skeyidA encKey iv : Bytes) (message : Outgoing) :
    sendNext P prf skeyidA encKey iv message =
      encryptPayloads P message.header encKey iv ((payload.hash, message.hash P prf skeyidA) :: message.payloads) := by
  rw [sendNext, buildEncrypted, buildEncryptedPrefixed, Outgoing.hash, List.append_nil]

theorem receiveNext_of_hash {P : Primitives} {prf : Prf} {skeyidA encKey iv data hash next : Bytes}
    {header : IsakmpHeader} {payloads : List Payload}
    (decrypted : decryptPayloads P data encKey iv = .ok (header, payloads, next))
    (found : find payloads payload.hash = some ⟨payload.hash, hash⟩)
    (right : hash = prf.mac P skeyidA (u32Bytes header.messageId ++ afterHash payloads)) :
    receiveNext P prf skeyidA encKey iv data = .ok (payloads, next) := by
  rw [receiveNext, parseEncrypted, decrypted, ok_bind]
  dsimp only
  rw [found, okOr_some, ok_bind, if_neg (not_not.mpr right), ok_bind]

theorem Outgoing.Fits.chain {message : Outgoing} (fits : message.Fits) (P : Primitives) (prf : Prf) (skeyidA : Bytes) :
    ∀ item ∈ (payload.hash, message.hash P prf skeyidA) :: message.payloads, Ikev1.Fits item := by
  intro item member
  rcases List.mem_cons.mp member with rfl | inRest
  · have size : (message.hash P prf skeyidA).length ≤ 32 := by
      rw [Outgoing.hash, prf.mac_length]
      cases prf <;> decide
    exact Ikev1.Fits.of (by decide) (by omega)
  · obtain ⟨real, -, small⟩ := fits.payloads item inRest
    exact Ikev1.Fits.of real small

section
variable {P : Primitives} (correct : P.CbcCorrect) (prf : Prf) (skeyidA : Bytes) {encKey iv : Bytes}
  {message : Outgoing} (fits : message.Fits) (keySize : encKey.length = 32) (ivSize : iv.length = aesBlock)

include correct fits keySize ivSize in
theorem exists_sendNext :
    ∃ data next, sendNext P prf skeyidA encKey iv message = .ok (data, next) ∧ next.length = aesBlock ∧
      receiveNext P prf skeyidA encKey iv data = .ok (message.delivered P prf skeyidA, next) := by
  obtain ⟨data, next, length, encrypted, nextSize, -, decrypted⟩ := exists_encryptPayloads correct fits.initCookie
    fits.respCookie keySize ivSize (List.cons_ne_nil _ _) (fits.chain P prf skeyidA)
  have others : ∀ item ∈ message.payloads, item.1 ≠ payload.hash := fun item member => (fits.payloads item member).2.1
  refine ⟨data, next, ?_, nextSize, ?_⟩
  · rw [sendNext_eq]
    exact encrypted
  · apply receiveNext_of_hash decrypted rfl
    rw [afterHash_readBack others]
    rfl

end

/-- Whatever is sent in an IV is read in it, and leaves the same IV behind. -/
theorem receiveNext_sendNext {P : Primitives} (correct : P.CbcCorrect) {prf : Prf} {skeyidA encKey iv data next : Bytes}
    {message : Outgoing} (fits : message.Fits) (sent : sendNext P prf skeyidA encKey iv message = .ok (data, next)) :
    receiveNext P prf skeyidA encKey iv data = .ok (message.delivered P prf skeyidA, next) := by
  obtain ⟨keySize, ivSize⟩ := sendNext_sizes sent
  obtain ⟨data', next', sent', -, read⟩ := exists_sendNext correct prf skeyidA fits keySize ivSize
  cases sent.symm.trans sent'
  exact read

/-! ## Whole conversations -/

/-- Both ends of a conversation hold the same IV after every message, and every message
is read as the HASH and the payloads it was sent with. -/
theorem conversation_inStep (P : Primitives) (correct : P.CbcCorrect) (prf : Prf) (skeyidA encKey iv : Bytes)
    (messages : List Outgoing) (fits : ∀ message ∈ messages, message.Fits) :
    (∀ sent, thread (sendNext P prf skeyidA encKey) iv messages = .ok sent →
      ∃ received, thread (receiveNext P prf skeyidA encKey) iv (sent.map Prod.fst) = .ok received ∧
        received.map Prod.fst = messages.map (Outgoing.delivered P prf skeyidA) ∧
        received.map Prod.snd = sent.map Prod.snd) ∧
    (encKey.length = 32 → iv.length = aesBlock →
      ∃ sent, thread (sendNext P prf skeyidA encKey) iv messages = .ok sent) := by
  constructor
  · intro sent done
    apply thread_inStep Outgoing.Fits _ _ fits done
    intro state message data next good sends
    exact receiveNext_sendNext correct good sends
  · intro keySize ivSize
    apply exists_thread (fun iv => iv.length = aesBlock) Outgoing.Fits _ ivSize fits
    intro state message size good
    obtain ⟨data, next, sends, nextSize, -⟩ := exists_sendNext correct prf skeyidA good keySize size
    exact ⟨data, next, sends, nextSize⟩

namespace Toy

def twoMessages : List Outgoing :=
  let header : IsakmpHeader := ⟨List.replicate 8 1, List.replicate 8 2, 0, IsakmpHeader.version10, exchange.quick, 0, 7, 0⟩
  [⟨header, [(payload.nonce, [1, 2, 3])]⟩, ⟨header, [(payload.id, []), (payload.ke, [4])]⟩]

theorem twoMessages_fit : ∀ message ∈ twoMessages, message.Fits := by
  intro message member
  rcases List.mem_cons.mp member with rfl | member
  · exact ⟨rfl, rfl, by decide⟩
  · rw [List.mem_singleton.mp member]
    exact ⟨rfl, rfl, by decide⟩

end Toy

theorem conversation_inStep_twice :
    ∃ sent received,
      thread (sendNext toy .sha256 [1] (List.replicate 32 0)) (List.replicate 16 0) Toy.twoMessages = .ok sent ∧
      thread (receiveNext toy .sha256 [1] (List.replicate 32 0)) (List.replicate 16 0) (sent.map Prod.fst) =
        .ok received ∧
      received.map Prod.fst = Toy.twoMessages.map (Outgoing.delivered toy .sha256 [1]) ∧
      received.map Prod.snd = sent.map Prod.snd := by
  obtain ⟨inStep, succeeds⟩ := conversation_inStep toy Ryke.Toy.toy_cbcCorrect .sha256 [1] (List.replicate 32 0)
    (List.replicate 16 0) Toy.twoMessages Toy.twoMessages_fit
  obtain ⟨sent, sends⟩ := succeeds rfl rfl
  obtain ⟨received, receives, values, ivs⟩ := inStep sent sends
  exact ⟨sent, received, sends, receives, values, ivs⟩

end Ryke.Ikev1
