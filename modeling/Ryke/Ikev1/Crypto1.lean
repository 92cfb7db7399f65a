import Ryke.Crypto
import Ryke.Ikev1.Isakmp

/-! The key schedule of IKEv1 and the encrypted messages built on it: a keyed PRF with
explicit counters, and AES-CBC whose IV is chained from message to message. -/

namespace Ryke.Ikev1
open Lib Crypto

def aesBlock : Nat := 16

inductive Prf where
  | sha1
  | sha256
  deriving DecidableEq, Inhabited, Repr

namespace Prf

def outputLen : Prf → Nat
  | sha1 => 20
  | sha256 => 32

def mac (P : Primitives) (prf : Prf) (key data : Bytes) : Bytes :=
  match prf with
  | sha1 => P.hmacSha1 key data
  | sha256 => P.hmacSha256 key data

def hash (P : Primitives) (prf : Prf) (data : Bytes) : Bytes :=
  match prf with
  | sha1 => P.sha1 data
  | sha256 => P.sha256 data

theorem mac_length (P : Primitives) (prf : Prf) (key data : Bytes) :
    (prf.mac P key data).length = prf.outputLen := by
  cases prf with
  | sha1 => exact P.hmacSha1_length key data
  | sha256 => exact P.hmacSha256_length key data

theorem hash_length (P : Primitives) (prf : Prf) (data : Bytes) :
    (prf.hash P data).length = prf.outputLen := by
  cases prf with
  | sha1 => exact P.sha1_length data
  | sha256 => exact P.sha256_length data

theorem aesBlock_le_outputLen (prf : Prf) : aesBlock ≤ prf.outputLen := by
  cases prf <;> decide

end Prf

def skeyidPsk (P : Primitives) (prf : Prf) (psk ni nr : Bytes) : Bytes := prf.mac P psk (ni ++ nr)

def skeyidD (P : Primitives) (prf : Prf) (skeyid gxy : Bytes) (ckyI ckyR : Cookie) : Bytes :=
  prf.mac P skeyid (gxy ++ ckyI ++ ckyR ++ [0])

def skeyidA (P : Primitives) (prf : Prf) (skeyid skeyidD gxy : Bytes) (ckyI ckyR : Cookie) : Bytes :=
  prf.mac P skeyid (skeyidD ++ gxy ++ ckyI ++ ckyR ++ [1])

def skeyidE (P : Primitives) (prf : Prf) (skeyid skeyidA gxy : Bytes) (ckyI ckyR : Cookie) : Bytes :=
  prf.mac P skeyid (skeyidA ++ gxy ++ ckyI ++ ckyR ++ [2])

def hashI (P : Primitives) (prf : Prf) (skeyid gxI gxR : Bytes) (ckyI ckyR : Cookie) (saB idB : Bytes) : Bytes :=
  prf.mac P skeyid (gxI ++ gxR ++ ckyI ++ ckyR ++ saB ++ idB)

def hashR (P : Primitives) (prf : Prf) (skeyid gxR gxI : Bytes) (ckyR ckyI : Cookie) (saB idB : Bytes) : Bytes :=
  prf.mac P skeyid (gxR ++ gxI ++ ckyR ++ ckyI ++ saB ++ idB)

/-! ## Expansion by feedback -/

/-- `while out.len() < len`: append the block that `next` makes of the previous one. -/
def feedbackLoop (next : Bytes → Bytes) (len : Nat) : Nat → Bytes → Bytes → Bytes
  | 0, out, _ => out
  | fuel + 1, out, prev =>
      if out.length < len then feedbackLoop next len fuel (out ++ next prev) (next prev) else out

/-- The first block and those fed back from it, cut to `len` bytes. No block is empty,
so `len` rounds are enough. -/
def feedback (next : Bytes → Bytes) (first : Bytes) (len : Nat) : Bytes :=
  (feedbackLoop next len len first first).take len

theorem feedbackLoop_length (next : Bytes → Bytes) (grows : ∀ prev, 0 < (next prev).length) (len fuel : Nat)
    (out prev : Bytes) (enough : len ≤ out.length + fuel) :
    len ≤ (feedbackLoop next len fuel out prev).length := by
  induction fuel generalizing out prev with
  | zero => exact enough
  | succ fuel ih =>
    rw [feedbackLoop]
    split
    next short =>
      apply ih
      have block := grows prev
      rw [List.length_append]
      omega
    next full => exact Nat.le_of_not_lt full

theorem feedback_length (next : Bytes → Bytes) (grows : ∀ prev, 0 < (next prev).length) (first : Bytes)
    (len : Nat) : (feedback next first len).length = len := by
  have long := feedbackLoop_length next grows len len first first (Nat.le_add_left len _)
  rw [feedback, List.length_take]
  omega

theorem feedback_eq_two (next : Bytes → Bytes) {first : Bytes} {len : Nat} (short : first.length < len)
    (enough : len ≤ first.length + (next first).length) :
    feedback next first len = (first ++ next first).take len := by
  have full : ¬ (first ++ next first).length < len := by
    rw [List.length_append]
    omega
  cases len with
  | zero => cases short
  | succ len =>
    have round : feedbackLoop next (len + 1) (len + 1) first first =
        feedbackLoop next (len + 1) len (first ++ next first) (next first) := if_pos short
    rw [feedback, round]
    cases len with
    | zero => rfl
    | succ len => exact congrArg (List.take (len + 1 + 1)) (if_neg full)

theorem Prf.mac_pos (P : Primitives) (prf : Prf) (key data : Bytes) : 0 < (prf.mac P key data).length := by
  rw [mac_length]
  exact Nat.lt_of_lt_of_le (by decide) prf.aesBlock_le_outputLen

def deriveCipherKey (P : Primitives) (prf : Prf) (skeyidE : Bytes) (keyLen : Nat) : Bytes :=
  if skeyidE.length ≥ keyLen then skeyidE.take keyLen
  else feedback (prf.mac P skeyidE) (prf.mac P skeyidE [0]) keyLen

theorem deriveCipherKey_length (P : Primitives) (prf : Prf) (skeyidE : Bytes) (keyLen : Nat) :
    (deriveCipherKey P prf skeyidE keyLen).length = keyLen := by
  unfold deriveCipherKey
  split
  next long => rw [List.length_take]; omega
  next => exact feedback_length _ (fun prev => prf.mac_pos P skeyidE prev) _ _

def keymat (P : Primitives) (prf : Prf) (skeyidD : Bytes) (protocol : UInt8) (spi ni nr : Bytes) (outLen : Nat) :
    Bytes :=
  let seed := [protocol] ++ spi ++ ni ++ nr
  feedback (fun prev => prf.mac P skeyidD (prev ++ seed)) (prf.mac P skeyidD seed) outLen

theorem keymat_length (P : Primitives) (prf : Prf) (skeyidD : Bytes) (protocol : UInt8) (spi ni nr : Bytes)
    (outLen : Nat) : (keymat P prf skeyidD protocol spi ni nr outLen).length = outLen :=
  feedback_length _ (fun _ => prf.mac_pos P skeyidD _) _ _

/-! ## AES-CBC -/

def phase1Iv (P : Primitives) (prf : Prf) (gxI gxR : Bytes) (block : Nat) : Bytes :=
  (prf.hash P (gxI ++ gxR)).take block

def phase2Iv (P : Primitives) (prf : Prf) (phase1Iv : Bytes) (messageId : UInt32) (block : Nat) : Bytes :=
  (prf.hash P (phase1Iv ++ u32Bytes messageId)).take block

def padToBlock (data : Bytes) (block : Nat) : Bytes :=
  let rem := data.length % block
  if rem ≠ 0 then data ++ List.replicate (block - rem) 0 else data

def aes256CbcEncrypt (P : Primitives) (key iv plaintext : Bytes) : Result Bytes :=
  if plaintext.length % aesBlock ≠ 0 then .error (.crypto "CBC plaintext not block-aligned")
  else if key.length ≠ 32 ∨ iv.length ≠ aesBlock then .error (.crypto "bad AES-CBC key/iv")
  else .ok (P.cbcEncrypt key iv plaintext)

def aes256CbcDecrypt (P : Primitives) (key iv ciphertext : Bytes) : Result Bytes :=
  if ciphertext.isEmpty ∨ ciphertext.length % aesBlock ≠ 0 then .error (.crypto "CBC ciphertext not block-aligned")
  else if key.length ≠ 32 ∨ iv.length ≠ aesBlock then .error (.crypto "bad AES-CBC key/iv")
  else .ok (P.cbcDecrypt key iv ciphertext)

def nextIv (ciphertext : Bytes) (block : Nat) : Bytes := ciphertext.drop (ciphertext.length - block)

/-! ## Encrypted messages -/

def encryptPayloads (P : Primitives) (header : IsakmpHeader) (encKey iv : Bytes)
    (payloads : List (UInt8 × Bytes)) : Result (Bytes × Bytes) := do
  let (first, plaintext) := encodePayloads payloads
  let ct ← aes256CbcEncrypt P encKey iv (padToBlock plaintext aesBlock)
  let header := {
    header with
    nextPayload := first
    flags := header.flags ||| flags.encryption
    length := UInt32.ofNat (IsakmpHeader.len + ct.length) }
  .ok (header.toBytes ++ ct, nextIv ct aesBlock)

/-- The HASH payload covers the message ID, a prefix and the payloads after it. -/
def buildEncryptedPrefixed (P : Primitives) (header : IsakmpHeader) (prf : Prf) (skeyidA encKey iv hashPrefix : Bytes)
    (payloadsAfterHash : List (UInt8 × Bytes)) : Result (Bytes × Bytes) :=
  let covered := u32Bytes header.messageId ++ hashPrefix ++ (encodePayloads payloadsAfterHash).2
  encryptPayloads P header encKey iv ((payload.hash, prf.mac P skeyidA covered) :: payloadsAfterHash)

def buildEncrypted (P : Primitives) (header : IsakmpHeader) (prf : Prf) (skeyidA encKey iv : Bytes)
    (payloadsAfterHash : List (UInt8 × Bytes)) : Result (Bytes × Bytes) :=
  buildEncryptedPrefixed P header prf skeyidA encKey iv [] payloadsAfterHash

/-- Header, payloads and next IV of a message whose HASH is left to the caller. -/
def decryptPayloads (P : Primitives) (data encKey iv : Bytes) : Result (IsakmpHeader × List Payload × Bytes) := do
  let header ← IsakmpHeader.parse data
  let ct := data.drop IsakmpHeader.len
  let plaintext ← aes256CbcDecrypt P encKey iv ct
  let payloads ← parsePayloads header.nextPayload plaintext
  .ok (header, payloads, nextIv ct aesBlock)

def find (payloads : List Payload) (payloadType : UInt8) : Option Payload :=
  payloads.find? fun p => p.payloadType == payloadType

theorem find_kind {payloads : List Payload} {payloadType : UInt8} {p : Payload}
    (found : find payloads payloadType = some p) : p.payloadType = payloadType := by
  have asked := List.find?_some found
  exact eq_of_beq asked

def afterHash (payloads : List Payload) : Bytes :=
  (encodePayloads ((payloads.filter fun p => p.payloadType != payload.hash).map
    fun p => (p.payloadType, p.data))).2

def parseEncrypted (P : Primitives) (data : Bytes) (prf : Prf) (skeyidA encKey iv : Bytes) :
    Result (IsakmpHeader × List Payload × Bytes) := do
  let (header, payloads, next) ← decryptPayloads P data encKey iv
  let hashP ← okOr (find payloads payload.hash) (.missingPayload "HASH")
  if hashP.data ≠ prf.mac P skeyidA (u32Bytes header.messageId ++ afterHash payloads) then .error .authFailed
  else .ok (header, payloads, next)

/-! ## Decrypting what was encrypted -/

theorem padToBlock_eq (data : Bytes) (block : Nat) : ∃ padding, padToBlock data block = data ++ padding := by
  unfold padToBlock
  dsimp only
  split
  next => exact ⟨_, rfl⟩
  next => exact ⟨[], (List.append_nil data).symm⟩

theorem padToBlock_aligned (data : Bytes) : (padToBlock data aesBlock).length % aesBlock = 0 := by
  unfold padToBlock
  dsimp only
  split
  next short =>
    rw [List.length_append, List.length_replicate]
    simp only [aesBlock] at short ⊢
    omega
  next whole => exact not_not.mp whole

theorem nextIv_length {ciphertext : Bytes} (long : aesBlock ≤ ciphertext.length) :
    (nextIv ciphertext aesBlock).length = aesBlock := by
  rw [nextIv, List.length_drop]
  omega

theorem phase2Iv_length (P : Primitives) (prf : Prf) (phase1Iv : Bytes) (messageId : UInt32) :
    (phase2Iv P prf phase1Iv messageId aesBlock).length = aesBlock := by
  rw [phase2Iv, List.length_take, prf.hash_length]
  exact Nat.min_eq_left prf.aesBlock_le_outputLen

theorem exists_aes256CbcEncrypt {P : Primitives} (correct : P.CbcCorrect) {encKey iv body : Bytes}
    (keySize : encKey.length = 32) (ivSize : iv.length = aesBlock) (nonempty : 0 < body.length) :
    ∃ ct, aes256CbcEncrypt P encKey iv (padToBlock body aesBlock) = .ok ct ∧
      aes256CbcDecrypt P encKey iv ct = .ok (padToBlock body aesBlock) ∧ aesBlock ≤ ct.length := by
  let padded := padToBlock body aesBlock
  have aligned : padded.length % aesBlock = 0 := padToBlock_aligned body
  have ctSize : (P.cbcEncrypt encKey iv padded).length = padded.length := P.cbcEncrypt_length _ _ _
  obtain ⟨padding, isPadded⟩ := padToBlock_eq body aesBlock
  have paddedSize : padded.length = body.length + padding.length := by
    rw [show padded = body ++ padding from isPadded, List.length_append]
  have long : aesBlock ≤ (P.cbcEncrypt encKey iv padded).length := by
    rw [ctSize]
    simp only [aesBlock] at aligned ⊢
    omega
  have sizes : ¬ (encKey.length ≠ 32 ∨ iv.length ≠ aesBlock) := by
    rintro (wrongKey | wrongIv)
    · exact wrongKey keySize
    · exact wrongIv ivSize
  have usable : ¬ ((P.cbcEncrypt encKey iv padded).isEmpty ∨ (P.cbcEncrypt encKey iv padded).length % aesBlock ≠ 0) := by
    rintro (empty | ragged)
    · rw [List.isEmpty_iff_length_eq_zero.mp empty] at long
      exact absurd long (by decide)
    · exact ragged (ctSize ▸ aligned)
  refine ⟨P.cbcEncrypt encKey iv padded, ?_, ?_, long⟩
  · rw [aes256CbcEncrypt, if_neg (not_not.mpr aligned), if_neg sizes]
  · rw [aes256CbcDecrypt, if_neg usable, if_neg sizes, correct encKey iv padded keySize ivSize aligned]

def encryptedHeader (header : IsakmpHeader) (first : UInt8) (length : UInt32) : IsakmpHeader :=
  { header with nextPayload := first, flags := header.flags ||| flags.encryption, length := length }

/-- A chain of payloads is encrypted, and decrypts under the same key and IV to itself and
to the same IV for the message after it. -/
theorem exists_encryptPayloads {P : Primitives} (correct : P.CbcCorrect) {header : IsakmpHeader}
    (sizeI : header.initCookie.length = 8) (sizeR : header.respCookie.length = 8) {encKey iv : Bytes}
    (keySize : encKey.length = 32) (ivSize : iv.length = aesBlock) {chain : List (UInt8 × Bytes)} (nonempty : chain ≠ [])
    (fits : ∀ item ∈ chain, Fits item) :
    ∃ message next length, encryptPayloads P header encKey iv chain = .ok (message, next) ∧ next.length = aesBlock ∧
      IsakmpHeader.parse message = .ok (encryptedHeader header (encodePayloads chain).1 length) ∧
      decryptPayloads P message encKey iv =
        .ok (encryptedHeader header (encodePayloads chain).1 length, chain.map readBack, next) := by
  obtain ⟨ct, encrypted, decrypted, long⟩ := exists_aes256CbcEncrypt correct keySize ivSize
    (encodePayloads_length_pos nonempty)
  let length := UInt32.ofNat (IsakmpHeader.len + ct.length)
  let written := encryptedHeader header (encodePayloads chain).1 length
  have writtenI : written.initCookie.length = 8 := sizeI
  have writtenR : written.respCookie.length = 8 := sizeR
  have parsed := IsakmpHeader.parse_toBytes writtenI writtenR ct
  refine ⟨written.toBytes ++ ct, nextIv ct aesBlock, length, ?_, nextIv_length long, parsed, ?_⟩
  · rw [encryptPayloads]
    dsimp only
    rw [encrypted, ok_bind]
    rfl
  · have body : (written.toBytes ++ ct).drop IsakmpHeader.len = ct :=
      List.drop_left' (IsakmpHeader.toBytes_length writtenI writtenR)
    obtain ⟨padding, isPadded⟩ := padToBlock_eq (encodePayloads chain).2 aesBlock
    have read : parsePayloads written.nextPayload (padToBlock (encodePayloads chain).2 aesBlock) =
        .ok (chain.map readBack) := by
      rw [isPadded]
      exact parsePayloads_encodePayloads fits padding
    rw [decryptPayloads, parsed, ok_bind, body]
    dsimp only
    rw [decrypted, ok_bind, read, ok_bind]

theorem afterHash_readBack {after : List (UInt8 × Bytes)} (others : ∀ item ∈ after, item.1 ≠ payload.hash)
    (hash : Bytes) : afterHash (((payload.hash, hash) :: after).map readBack) = (encodePayloads after).2 := by
  have kept : (after.map readBack).filter (fun p => p.payloadType != payload.hash) = after.map readBack := by
    rw [List.filter_eq_self]
    intro p member
    obtain ⟨item, isItem, rfl⟩ := List.mem_map.mp member
    exact bne_iff_ne.mpr (others item isItem)
  have dropped : (((payload.hash, hash) :: after).map readBack).filter (fun p => p.payloadType != payload.hash) =
      after.map readBack := kept
  have same : (after.map readBack).map (fun p => (p.payloadType, p.data)) = after := by
    rw [List.map_map]
    exact List.map_id after
  rw [afterHash, dropped, same]

end Ryke.Ikev1
