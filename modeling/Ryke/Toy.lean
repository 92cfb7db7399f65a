import Ryke.Primitives

/-! A small instance of the primitives, for runs on concrete messages. The PRF is a
16-bit checksum in front of zeros, X25519 multiplies two bytes, and the AEAD puts a tag
in front that spells out the key, nonce, associated data and length it was sealed with. -/

namespace Ryke.Toy
open Lib

/-- A source that answers the n-th request with zeros and a final byte `n`. -/
structure Counter where
  count : UInt8
  deriving DecidableEq, Repr

instance : Entropy Counter where
  fill source n := ((List.replicate n 0 ++ [source.count]).drop 1, ⟨source.count + 1⟩)
  fill_length source n := by simp

def checksum (key data : Bytes) : Nat :=
  data.foldl (fun acc b => (acc * 31 + b.toNat + 7) % 65521)
    (key.foldl (fun acc b => (acc * 37 + b.toNat + 3) % 65521) 1)

def digest (width : Nat) (key data : Bytes) : Bytes :=
  u16Bytes (UInt16.ofNat (checksum key data)) ++ List.replicate width 0

@[simp] theorem digest_length (width : Nat) (key data : Bytes) :
    (digest width key data).length = width + 2 := by
  simp [digest]
  omega

def lastByte (byte : UInt8) : Bytes := List.replicate 31 0 ++ [byte]

/-! ## The AEAD -/

abbrev Sealing := Bytes × Bytes × Bytes

def tagOf (sealing : Sealing) (size : Nat) : Bytes :=
  let (key, nonce, aad) := sealing
  let core := [0, 1, 28, 29].map (byteAt key) ++ [0, 1, 11].map (byteAt nonce)
  if aad.length = 32 then 0 :: core ++ [7, 15, 18, 19, 23, 28, 30, 31].map (byteAt aad)
  else if aad.length = 36 then 1 :: core ++ [7, 15, 23, 28, 30, 31, 33, 35].map (byteAt aad)
  else 2 :: core ++ [2, 3, 6, 7].map (byteAt aad) ++ u16Bytes (UInt16.ofNat size) ++ [0, 0]

/-- The key, nonce and associated data that a tag spells out, with the length of the
message: those of an SK payload, of an SKF fragment, or of an ESP packet. -/
def sealingOf (tag : Bytes) : Sealing × Nat :=
  let t := byteAt tag
  let zeros (n : Nat) : Bytes := List.replicate n 0
  let key := [t 1, t 2] ++ zeros 26 ++ [t 3, t 4, 0, 0]
  let nonce := [t 5, t 6] ++ zeros 9 ++ [t 7]
  let spis := zeros 7 ++ [t 8] ++ zeros 7 ++ [t 9]
  let sized (high low : UInt8) := u32Bytes (28 + UInt32.ofNat (be16 high low).toNat)
  if t 0 = 0 then
    ((key, nonce,
      spis ++ [46, 0x20, t 10, t 11, 0, 0, 0, t 12] ++ sized (t 14) (t 15) ++ [t 13, 0, t 14, t 15]),
      (be16 (t 14) (t 15)).toNat - 28)
  else if t 0 = 1 then
    ((key, nonce,
      spis ++ [53, 0x20, 35, 8, 0, 0, 0, t 10] ++ sized (t 12) (t 13) ++
        [t 11, 0, t 12, t 13, 0, t 14, 0, t 15]),
      (be16 (t 12) (t 13)).toNat - 32)
  else ((key, nonce, [0, 0, t 8, t 9, 0, 0, t 10, t 11]), (be16 (t 12) (t 13)).toNat)

def gcmEncrypt (key nonce aad msg : Bytes) : Option Bytes :=
  let tag := tagOf (key, nonce, aad) msg.length
  if sealingOf tag = ((key, nonce, aad), msg.length) then some (tag ++ msg) else none

def gcmDecrypt (key nonce aad text : Bytes) : Option Bytes :=
  if 16 ≤ text.length ∧ sealingOf (text.take 16) = ((key, nonce, aad), text.length - 16) then
    some (text.drop 16)
  else none

theorem tagOf_length (sealing : Sealing) (size : Nat) : (tagOf sealing size).length = 16 := by
  obtain ⟨key, nonce, aad⟩ := sealing
  unfold tagOf
  dsimp only
  split
  next => rfl
  next => split <;> rfl

theorem gcmEncrypt_eq_some {key nonce aad msg sealed : Bytes}
    (done : gcmEncrypt key nonce aad msg = some sealed) :
    sealingOf (sealed.take 16) = ((key, nonce, aad), msg.length) ∧ sealed.drop 16 = msg ∧
      sealed.length = msg.length + 16 := by
  have size := tagOf_length (key, nonce, aad) msg.length
  unfold gcmEncrypt at done
  dsimp only at done
  split at done
  next faithful =>
    rw [← Option.some.inj done, List.take_left' size, List.drop_left' size]
    exact ⟨faithful, rfl, by simp [size]; omega⟩
  next => cases done

theorem gcmDecrypt_eq_some {key nonce aad text msg : Bytes}
    (done : gcmDecrypt key nonce aad text = some msg) :
    16 ≤ text.length ∧ sealingOf (text.take 16) = ((key, nonce, aad), text.length - 16) ∧
      msg = text.drop 16 := by
  unfold gcmDecrypt at done
  split at done
  next opens => exact ⟨opens.1, opens.2, (Option.some.inj done).symm⟩
  next => cases done

end Ryke.Toy

namespace Ryke
open Lib

/-- The checksum-based instance. Every certificate is valid, signed by anyone, and
names itself; every signature is its digest. -/
def toy : Primitives where
  hmacSha256 := Toy.digest 30
  hmacSha1 := Toy.digest 18
  sha256 := Toy.digest 30 []
  sha1 := Toy.digest 18 []
  md4 := Toy.digest 14 []
  desEncryptBlock := Toy.digest 6
  x25519Public secret := Toy.lastByte (byteAt secret 31)
  x25519Shared secret peer := Toy.lastByte (byteAt secret 31 * byteAt peer 31)
  gcmEncrypt := Toy.gcmEncrypt
  gcmDecrypt := Toy.gcmDecrypt
  cbcEncrypt _ _ text := text
  cbcDecrypt _ _ text := text
  x509FromDer der := some {
    tbs := some der, subject := some [], issuer := some [], notBefore := 0, notAfter := 1000
    spki := some der, spkiAlgorithm := [1, 2, 840, 113549, 1, 1, 1], signature := some []
    signatureAlgorithm := [1, 2, 840, 113549, 1, 1, 11], extensions := some [([2, 5, 29, 17], der)] }
  subjectAltNames value := some [value]
  basicConstraintsCa _ := none
  rsaFromSpki := some
  p256FromSpki := some
  rsaPkcs1Verify _ digest signature := signature == digest
  rsaPssVerify _ digest signature := signature == digest
  ecdsaVerify _ digest signature := signature == digest
  rsaPkcs1Sign _ digest := some digest
  ecdsaSign _ digest := some (digest, digest)
  hmacSha256_length key data := by simp
  hmacSha1_length key data := by simp
  sha256_length data := by simp
  sha1_length data := by simp
  md4_length data := by simp
  desEncryptBlock_length key block := by simp
  x25519Public_length secret := by simp [Toy.lastByte]
  x25519Shared_length secret peer := by simp [Toy.lastByte]
  gcmEncrypt_length key nonce aad msg sealed done := by
    exact (Toy.gcmEncrypt_eq_some done).2.2
  cbcEncrypt_length key iv text := rfl
  cbcDecrypt_length key iv text := rfl

end Ryke

namespace Ryke.Toy
open Lib

theorem toy_gcmCorrect : toy.GcmCorrect := by
  intro key nonce aad msg sealed done
  obtain ⟨spelled, message, size⟩ := gcmEncrypt_eq_some done
  have opens : 16 ≤ sealed.length ∧ sealingOf (sealed.take 16) = ((key, nonce, aad), sealed.length - 16) :=
    ⟨by omega, by rw [spelled, size, Nat.add_sub_cancel]⟩
  exact (if_pos opens).trans (congrArg some message)

theorem toy_gcmIdeal (texts : List Bytes) : toy.GcmIdeal texts := by
  intro key nonce aad msg front lost key' nonce' aad' msg' _ done opened
  obtain ⟨spelled, message, size⟩ := gcmEncrypt_eq_some done
  obtain ⟨long, spelled', rfl⟩ := gcmDecrypt_eq_some opened
  rw [List.take_append_of_le_length long, spelled'] at spelled
  obtain ⟨same, lengths⟩ := Prod.mk.inj spelled
  cases same
  have none_lost : lost = [] := by
    rw [← List.length_eq_zero_iff]
    rw [List.length_append] at size
    omega
  subst none_lost
  rw [List.append_nil] at message
  exact ⟨rfl, rfl, rfl, rfl, message⟩

/-! ## An AEAD for every message -/

def macEncrypt (key nonce aad msg : Bytes) : Bytes := digest 14 key (nonce ++ aad ++ msg) ++ msg

def macDecrypt (key nonce aad text : Bytes) : Option Bytes :=
  if text.take 16 = digest 14 key (nonce ++ aad ++ text.drop 16) then some (text.drop 16) else none

def toyMac : Primitives :=
  { toy with
    gcmEncrypt := fun key nonce aad msg => some (macEncrypt key nonce aad msg)
    gcmDecrypt := macDecrypt
    gcmEncrypt_length := by
      intro key nonce aad msg sealed done
      rw [← Option.some.inj done, macEncrypt, List.length_append, digest_length]
      omega }

theorem toyMac_gcmCorrect : toyMac.GcmCorrect := by
  intro key nonce aad msg sealed done
  have tag : (digest 14 key (nonce ++ aad ++ msg)).length = 16 := digest_length ..
  have isSealed : digest 14 key (nonce ++ aad ++ msg) ++ msg = sealed := Option.some.inj done
  have opens : sealed.take 16 = digest 14 key (nonce ++ aad ++ sealed.drop 16) := by
    rw [← isSealed, List.take_left' tag, List.drop_left' tag]
  change (if sealed.take 16 = digest 14 key (nonce ++ aad ++ sealed.drop 16) then _ else _) = _
  rw [if_pos opens, ← isSealed, List.drop_left' tag]

theorem toyMac_gcmSeals : toyMac.GcmSeals := by
  intro key nonce aad msg _ _ _
  rfl

theorem toy_cbcCorrect : toy.CbcCorrect := by
  intro key iv text _ _ _
  rfl

theorem toy_commutes : toy.X25519Commutes := by
  intro a b
  have last : ∀ byte, byteAt (lastByte byte) 31 = byte := fun byte => rfl
  change lastByte (byteAt a 31 * byteAt (lastByte (byteAt b 31)) 31) =
    lastByte (byteAt b 31 * byteAt (lastByte (byteAt a 31)) 31)
  rw [last, last, UInt8.mul_comm]

end Ryke.Toy
