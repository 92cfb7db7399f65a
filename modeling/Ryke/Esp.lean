import Ryke.Crypto
import Ryke.Lib.Run

/-! Userspace ESP in tunnel mode with AES-256-GCM: one direction of a CHILD SA with its
outbound counter, and the pair of directions that one end derives. -/

namespace Ryke
open Lib Crypto

structure EspSa where
  spi : UInt32
  key : Bytes
  salt : Bytes
  seq : UInt32
  key_length : key.length = 32
  salt_length : salt.length = 4
  deriving DecidableEq

namespace EspSa

def ofMaterial (spi : UInt32) (material : Bytes) (size : material.length = 36) : EspSa where
  spi := spi
  key := material.take 32
  salt := material.drop 32
  seq := 0
  key_length := by rw [List.length_take, size]; rfl
  salt_length := by rw [List.length_drop, size]

def new (spi : UInt32) (material : Bytes) : Result EspSa :=
  if size : material.length = 36 then .ok (ofMaterial spi material size)
  else .error (.crypto "ESP key material must be 36 bytes (32-byte key + 4-byte salt)")

def iv (self : EspSa) : Bytes := u64Bytes self.seq.toUInt64

def nonce (self : EspSa) (iv : Bytes) : Bytes := self.salt ++ iv

def pad (inner : Bytes) (nextHeader : UInt8) : Bytes :=
  let pad := (4 - (inner.length + 2) % 4) % 4
  inner ++ (List.range pad).map (fun i => UInt8.ofNat (i + 1)) ++ [UInt8.ofNat pad, nextHeader]

/-- The counter advances even where the encryption fails, but never past its end. -/
def seal_ (P : Primitives) (self : EspSa) (inner : Bytes) (nextHeader : UInt8) : Result Bytes × EspSa :=
  if self.seq = 0xFFFFFFFF then
    (.error (.crypto "ESP sequence number exhausted; rekey required"), self)
  else
    let self := { self with seq := self.seq + 1 }
    let aad := u32Bytes self.spi ++ u32Bytes self.seq
    let sealed : Result Bytes := do
      let ctAndTag ← okOr (P.gcmEncrypt self.key (self.nonce self.iv) aad (pad inner nextHeader))
        (.crypto "ESP encryption failed")
      .ok (aad ++ self.iv ++ ctAndTag)
    (sealed, self)

def unpad (plaintext : Bytes) : Result (Bytes × UInt8) :=
  if plaintext.length < 2 then .error (.crypto "ESP plaintext shorter than its trailer")
  else
    let nextHeader := byteAt plaintext (plaintext.length - 1)
    let padLen := (byteAt plaintext (plaintext.length - 2)).toNat
    if plaintext.length < 2 + padLen then .error (.crypto "ESP pad length exceeds plaintext")
    else .ok (plaintext.take (plaintext.length - 2 - padLen), nextHeader)

def open_ (P : Primitives) (self : EspSa) (packet : Bytes) : Result (Bytes × UInt8) :=
  if packet.length < 32 then .error (.truncated 32 packet.length)
  else if u32At packet 0 ≠ self.spi then .error (.crypto "ESP SPI does not match this SA")
  else do
    let plaintext ← okOr (P.gcmDecrypt self.key (self.nonce (slice packet 8 16)) (packet.take 8) (packet.drop 16))
      .badIntegrity
    unpad plaintext

theorem seal_spec (P : Primitives) (self : EspSa) (inner : Bytes) (nextHeader : UInt8) :
    (self.seal_ P inner nextHeader).2.spi = self.spi ∧ (self.seal_ P inner nextHeader).2.key = self.key ∧
      (self.seal_ P inner nextHeader).2.salt = self.salt ∧
      self.seq.toNat ≤ (self.seal_ P inner nextHeader).2.seq.toNat ∧
      ((self.seal_ P inner nextHeader).1.isOk = true →
        self.seq.toNat < (self.seal_ P inner nextHeader).2.seq.toNat) := by
  unfold seal_
  split
  next => exact ⟨rfl, rfl, rfl, Nat.le_refl _, nofun⟩
  next room =>
    have next : (self.seq + 1).toNat = self.seq.toNat + 1 := by
      have bound := self.seq.toNat_lt
      have below : self.seq.toNat ≠ 0xFFFFFFFF := fun full => room (UInt32.toNat.inj full)
      rw [UInt32.toNat_add]
      simp only [UInt32.toNat_one]
      omega
    refine ⟨rfl, rfl, rfl, ?_, fun _ => ?_⟩ <;> (dsimp only; omega)

/-! ## What a sealed packet opens to -/

@[simp] theorem unpad_pad (inner : Bytes) (nextHeader : UInt8) : unpad (pad inner nextHeader) = .ok (inner, nextHeader) := by
  let count := (4 - (inner.length + 2) % 4) % 4
  have few : count < 256 := Nat.lt_of_lt_of_le (Nat.mod_lt _ (by decide)) (by decide)
  let front := inner ++ (List.range count).map (fun i => UInt8.ofNat (i + 1))
  have whole : pad inner nextHeader = front ++ [UInt8.ofNat count, nextHeader] := rfl
  have frontLength : front.length = inner.length + count := by
    rw [List.length_append, List.length_map, List.length_range]
  have length : (front ++ [UInt8.ofNat count, nextHeader]).length = inner.length + count + 2 := by
    rw [List.length_append, frontLength]
    rfl
  have last : byteAt (front ++ [UInt8.ofNat count, nextHeader]) (inner.length + count + 2 - 1) = nextHeader := by
    rw [byteAt_append_right (by omega)]
    have offset : inner.length + count + 2 - 1 - front.length = 1 := by omega
    rw [offset]
    rfl
  have padLen : byteAt (front ++ [UInt8.ofNat count, nextHeader]) (inner.length + count + 2 - 2) = UInt8.ofNat count := by
    rw [byteAt_append_right (by omega)]
    have offset : inner.length + count + 2 - 2 - front.length = 0 := by omega
    rw [offset]
    rfl
  have value : (UInt8.ofNat count).toNat = count := Nat.mod_eq_of_lt few
  have kept : (front ++ [UInt8.ofNat count, nextHeader]).take (inner.length + count + 2 - 2 - count) = inner := by
    have offset : inner.length + count + 2 - 2 - count = inner.length := by omega
    rw [offset, List.append_assoc, List.take_left]
  rw [whole, unpad, length, if_neg (by omega)]
  dsimp only
  rw [padLen, value, if_neg (by omega), last, kept]

theorem seal_eq_ok {P : Primitives} {self : EspSa} {inner packet : Bytes} {nextHeader : UInt8}
    (done : (self.seal_ P inner nextHeader).1 = .ok packet) :
    ∃ seq sealed, P.gcmEncrypt self.key (self.salt ++ u64Bytes (UInt32.toUInt64 seq)) (u32Bytes self.spi ++ u32Bytes seq)
        (pad inner nextHeader) = some sealed ∧
      packet = (u32Bytes self.spi ++ u32Bytes seq) ++ u64Bytes seq.toUInt64 ++ sealed := by
  unfold seal_ at done
  split at done
  next => cases done
  next =>
    obtain ⟨sealed, encrypted, done⟩ := bind_eq_ok done
    exact ⟨self.seq + 1, sealed, okOr_eq_ok encrypted, (Except.ok.inj done).symm⟩

theorem open_parts (P : Primitives) (self : EspSa) (seq : UInt32) {sealed : Bytes} (long : 16 ≤ sealed.length) :
    self.open_ P ((u32Bytes self.spi ++ u32Bytes seq) ++ u64Bytes seq.toUInt64 ++ sealed) = (do
      let plaintext ← okOr (P.gcmDecrypt self.key (self.salt ++ u64Bytes seq.toUInt64)
        (u32Bytes self.spi ++ u32Bytes seq) sealed) .badIntegrity
      unpad plaintext) := by
  let aad := u32Bytes self.spi ++ u32Bytes seq
  let packet := aad ++ u64Bytes seq.toUInt64 ++ sealed
  have size : packet.length = 16 + sealed.length := List.length_append
  have spi : u32At packet 0 = self.spi := by
    change be32 _ _ _ _ = self.spi
    exact be32_split self.spi
  have iv : slice packet 8 16 = u64Bytes seq.toUInt64 := by
    change slice (aad ++ u64Bytes seq.toUInt64 ++ sealed) 8 16 = _
    rw [List.append_assoc]
    exact slice_append_mid rfl rfl
  have front : packet.take 8 = aad := by
    change (aad ++ u64Bytes seq.toUInt64 ++ sealed).take 8 = aad
    rw [List.append_assoc]
    exact List.take_left' rfl
  have text : packet.drop 16 = sealed := List.drop_left' rfl
  change self.open_ P packet = _
  rw [open_, if_neg (by omega), if_neg (not_not.mpr spi), iv, front, text]
  rfl

theorem open_sealed {P : Primitives} (correct : P.GcmCorrect) {self other : EspSa} (spi : other.spi = self.spi)
    (key : other.key = self.key) (salt : other.salt = self.salt) {inner packet : Bytes} {nextHeader : UInt8}
    (done : (self.seal_ P inner nextHeader).1 = .ok packet) : other.open_ P packet = .ok (inner, nextHeader) := by
  obtain ⟨seq, sealed, encrypted, rfl⟩ := seal_eq_ok done
  have long : 16 ≤ sealed.length := by
    rw [P.gcmEncrypt_length _ _ _ _ _ encrypted]
    omega
  rw [← spi, open_parts P other seq long, spi, key, salt, correct _ _ _ _ _ encrypted, okOr_some, ok_bind, unpad_pad]

/-- What the AEAD put into a packet: all behind the header and the IV. -/
def sealedText (packet : Bytes) : Bytes := packet.drop 16

theorem not_open_sealed {P : Primitives} {self other : EspSa}
    (differ : (other.key, other.salt) ≠ (self.key, self.salt)) {inner packet : Bytes} {nextHeader : UInt8}
    (ideal : P.GcmIdeal [sealedText packet])
    (done : (self.seal_ P inner nextHeader).1 = .ok packet) : ∃ error, other.open_ P packet = .error error := by
  obtain ⟨seq, sealed, encrypted, rfl⟩ := seal_eq_ok done
  have total := P.gcmEncrypt_length _ _ _ _ _ encrypted
  by_cases spi : other.spi = self.spi
  · have closed : P.gcmDecrypt other.key (other.salt ++ u64Bytes seq.toUInt64) (u32Bytes other.spi ++ u32Bytes seq)
        sealed = none := by
      by_contra opens
      obtain ⟨plaintext, decrypted⟩ := Option.ne_none_iff_exists'.mp opens
      have own : sealedText ((u32Bytes self.spi ++ u32Bytes seq) ++ u64Bytes seq.toUInt64 ++ sealed) = sealed :=
        List.drop_left' rfl
      rw [own, ← List.append_nil sealed] at ideal
      rw [← List.append_nil sealed] at encrypted
      obtain ⟨-, sameKey, sameNonce, -, -⟩ := ideal _ _ _ _ _ _ _ _ _ _ List.mem_cons_self encrypted decrypted
      apply differ
      rw [sameKey, List.append_cancel_right sameNonce]
    rw [← spi, open_parts P other seq (by omega), closed]
    exact ⟨_, rfl⟩
  · have own : u32At ((u32Bytes self.spi ++ u32Bytes seq) ++ u64Bytes seq.toUInt64 ++ sealed) 0 = self.spi := by
      change be32 _ _ _ _ = self.spi
      exact be32_split self.spi
    have long : ¬ ((u32Bytes self.spi ++ u32Bytes seq) ++ u64Bytes seq.toUInt64 ++ sealed).length < 32 := by
      rw [List.length_append, total]
      change ¬ 16 + _ < 32
      omega
    rw [open_, if_neg long, own, if_pos (fun same => spi same.symm)]
    exact ⟨_, rfl⟩

end EspSa

def EspSa.sealer (P : Primitives) : Machine EspSa (Bytes × UInt8) (Result Bytes) := fun self (inner, nextHeader) =>
  self.seal_ P inner nextHeader

structure ChildSa where
  outbound : EspSa
  inbound : EspSa
  deriving DecidableEq

/-- A packet carries the SPI of the end that receives it. -/
def ChildSa.derive (P : Primitives) (skD ni nr : Bytes) (role : Role) (localSpi peerSpi : UInt32) : ChildSa :=
  let keys := deriveChildKeys P skD ni nr 36 0
  have sizes := deriveChildKeys_lengths P skD ni nr 36 0
  match role with
  | .initiator => ⟨.ofMaterial peerSpi keys.encrI sizes.1, .ofMaterial localSpi keys.encrR sizes.2⟩
  | .responder => ⟨.ofMaterial peerSpi keys.encrR sizes.2, .ofMaterial localSpi keys.encrI sizes.1⟩

end Ryke
