import Ryke.Primitives

/-! The cryptographic core of `IKE_SA_INIT`: the Diffie-Hellman groups, the PRF,
`prf+`, and the SKEYSEED key schedule. -/

namespace Ryke.Crypto
open Lib

/-! ## Finite-field Diffie-Hellman -/

def modPowBits (modulus : Nat) : Nat → Nat → Nat → Nat
  | 0, _, _ => 1 % modulus
  | bits + 1, base, exp =>
      let half := modPowBits modulus bits (base * base % modulus) (exp / 2)
      if exp % 2 = 1 then half * base % modulus else half

def modPow (base exp modulus : Nat) : Nat := modPowBits modulus (exp.log2 + 1) base exp

theorem modPowBits_eq (modulus bits base exp : Nat) (small : exp < 2 ^ bits) :
    modPowBits modulus bits base exp = base ^ exp % modulus := by
  induction bits generalizing base exp with
  | zero =>
    obtain rfl : exp = 0 := by simpa using small
    simp [modPowBits]
  | succ bits ih =>
    have half : exp / 2 < 2 ^ bits := by rw [Nat.pow_succ] at small; omega
    have parts : exp = 2 * (exp / 2) + exp % 2 := (Nat.div_add_mod exp 2).symm
    simp only [modPowBits, ih _ _ half]
    rw [← Nat.pow_mod, ← Nat.pow_two, ← Nat.pow_mul]
    split
    next odd =>
      rw [Nat.mod_mul_mod, ← Nat.pow_succ]
      rw [show (2 * (exp / 2)).succ = exp by omega]
    next even => rw [show 2 * (exp / 2) = exp by omega]

theorem modPow_eq (base exp modulus : Nat) : modPow base exp modulus = base ^ exp % modulus :=
  modPowBits_eq modulus _ base exp Nat.lt_log2_self

/-- RFC 2409 MODP-1024 prime; the generator is 2. -/
def modp1024Prime : Bytes := toBytesBeWidth 128
  0xFFFFFFFFFFFFFFFFC90FDAA22168C234C4C6628B80DC1CD129024E088A67CC74020BBEA63B139B22514A08798E3404DDEF9519B3CD3A431B302B0A6DF25F14374FE1356D6D51C245E485B576625E7EC6F44C42E9A637ED6B0BFF5CB6F406B7EDEE386BFB5A899FA5AE9F24117C4B1FE649286651ECE65381FFFFFFFFFFFFFFFF

/-- RFC 3526 MODP-2048 prime; the generator is 2. -/
def modp2048Prime : Bytes := toBytesBeWidth 256
  0xFFFFFFFFFFFFFFFFC90FDAA22168C234C4C6628B80DC1CD129024E088A67CC74020BBEA63B139B22514A08798E3404DDEF9519B3CD3A431B302B0A6DF25F14374FE1356D6D51C245E485B576625E7EC6F44C42E9A637ED6B0BFF5CB6F406B7EDEE386BFB5A899FA5AE9F24117C4B1FE649286651ECE45B3DC2007CB8A163BF0598DA48361C55D39A69163FA8FD24CF5F83655D23DCA3AD961C62F356208552BB9ED529077096966D670C354E4ABC9804F1746C08CA18217C32905E462E36CE3BE39E772C180E86039B2783A2EC07A28FB5C55DF06F4C52C9DE2BCBF6955817183995497CEA956AE515D2261898FA051015728E5A8AACAA68FFFFFFFFFFFFFFFF

def modexp (base exp prime : Bytes) : Bytes :=
  let v := toBytesBe (modPow (ofBytesBe base) (ofBytesBe exp) (ofBytesBe prime))
  List.replicate (prime.length - v.length) 0 ++ v

def modpPublic (exp prime : Bytes) : Bytes := modexp [2] exp prime

def modpShared (exp peerPublic prime : Bytes) : Bytes := modexp peerPublic exp prime

/-- A peer value outside `[2, p-2]` is refused. -/
def modpValid (peer prime : Bytes) : Bool :=
  decide (ofBytesBe peer > 1) && decide (ofBytesBe peer < ofBytesBe prime - 1)

theorem ofBytesBe_modexp (base exp prime : Bytes) :
    ofBytesBe (modexp base exp prime) = ofBytesBe base ^ ofBytesBe exp % ofBytesBe prime := by
  simp only [modexp]
  rw [ofBytesBe_append, ofBytesBe_replicate_zero, ofBytesBe_toBytesBe, modPow_eq]
  simp

theorem modexp_length (base exp prime : Bytes) (positive : 0 < ofBytesBe prime) :
    (modexp base exp prime).length = prime.length := by
  have below : modPow (ofBytesBe base) (ofBytesBe exp) (ofBytesBe prime) < ofBytesBe prime := by
    rw [modPow_eq]
    exact Nat.mod_lt _ positive
  have fits := toBytesBe_length_le_of_lt below
  simp only [modexp, List.length_append, List.length_replicate]
  omega

theorem modpShared_comm (a b prime : Bytes) :
    modpShared a (modpPublic b prime) prime = modpShared b (modpPublic a prime) prime := by
  have value : ∀ x y, ofBytesBe (modpPublic y prime) ^ ofBytesBe x % ofBytesBe prime =
      ofBytesBe [2] ^ (ofBytesBe y * ofBytesBe x) % ofBytesBe prime := by
    intro x y
    rw [modpPublic, ofBytesBe_modexp, ← Nat.pow_mod, ← Nat.pow_mul]
  simp only [modpShared, modexp, modPow_eq]
  rw [value a b, value b a, Nat.mul_comm]

/-! ## Groups -/

inductive DhGroup where
  | x25519
  | modp1024
  | modp2048
  deriving DecidableEq, Repr

namespace DhGroup

def fromTransformId (id : UInt16) : Option DhGroup :=
  if id = 31 then some .x25519
  else if id = 2 then some .modp1024
  else if id = 14 then some .modp2048
  else none

def transformId : DhGroup → UInt16
  | .x25519 => 31
  | .modp1024 => 2
  | .modp2048 => 14

def publicLen : DhGroup → Nat
  | .x25519 => 32
  | .modp1024 => 128
  | .modp2048 => 256

def public_ (P : Primitives) (group : DhGroup) (secret : Bytes) : Bytes :=
  match group with
  | .x25519 => P.x25519Public (secret.take 32)
  | .modp1024 => modpPublic secret modp1024Prime
  | .modp2048 => modpPublic secret modp2048Prime

def shared (P : Primitives) (group : DhGroup) (secret peer : Bytes) : Result Bytes :=
  if peer.length ≠ group.publicLen then
    .error (.badKeyExchange group.transformId peer.length)
  else match group with
    | .x25519 => .ok (P.x25519Shared (secret.take 32) peer)
    | .modp1024 =>
        if modpValid peer modp1024Prime then .ok (modpShared secret peer modp1024Prime)
        else .error (.badKeyExchange 2 peer.length)
    | .modp2048 =>
        if modpValid peer modp2048Prime then .ok (modpShared secret peer modp2048Prime)
        else .error (.badKeyExchange 14 peer.length)

theorem fromTransformId_transformId (group : DhGroup) :
    fromTransformId group.transformId = some group := by
  cases group <;> rfl

theorem transformId_injective {first second : DhGroup} (same : first.transformId = second.transformId) :
    first = second := by
  have back := fromTransformId_transformId first
  rw [same, fromTransformId_transformId] at back
  exact (Option.some.inj back).symm

theorem modp1024Prime_pos : 0 < ofBytesBe modp1024Prime := by decide +kernel

theorem modp2048Prime_pos : 0 < ofBytesBe modp2048Prime := by decide +kernel

theorem public_length (P : Primitives) (group : DhGroup) (secret : Bytes) :
    (group.public_ P secret).length = group.publicLen := by
  cases group with
  | x25519 => exact P.x25519Public_length _
  | modp1024 =>
    exact (modexp_length _ _ _ modp1024Prime_pos).trans (toBytesBeWidth_length 128 _)
  | modp2048 =>
    exact (modexp_length _ _ _ modp2048Prime_pos).trans (toBytesBeWidth_length 256 _)

def agreed (P : Primitives) (group : DhGroup) (secret peer : Bytes) : Bytes :=
  match group with
  | .x25519 => P.x25519Shared (secret.take 32) peer
  | .modp1024 => modpShared secret peer modp1024Prime
  | .modp2048 => modpShared secret peer modp2048Prime

theorem shared_eq_ok {P : Primitives} {group : DhGroup} {secret peer result : Bytes}
    (accepted : group.shared P secret peer = .ok result) :
    peer.length = group.publicLen ∧ result = group.agreed P secret peer := by
  unfold shared at accepted
  split at accepted
  next wrong => cases accepted
  next right =>
    refine ⟨not_not.mp right, ?_⟩
    cases group with
    | x25519 => exact (Except.ok.inj accepted).symm
    | modp1024 =>
      dsimp only at accepted
      split at accepted
      next valid => exact (Except.ok.inj accepted).symm
      next invalid => cases accepted
    | modp2048 =>
      dsimp only at accepted
      split at accepted
      next valid => exact (Except.ok.inj accepted).symm
      next invalid => cases accepted

/-- The public values that the group accepts: any for X25519, those in `[2, p-2]` for MODP. -/
def validPublic (group : DhGroup) (peer : Bytes) : Bool :=
  match group with
  | .x25519 => true
  | .modp1024 => modpValid peer modp1024Prime
  | .modp2048 => modpValid peer modp2048Prime

theorem shared_isOk_iff (P : Primitives) (group : DhGroup) (secret peer : Bytes) :
    (∃ result, group.shared P secret peer = .ok result) ↔
      peer.length = group.publicLen ∧ group.validPublic peer = true := by
  unfold shared
  by_cases size : peer.length = group.publicLen
  · rw [if_neg (not_not.mpr size)]
    cases group with
    | x25519 => exact iff_of_true ⟨_, rfl⟩ ⟨size, rfl⟩
    | modp1024 =>
      dsimp only [validPublic]
      cases modpValid peer modp1024Prime <;> simp [size]
    | modp2048 =>
      dsimp only [validPublic]
      cases modpValid peer modp2048Prime <;> simp [size]
  · rw [if_pos size]
    exact iff_of_false (by rintro ⟨_, wrong⟩; cases wrong) fun both => size both.1

theorem agreed_comm (P : Primitives) (group : DhGroup) (commutes : group = .x25519 → P.X25519Commutes)
    (a b : Bytes) : group.agreed P a (group.public_ P b) = group.agreed P b (group.public_ P a) := by
  cases group with
  | x25519 => exact commutes rfl _ _
  | modp1024 => exact modpShared_comm a b _
  | modp2048 => exact modpShared_comm a b _

theorem shared_agree {P : Primitives} (commutes : P.X25519Commutes) {group : DhGroup}
    {a b secretA secretB : Bytes} (accA : group.shared P a (group.public_ P b) = .ok secretA)
    (accB : group.shared P b (group.public_ P a) = .ok secretB) : secretA = secretB := by
  rw [(shared_eq_ok accA).2, (shared_eq_ok accB).2, agreed_comm P _ fun _ => commutes]

end DhGroup

/-! ## The PRF and `prf+` -/

def prf (P : Primitives) (key data : Bytes) : Bytes := P.hmacSha256 key data

@[simp] theorem prf_length (P : Primitives) (key data : Bytes) : (prf P key data).length = 32 :=
  P.hmacSha256_length key data

/-- `u8::saturating_add(1)`. -/
def saturatingSucc (counter : UInt8) : UInt8 := if counter = 255 then 255 else counter + 1

def prfPlusLoop (P : Primitives) (key seed : Bytes) (outLen : Nat) : Nat → Bytes → Bytes → UInt8 → Bytes
  | 0, out, _, _ => out
  | fuel + 1, out, prev, counter =>
      if out.length < outLen then
        let block := prf P key (prev ++ seed ++ [counter])
        prfPlusLoop P key seed outLen fuel (out ++ block) block (saturatingSucc counter)
      else out

def prfPlus (P : Primitives) (key seed : Bytes) (outLen : Nat) : Bytes :=
  (prfPlusLoop P key seed outLen outLen [] [] 1).take outLen

def blockInput (P : Primitives) (key seed : Bytes) : Nat → Bytes
  | 0 => seed ++ [1]
  | n + 1 => prf P key (blockInput P key seed n) ++ seed ++ [UInt8.ofNat (min (n + 2) 255)]

def blocks (P : Primitives) (key seed : Bytes) (first : Nat) : Nat → Bytes
  | 0 => []
  | count + 1 => prf P key (blockInput P key seed first) ++ blocks P key seed (first + 1) count

theorem blocks_length (P : Primitives) (key seed : Bytes) (first count : Nat) :
    (blocks P key seed first count).length = 32 * count := by
  induction count generalizing first with
  | zero => rfl
  | succ count ih => simp only [blocks, List.length_append, prf_length, ih]; omega

theorem saturatingSucc_ofNat (n : Nat) :
    saturatingSucc (UInt8.ofNat (min (n + 1) 255)) = UInt8.ofNat (min (n + 2) 255) := by
  by_cases small : n + 1 < 255
  · have below : UInt8.ofNat (n + 1) ≠ 255 := by
      intro same
      have value := congrArg UInt8.toNat same
      simp at value
      omega
    rw [Nat.min_eq_left (by omega), Nat.min_eq_left (by omega), saturatingSucc, if_neg below]
    apply UInt8.toNat.inj
    simp
  · rw [Nat.min_eq_right (by omega), Nat.min_eq_right (by omega)]
    rfl

theorem prfPlusLoop_blocks (P : Primitives) (key seed : Bytes) (outLen count n fuel : Nat)
    (out prev : Bytes) (counter : UInt8) (input : prev ++ seed ++ [counter] = blockInput P key seed n)
    (count_eq : counter = UInt8.ofNat (min (n + 1) 255)) (enough : outLen ≤ out.length + 32 * count)
    (fueled : outLen ≤ out.length + fuel) :
    (prfPlusLoop P key seed outLen fuel out prev counter).take outLen =
      (out ++ blocks P key seed n count).take outLen := by
  induction fuel generalizing out prev counter n count with
  | zero =>
    rw [prfPlusLoop, List.take_append_of_le_length (by omega)]
  | succ fuel ih =>
    rw [prfPlusLoop]
    by_cases more : out.length < outLen
    · obtain ⟨count, rfl⟩ : ∃ fewer, count = fewer + 1 := ⟨count - 1, by omega⟩
      have next := ih count (n + 1) (out ++ prf P key (blockInput P key seed n))
        (prf P key (blockInput P key seed n)) (saturatingSucc counter)
        (by rw [blockInput, count_eq, saturatingSucc_ofNat])
        (by rw [count_eq, saturatingSucc_ofNat])
        (by rw [List.length_append, prf_length]; omega)
        (by rw [List.length_append, prf_length]; omega)
      rw [if_pos more, input, next, blocks, List.append_assoc]
    · rw [if_neg more, List.take_append_of_le_length (by omega)]

theorem prfPlus_eq_blocks (P : Primitives) (key seed : Bytes) (outLen count : Nat)
    (enough : outLen ≤ 32 * count) :
    prfPlus P key seed outLen = (blocks P key seed 0 count).take outLen := by
  rw [prfPlus, prfPlusLoop_blocks P key seed outLen count 0 outLen [] [] 1 rfl rfl
    (by simpa using enough) (by simp)]
  rfl

theorem prfPlus_length (P : Primitives) (key seed : Bytes) (outLen : Nat) :
    (prfPlus P key seed outLen).length = outLen := by
  rw [prfPlus_eq_blocks P key seed outLen outLen (by omega), List.length_take, blocks_length]
  omega

/-! ## Key schedules -/

structure KeyLengths where
  prf : Nat
  integ : Nat
  encr : Nat
  deriving DecidableEq, Repr

structure SessionKeys where
  skD : Bytes
  skAi : Bytes
  skAr : Bytes
  skEi : Bytes
  skEr : Bytes
  skPi : Bytes
  skPr : Bytes
  deriving DecidableEq, Inhabited, Repr

def splitSessionKeys (km : Bytes) (lengths : KeyLengths) : SessionKeys :=
  let (skD, km) := km.splitAt lengths.prf
  let (skAi, km) := km.splitAt lengths.integ
  let (skAr, km) := km.splitAt lengths.integ
  let (skEi, km) := km.splitAt lengths.encr
  let (skEr, km) := km.splitAt lengths.encr
  let (skPi, km) := km.splitAt lengths.prf
  let (skPr, _) := km.splitAt lengths.prf
  { skD, skAi, skAr, skEi, skEr, skPi, skPr }

/-- `Ni | Nr | SPIi | SPIr`. -/
def keySeed (ni nr : Bytes) (spiI spiR : UInt64) : Bytes :=
  ni ++ nr ++ u64Bytes spiI ++ u64Bytes spiR

def skeyseed (P : Primitives) (sharedSecret ni nr : Bytes) : Bytes := prf P (ni ++ nr) sharedSecret

def deriveSessionKeys (P : Primitives) (sharedSecret ni nr : Bytes) (spiI spiR : UInt64)
    (lengths : KeyLengths) : SessionKeys :=
  let total := 3 * lengths.prf + 2 * lengths.integ + 2 * lengths.encr
  splitSessionKeys
    (prfPlus P (skeyseed P sharedSecret ni nr) (keySeed ni nr spiI spiR) total) lengths

/-- The key schedule of an IKE-SA rekey: SKEYSEED is keyed by the old `SK_d` and covers
the new shared secret with both nonces. -/
def deriveRekeySessionKeys (P : Primitives) (skDOld sharedSecret ni nr : Bytes) (spiI spiR : UInt64)
    (lengths : KeyLengths) : SessionKeys :=
  let skeyseed := prf P skDOld (sharedSecret ++ ni ++ nr)
  let total := 3 * lengths.prf + 2 * lengths.integ + 2 * lengths.encr
  splitSessionKeys (prfPlus P skeyseed (keySeed ni nr spiI spiR) total) lengths

structure ChildKeys where
  encrI : Bytes
  integI : Bytes
  encrR : Bytes
  integR : Bytes
  deriving DecidableEq, Repr

/-- `KEYMAT = prf+(SK_d, Ni | Nr)`, cut as `encr_i | integ_i | encr_r | integ_r`. -/
def deriveChildKeys (P : Primitives) (skD ni nr : Bytes) (encrLen integLen : Nat) : ChildKeys :=
  let km := prfPlus P skD (ni ++ nr) (2 * (encrLen + integLen))
  let (encrI, km) := km.splitAt encrLen
  let (integI, km) := km.splitAt integLen
  let (encrR, km) := km.splitAt encrLen
  let (integR, _) := km.splitAt integLen
  { encrI, integI, encrR, integR }

theorem splitSessionKeys_encr_length {km : Bytes} {lengths : KeyLengths}
    (covers : km.length = 3 * lengths.prf + 2 * lengths.integ + 2 * lengths.encr) :
    (splitSessionKeys km lengths).skEi.length = lengths.encr ∧
      (splitSessionKeys km lengths).skEr.length = lengths.encr := by
  simp only [splitSessionKeys, List.splitAt_eq, List.length_take, List.length_drop, covers]
  omega

theorem skEi_length (P : Primitives) (sharedSecret ni nr : Bytes) (spiI spiR : UInt64)
    (lengths : KeyLengths) :
    (deriveSessionKeys P sharedSecret ni nr spiI spiR lengths).skEi.length = lengths.encr :=
  (splitSessionKeys_encr_length (prfPlus_length ..)).1

theorem skEi_take_gcm (P : Primitives) (sharedSecret ni nr : Bytes) (spiI spiR : UInt64) :
    (deriveSessionKeys P sharedSecret ni nr spiI spiR ⟨32, 0, 36⟩).skEi.take 32 =
      prf P (skeyseed P sharedSecret ni nr)
        (blockInput P (skeyseed P sharedSecret ni nr) (keySeed ni nr spiI spiR) 1) := by
  simp only [deriveSessionKeys, splitSessionKeys, List.splitAt_eq]
  rw [prfPlus_eq_blocks P _ _ _ 6 (by omega), blocks, blocks]
  simp only [List.drop_zero, List.take_take, List.drop_take]
  rw [List.drop_left' (prf_length ..), List.take_append_of_le_length (by simp), List.take_of_length_le (by simp)]

theorem deriveChildKeys_lengths (P : Primitives) (skD ni nr : Bytes) (encrLen integLen : Nat) :
    (deriveChildKeys P skD ni nr encrLen integLen).encrI.length = encrLen ∧
      (deriveChildKeys P skD ni nr encrLen integLen).encrR.length = encrLen := by
  simp only [deriveChildKeys, List.splitAt_eq, List.length_take, List.length_drop, prfPlus_length]
  omega

end Ryke.Crypto
