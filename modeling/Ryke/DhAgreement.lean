import Ryke.Lib.Checked
import Ryke.Crypto
import Ryke.Toy

/-! Agreement over the two MODP groups. Public values and shared secrets are residues,
written at the full width of the prime, and the padding that gets them there is never
negative; the power of a power is read back out of its bytes, so that the order of the
two exponents does not matter. -/

namespace Ryke.Crypto
open Lib

/-- `modexp` with its subtraction and its copy: `out[start..].copy_from_slice(&v)`. -/
def modexpRun (base exp prime : Bytes) : Option Bytes :=
  let v := toBytesBe (modPow (ofBytesBe base) (ofBytesBe exp) (ofBytesBe prime))
  if v.length ≤ prime.length then
    let start := prime.length - v.length
    some ((List.replicate prime.length 0).take start ++ v)
  else none

theorem modexp_lt (base exp : Bytes) {prime : Bytes} (positive : 0 < ofBytesBe prime) :
    ofBytesBe (modexp base exp prime) < ofBytesBe prime := by
  rw [ofBytesBe_modexp]
  exact Nat.mod_lt _ positive

theorem modexpRun_eq (base exp : Bytes) {prime : Bytes} (positive : 0 < ofBytesBe prime) :
    modexpRun base exp prime = some (modexp base exp prime) := by
  have below : modPow (ofBytesBe base) (ofBytesBe exp) (ofBytesBe prime) < ofBytesBe prime := by
    rw [modPow_eq]
    exact Nat.mod_lt _ positive
  unfold modexpRun modexp
  dsimp only
  rw [if_pos (toBytesBe_length_le_of_lt below), List.take_replicate, Nat.min_eq_left (Nat.sub_le ..)]

theorem modexpRun_returns {ε : Type} (base exp : Bytes) {prime : Bytes} (positive : 0 < ofBytesBe prime)
    (valid : Bool) (refusal : ε) :
    Checked.Returns
      (if valid then (do return ← modexpRun base exp prime : Checked ε Bytes) else throw refusal)
      (if valid then .ok (modexp base exp prime) else .error refusal) := by
  apply Checked.Returns.branch
  · intro _
    rw [modexpRun_eq base exp positive]
    exact .value _
  · intro _
    exact .error _

theorem modpValid_iff (peer prime : Bytes) :
    modpValid peer prime = true ↔ 2 ≤ ofBytesBe peer ∧ ofBytesBe peer ≤ ofBytesBe prime - 2 := by
  simp only [modpValid, Bool.and_eq_true, decide_eq_true_eq]
  omega

namespace DhGroup

def prime : DhGroup → Bytes
  | .x25519 => []
  | .modp1024 => modp1024Prime
  | .modp2048 => modp2048Prime

def publicRun (P : Primitives) (group : DhGroup) (secret : Bytes) : Option Bytes :=
  match group with
  | .x25519 => (Checked.range secret 0 32).map P.x25519Public
  | .modp1024 => modexpRun [2] secret modp1024Prime
  | .modp2048 => modexpRun [2] secret modp2048Prime

def sharedRun (P : Primitives) (group : DhGroup) (secret peer : Bytes) : Checked IkeError Bytes :=
  if peer.length ≠ group.publicLen then throw (.badKeyExchange group.transformId peer.length)
  else match group with
    | .x25519 => do return P.x25519Shared (← Checked.range secret 0 32) peer
    | .modp1024 =>
        if modpValid peer modp1024Prime then do return ← modexpRun peer secret modp1024Prime
        else throw (.badKeyExchange 2 peer.length)
    | .modp2048 =>
        if modpValid peer modp2048Prime then do return ← modexpRun peer secret modp2048Prime
        else throw (.badKeyExchange 14 peer.length)

section Modp
variable (P : Primitives) {group : DhGroup} (modp : group ≠ .x25519)
include modp

theorem prime_pos : 0 < ofBytesBe group.prime := by
  cases group with
  | x25519 => exact absurd rfl modp
  | modp1024 => exact modp1024Prime_pos
  | modp2048 => exact modp2048Prime_pos

theorem prime_length : group.prime.length = group.publicLen := by
  cases group with
  | x25519 => exact absurd rfl modp
  | modp1024 => exact toBytesBeWidth_length 128 _
  | modp2048 => exact toBytesBeWidth_length 256 _

theorem public_eq (secret : Bytes) : group.public_ P secret = modpPublic secret group.prime := by
  cases group with
  | x25519 => exact absurd rfl modp
  | modp1024 => rfl
  | modp2048 => rfl

theorem agreed_eq (secret peer : Bytes) : group.agreed P secret peer = modpShared secret peer group.prime := by
  cases group with
  | x25519 => exact absurd rfl modp
  | modp1024 => rfl
  | modp2048 => rfl

theorem validPublic_eq (peer : Bytes) : group.validPublic peer = modpValid peer group.prime := by
  cases group with
  | x25519 => exact absurd rfl modp
  | modp1024 => rfl
  | modp2048 => rfl

theorem publicRun_eq (secret : Bytes) : group.publicRun P secret = some (group.public_ P secret) := by
  unfold publicRun public_ modpPublic
  cases group with
  | x25519 => exact absurd rfl modp
  | modp1024 => exact modexpRun_eq [2] secret modp1024Prime_pos
  | modp2048 => exact modexpRun_eq [2] secret modp2048Prime_pos

theorem sharedRun_returns (secret peer : Bytes) :
    Checked.Returns (group.sharedRun P secret peer) (group.shared P secret peer) := by
  unfold sharedRun shared modpShared
  apply Checked.Returns.guard
  intro _
  cases group with
  | x25519 => exact absurd rfl modp
  | modp1024 => exact modexpRun_returns peer secret modp1024Prime_pos _ _
  | modp2048 => exact modexpRun_returns peer secret modp2048Prime_pos _ _

end Modp

/-- Over a MODP group, public values and shared secrets are residues at full width, computed
without a panic whatever the private bytes; the peer values that are accepted are those of
that width in `[2, p-2]`; and two parties that accept each other hold one secret. -/
theorem modp_agreement (P : Primitives) {group : DhGroup} (modp : group ≠ .x25519) :
    (∀ v < ofBytesBe group.prime, (toBytesBe v).length ≤ group.publicLen) ∧
    (∀ secret,
      group.publicRun P secret = some (group.public_ P secret) ∧
      (group.public_ P secret).length = group.publicLen ∧
      ofBytesBe (group.public_ P secret) = 2 ^ ofBytesBe secret % ofBytesBe group.prime ∧
      ofBytesBe (group.public_ P secret) < ofBytesBe group.prime) ∧
    (∀ secret peer, Checked.Returns (group.sharedRun P secret peer) (group.shared P secret peer)) ∧
    (∀ secret peer result, group.shared P secret peer = .ok result →
      result.length = group.publicLen ∧
      ofBytesBe result = ofBytesBe peer ^ ofBytesBe secret % ofBytesBe group.prime ∧
      ofBytesBe result < ofBytesBe group.prime) ∧
    (∀ secret peer, (∃ result, group.shared P secret peer = .ok result) ↔
      peer.length = group.publicLen ∧
        2 ≤ ofBytesBe peer ∧ ofBytesBe peer ≤ ofBytesBe group.prime - 2) ∧
    ∀ a b secretA secretB, group.shared P a (group.public_ P b) = .ok secretA →
      group.shared P b (group.public_ P a) = .ok secretB → secretA = secretB := by
  have positive := prime_pos modp
  have width := prime_length modp
  refine ⟨?_, ?_, ?_, ?_, ?_, ?_⟩
  · intro v below
    rw [← width]
    exact toBytesBe_length_le_of_lt below
  · intro secret
    have value := ofBytesBe_modexp [2] secret group.prime
    refine ⟨publicRun_eq P modp secret, public_length P group secret, ?_, ?_⟩
    · rw [public_eq P modp, modpPublic, value]
      rfl
    · rw [public_eq P modp]
      exact modexp_lt [2] secret positive
  · intro secret peer
    exact sharedRun_returns P modp secret peer
  · intro secret peer result accepted
    have found := (shared_eq_ok accepted).2
    rw [agreed_eq P modp, modpShared] at found
    subst found
    exact ⟨(modexp_length peer secret _ positive).trans width, ofBytesBe_modexp peer secret _,
      modexp_lt peer secret positive⟩
  · intro secret peer
    rw [shared_isOk_iff, validPublic_eq modp, modpValid_iff]
  · intro a b secretA secretB accA accB
    rw [(shared_eq_ok accA).2, (shared_eq_ok accB).2, agreed_eq P modp, agreed_eq P modp,
      public_eq P modp, public_eq P modp]
    exact modpShared_comm a b group.prime

/-- In group 14 the power `2^1` is 2 at full width, and a peer accepts it. -/
theorem modp_agreement_group14 :
    (DhGroup.modp2048.public_ toy [1]).length = 256 ∧ ofBytesBe (DhGroup.modp2048.public_ toy [1]) = 2 ∧
      ∃ secret, DhGroup.modp2048.shared toy [3] (DhGroup.modp2048.public_ toy [1]) = .ok secret := by
  have modp : DhGroup.modp2048 ≠ .x25519 := by decide
  obtain ⟨_, publics, _, _, accepts, _⟩ := modp_agreement toy modp
  obtain ⟨_, width, value, _⟩ := publics [1]
  have large : 4 ≤ ofBytesBe DhGroup.modp2048.prime := by decide +kernel
  have two : ofBytesBe (DhGroup.modp2048.public_ toy [1]) = 2 := value.trans (Nat.mod_eq_of_lt (by
    change 2 ^ 1 < _
    omega))
  refine ⟨width, two, (accepts [3] _).mpr ⟨width, ?_, ?_⟩⟩
  · omega
  · omega

end DhGroup

end Ryke.Crypto
