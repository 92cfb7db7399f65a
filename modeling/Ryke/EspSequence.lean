import Ryke.Esp
import Ryke.Toy

/-! The sequence numbers of one ESP SA over its whole life. Packet number `k` carries
`k` on the wire and in its IV until the counter is used up; from then on nothing is
sealed and nothing changes. -/

namespace Ryke
open Lib

def Primitives.Seals (P : Primitives) (admissible : Nat → Prop) : Prop :=
  ∀ key nonce aad msg, key.length = 32 → nonce.length = 12 → admissible msg.length →
    (P.gcmEncrypt key nonce aad msg).isSome = true

namespace EspSa

inductive Request where
  | seal_ (inner : Bytes) (nextHeader : UInt8)
  | open_ (packet : Bytes)

inductive Answer where
  | sealed (packet : Result Bytes)
  | opened (inner : Result (Bytes × UInt8))

def device (P : Primitives) : Machine EspSa Request Answer := fun self request =>
  match request with
  | .seal_ inner nextHeader => (.sealed (self.seal_ P inner nextHeader).1, (self.seal_ P inner nextHeader).2)
  | .open_ packet => (.opened (self.open_ P packet), self)

def sealCount : List Request → Nat
  | [] => 0
  | .seal_ _ _ :: rest => sealCount rest + 1
  | .open_ _ :: rest => sealCount rest

def wireSeq (packet : Bytes) : UInt32 := u32At packet 4
def wireIv (packet : Bytes) : Bytes := slice packet 8 16

def numbered (self : EspSa) (k : Nat) : EspSa := { self with seq := UInt32.ofNat (min k (2 ^ 32 - 1)) }

@[simp] theorem numbered_spi (self : EspSa) (k : Nat) : (self.numbered k).spi = self.spi := rfl
@[simp] theorem numbered_key (self : EspSa) (k : Nat) : (self.numbered k).key = self.key := rfl
@[simp] theorem numbered_salt (self : EspSa) (k : Nat) : (self.numbered k).salt = self.salt := rfl

theorem numbered_seq (self : EspSa) (k : Nat) : (self.numbered k).seq.toNat = min k (2 ^ 32 - 1) := by
  change (UInt32.ofNat (min k (2 ^ 32 - 1))).toNat = _
  rw [UInt32.toNat_ofNat']
  omega

theorem numbered_exhausted {k : Nat} (large : 2 ^ 32 ≤ k + 1) (self : EspSa) :
    self.numbered (k + 1) = self.numbered k := by
  have same : min (k + 1) (2 ^ 32 - 1) = min k (2 ^ 32 - 1) := by omega
  rw [numbered, numbered, same]

theorem new_eq_ok {spi : UInt32} {material : Bytes} {sa : EspSa} (fresh : new spi material = .ok sa) :
    sa.spi = spi ∧ sa.seq = 0 := by
  unfold new at fresh
  split at fresh
  next =>
    cases fresh
    exact ⟨rfl, rfl⟩
  next => cases fresh

theorem numbered_zero {sa : EspSa} (unused : sa.seq = 0) : sa.numbered 0 = sa := by
  cases sa
  cases unused
  rfl

theorem sealCount_append (front back : List Request) :
    sealCount (front ++ back) = sealCount front + sealCount back := by
  induction front with
  | nil => exact (Nat.zero_add _).symm
  | cons request rest ih =>
    cases request with
    | seal_ inner nextHeader =>
      change sealCount (rest ++ back) + 1 = sealCount rest + 1 + sealCount back
      omega
    | open_ packet => exact ih

theorem sealCount_concat_seal (requests : List Request) (inner : Bytes) (nextHeader : UInt8) :
    sealCount (requests ++ [.seal_ inner nextHeader]) = sealCount requests + 1 :=
  sealCount_append requests [.seal_ inner nextHeader]

/-! ## One call -/

theorem seq_add_one (self : EspSa) {k : Nat} (small : k + 1 < 2 ^ 32) :
    (self.numbered k).seq ≠ 0xFFFFFFFF ∧ (self.numbered k).seq + 1 = (self.numbered (k + 1)).seq := by
  have now := self.numbered_seq k
  have next := self.numbered_seq (k + 1)
  constructor
  · intro full
    rw [full] at now
    simp at now
    omega
  · apply UInt32.toNat.inj
    rw [UInt32.toNat_add, now, next, UInt32.toNat_one]
    omega

theorem seal_numbered {P : Primitives} {self : EspSa} {k : Nat} (small : k + 1 < 2 ^ 32) (inner : Bytes)
    (nextHeader : UInt8) :
    (self.numbered k).seal_ P inner nextHeader =
      ((do
        let header := u32Bytes self.spi ++ u32Bytes (UInt32.ofNat (k + 1))
        let ctAndTag ← okOr (P.gcmEncrypt self.key (self.salt ++ u64Bytes (UInt64.ofNat (k + 1))) header
          (pad inner nextHeader)) (.crypto "ESP encryption failed")
        .ok (header ++ u64Bytes (UInt64.ofNat (k + 1)) ++ ctAndTag)),
      self.numbered (k + 1)) := by
  obtain ⟨room, next⟩ := seq_add_one self small
  have value : (self.numbered (k + 1)).seq = UInt32.ofNat (k + 1) := by
    rw [numbered, Nat.min_eq_left (by omega)]
  have wide : (UInt32.ofNat (k + 1)).toUInt64 = UInt64.ofNat (k + 1) := by
    apply UInt64.toNat.inj
    rw [UInt32.toNat_toUInt64, UInt32.toNat_ofNat', UInt64.toNat_ofNat']
    omega
  rw [seal_, if_neg room]
  dsimp only
  rw [next]
  unfold iv nonce
  rw [← wide, ← value]
  rfl

theorem seal_exhausted (P : Primitives) (self : EspSa) {k : Nat} (large : 2 ^ 32 ≤ k + 1) (inner : Bytes)
    (nextHeader : UInt8) :
    (self.numbered k).seal_ P inner nextHeader =
      (.error (.crypto "ESP sequence number exhausted; rekey required"), self.numbered k) := by
  have full : (self.numbered k).seq = 0xFFFFFFFF := by
    apply UInt32.toNat.inj
    rw [numbered_seq]
    change min k (2 ^ 32 - 1) = 4294967295
    omega
  rw [seal_, if_pos full]

theorem seal_numbered_after (P : Primitives) (self : EspSa) (k : Nat) (inner : Bytes) (nextHeader : UInt8) :
    ((self.numbered k).seal_ P inner nextHeader).2 = self.numbered (k + 1) := by
  by_cases small : k + 1 < 2 ^ 32
  · rw [seal_numbered small]
  · rw [seal_exhausted _ _ (Nat.le_of_not_lt small), numbered_exhausted (Nat.le_of_not_lt small)]

theorem packet_fields {self : EspSa} {k : Nat} (small : k < 2 ^ 32) (sealed : Bytes) :
    (wireSeq (u32Bytes self.spi ++ u32Bytes (UInt32.ofNat k) ++ u64Bytes (UInt64.ofNat k) ++ sealed)).toNat = k ∧
      wireIv (u32Bytes self.spi ++ u32Bytes (UInt32.ofNat k) ++ u64Bytes (UInt64.ofNat k) ++ sealed) =
        u64Bytes (UInt64.ofNat k) := by
  constructor
  · have read : wireSeq (u32Bytes self.spi ++ u32Bytes (UInt32.ofNat k) ++ u64Bytes (UInt64.ofNat k) ++ sealed) =
        UInt32.ofNat k := be32_split _
    rw [read, UInt32.toNat_ofNat']
    omega
  · rw [wireIv, List.append_assoc]
    exact slice_append_mid rfl rfl

theorem seal_numbered_eq_ok {P : Primitives} {self : EspSa} {k : Nat} {inner packet : Bytes} {nextHeader : UInt8}
    (done : ((self.numbered k).seal_ P inner nextHeader).1 = .ok packet) :
    k + 1 < 2 ^ 32 ∧ (wireSeq packet).toNat = k + 1 ∧ wireIv packet = u64Bytes (UInt64.ofNat (k + 1)) := by
  by_cases small : k + 1 < 2 ^ 32
  · rw [seal_numbered small] at done
    obtain ⟨sealed, -, done⟩ := bind_eq_ok done
    cases done
    exact ⟨small, packet_fields small sealed⟩
  · rw [seal_exhausted _ _ (Nat.le_of_not_lt small)] at done
    cases done

theorem exists_seal_numbered (self : EspSa) {P : Primitives} {admissible : Nat → Prop} (seals : P.Seals admissible)
    {k : Nat} (small : k + 1 < 2 ^ 32) {inner : Bytes} {nextHeader : UInt8}
    (fits : admissible (pad inner nextHeader).length) :
    ∃ packet, ((self.numbered k).seal_ P inner nextHeader).1 = .ok packet := by
  have nonce : (self.salt ++ u64Bytes (UInt64.ofNat (k + 1))).length = 12 := by
    rw [List.length_append, self.salt_length]
    rfl
  obtain ⟨sealed, encrypted⟩ := Option.isSome_iff_exists.mp
    (seals self.key _ (u32Bytes self.spi ++ u32Bytes (UInt32.ofNat (k + 1))) _ self.key_length nonce fits)
  rw [seal_numbered small]
  dsimp only
  rw [encrypted, okOr_some, ok_bind]
  exact ⟨_, rfl⟩

/-! ## Whole runs -/

/-- Only the number of `seal` calls matters to the SA, whatever was opened in between. -/
theorem device_final (P : Primitives) {sa : EspSa} (unused : sa.seq = 0) (requests : List Request) :
    (device P).final sa requests = sa.numbered (sealCount requests) := by
  induction requests using List.reverseRecOn with
  | nil => exact (numbered_zero unused).symm
  | append_singleton requests request ih =>
    rw [Machine.final_append, ih, sealCount_append]
    cases request with
    | seal_ inner nextHeader => exact seal_numbered_after P sa _ inner nextHeader
    | open_ packet => rfl

theorem device_seal (P : Primitives) {sa : EspSa} (unused : sa.seq = 0) {requests : List Request} {i : Nat}
    {inner : Bytes} {nextHeader : UInt8} (asked : requests[i]? = some (.seal_ inner nextHeader)) :
    ((device P).calls sa requests)[i]? =
      some ((device P).call (sa.numbered (sealCount (requests.take i))) (.seal_ inner nextHeader)) := by
  rw [Machine.getElem?_calls, asked, device_final P unused]
  rfl

theorem device_sealed {P : Primitives} {sa : EspSa} (unused : sa.seq = 0) {requests : List Request} {i : Nat}
    {made : Call EspSa Request Answer} (isCall : ((device P).calls sa requests)[i]? = some made) {packet : Bytes}
    (sealed : made.output = .sealed (.ok packet)) :
    ∃ inner nextHeader, requests[i]? = some (.seal_ inner nextHeader) ∧
      sealCount (requests.take i) + 1 < 2 ^ 32 ∧
      wireIv packet = u64Bytes (UInt64.ofNat (sealCount (requests.take i) + 1)) := by
  rw [Machine.getElem?_calls] at isCall
  obtain ⟨request, asked, isCall⟩ := Option.map_eq_some_iff.mp isCall
  subst isCall
  rw [device_final P unused] at sealed
  cases request with
  | seal_ inner nextHeader =>
    obtain ⟨small, -, iv⟩ := seal_numbered_eq_ok (Answer.sealed.inj sealed)
    exact ⟨inner, nextHeader, asked, small, iv⟩
  | open_ packet => cases sealed

theorem sealCount_take_lt {requests : List Request} {i j : Nat} (before : i < j) {inner : Bytes}
    {nextHeader : UInt8} (asked : requests[i]? = some (.seal_ inner nextHeader)) :
    sealCount (requests.take i) < sealCount (requests.take j) := by
  have upTo : requests.take (i + 1) = requests.take i ++ [.seal_ inner nextHeader] := by
    rw [List.take_add_one, asked]
    rfl
  have split : requests.take j = requests.take (i + 1) ++ (requests.take j).drop (i + 1) := by
    conv_lhs => rw [← List.take_append_drop (i + 1) (requests.take j)]
    rw [List.take_take, Nat.min_eq_left before]
  rw [split, sealCount_append, upTo, sealCount_concat_seal]
  omega

/-- The number that a wire IV spells out. -/
def ivNumber (iv : Bytes) : Nat := (u64At iv 0).toNat

theorem ivNumber_u64Bytes {k : Nat} (small : k < 2 ^ 32) : ivNumber (u64Bytes (UInt64.ofNat k)) = k := by
  have read : u64At (u64Bytes (UInt64.ofNat k)) 0 = UInt64.ofNat k := be64_split _
  rw [ivNumber, read, UInt64.toNat_ofNat']
  omega

/-- Over the life of an SA the `k`-th `seal` is packet `k`, sealed with IV `k`, until the
numbers run out; from then on it refuses and changes nothing, and `open` never does. -/
theorem seal_sequence (P : Primitives) (admissible : Nat → Prop) (seals : P.Seals admissible) (spi : UInt32)
    (material : Bytes) (sa : EspSa) (fresh : EspSa.new spi material = .ok sa) (requests : List Request) :
    (∀ (i : Nat) inner nextHeader, requests[i]? = some (.seal_ inner nextHeader) →
      ∃ made, ((device P).calls sa requests)[i]? = some made ∧
        (sealCount (requests.take i) + 1 < 2 ^ 32 → admissible (pad inner nextHeader).length →
          ∃ packet, made.output = .sealed (.ok packet) ∧
            (wireSeq packet).toNat = sealCount (requests.take i) + 1 ∧
            wireIv packet = u64Bytes (UInt64.ofNat (sealCount (requests.take i) + 1))) ∧
        (2 ^ 32 ≤ sealCount (requests.take i) + 1 →
          (∃ error, made.output = .sealed (.error error)) ∧ made.after = made.before)) ∧
    (∀ (i j : Nat) earlier later first second, i < j →
      ((device P).calls sa requests)[i]? = some earlier → earlier.output = .sealed (.ok first) →
      ((device P).calls sa requests)[j]? = some later → later.output = .sealed (.ok second) →
        wireIv first ≠ wireIv second ∧ ivNumber (wireIv first) < ivNumber (wireIv second)) ∧
    (∀ (i : Nat) packet, requests[i]? = some (.open_ packet) →
      ∃ made, ((device P).calls sa requests)[i]? = some made ∧ made.after = made.before) := by
  obtain ⟨-, unused⟩ := new_eq_ok fresh
  refine ⟨?_, ?_, ?_⟩
  · intro i inner nextHeader asked
    refine ⟨_, device_seal P unused asked, ?_, ?_⟩
    · intro small fits
      obtain ⟨packet, done⟩ := exists_seal_numbered sa seals small fits
      obtain ⟨-, number, iv⟩ := seal_numbered_eq_ok done
      exact ⟨packet, congrArg Answer.sealed done, number, iv⟩
    · intro large
      have refused := seal_exhausted P sa large inner nextHeader
      exact ⟨⟨_, congrArg Answer.sealed (congrArg Prod.fst refused)⟩, congrArg Prod.snd refused⟩
  · intro i j earlier later first second before atI sealedFirst atJ sealedSecond
    obtain ⟨inner, nextHeader, asked, smallI, ivI⟩ := device_sealed unused atI sealedFirst
    obtain ⟨-, -, -, smallJ, ivJ⟩ := device_sealed unused atJ sealedSecond
    have more := sealCount_take_lt before asked
    have grows : ivNumber (wireIv first) < ivNumber (wireIv second) := by
      rw [ivI, ivJ, ivNumber_u64Bytes smallI, ivNumber_u64Bytes smallJ]
      omega
    refine ⟨?_, grows⟩
    intro same
    rw [same] at grows
    exact Nat.lt_irrefl _ grows
  · intro i packet asked
    refine ⟨(device P).call ((device P).final sa (requests.take i)) (.open_ packet), ?_, rfl⟩
    rw [Machine.getElem?_calls, asked]
    rfl

namespace Toy
open Ryke.Toy

def material : Bytes := [1, 2] ++ List.replicate 34 0

def requests : List Request := [.seal_ [1, 2, 3] 4, .open_ [], .seal_ [] 41]

end Toy

theorem seal_sequence_second :
    ∃ made packet, ((device Ryke.Toy.toyMac).calls (ofMaterial 7 Toy.material rfl) Toy.requests)[2]? = some made ∧
      made.output = .sealed (.ok packet) ∧ (wireSeq packet).toNat = 2 ∧ wireIv packet = u64Bytes 2 := by
  obtain ⟨each, -, -⟩ := seal_sequence Ryke.Toy.toyMac (· < 65536) Ryke.Toy.toyMac_gcmSeals 7 Toy.material
    (ofMaterial 7 Toy.material rfl) rfl Toy.requests
  obtain ⟨made, isCall, sealed, -⟩ := each 2 [] 41 rfl
  obtain ⟨packet, done, number, iv⟩ := sealed (by decide) (by decide)
  exact ⟨made, packet, isCall, done, number, iv⟩

end EspSa

end Ryke
