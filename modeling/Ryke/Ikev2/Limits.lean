import Ryke.Ikev2.Fragment

/-! What the 16-bit fields of an encrypted message can hold. The encoders write lengths,
fragment numbers and totals by their low 16 bits and refuse none of them; the fragment
number also makes the IV. -/

namespace Ryke.Ikev2
open Lib

/-- The length field of an SK or SKF payload, which is the only payload of its message. -/
def payloadLenOf (message : Bytes) : UInt16 := u16At message 30

def ivOf (message : Bytes) : Bytes := slice message 36 44

/-- The length field counts everything behind the IKE header. -/
def LengthExact (message : Bytes) : Prop := (payloadLenOf message).toNat = message.length - IkeHeader.len

/-- The fields of a set of fragments say what is true of it, and no IV occurs twice. -/
structure FragmentsExact (out : List Bytes) : Prop where
  lengths : ∀ message ∈ out, LengthExact message
  numbers : ∀ i (inside : i < out.length), (fragNumOf out[i]).toNat = i + 1
  totals : ∀ message ∈ out, (totalOf message).toNat = out.length
  ivs : out.Pairwise fun first second => ivOf first ≠ ivOf second

theorem toNat_ofNat_eq_iff (n : Nat) : (UInt16.ofNat n).toNat = n ↔ n < 65536 := by
  rw [UInt16.toNat_ofNat']
  omega

/-! ## One Encrypted payload -/

theorem buildEncryptedGcm_layout {P : Primitives} {header : IkeHeader} {firstInner : PayloadType}
    {inner skE message : Bytes} {iv : Iv} (built : buildEncryptedGcm P header firstInner inner skE iv = .ok message) :
    message.length = IkeHeader.len + skPayloadLen inner ∧ payloadLenOf message = UInt16.ofNat (skPayloadLen inner) := by
  refine ⟨buildEncryptedGcm_length built, ?_⟩
  obtain ⟨sealed, sealing, built⟩ := bind_eq_ok built
  cases built
  simp only [payloadLenOf, skAad, IkeHeader.toBytes, u64Bytes, u32Bytes, u16Bytes, u16At, List.cons_append,
    List.nil_append, byteAt_cons_zero, byteAt_cons_succ, be16_split]

theorem lengthExact_iff {P : Primitives} {header : IkeHeader} {firstInner : PayloadType} {inner skE message : Bytes}
    {iv : Iv} (built : buildEncryptedGcm P header firstInner inner skE iv = .ok message) :
    LengthExact message ↔ inner.length ≤ 65506 := by
  obtain ⟨length, field⟩ := buildEncryptedGcm_layout built
  rw [LengthExact, field, length, Nat.add_sub_cancel_left, toNat_ofNat_eq_iff]
  simp only [skPayloadLen, ivLen, icvLen]
  omega

/-! ## Pieces -/

theorem chunksOf_length_le_iff {size : Nat} (positive : 0 < size) {fuel : Nat} {bytes : Bytes}
    (enough : bytes.length ≤ fuel) (n : Nat) : (chunksOf size fuel bytes).length ≤ n ↔ bytes.length ≤ n * size := by
  induction fuel generalizing bytes n with
  | zero =>
    obtain rfl := List.length_eq_zero_iff.mp (Nat.le_zero.mp enough)
    exact ⟨fun _ => Nat.zero_le _, fun _ => Nat.zero_le _⟩
  | succ fuel ih =>
    cases bytes with
    | nil => exact ⟨fun _ => Nat.zero_le _, fun _ => Nat.zero_le _⟩
    | cons b rest =>
      have dropped : ((b :: rest).drop size).length = (b :: rest).length - size := List.length_drop
      rw [List.length_cons] at enough dropped ⊢
      have split : chunksOf size (fuel + 1) (b :: rest) =
          (b :: rest).take size :: chunksOf size fuel ((b :: rest).drop size) := rfl
      rw [split, List.length_cons]
      cases n with
      | zero => omega
      | succ n =>
        have later := ih (by omega : ((b :: rest).drop size).length ≤ fuel) n
        rw [Nat.succ_mul, Nat.add_le_add_iff_right, later]
        omega

theorem length_le_of_mem_chunksOf {size fuel : Nat} {bytes chunk : Bytes} (member : chunk ∈ chunksOf size fuel bytes) :
    chunk.length ≤ min size bytes.length := by
  induction fuel generalizing bytes with
  | zero => cases member
  | succ fuel ih =>
    cases bytes with
    | nil => cases member
    | cons b rest =>
      have split : chunksOf size (fuel + 1) (b :: rest) =
          (b :: rest).take size :: chunksOf size fuel ((b :: rest).drop size) := rfl
      rw [split] at member
      rcases List.mem_cons.mp member with rfl | inRest
      · exact le_of_eq List.length_take
      · have shorter := ih inRest
        rw [List.length_drop] at shorter
        omega

namespace FragmentCall

theorem chunks_length_le_iff {call : FragmentCall} (positive : 0 < call.contentPerFragment) {n : Nat} (some_ : 0 < n) :
    call.chunks.length ≤ n ↔ call.inner.length ≤ n * call.contentPerFragment := by
  unfold chunks
  split
  next empty =>
    rw [List.isEmpty_iff.mp empty]
    exact ⟨fun _ => Nat.zero_le _, fun _ => some_⟩
  next => exact chunksOf_length_le_iff positive le_rfl n

theorem chunks_le_iff (call : FragmentCall) (k : Nat) :
    (∀ chunk ∈ call.chunks, chunk.length ≤ k) ↔ min call.contentPerFragment call.inner.length ≤ k := by
  unfold chunks
  split
  next empty =>
    rw [List.isEmpty_iff.mp empty, List.length_nil, Nat.min_zero]
    constructor
    · intro _
      exact Nat.zero_le k
    · intro _ chunk member
      rw [List.mem_singleton.mp member]
      exact Nat.zero_le k
  next full =>
    constructor
    · intro all
      cases inner : call.inner with
      | nil => rw [inner] at full; exact absurd rfl full
      | cons b rest =>
        rw [inner] at all
        have first := all ((b :: rest).take call.contentPerFragment) List.mem_cons_self
        rwa [List.length_take] at first
    · intro short chunk member
      exact (length_le_of_mem_chunksOf member).trans short

/-! ## Fragments -/

theorem made_getElem {P : Primitives} {skE : Bytes} {call : FragmentCall} {pieces : List Bytes} {start : Nat}
    {out : List Bytes} (built : call.fragments P skE pieces start = .ok out) :
    ∃ same : out.length = pieces.length, ∀ i (inside : i < out.length),
      call.fragment P skE (pieces.get ⟨i, same ▸ inside⟩) (start + i) = .ok out[i] := by
  induction pieces generalizing start out with
  | nil =>
    cases built
    exact ⟨rfl, fun i inside => absurd inside (Nat.not_lt_zero i)⟩
  | cons chunk rest ih =>
    obtain ⟨first, here, built⟩ := bind_eq_ok built
    obtain ⟨later, others, built⟩ := bind_eq_ok built
    cases built
    obtain ⟨same, each⟩ := ih others
    refine ⟨by rw [List.length_cons, List.length_cons, same], fun i inside => ?_⟩
    cases i with
    | zero => exact here
    | succ i =>
      have found := each i (Nat.lt_of_succ_lt_succ inside)
      rwa [Nat.add_assoc, Nat.add_comm 1 i] at found

theorem made_of_buildFragments {P : Primitives} {skE : Bytes} {call : FragmentCall} {out : List Bytes}
    (built : call.buildFragments P skE = .ok out) :
    out.length = call.chunks.length ∧ ∀ i (inside : i < out.length), call.Made P skE i out[i] := by
  obtain ⟨-, built⟩ := guard_eq_ok built
  obtain ⟨same, each⟩ := made_getElem built
  refine ⟨same, fun i inside => ⟨same ▸ inside, ?_⟩⟩
  have found := each i inside
  rwa [Nat.zero_add] at found

theorem Made.layout {P : Primitives} {skE : Bytes} {call : FragmentCall} {index : Nat} {message : Bytes}
    (made : call.Made P skE index message) :
    ∃ inside : index < call.chunks.length,
      message.length = IkeHeader.len + skfPayloadLen call.chunks[index] ∧
      payloadLenOf message = UInt16.ofNat (skfPayloadLen call.chunks[index]) ∧
      ivOf message = (call.iv index).bytes := by
  obtain ⟨inside, built⟩ := made
  obtain ⟨sealed, sealing, built⟩ := bind_eq_ok built
  cases built
  refine ⟨inside, ?_, ?_, ?_⟩
  · rw [List.length_append, aad_length, List.length_append, (call.iv index).size, gcmSeal_length sealing,
      List.length_append, List.length_singleton]
    simp only [skfPayloadLen, skfExtra, ivLen]
    omega
  · simp only [payloadLenOf, aad, IkeHeader.toBytes, u64Bytes, u32Bytes, u16Bytes, u16At, List.cons_append,
      List.nil_append, byteAt_cons_zero, byteAt_cons_succ, be16_split]
  · exact slice_append_mid rfl (by rw [aad_length, (call.iv index).size]; rfl)

/-- Two pieces get the same IV where their numbers agree in the low 16 bits. -/
theorem iv_eq_iff (call : FragmentCall) (i j : Nat) :
    (call.iv i).bytes = (call.iv j).bytes ↔ (i + 1) % 65536 = (j + 1) % 65536 := by
  constructor
  · intro same
    have sums := (UInt64.add_right_inj _).mp (u64Bytes_injective same)
    have numbers := congrArg UInt64.toNat sums
    simpa [fragNum] using numbers
  · intro same
    have numbers : fragNum i = fragNum j := by
      rw [fragNum, fragNum, ← UInt16.toNat_inj, UInt16.toNat_ofNat', UInt16.toNat_ofNat']
      exact same
    rw [iv, iv, numbers]

theorem ivs_pairwise_iff {P : Primitives} {skE : Bytes} {call : FragmentCall} {out : List Bytes}
    (built : call.buildFragments P skE = .ok out) :
    (out.Pairwise fun first second => ivOf first ≠ ivOf second) ↔ call.chunks.length ≤ 65536 := by
  obtain ⟨same, made⟩ := made_of_buildFragments built
  rw [List.pairwise_iff_getElem, ← same]
  constructor
  · intro distinct
    by_contra many
    have first := made 0 (by omega)
    have again := made 65536 (by omega)
    apply distinct 0 65536 (by omega) (by omega) (by decide)
    rw [first.layout.2.2.2, again.layout.2.2.2, iv_eq_iff]
  · intro few i j iInside jInside before repeated
    rw [(made i iInside).layout.2.2.2, (made j jInside).layout.2.2.2, iv_eq_iff] at repeated
    omega

theorem fragmentsExact_iff {P : Primitives} {skE : Bytes} {call : FragmentCall} {out : List Bytes}
    (built : call.buildFragments P skE = .ok out) :
    FragmentsExact out ↔ call.inner.length ≤ 65535 * call.contentPerFragment ∧
      min call.contentPerFragment call.inner.length ≤ 65502 := by
  have positive := (buildFragments_eq_ok built).1
  obtain ⟨same, made⟩ := made_of_buildFragments built
  rw [← chunks_length_le_iff positive (by decide), ← chunks_le_iff]
  have size : ∀ chunk : Bytes, skfPayloadLen chunk < 65536 ↔ chunk.length ≤ 65502 := by
    intro chunk
    simp only [skfPayloadLen, skfExtra, ivLen, icvLen]
    omega
  have lengthAt : ∀ i (inside : i < out.length) (isChunk : i < call.chunks.length),
      LengthExact out[i] ↔ call.chunks[i].length ≤ 65502 := by
    intro i inside isChunk
    obtain ⟨_, length, field, -⟩ := (made i inside).layout
    rw [LengthExact, field, length, Nat.add_sub_cancel_left, toNat_ofNat_eq_iff, size]
  constructor
  · intro fields
    constructor
    · have some_ : 0 < out.length := same ▸ List.length_pos_iff.mpr call.chunks_ne_nil
      have fits := fields.totals out[0] (List.getElem_mem some_)
      rw [(made 0 some_).fields.2.2, same, total, toNat_ofNat_eq_iff] at fits
      omega
    · intro chunk member
      obtain ⟨i, inside, rfl⟩ := List.getElem_of_mem member
      have atI : i < out.length := same ▸ inside
      exact (lengthAt i atI inside).mp (fields.lengths _ (List.getElem_mem atI))
  · rintro ⟨few, short⟩
    refine ⟨?_, ?_, ?_, (ivs_pairwise_iff built).mpr (by omega)⟩
    · intro message member
      obtain ⟨i, inside, rfl⟩ := List.getElem_of_mem member
      have isChunk : i < call.chunks.length := same ▸ inside
      exact (lengthAt i inside isChunk).mpr (short _ (List.getElem_mem isChunk))
    · intro i inside
      rw [(made i inside).fields.2.1, fragNum, toNat_ofNat_eq_iff]
      omega
    · intro message member
      obtain ⟨i, inside, rfl⟩ := List.getElem_of_mem member
      rw [(made i inside).fields.2.2, same, total, toNat_ofNat_eq_iff]
      omega

end FragmentCall

/-- The fields are exact, and the IVs different, exactly within these sizes. -/
theorem encoders_exact_iff (P : Primitives) (skE : Bytes) :
    (∀ header firstInner inner iv message, buildEncryptedGcm P header firstInner inner skE iv = .ok message →
      (LengthExact message ↔ inner.length ≤ 65506)) ∧
    ∀ (call : FragmentCall) out, call.buildFragments P skE = .ok out →
      (FragmentsExact out ↔ call.inner.length ≤ 65535 * call.contentPerFragment ∧
        min call.contentPerFragment call.inner.length ≤ 65502) := by
  constructor
  · intro header firstInner inner iv message built
    exact lengthExact_iff built
  · intro call out built
    exact call.fragmentsExact_iff built

namespace Toy
open Ryke.Toy

def longCall : FragmentCall := ⟨fragmentHeader 1, .idInitiator, List.replicate 65537 0, 10, 1⟩

end Toy

theorem encoders_exact_iff_firstCall :
    (∃ message, buildEncryptedGcm Ryke.Toy.toyMac (Toy.fragmentHeader 1) .idInitiator [1, 2, 3] Toy.fragmentKey
      (.ofU64 1) = .ok message ∧ LengthExact message) ∧
      ∃ out, Toy.firstCall.buildFragments Ryke.Toy.toyMac Toy.fragmentKey = .ok out ∧ FragmentsExact out := by
  have limits := encoders_exact_iff Ryke.Toy.toyMac Toy.fragmentKey
  have whole : (buildEncryptedGcm Ryke.Toy.toyMac (Toy.fragmentHeader 1) .idInitiator [1, 2, 3] Toy.fragmentKey
      (.ofU64 1)).isOk = true := rfl
  have cut : (Toy.firstCall.buildFragments Ryke.Toy.toyMac Toy.fragmentKey).isOk = true := rfl
  obtain ⟨message, built⟩ := exists_of_isOk whole
  obtain ⟨out, fragmented⟩ := exists_of_isOk cut
  exact ⟨⟨message, built, (limits.1 _ _ _ _ _ built).mpr (by decide)⟩,
    out, fragmented, (limits.2 _ _ fragmented).mpr (by decide)⟩

/-- Past the limits both encoders still return a result: a length that is not that of the
payload, and the same IV twice. -/
theorem encoders_wrap :
    (¬ ∀ header firstInner inner skE iv message,
        buildEncryptedGcm Ryke.Toy.toyMac header firstInner inner skE iv = .ok message → LengthExact message) ∧
      ¬ ∀ skE (call : FragmentCall) out, call.buildFragments Ryke.Toy.toyMac skE = .ok out →
        out.Pairwise fun first second => ivOf first ≠ ivOf second := by
  constructor
  · intro always
    have long : (List.replicate 65507 (0 : UInt8)).length = 65507 := List.length_replicate
    obtain ⟨message, built⟩ : ∃ message, buildEncryptedGcm Ryke.Toy.toyMac (Toy.fragmentHeader 1) .idInitiator
        (List.replicate 65507 0) Toy.fragmentKey (.ofU64 1) = .ok message := ⟨_, rfl⟩
    have short := (lengthExact_iff built).mp (always _ _ _ _ _ _ built)
    omega
  · intro distinct
    have long : Toy.longCall.inner.length = 65537 := List.length_replicate
    have sizes : ∀ chunk ∈ Toy.longCall.chunks, FragmentCall.skfPayloadLen chunk < 65536 := by
      intro chunk member
      have short := (Toy.longCall.chunks_le_iff 1).mpr (Nat.min_le_left 1 _) chunk member
      simp only [FragmentCall.skfPayloadLen, skfExtra, ivLen, icvLen]
      omega
    obtain ⟨out, built⟩ := Toy.longCall.exists_fragments Ryke.Toy.toyMac_gcmSeals
      (show Toy.fragmentKey.length = 36 from rfl) sizes 0
    have one : Toy.longCall.contentPerFragment = 1 := rfl
    have some_ : ¬ Toy.longCall.contentPerFragment = 0 := by omega
    have fragmented : Toy.longCall.buildFragments Ryke.Toy.toyMac Toy.fragmentKey = .ok out := (if_neg some_).trans built
    have few := (FragmentCall.ivs_pairwise_iff fragmented).mp (distinct _ _ _ fragmented)
    have fits := (FragmentCall.chunks_length_le_iff (Nat.pos_of_ne_zero some_) (Nat.succ_pos 65535)).mp few
    rw [long, one] at fits
    omega

end Ryke.Ikev2
