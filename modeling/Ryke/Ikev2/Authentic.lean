import Mathlib.Data.Set.Basic
import Ryke.Ikev2.Fragment
import Ryke.Lib.Table

/-! What opens under one `SK_e` is what was sealed under it. Every byte that the two
openers act on is in the nonce, the associated data or the ciphertext, and the
associated data of an SK payload and of a fragment differ in length. -/

namespace Ryke.Ikev2
open Lib

structure SkCall where
  header : IkeHeader
  firstInner : PayloadType
  inner : Bytes
  iv : Iv
  deriving DecidableEq

namespace SkCall

def build (P : Primitives) (skE : Bytes) (call : SkCall) : Result Bytes :=
  buildEncryptedGcm P call.header call.firstInner call.inner skE call.iv

def aad (call : SkCall) : Bytes := skAad call.header call.firstInner call.inner

end SkCall

/-- Nonce, associated data and ciphertext of an encryption under `SK_e` that one of the
calls made, with the plaintext. -/
inductive Produced (P : Primitives) (skE : Bytes) (sk : Set SkCall) (skf : Set FragmentCall) :
    Bytes → Bytes → Bytes → Bytes → Prop where
  | sk (call : SkCall) (member : call ∈ sk) (sealed : Bytes)
      (encrypted : P.gcmEncrypt (skE.take 32) (skE.drop 32 ++ call.iv.bytes) call.aad (call.inner ++ [0]) =
        some sealed) :
      Produced P skE sk skf (skE.drop 32 ++ call.iv.bytes) call.aad sealed (call.inner ++ [0])
  | skf (call : FragmentCall) (member : call ∈ skf) (out : List Bytes)
      (built : call.buildFragments P skE = .ok out) (index : Nat) (inside : index < call.chunks.length)
      (sealed : Bytes)
      (encrypted : P.gcmEncrypt (skE.take 32) (skE.drop 32 ++ (call.iv index).bytes)
        (call.aad call.chunks[index] index) (call.chunks[index] ++ [0]) = some sealed) :
      Produced P skE sk skf (skE.drop 32 ++ (call.iv index).bytes) (call.aad call.chunks[index] index) sealed
        (call.chunks[index] ++ [0])

/-- Decryption under the key of `SK_e` succeeds exactly on what the calls encrypted, and
gives the plaintext back. -/
def DecryptsExactly (P : Primitives) (skE : Bytes) (sk : Set SkCall) (skf : Set FragmentCall) : Prop :=
  ∀ nonce aad sealed plaintext, P.gcmDecrypt (skE.take 32) nonce aad sealed = some plaintext ↔
    Produced P skE sk skf nonce aad sealed plaintext

/-- A message up to the end that its first payload declares. -/
def declaredPart (message : Bytes) : Bytes :=
  message.take (IkeHeader.len + (u16At (message.drop IkeHeader.len) 2).toNat)

/-! ## SK payloads -/

theorem openEncryptedGcm_authentic {P : Primitives} {skE : Bytes} {sk : Set SkCall} {skf : Set FragmentCall}
    (exactly : DecryptsExactly P skE sk skf) {message inner : Bytes} {first : PayloadType}
    (opened : openEncryptedGcm P message skE = .ok (first, inner)) :
    ∃ call ∈ sk, call.build P skE = .ok (declaredPart message) ∧ first = .fromU8 call.firstInner.toU8 ∧
      inner = call.inner := by
  obtain ⟨declared, plaintext, isDeclared, least, most, decrypted, padding, isFirst⟩ := openEncryptedGcm_eq_ok opened
  obtain ⟨size, decrypted⟩ := gcmOpen_eq_ok decrypted
  have produced := (exactly _ _ _ _).mp decrypted
  generalize isAad : message.take (IkeHeader.len + 4) = aad at produced
  generalize isNonce : skE.drop 32 ++ (slice (message.drop IkeHeader.len) 4 declared).take ivLen = nonce at produced
  generalize isSealed : (slice (message.drop IkeHeader.len) 4 declared).drop ivLen = sealed at produced
  cases produced with
  | sk call member sealed encrypted =>
    have sameIv := List.append_cancel_left isNonce
    have whole : declaredPart message = call.aad ++ (call.iv.bytes ++ sealed) := by
      rw [declaredPart, ← isDeclared, take_add_slice message (by omega : 4 ≤ declared), isAad, ← sameIv, ← isSealed,
        List.take_append_drop]
    refine ⟨call, member, ?_, ?_, ?_⟩
    · have sealing := gcmSeal_of_encrypt size encrypted
      rw [whole, SkCall.build, buildEncryptedGcm, ← SkCall.aad, sealing]
      rfl
    · rw [isFirst, eq_take_append isAad]
      rfl
    · rw [stripPadding_zero] at padding
      exact (Except.ok.inj padding).symm
  | skf call member out built index inside sealed encrypted =>
    have long := congrArg List.length isAad
    rw [List.length_take, FragmentCall.aad_length] at long
    simp only [skfExtra] at long
    omega

/-- The outputs of the two builders are told apart by the Next Payload of the header. -/
theorem built_not_mem_fragments {P : Primitives} {skE message : Bytes} {call : SkCall}
    (built : call.build P skE = .ok message) {other : FragmentCall} {out : List Bytes}
    (fragments : other.buildFragments P skE = .ok out) : message ∉ out := by
  intro member
  obtain ⟨index, inside, made⟩ := (FragmentCall.buildFragments_eq_ok fragments).2 message member
  obtain ⟨sealed, -, built⟩ := bind_eq_ok built
  obtain ⟨sealed', -, made⟩ := bind_eq_ok made
  cases built
  have kind : byteAt (skAad call.header call.firstInner call.inner ++ (call.iv.bytes ++ sealed)) 16 = 46 := rfl
  rw [← Except.ok.inj made] at kind
  exact absurd kind (by decide : (53 : UInt8) ≠ 46)

/-! ## Fragments -/

theorem openFragment_eq_ok {P : Primitives} {message skE : Bytes} {fragment : Fragment}
    (opened : openFragment P message skE = .ok fragment) :
    ∃ declared plaintext, declared = (u16At (message.drop IkeHeader.len) 2).toNat ∧
      4 + skfMinBody ≤ declared ∧ declared ≤ (message.drop IkeHeader.len).length ∧
      gcmOpen P skE (slice (message.drop IkeHeader.len) 8 16) (message.take (IkeHeader.len + 4 + skfExtra))
        (slice (message.drop IkeHeader.len) 16 declared) = .ok plaintext ∧
      stripPadding "empty fragment" "pad length exceeds fragment" plaintext = .ok fragment.content ∧
      fragment.fragNum = u16At (message.drop IkeHeader.len) 4 ∧ fragment.total = u16At (message.drop IkeHeader.len) 6 ∧
      fragment.nextPayload = byteAt (message.drop IkeHeader.len) 0 := by
  unfold openFragment at opened
  obtain ⟨header, _, opened⟩ := bind_eq_ok opened
  obtain ⟨encrypted, opened⟩ := guard_eq_ok opened
  obtain ⟨long, opened⟩ := guard_eq_ok opened
  obtain ⟨sized, opened⟩ := guard_eq_ok opened
  obtain ⟨plaintext, decrypted, opened⟩ := bind_eq_ok opened
  obtain ⟨content, padding, opened⟩ := bind_eq_ok opened
  cases opened
  exact ⟨_, plaintext, rfl, by omega, by omega, decrypted, padding, rfl, rfl, rfl⟩

theorem fragments_getElem? {P : Primitives} {skE : Bytes} {call : FragmentCall} {pieces : List Bytes} {start : Nat}
    {out : List Bytes} (built : call.fragments P skE pieces start = .ok out) {i : Nat} (inside : i < pieces.length)
    {message : Bytes} (made : call.fragment P skE pieces[i] (start + i) = .ok message) : out[i]? = some message := by
  induction pieces generalizing start out i with
  | nil => cases inside
  | cons chunk rest ih =>
    obtain ⟨first, here, built⟩ := bind_eq_ok built
    obtain ⟨later, others, built⟩ := bind_eq_ok built
    cases built
    cases i with
    | zero =>
      rw [List.getElem_cons_zero, Nat.add_zero, here] at made
      cases made
      rfl
    | succ i =>
      rw [List.getElem?_cons_succ]
      apply ih others (Nat.lt_of_succ_lt_succ inside)
      rw [List.getElem_cons_succ] at made
      rw [Nat.add_assoc, Nat.add_comm 1 i]
      exact made

theorem buildFragments_getElem? {P : Primitives} {skE : Bytes} {call : FragmentCall} {out : List Bytes}
    (built : call.buildFragments P skE = .ok out) {i : Nat} (inside : i < call.chunks.length) {message : Bytes}
    (made : call.fragment P skE call.chunks[i] i = .ok message) : out[i]? = some message := by
  obtain ⟨few, built⟩ := guard_eq_ok built
  apply fragments_getElem? built inside
  rw [Nat.zero_add]
  exact made

theorem openFragment_authentic {P : Primitives} {skE : Bytes} {sk : Set SkCall} {skf : Set FragmentCall}
    (exactly : DecryptsExactly P skE sk skf) {message : Bytes} {fragment : Fragment}
    (opened : openFragment P message skE = .ok fragment) :
    ∃ call ∈ skf, ∃ out, call.buildFragments P skE = .ok out ∧
      ∃ index, ∃ inside : index < call.chunks.length, out[index]? = some (declaredPart message) ∧
        fragment = call.fragmentAt call.chunks[index] index := by
  obtain ⟨declared, plaintext, isDeclared, least, most, decrypted, padding, isNum, isTotal, isNext⟩ :=
    openFragment_eq_ok opened
  obtain ⟨size, decrypted⟩ := gcmOpen_eq_ok decrypted
  have long : IkeHeader.len + 4 + skfExtra ≤ message.length := by
    rw [List.length_drop] at most
    simp only [skfMinBody, skfExtra, ivLen, icvLen] at least ⊢
    omega
  have produced := (exactly _ _ _ _).mp decrypted
  generalize isAad : message.take (IkeHeader.len + 4 + skfExtra) = aad at produced
  generalize isNonce : skE.drop 32 ++ slice (message.drop IkeHeader.len) 8 16 = nonce at produced
  generalize isSealed : slice (message.drop IkeHeader.len) 16 declared = sealed at produced
  cases produced with
  | sk call member sealed encrypted =>
    have short := congrArg List.length isAad
    rw [List.length_take, Nat.min_eq_left long, SkCall.aad, skAad_length] at short
    exact absurd short (by decide)
  | skf call member out built index inside sealed encrypted =>
    have sameIv := List.append_cancel_left isNonce
    have order : 16 ≤ declared := by
      simp only [skfMinBody, skfExtra, ivLen, icvLen] at least
      omega
    have whole : declaredPart message =
        call.aad call.chunks[index] index ++ ((call.iv index).bytes ++ sealed) := by
      rw [declaredPart, ← isDeclared, take_add_slice message (Nat.le_trans (by decide : 4 + skfExtra ≤ 16) order),
        ← Nat.add_assoc, isAad, ← sameIv, ← isSealed]
      exact congrArg _ (slice_append_slice _ (by decide) order).symm
    have made : call.fragment P skE call.chunks[index] index = .ok (declaredPart message) := by
      rw [whole, FragmentCall.fragment, gcmSeal_of_encrypt size encrypted]
      rfl
    refine ⟨call, member, out, built, index, inside, buildFragments_getElem? built inside made, ?_⟩
    rw [stripPadding_zero] at padding
    rw [eq_take_append isAad, call.aad_drop] at isNum isTotal isNext
    obtain ⟨next, -, number, total⟩ := call.skfHead_fields call.chunks[index] index
      (message.drop (IkeHeader.len + 4 + skfExtra))
    obtain ⟨fragNum, total', nextPayload, content⟩ := fragment
    dsimp only at isNum isTotal isNext padding
    rw [isNum, isTotal, isNext, next, number, total, ← Except.ok.inj padding, FragmentCall.fragmentAt]

/-! ## Both together -/

/-- What opens as an SK payload is the work of one `build_encrypted_gcm` call and no
fragment, and what opens as a fragment is the work of one `build_fragments` call. -/
theorem opened_authentic (P : Primitives) (skE : Bytes) (sk : Set SkCall) (skf : Set FragmentCall)
    (exactly : DecryptsExactly P skE sk skf) (message : Bytes) :
    (∀ first inner, openEncryptedGcm P message skE = .ok (first, inner) →
      (∃ call ∈ sk, call.build P skE = .ok (declaredPart message) ∧ first = .fromU8 call.firstInner.toU8 ∧
        inner = call.inner) ∧
      ∀ call ∈ skf, ∀ out, call.buildFragments P skE = .ok out → declaredPart message ∉ out) ∧
    ∀ fragment, openFragment P message skE = .ok fragment →
      ∃ call ∈ skf, ∃ out, call.buildFragments P skE = .ok out ∧
        ∃ index, ∃ inside : index < call.chunks.length, out[index]? = some (declaredPart message) ∧
          fragment = call.fragmentAt call.chunks[index] index := by
  constructor
  · intro first inner opened
    obtain ⟨call, member, built, rest⟩ := openEncryptedGcm_authentic exactly opened
    refine ⟨⟨call, member, built, rest⟩, ?_⟩
    intro other _ out fragments
    exact built_not_mem_fragments built fragments
  · intro fragment opened
    exact openFragment_authentic exactly opened

namespace Toy

def skCall : SkCall := ⟨fragmentHeader 1, .idInitiator, [1, 2, 3], .ofU64 5⟩

def oneFragment : FragmentCall := ⟨fragmentHeader 2, .notify, [5, 6], 20, 2⟩

abbrev Sealing := (Bytes × Bytes × Bytes) × Bytes

def sealing (nonce aad plaintext : Bytes) : Option Sealing :=
  (toy.gcmEncrypt (fragmentKey.take 32) nonce aad plaintext).map fun sealed => ((nonce, aad, sealed), plaintext)

def sealings : List Sealing :=
  [sealing (fragmentKey.drop 32 ++ skCall.iv.bytes) skCall.aad (skCall.inner ++ [0]),
    sealing (fragmentKey.drop 32 ++ (oneFragment.iv 0).bytes) (oneFragment.aad [5, 6] 0) ([5, 6] ++ [0])].filterMap id

/-- The AEAD that opens these two and nothing else. -/
def recording : Primitives :=
  { toy with gcmDecrypt := fun key nonce aad sealed =>
      if key = fragmentKey.take 32 then (Table.ofList sealings).get (nonce, aad, sealed) else none }

theorem recording_decrypts (nonce aad sealed : Bytes) :
    recording.gcmDecrypt (fragmentKey.take 32) nonce aad sealed = (Table.ofList sealings).get (nonce, aad, sealed) := by
  simp only [recording, if_true]

theorem sealing_eq_some {nonce aad plaintext : Bytes} {pair : Sealing} :
    sealing nonce aad plaintext = some pair ↔ ∃ sealed,
      recording.gcmEncrypt (fragmentKey.take 32) nonce aad plaintext = some sealed ∧
        ((nonce, aad, sealed), plaintext) = pair :=
  Option.map_eq_some_iff

theorem mem_sealings {pair : Sealing} : pair ∈ sealings ↔
    sealing (fragmentKey.drop 32 ++ skCall.iv.bytes) skCall.aad (skCall.inner ++ [0]) = some pair ∨
      sealing (fragmentKey.drop 32 ++ (oneFragment.iv 0).bytes) (oneFragment.aad [5, 6] 0) ([5, 6] ++ [0]) =
        some pair := by
  simp only [sealings, List.mem_filterMap, List.mem_cons, List.not_mem_nil, or_false, id_eq, exists_eq_right, eq_comm]

theorem oneFragment_chunks : oneFragment.chunks = [[5, 6]] := by decide

theorem produced_iff_mem_sealings (nonce aad sealed plaintext : Bytes) :
    Produced recording fragmentKey {skCall} {oneFragment} nonce aad sealed plaintext ↔
      ((nonce, aad, sealed), plaintext) ∈ sealings := by
  have single : oneFragment.chunks.length = 1 := congrArg List.length oneFragment_chunks
  have nonempty : 0 < oneFragment.chunks.length := by omega
  have piece : oneFragment.chunks[0] = [5, 6] := List.getElem_of_eq oneFragment_chunks nonempty
  rw [mem_sealings, sealing_eq_some, sealing_eq_some]
  constructor
  · intro produced
    cases produced with
    | sk call member sealed encrypted =>
      cases member
      exact .inl ⟨sealed, encrypted, rfl⟩
    | skf call member out built index inside sealed encrypted =>
      cases member
      obtain rfl : index = 0 := by omega
      rw [piece] at encrypted ⊢
      exact .inr ⟨sealed, encrypted, rfl⟩
  · rintro (⟨text, encrypted, same⟩ | ⟨text, encrypted, same⟩)
    · simp only [Prod.mk.injEq] at same
      obtain ⟨⟨rfl, rfl, rfl⟩, rfl⟩ := same
      exact .sk skCall (Set.mem_singleton skCall) _ encrypted
    · simp only [Prod.mk.injEq] at same
      obtain ⟨⟨rfl, rfl, rfl⟩, rfl⟩ := same
      have makes : (oneFragment.buildFragments recording fragmentKey).isOk = true := by decide +kernel
      obtain ⟨out, built⟩ := exists_of_isOk makes
      rw [← piece] at encrypted ⊢
      exact .skf oneFragment (Set.mem_singleton oneFragment) out built 0 nonempty _ encrypted

theorem recording_decryptsExactly : DecryptsExactly recording fragmentKey {skCall} {oneFragment} := by
  intro nonce aad sealed plaintext
  have lookups : ∀ pair ∈ sealings, (Table.ofList sealings).get pair.1 = some pair.2 := by decide +kernel
  rw [recording_decrypts, produced_iff_mem_sealings]
  constructor
  · intro found
    obtain ⟨pair, isFound, rfl⟩ := Option.map_eq_some_iff.mp found
    have key := List.find?_some isFound
    rw [decide_eq_true_eq] at key
    rw [← key]
    exact List.mem_of_find?_eq_some isFound
  · intro member
    exact lookups _ member

def longer : Bytes := ((oneFragment.buildFragments recording fragmentKey).toOption.getD []).headD [] ++ [9, 9]

end Toy

/-- The longer message opens, and its declared part is what the call made. -/
theorem opened_authentic_longer :
    openFragment Toy.recording Toy.longer Toy.fragmentKey = .ok (Toy.oneFragment.fragmentAt [5, 6] 0) ∧
      ∃ out, Toy.oneFragment.buildFragments Toy.recording Toy.fragmentKey = .ok out ∧
        declaredPart Toy.longer ∈ out := by
  have opened : openFragment Toy.recording Toy.longer Toy.fragmentKey = .ok (Toy.oneFragment.fragmentAt [5, 6] 0) := by
    decide +kernel
  refine ⟨opened, ?_⟩
  obtain ⟨call, member, out, built, index, inside, found, -⟩ := (opened_authentic Toy.recording Toy.fragmentKey
    {Toy.skCall} {Toy.oneFragment} Toy.recording_decryptsExactly Toy.longer).2 _ opened
  cases member
  exact ⟨out, built, List.mem_of_getElem? found⟩

end Ryke.Ikev2
