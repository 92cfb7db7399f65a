import Ryke.Ikev2.Message

/-! The Encrypted payload for AES-GCM. A message that was built here and opens, opens
under the key it was built with and gives back the payloads put into it. -/

namespace Ryke.Ikev2
open Lib

structure Iv where
  bytes : Bytes
  size : bytes.length = 8
  deriving DecidableEq

namespace Iv

def ofU64 (value : UInt64) : Iv := ⟨u64Bytes value, rfl⟩

def draw {ε : Type} [Entropy ε] (entropy : ε) : Iv × ε :=
  let filled := Entropy.fill entropy 8
  (⟨filled.1, Entropy.fill_length entropy 8⟩, filled.2)

end Iv

def ivLen : Nat := 8
def icvLen : Nat := 16

/-- A 36-byte `SK_e` as a 32-byte AES key and a 4-byte salt. -/
def splitKey (skE : Bytes) : Result (Bytes × Bytes) :=
  if skE.length ≠ 36 then
    .error (.crypto "SK_e must be 36 bytes (32-byte AES-256 key + 4-byte GCM salt)")
  else .ok (skE.take 32, skE.drop 32)

def gcmSeal (P : Primitives) (skE : Bytes) (iv : Iv) (aad plaintext : Bytes) : Result Bytes := do
  let (key, salt) ← splitKey skE
  okOr (P.gcmEncrypt key (salt ++ iv.bytes) aad plaintext) (.crypto "GCM encryption failed")

def gcmOpen (P : Primitives) (skE ivBytes aad ctAndTag : Bytes) : Result Bytes := do
  let (key, salt) ← splitKey skE
  okOr (P.gcmDecrypt key (salt ++ ivBytes) aad ctAndTag) .badIntegrity

/-- Drop the pad-length byte and the padding in front of it. -/
def stripPadding (empty long : String) (plaintext : Bytes) : Result Bytes := do
  let last ← okOr plaintext.getLast? (.crypto empty)
  if last.toNat + 1 > plaintext.length then .error (.crypto long)
  else .ok (plaintext.take (plaintext.length - 1 - last.toNat))

/-- The length of an SK payload around `inner`, its generic header included. -/
def skPayloadLen (inner : Bytes) : Nat := 4 + (ivLen + (inner.length + 1) + icvLen)

/-- IKE header and SK generic header: everything before the IV. -/
def skAad (header : IkeHeader) (firstInner : PayloadType) (inner : Bytes) : Bytes :=
  { header with
    nextPayload := .encrypted
    length := UInt32.ofNat (IkeHeader.len + skPayloadLen inner) : IkeHeader }.toBytes ++
    ([firstInner.toU8, 0] ++ u16Bytes (UInt16.ofNat (skPayloadLen inner)))

def buildEncryptedGcm (P : Primitives) (header : IkeHeader) (firstInner : PayloadType)
    (inner skE : Bytes) (iv : Iv) : Result Bytes := do
  let aad := skAad header firstInner inner
  let ctAndTag ← gcmSeal P skE iv aad (inner ++ [0])
  .ok (aad ++ (iv.bytes ++ ctAndTag))

def openEncryptedGcm (P : Primitives) (message skE : Bytes) : Result (PayloadType × Bytes) := do
  let _ ← splitKey skE
  let header ← IkeHeader.parse message
  if header.nextPayload ≠ .encrypted then .error (.missingPayload "SK")
  else
    let body := message.drop IkeHeader.len
    if body.length < 4 then .error (.truncated 4 body.length)
    else
      let firstInner := PayloadType.fromU8 (byteAt body 0)
      let declared := (u16At body 2).toNat
      if declared < 4 + ivLen + icvLen ∨ declared > body.length then
        .error (.badLength declared body.length)
      else do
        let skBody := slice body 4 declared
        let plaintext ← gcmOpen P skE (skBody.take ivLen) (message.take (IkeHeader.len + 4))
          (skBody.drop ivLen)
        let inner ← stripPadding "empty plaintext" "pad length exceeds plaintext" plaintext
        .ok (firstInner, inner)

theorem splitKey_eq_ok {skE key salt : Bytes} (split : splitKey skE = .ok (key, salt)) :
    key = skE.take 32 ∧ salt = skE.drop 32 ∧ skE.length = 36 := by
  obtain ⟨right, split⟩ := guard_eq_ok split
  cases split
  exact ⟨rfl, rfl, not_not.mp right⟩

theorem gcmSeal_eq_ok {P : Primitives} {skE aad plaintext sealed : Bytes} {iv : Iv}
    (done : gcmSeal P skE iv aad plaintext = .ok sealed) :
    skE.length = 36 ∧ P.gcmEncrypt (skE.take 32) (skE.drop 32 ++ iv.bytes) aad plaintext = some sealed := by
  obtain ⟨⟨key, salt⟩, split, done⟩ := bind_eq_ok done
  obtain ⟨rfl, rfl, size⟩ := splitKey_eq_ok split
  exact ⟨size, okOr_eq_ok done⟩

theorem gcmSeal_of_encrypt {P : Primitives} {skE aad plaintext sealed : Bytes} {iv : Iv} (size : skE.length = 36)
    (encrypted : P.gcmEncrypt (skE.take 32) (skE.drop 32 ++ iv.bytes) aad plaintext = some sealed) :
    gcmSeal P skE iv aad plaintext = .ok sealed := by
  have whole : ¬ skE.length ≠ 36 := not_not.mpr size
  rw [gcmSeal, splitKey, if_neg whole]
  change okOr (P.gcmEncrypt (skE.take 32) (skE.drop 32 ++ iv.bytes) aad plaintext) _ = .ok sealed
  rw [encrypted, okOr_some]

theorem gcmOpen_eq_ok {P : Primitives} {skE ivBytes aad ctAndTag plaintext : Bytes}
    (done : gcmOpen P skE ivBytes aad ctAndTag = .ok plaintext) :
    skE.length = 36 ∧ P.gcmDecrypt (skE.take 32) (skE.drop 32 ++ ivBytes) aad ctAndTag = some plaintext := by
  obtain ⟨⟨key, salt⟩, split, done⟩ := bind_eq_ok done
  obtain ⟨rfl, rfl, size⟩ := splitKey_eq_ok split
  exact ⟨size, okOr_eq_ok done⟩

theorem gcmOpen_gcmSeal {P : Primitives} (correct : P.GcmCorrect) {skE aad plaintext sealed : Bytes} {iv : Iv}
    (sealing : gcmSeal P skE iv aad plaintext = .ok sealed) : gcmOpen P skE iv.bytes aad sealed = .ok plaintext := by
  obtain ⟨size, encrypted⟩ := gcmSeal_eq_ok sealing
  have whole : ¬ skE.length ≠ 36 := not_not.mpr size
  rw [gcmOpen, splitKey, if_neg whole]
  change okOr (P.gcmDecrypt (skE.take 32) (skE.drop 32 ++ iv.bytes) aad sealed) _ = .ok plaintext
  rw [correct _ _ _ _ _ encrypted, okOr_some]

theorem gcmSeal_length {P : Primitives} {skE aad plaintext sealed : Bytes} {iv : Iv}
    (sealing : gcmSeal P skE iv aad plaintext = .ok sealed) : sealed.length = plaintext.length + icvLen :=
  P.gcmEncrypt_length _ _ _ _ _ (gcmSeal_eq_ok sealing).2

@[simp] theorem stripPadding_zero (empty long : String) (inner : Bytes) :
    stripPadding empty long (inner ++ [0]) = .ok inner := by
  have last : (inner ++ [0]).getLast? = some 0 := by simp
  have fits : ¬ (0 : UInt8).toNat + 1 > (inner ++ [0]).length := by simp
  have front : (inner ++ [0]).take ((inner ++ [0]).length - 1 - (0 : UInt8).toNat) = inner := by simp
  rw [stripPadding, last]
  change (if (0 : UInt8).toNat + 1 > (inner ++ [0]).length then _ else _) = _
  rw [if_neg fits, front]

/-- Key and IV of one GCM nonce determine each other's owner. -/
theorem sealing_key_injective {first second ivFirst ivSecond : Bytes} (sameKey : first.take 32 = second.take 32)
    (sameNonce : first.drop 32 ++ ivFirst = second.drop 32 ++ ivSecond)
    (firstSize : first.length = 36) (secondSize : second.length = 36) :
    first = second ∧ ivFirst = ivSecond := by
  have salts := List.append_inj sameNonce (by simp [firstSize, secondSize])
  refine ⟨?_, salts.2⟩
  rw [← List.take_append_drop 32 first, ← List.take_append_drop 32 second, sameKey, salts.1]

theorem skAad_length (header : IkeHeader) (firstInner : PayloadType) (inner : Bytes) :
    (skAad header firstInner inner).length = IkeHeader.len + 4 := rfl

theorem openEncryptedGcm_eq_ok {P : Primitives} {message skE inner : Bytes} {first : PayloadType}
    (opened : openEncryptedGcm P message skE = .ok (first, inner)) :
    ∃ declared plaintext,
      declared = (u16At (message.drop IkeHeader.len) 2).toNat ∧
      4 + ivLen + icvLen ≤ declared ∧ declared ≤ (message.drop IkeHeader.len).length ∧
      gcmOpen P skE ((slice (message.drop IkeHeader.len) 4 declared).take ivLen)
        (message.take (IkeHeader.len + 4)) ((slice (message.drop IkeHeader.len) 4 declared).drop ivLen) =
          .ok plaintext ∧
      stripPadding "empty plaintext" "pad length exceeds plaintext" plaintext = .ok inner ∧
      first = PayloadType.fromU8 (byteAt (message.drop IkeHeader.len) 0) := by
  unfold openEncryptedGcm at opened
  obtain ⟨_, _, opened⟩ := bind_eq_ok opened
  obtain ⟨header, _, opened⟩ := bind_eq_ok opened
  obtain ⟨encrypted, opened⟩ := guard_eq_ok opened
  obtain ⟨long, opened⟩ := guard_eq_ok opened
  obtain ⟨sized, opened⟩ := guard_eq_ok opened
  obtain ⟨plaintext, decrypted, opened⟩ := bind_eq_ok opened
  obtain ⟨stripped, padding, opened⟩ := bind_eq_ok opened
  cases opened
  exact ⟨_, plaintext, rfl, by omega, by omega, decrypted, padding, rfl⟩

/-- What the AEAD put into an encrypted message: all behind the IV. -/
def sealedText (message : Bytes) : Bytes := message.drop (IkeHeader.len + 4 + ivLen)

theorem sealedText_built (header : IkeHeader) (firstInner : PayloadType) (inner : Bytes) (iv : Iv) (sealed : Bytes) :
    sealedText (skAad header firstInner inner ++ (iv.bytes ++ sealed)) = sealed := by
  rw [sealedText, ← List.append_assoc]
  apply List.drop_left'
  rw [List.length_append, skAad_length, iv.size, ivLen]

/-- A built message opens only under the key it was built with. -/
theorem open_buildEncryptedGcm {P : Primitives} {header : IkeHeader} {firstInner first : PayloadType}
    {inner skE message skE' inner' : Bytes} {iv : Iv} (ideal : P.GcmIdeal [sealedText message])
    (built : buildEncryptedGcm P header firstInner inner skE iv = .ok message)
    (opened : openEncryptedGcm P message skE' = .ok (first, inner')) :
    skE' = skE ∧ skE.length = 36 ∧ first = PayloadType.fromU8 firstInner.toU8 ∧ inner' = inner ∧
      skPayloadLen inner < 65536 := by
  obtain ⟨sealed, sealing, built⟩ := bind_eq_ok built
  cases built
  obtain ⟨size, encrypted⟩ := gcmSeal_eq_ok sealing
  obtain ⟨declared, plaintext, rfl, least, most, decrypted, padding, rfl⟩ := openEncryptedGcm_eq_ok opened
  obtain ⟨size', decrypted⟩ := gcmOpen_eq_ok decrypted
  have body : (skAad header firstInner inner ++ (iv.bytes ++ sealed)).drop IkeHeader.len =
      ([firstInner.toU8, 0] ++ u16Bytes (UInt16.ofNat (skPayloadLen inner))) ++ (iv.bytes ++ sealed) := by
    rw [skAad, List.append_assoc, List.drop_left' (IkeHeader.toBytes_length _)]
  rw [body] at least most decrypted ⊢
  have field : u16At ([firstInner.toU8, 0] ++ u16Bytes (UInt16.ofNat (skPayloadLen inner)) ++
      (iv.bytes ++ sealed)) 2 = UInt16.ofNat (skPayloadLen inner) := by
    simp only [u16Bytes, u16At, List.cons_append, List.nil_append, byteAt_cons_zero, byteAt_cons_succ,
      be16_split]
  rw [field] at least most decrypted
  generalize declaredEq : (UInt16.ofNat (skPayloadLen inner)).toNat = declared at least most decrypted
  have split : slice ([firstInner.toU8, 0] ++ u16Bytes (UInt16.ofNat (skPayloadLen inner)) ++
      (iv.bytes ++ sealed)) 4 declared = iv.bytes ++ sealed.take (declared - 12) := by
    have front : ([firstInner.toU8, 0] ++ u16Bytes (UInt16.ofNat (skPayloadLen inner))).length = 4 := rfl
    rw [slice, List.drop_left' front, List.take_append, iv.size, List.take_of_length_le (by
      rw [iv.size]; simp only [ivLen, icvLen] at least; omega), Nat.sub_sub]
  have aad : (skAad header firstInner inner ++ (iv.bytes ++ sealed)).take (IkeHeader.len + 4) =
      skAad header firstInner inner := List.take_left' (skAad_length header firstInner inner)
  have ivSize : iv.bytes.length = ivLen := iv.size
  rw [split, aad, List.take_left' ivSize, List.drop_left' ivSize] at decrypted
  rw [← List.take_append_drop (declared - 12) sealed] at encrypted
  rw [sealedText_built, ← List.take_append_drop (declared - 12) sealed] at ideal
  obtain ⟨whole, sameKey, sameNonce, -, rfl⟩ :=
    ideal _ _ _ _ _ _ _ _ _ _ List.mem_cons_self encrypted decrypted
  obtain ⟨rfl, -⟩ := sealing_key_injective sameKey sameNonce size' size
  rw [stripPadding_zero] at padding
  refine ⟨rfl, size, rfl, (Except.ok.inj padding).symm, ?_⟩
  have total := P.gcmEncrypt_length _ _ _ _ _ encrypted
  rw [List.take_append_drop, List.length_append, List.length_singleton] at total
  have covered := List.drop_eq_nil_iff.mp whole
  have wide : declared < 65536 := by rw [← declaredEq]; exact UInt16.toNat_lt _
  simp only [skPayloadLen, ivLen, icvLen]
  omega

/-! ## Opening what was built -/

/-- Whatever the key, the opener finds the IV, the associated data and the ciphertext
that the builder put together. -/
theorem openEncryptedGcm_parts (P : Primitives) (header : IkeHeader) (firstInner : PayloadType) {inner sealed : Bytes}
    (iv : Iv) (small : skPayloadLen inner < 65536) (total : sealed.length = inner.length + 1 + icvLen) {skE : Bytes}
    (size : skE.length = 36) :
    openEncryptedGcm P (skAad header firstInner inner ++ (iv.bytes ++ sealed)) skE =
      (do
        let plaintext ← gcmOpen P skE iv.bytes (skAad header firstInner inner) sealed
        let inner ← stripPadding "empty plaintext" "pad length exceeds plaintext" plaintext
        .ok (PayloadType.fromU8 firstInner.toU8, inner)) := by
  let message := skAad header firstInner inner ++ (iv.bytes ++ sealed)
  have front : ([firstInner.toU8, 0] ++ u16Bytes (UInt16.ofNat (skPayloadLen inner))).length = 4 := rfl
  have body : message.drop IkeHeader.len =
      ([firstInner.toU8, 0] ++ u16Bytes (UInt16.ofNat (skPayloadLen inner))) ++ (iv.bytes ++ sealed) := by
    change (skAad header firstInner inner ++ (iv.bytes ++ sealed)).drop IkeHeader.len = _
    rw [skAad, List.append_assoc, List.drop_left' (IkeHeader.toBytes_length _)]
  have ivSize : iv.bytes.length = ivLen := iv.size
  have rest : (iv.bytes ++ sealed).length + 4 = skPayloadLen inner := by
    rw [List.length_append, ivSize, total, skPayloadLen]
    omega
  have bodyLength : (message.drop IkeHeader.len).length = skPayloadLen inner := by
    rw [body, List.length_append, front, Nat.add_comm, rest]
  have declared : (u16At (message.drop IkeHeader.len) 2).toNat = skPayloadLen inner := by
    rw [body]
    simp only [u16Bytes, u16At, List.cons_append, List.nil_append, byteAt_cons_zero, byteAt_cons_succ, be16_split]
    exact Nat.mod_eq_of_lt small
  have sk : slice (message.drop IkeHeader.len) 4 (skPayloadLen inner) = iv.bytes ++ sealed := by
    rw [body]
    apply slice_append_end front.symm
    rw [front, Nat.add_comm, rest]
  have aad : message.take (IkeHeader.len + 4) = skAad header firstInner inner :=
    List.take_left' (skAad_length header firstInner inner)
  have first : byteAt (message.drop IkeHeader.len) 0 = firstInner.toU8 := by
    rw [body]
    rfl
  have least : 28 ≤ skPayloadLen inner := by
    simp only [skPayloadLen, ivLen, icvLen]
    omega
  have long : ¬ message.length < IkeHeader.len := by
    change ¬ (skAad header firstInner inner ++ (iv.bytes ++ sealed)).length < IkeHeader.len
    rw [List.length_append, skAad_length]
    omega
  have kind : ¬ PayloadType.fromU8 (byteAt message 16) ≠ .encrypted := not_not.mpr rfl
  have whole : ¬ skE.length ≠ 36 := not_not.mpr size
  have room : ¬ (skPayloadLen inner < 4 + ivLen + icvLen ∨ skPayloadLen inner > skPayloadLen inner) := by
    simp only [ivLen, icvLen]
    omega
  change openEncryptedGcm P message skE = _
  rw [openEncryptedGcm, splitKey, if_neg whole, ok_bind, IkeHeader.parse, if_neg long, ok_bind]
  dsimp only
  rw [if_neg kind, bodyLength, if_neg (by omega), declared, if_neg room, sk, aad, first, List.take_left' ivSize,
    List.drop_left' ivSize]

theorem buildEncryptedGcm_length {P : Primitives} {header : IkeHeader} {firstInner : PayloadType}
    {inner skE message : Bytes} {iv : Iv} (built : buildEncryptedGcm P header firstInner inner skE iv = .ok message) :
    message.length = IkeHeader.len + skPayloadLen inner := by
  obtain ⟨sealed, sealing, built⟩ := bind_eq_ok built
  cases built
  rw [List.length_append, List.length_append, skAad_length, iv.size, gcmSeal_length sealing, List.length_append,
    List.length_singleton]
  simp only [skPayloadLen, ivLen]
  omega

theorem openEncryptedGcm_built {P : Primitives} (correct : P.GcmCorrect) {header : IkeHeader}
    {firstInner : PayloadType} {inner skE message : Bytes} {iv : Iv} (small : skPayloadLen inner < 65536)
    (built : buildEncryptedGcm P header firstInner inner skE iv = .ok message) :
    openEncryptedGcm P message skE = .ok (.fromU8 firstInner.toU8, inner) := by
  obtain ⟨sealed, sealing, built⟩ := bind_eq_ok built
  cases built
  have total := gcmSeal_length sealing
  rw [List.length_append, List.length_singleton] at total
  rw [openEncryptedGcm_parts P header firstInner iv small total (gcmSeal_eq_ok sealing).1,
    gcmOpen_gcmSeal correct sealing, ok_bind, stripPadding_zero, ok_bind]

theorem fits_of_small {chain : List Payload} (proper : ∀ kind ∈ chain.map Prod.fst, kind.Proper)
    (small : skPayloadLen (encodePayloadChain chain) < 65536) : ∀ payload ∈ chain, Fits payload := by
  intro payload member
  have part := length_le_encodePayloadChain member
  simp only [skPayloadLen] at small
  exact ⟨proper _ (List.mem_map_of_mem member), by omega⟩

theorem forPayloads_chain {α : Type} {chain : List Payload} (kinds : List PayloadType)
    (ofKinds : chain.map Prod.fst = kinds) (proper : ∀ kind ∈ kinds, kind.Proper)
    (small : skPayloadLen (encodePayloadChain chain) < 65536) (init : α) (step : α → RawPayload → Result α) :
    forPayloads (payloads (firstPayloadType chain) (encodePayloadChain chain)) init step =
      chain.foldlM (fun found payload => step found (raw payload)) init := by
  rw [← ofKinds] at proper
  have walk := payloads_encodePayloadChain (fits_of_small proper small) []
  rw [List.append_nil] at walk
  rw [walk, forPayloads_map_ok]

theorem exists_buildEncryptedGcm {P : Primitives} (seals : P.GcmSeals) (header : IkeHeader) (firstInner : PayloadType)
    {inner skE : Bytes} (iv : Iv) (size : skE.length = 36) (small : skPayloadLen inner < 65536) :
    ∃ message, buildEncryptedGcm P header firstInner inner skE iv = .ok message := by
  have key : (skE.take 32).length = 32 := by rw [List.length_take, size]; rfl
  have nonce : (skE.drop 32 ++ iv.bytes).length = 12 := by rw [List.length_append, List.length_drop, size, iv.size]
  have short : (inner ++ [0]).length < 65536 := by
    rw [List.length_append, List.length_singleton]
    simp only [skPayloadLen] at small
    omega
  obtain ⟨sealed, encrypted⟩ := Option.isSome_iff_exists.mp
    (seals _ _ (skAad header firstInner inner) _ key nonce short)
  refine ⟨skAad header firstInner inner ++ (iv.bytes ++ sealed), ?_⟩
  rw [buildEncryptedGcm, gcmSeal_of_encrypt size encrypted]
  rfl

theorem parse_buildEncryptedGcm {P : Primitives} {header : IkeHeader} {firstInner : PayloadType}
    {inner skE message : Bytes} {iv : Iv} (major : header.majorVersion < 16) (minor : header.minorVersion < 16)
    (exchange : ExchangeType.fromU8 header.exchangeType.toU8 = header.exchangeType)
    (built : buildEncryptedGcm P header firstInner inner skE iv = .ok message) :
    ∃ length, IkeHeader.parse message = .ok { header with nextPayload := .encrypted, length := length } := by
  obtain ⟨sealed, -, built⟩ := bind_eq_ok built
  cases built
  let full : IkeHeader :=
    { header with nextPayload := .encrypted, length := UInt32.ofNat (IkeHeader.len + skPayloadLen inner) }
  have formed : full.WellFormed := ⟨rfl, major, minor, exchange⟩
  refine ⟨UInt32.ofNat (IkeHeader.len + skPayloadLen inner), ?_⟩
  rw [skAad, List.append_assoc]
  exact IkeHeader.parse_toBytes formed _

theorem openEncryptedGcm_other_key {P : Primitives} {header : IkeHeader} {firstInner : PayloadType}
    {inner skE other message : Bytes} {iv : Iv} (ideal : P.GcmIdeal [sealedText message])
    (small : skPayloadLen inner < 65536)
    (built : buildEncryptedGcm P header firstInner inner skE iv = .ok message) (size : other.length = 36)
    (differs : other ≠ skE) : openEncryptedGcm P message other = .error .badIntegrity := by
  obtain ⟨sealed, sealing, built⟩ := bind_eq_ok built
  cases built
  obtain ⟨ownSize, encrypted⟩ := gcmSeal_eq_ok sealing
  have total := gcmSeal_length sealing
  rw [List.length_append, List.length_singleton] at total
  have closed : P.gcmDecrypt (other.take 32) (other.drop 32 ++ iv.bytes) (skAad header firstInner inner) sealed =
      none := by
    by_contra opens
    obtain ⟨plaintext, decrypted⟩ := Option.ne_none_iff_exists'.mp opens
    rw [sealedText_built, ← List.append_nil sealed] at ideal
    rw [← List.append_nil sealed] at encrypted
    obtain ⟨-, sameKey, sameNonce, -, -⟩ := ideal _ _ _ _ _ _ _ _ _ _ List.mem_cons_self encrypted decrypted
    exact differs (sealing_key_injective sameKey sameNonce size ownSize).1
  have whole : ¬ other.length ≠ 36 := not_not.mpr size
  rw [openEncryptedGcm_parts P header firstInner iv small total size, gcmOpen, splitKey, if_neg whole, ok_bind]
  dsimp only
  rw [closed]
  rfl

end Ryke.Ikev2
