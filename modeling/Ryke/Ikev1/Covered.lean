import Ryke.Ikev1.Agreement

/-! What the HASH of a Quick-Mode message pins down. It covers the payloads as they are
encoded again, each with the type of the one after it: of a chain that carries an SA in
front only the type of that first payload is left open, and the SA itself closes it. -/

namespace Ryke.Ikev1
open Lib Crypto

/-! ## Chains and their encodings -/

theorem fits_of_parsePayloads {first : UInt8} {body : Bytes} {ps : List Payload}
    (parsed : parsePayloads first body = .ok ps) : ∀ p ∈ ps, Fits (p.payloadType, p.data) :=
  fun p member => (fits_of_parsePayloadsFrom parsed p member).1

theorem fits_of_decryptPayloads {P : Primitives} {data encKey iv next : Bytes} {header : IsakmpHeader}
    {ps : List Payload} (decrypted : decryptPayloads P data encKey iv = .ok (header, ps, next)) :
    ∀ p ∈ ps, Fits (p.payloadType, p.data) := by
  unfold decryptPayloads at decrypted
  obtain ⟨_, -, decrypted⟩ := bind_eq_ok decrypted
  obtain ⟨_, -, decrypted⟩ := bind_eq_ok decrypted
  obtain ⟨_, parsed, decrypted⟩ := bind_eq_ok decrypted
  cases decrypted
  exact fits_of_parsePayloads parsed

theorem readBack_injective : Function.Injective readBack := by
  rintro ⟨kind, data⟩ ⟨kind', data'⟩ same
  cases same
  rfl

/-- An encoding is that of one chain, but for the type of the first payload. -/
theorem encodePayloads_injective {kind kind' : UInt8} {data data' : Bytes} {rest rest' : List (UInt8 × Bytes)}
    (fits : ∀ item ∈ (kind, data) :: rest, Fits item) (fits' : ∀ item ∈ (kind', data') :: rest', Fits item)
    (same : (encodePayloads ((kind, data) :: rest)).2 = (encodePayloads ((kind', data') :: rest')).2) :
    data = data' ∧ rest = rest' := by
  have relabelled : ∀ item ∈ (kind', data) :: rest, Fits item := by
    intro item member
    rcases List.mem_cons.mp member with rfl | later
    · exact ⟨(fits' _ List.mem_cons_self).1, (fits _ List.mem_cons_self).2⟩
    · exact fits item (List.mem_cons_of_mem _ later)
  have read := parsePayloads_encodePayloads relabelled []
  have read' := parsePayloads_encodePayloads fits' []
  have bytes : (encodePayloads ((kind', data) :: rest)).2 = (encodePayloads ((kind', data') :: rest')).2 := same
  rw [bytes] at read
  have chains : (kind', data) :: rest = (kind', data') :: rest' :=
    List.map_injective_iff.mpr readBack_injective (Except.ok.inj (read.symm.trans read'))
  exact ⟨(Prod.mk.inj (List.cons.inj chains).1).2, (List.cons.inj chains).2⟩

/-! ## Looking payloads up -/

def covered (ps : List Payload) : List (UInt8 × Bytes) :=
  (ps.filter fun p => p.payloadType != payload.hash).map fun p => (p.payloadType, p.data)

theorem fits_covered {ps : List Payload} (fits : ∀ p ∈ ps, Fits (p.payloadType, p.data)) :
    ∀ item ∈ covered ps, Fits item := by
  intro item member
  obtain ⟨p, kept, rfl⟩ := List.mem_map.mp member
  exact fits p (List.mem_filter.mp kept).1

theorem find_covered (ps : List Payload) {kind : UInt8} (other : kind ≠ payload.hash) :
    find ((covered ps).map readBack) kind = find ps kind := by
  have same : (covered ps).map readBack = ps.filter fun p => p.payloadType != payload.hash := by
    rw [covered, List.map_map]
    exact List.map_id _
  rw [same, find, find, List.find?_filter]
  congr 1
  funext p
  by_cases found : p.payloadType = kind
  · simp [found, other]
  · simp [found]

/-- A chain with an SA and a nonce in front, and only IDs after them. -/
def Answering (chain : List (UInt8 × Bytes)) (spi : UInt32) (nonce : Bytes) : Prop :=
  ∃ ids, chain = (payload.sa, (espSa spi).toBytes) :: (payload.nonce, nonce) :: ids ∧
    (∀ item ∈ ids, item.1 = payload.id) ∧ ∀ item ∈ chain, Fits item

theorem Answering.carried {ps : List Payload} {chain : List (UInt8 × Bytes)} {spi peerSpi : UInt32}
    {nonce : Bytes} (answering : Answering chain spi nonce) (fits : ∀ p ∈ ps, Fits (p.payloadType, p.data))
    (same : afterHash ps = (encodePayloads chain).2) {nonceP : Payload} (found : find ps payload.nonce = some nonceP)
    (read : peerEspSpi ps = .ok peerSpi) : nonceP.data = nonce ∧ peerSpi = spi := by
  obtain ⟨ids, rfl, areIds, small⟩ := answering
  have saKind : payload.sa ≠ payload.hash := by decide
  have nonceKind : payload.nonce ≠ payload.hash := by decide
  have coveredFits := fits_covered fits
  have encoded : (encodePayloads (covered ps)).2 = (encodePayloads
      ((payload.sa, (espSa spi).toBytes) :: (payload.nonce, nonce) :: ids)).2 := same
  obtain ⟨saP, saFound, -⟩ := bind_eq_ok read
  have saFound := okOr_eq_ok saFound
  rw [← find_covered ps saKind] at saFound
  rw [← find_covered ps nonceKind] at found
  cases chain : covered ps with
  | nil =>
    rw [chain] at saFound
    cases saFound
  | cons first rest =>
    obtain ⟨kind, data⟩ := first
    rw [chain] at saFound found encoded coveredFits
    obtain ⟨rfl, rfl⟩ := encodePayloads_injective coveredFits small encoded
    -- the rest is known: a nonce and IDs, so that only the first payload can be the SA
    have isSa : kind = payload.sa := by
      by_contra other
      have skipped : find (((kind, (espSa spi).toBytes) :: (payload.nonce, nonce) :: ids).map readBack) payload.sa =
          find (((payload.nonce, nonce) :: ids).map readBack) payload.sa :=
        List.find?_cons_of_neg (by simpa [readBack] using other)
      rw [skipped] at saFound
      have member := List.mem_of_find?_eq_some saFound
      have asked := find_kind saFound
      obtain ⟨item, isItem, rfl⟩ := List.mem_map.mp member
      have kindOf : item.1 = payload.sa := asked
      rcases List.mem_cons.mp isItem with rfl | isId
      · have kindNonce : payload.nonce = payload.sa := kindOf
        exact absurd kindNonce (by decide)
      · have kindId : payload.id = payload.sa := (areIds item isId).symm.trans kindOf
        exact absurd kindId (by decide)
    subst isSa
    have nonceAt : find (((payload.sa, (espSa spi).toBytes) :: (payload.nonce, nonce) :: ids).map readBack)
        payload.nonce = some ⟨payload.nonce, nonce⟩ := rfl
    have whole : peerEspSpi ps = .ok spi := by
      apply peerEspSpi_espSa
      rw [← find_covered ps saKind, chain]
      rfl
    cases nonceAt.symm.trans found
    cases whole.symm.trans read
    exact ⟨rfl, rfl⟩

theorem answering_quickChain (spi : UInt32) {nonce : Bytes} (size : nonce.length = 16)
    (tsLocal tsRemote : Ipv4Addr × Ipv4Addr) : Answering (quickChain spi nonce tsLocal tsRemote) spi nonce := by
  refine ⟨selectors tsLocal tsRemote, rfl, ?_, fun item member => ?_⟩
  · intro item member
    simp only [selectors, List.mem_cons, List.not_mem_nil, or_false] at member
    rcases member with rfl | rfl <;> rfl
  · exact (quickChain_kinds spi nonce size tsLocal tsRemote item member).1

def echoChain (spi : UInt32) (nonce : Bytes) (ps : List Payload) : List (UInt8 × Bytes) :=
  [(payload.sa, (espSa spi).toBytes), (payload.nonce, nonce)] ++
    (ps.filter fun p => p.payloadType == payload.id).map fun p => (payload.id, p.data)

theorem answering_echoChain (spi : UInt32) {nonce : Bytes} (size : nonce.length = 16) {ps : List Payload}
    (fits : ∀ p ∈ ps, Fits (p.payloadType, p.data)) : Answering (echoChain spi nonce ps) spi nonce := by
  have saSize := espSa_length spi
  refine ⟨_, rfl, ?_, ?_⟩
  · intro item member
    obtain ⟨p, -, rfl⟩ := List.mem_map.mp member
    rfl
  · intro item member
    rcases List.mem_append.mp member with front | isId
    · simp only [List.mem_cons, List.not_mem_nil, or_false] at front
      rcases front with rfl | rfl
      · exact .of (by decide) (by omega)
      · exact .of (by decide) (by omega)
    · obtain ⟨p, kept, rfl⟩ := List.mem_map.mp isId
      exact .of (by decide) (fits p (List.mem_filter.mp kept).1).2

end Ryke.Ikev1
