import Ryke.Ikev1.Agreement
import Ryke.Ikev1.ModeCfg
import Ryke.Ikev1.Schedule

/-! What Phase 1 settles on: which of the offered transforms the responder takes, what it
makes of it, and what the initiator is told. -/

namespace Ryke.Ikev1
open Lib Crypto

/-! ## Acceptable transforms -/

inductive NamesPrf : Option UInt16 → Prf → Prop where
  | sha2256 : NamesPrf (some hash.sha2256) .sha256
  | sha1 : NamesPrf (some hash.sha1) .sha1

inductive NamesGroup : Option UInt16 → DhGroup → Prop where
  | modp1024 : NamesGroup (some 2) .modp1024
  | modp2048 : NamesGroup (some 14) .modp2048

/-- AES-256-CBC with a hash and a group that are known, and a pre-shared key. -/
structure Acceptable (t : Transform) (prf : Prf) (group : DhGroup) : Prop where
  cipher : t.attr attr.encryption = some enc.aesCbc
  keyLength : t.attr attr.keyLength = some 256
  namesPrf : NamesPrf (t.attr attr.hash) prf
  namesGroup : NamesGroup (t.attr attr.groupDesc) group
  method : t.attr attr.authMethod = some auth.psk ∨ t.attr attr.authMethod = some auth.xauthInitPsk

def Refused (t : Transform) : Prop := ∀ prf group, ¬ Acceptable t prf group

/-- The transform is the first acceptable one, in the order of the proposals and their transforms. -/
def FirstAcceptable (sa : SaPayload) (t : Transform) : Prop :=
  ∃ earlier proposal later, sa.proposals = earlier ++ proposal :: later ∧
    (∀ other ∈ earlier, ∀ refused ∈ other.transforms, Refused refused) ∧
    ∃ before after, proposal.transforms = before ++ t :: after ∧ ∀ refused ∈ before, Refused refused

theorem supportedPrf_iff {t : Transform} {prf : Prf} :
    supportedPrf t = some prf ↔ NamesPrf (t.attr attr.hash) prf := by
  unfold supportedPrf
  constructor
  · intro found
    split at found
    next isSha2 =>
      cases found
      rw [isSha2]
      exact .sha2256
    next =>
      split at found
      next isSha1 =>
        cases found
        rw [isSha1]
        exact .sha1
      next => cases found
  · intro names
    generalize t.attr attr.hash = value at names
    cases names with
    | sha2256 => rfl
    | sha1 => rfl

theorem supportedGroup_iff {t : Transform} {group : DhGroup} :
    supportedGroup t = some group ↔ NamesGroup (t.attr attr.groupDesc) group := by
  unfold supportedGroup
  constructor
  · intro found
    split at found
    next is2 =>
      cases found
      rw [is2]
      exact .modp1024
    next =>
      split at found
      next is14 =>
        cases found
        rw [is14]
        exact .modp2048
      next => cases found
  · intro names
    generalize t.attr attr.groupDesc = value at names
    cases names with
    | modp1024 => rfl
    | modp2048 => rfl

theorem supported_of_acceptable {t : Transform} {prf : Prf} {group : DhGroup} (acceptable : Acceptable t prf group) :
    supported t = some (t, prf, group, 32) := by
  have known : ¬ (t.attr attr.encryption ≠ some enc.aesCbc ∨ t.attr attr.keyLength ≠ some 256) := by
    rintro (other | other)
    · exact other acceptable.cipher
    · exact other acceptable.keyLength
  rw [supported, if_neg known, supportedPrf_iff.mpr acceptable.namesPrf, supportedGroup_iff.mpr acceptable.namesGroup]
  exact if_pos acceptable.method

theorem acceptable_of_supported {t : Transform} {found : Transform × Prf × DhGroup × Nat}
    (isSupported : supported t = some found) :
    ∃ prf group, found = (t, prf, group, 32) ∧ Acceptable t prf group := by
  unfold supported at isSupported
  split at isSupported
  next => cases isSupported
  next known =>
    obtain ⟨prf, isPrf, isSupported⟩ := Option.bind_eq_some_iff.mp isSupported
    obtain ⟨group, isGroup, isSupported⟩ := Option.bind_eq_some_iff.mp isSupported
    split at isSupported
    next method =>
      cases isSupported
      have cipher := not_not.mp (not_or.mp known).1
      have keyLength := not_not.mp (not_or.mp known).2
      exact ⟨prf, group, rfl, cipher, keyLength, supportedPrf_iff.mp isPrf, supportedGroup_iff.mp isGroup, method⟩
    next => cases isSupported

theorem supported_eq_none_iff {t : Transform} : supported t = none ↔ Refused t := by
  constructor
  · intro missing prf group acceptable
    rw [supported_of_acceptable acceptable] at missing
    cases missing
  · intro refused
    cases isSupported : supported t with
    | none => rfl
    | some found =>
      obtain ⟨prf, group, -, acceptable⟩ := acceptable_of_supported isSupported
      exact absurd acceptable (refused prf group)

/-! ## The choice -/

theorem selectTransform_of_first {sa : SaPayload} {t : Transform} {prf : Prf} {group : DhGroup}
    (isFirst : FirstAcceptable sa t) (acceptable : Acceptable t prf group) :
    selectTransform sa = some (t, prf, group, 32) := by
  obtain ⟨earlier, proposal, later, proposals, passed, before, after, transforms, refused⟩ := isFirst
  refine List.findSome?_eq_some_iff.mpr ⟨earlier, proposal, later, proposals, ?_, ?_⟩
  · exact List.findSome?_eq_some_iff.mpr ⟨before, t, after, transforms, supported_of_acceptable acceptable,
      fun other member => supported_eq_none_iff.mpr (refused other member)⟩
  · intro other member
    rw [List.findSome?_eq_none_iff]
    exact fun t inside => supported_eq_none_iff.mpr (passed other member t inside)

theorem first_of_selectTransform {sa : SaPayload} {found : Transform × Prf × DhGroup × Nat}
    (selected : selectTransform sa = some found) :
    ∃ t prf group, found = (t, prf, group, 32) ∧ FirstAcceptable sa t ∧ Acceptable t prf group := by
  obtain ⟨earlier, proposal, later, proposals, among, passed⟩ := List.findSome?_eq_some_iff.mp selected
  obtain ⟨before, t, after, transforms, isSupported, refused⟩ := List.findSome?_eq_some_iff.mp among
  obtain ⟨prf, group, rfl, acceptable⟩ := acceptable_of_supported isSupported
  refine ⟨t, prf, group, rfl, ⟨earlier, proposal, later, proposals, ?_, before, after, transforms, ?_⟩, acceptable⟩
  · intro other member t inside
    exact supported_eq_none_iff.mp (List.findSome?_eq_none_iff.mp (passed other member) t inside)
  · exact fun other member => supported_eq_none_iff.mp (refused other member)

theorem selectTransform_eq_none {sa : SaPayload}
    (refused : ∀ proposal ∈ sa.proposals, ∀ t ∈ proposal.transforms, Refused t) : selectTransform sa = none := by
  refine List.findSome?_eq_none_iff.mpr fun proposal member => List.findSome?_eq_none_iff.mpr fun t inside => ?_
  exact supported_eq_none_iff.mpr (refused proposal member t inside)

/-! ## The size of what was offered -/

theorem Attribute.parse_admits_bytes : Admits Attribute.parse Attribute.Fits (fun item => item.toBytes.length) := by
  intro b item consumed parsed
  obtain ⟨fits, -, inside⟩ := Attribute.parse_admits parsed
  refine ⟨fits, ?_, inside⟩
  obtain ⟨long, parsed⟩ := guard_eq_ok parsed
  dsimp only at parsed
  by_cases short : u16At b 0 &&& 0x8000 ≠ 0
  · rw [if_pos short] at parsed
    cases parsed
    exact Nat.le_refl 4
  · rw [if_neg short] at parsed
    obtain ⟨room, done⟩ := guard_eq_ok parsed
    cases done
    change (u16Bytes _ ++ u16Bytes _ ++ slice b 4 (4 + (u16At b 2).toNat)).length ≤ _
    rw [List.length_append, slice_length (by omega)]
    change 4 + _ ≤ _
    omega

theorem Transform.parse_sizes {body : Bytes} {t : Transform} (parsed : Transform.parse body = .ok t) :
    (∀ item ∈ t.attributes, item.Fits) ∧ t.toBytes.length ≤ body.length := by
  obtain ⟨long, parsed⟩ := guard_eq_ok parsed
  obtain ⟨attributes, read, done⟩ := bind_eq_ok parsed
  cases done
  obtain ⟨fits, sizes⟩ := parseMany_admits Attribute.parse_admits_bytes read
  rw [List.length_drop] at sizes
  refine ⟨fits, ?_⟩
  rw [toBytes, List.length_append, List.length_flatMap]
  change 4 + (attributes.map fun item => item.toBytes.length).sum ≤ _
  omega

theorem exists_of_forall₂ {α β : Type} {relates : α → β → Prop} {left : List α} {right : List β}
    (each : List.Forall₂ relates left right) {b : β} (member : b ∈ right) : ∃ a ∈ left, relates a b := by
  induction each with
  | nil => cases member
  | cons first _ ih =>
    rcases List.mem_cons.mp member with rfl | inRest
    · exact ⟨_, List.mem_cons_self, first⟩
    · obtain ⟨a, inLeft, related⟩ := ih inRest
      exact ⟨a, List.mem_cons_of_mem _ inLeft, related⟩

theorem exists_part {α : Type} {parse : Bytes → Result α} {kind : UInt8} {body : Bytes} {parts : List Payload}
    {items : List α} (read : parsePayloads kind body = .ok parts)
    (parsed : parts.mapM (fun part => parse part.data) = .ok items) {item : α} (member : item ∈ items) :
    ∃ data, parse data = .ok item ∧ 4 + data.length ≤ body.length := by
  obtain ⟨part, inParts, made⟩ := exists_of_forall₂ (mapM_eq_ok.mp parsed) member
  exact ⟨part.data, made, (fits_of_parsePayloadsFrom read part inParts).2⟩

theorem SaPayload.parse_sizes {body : Bytes} {sa : SaPayload} (parsed : SaPayload.parse body = .ok sa)
    {proposal : Proposal} (isProposal : proposal ∈ sa.proposals) {t : Transform}
    (isTransform : t ∈ proposal.transforms) :
    (∀ item ∈ t.attributes, item.Fits) ∧ 20 + t.toBytes.length ≤ body.length := by
  obtain ⟨long, parsed⟩ := guard_eq_ok parsed
  obtain ⟨parts, read, parsed⟩ := bind_eq_ok parsed
  obtain ⟨proposals, each, done⟩ := bind_eq_ok parsed
  cases done
  obtain ⟨data, parsed, inside⟩ := exists_part read each isProposal
  obtain ⟨longer, parsed⟩ := guard_eq_ok parsed
  obtain ⟨room, parsed⟩ := guard_eq_ok parsed
  obtain ⟨parts, read, parsed⟩ := bind_eq_ok parsed
  obtain ⟨transforms, each, done⟩ := bind_eq_ok parsed
  cases done
  obtain ⟨bytes, parsed, within⟩ := exists_part read each isTransform
  obtain ⟨fits, size⟩ := Transform.parse_sizes parsed
  rw [List.length_drop] at inside within
  exact ⟨fits, by omega⟩

/-! ## The echo -/

def echoSa (sa : SaPayload) (t : Transform) : SaPayload where
  doi := sa.doi
  situation := sa.situation
  proposals := [{ num := 1, protocolId := protocol.isakmp, spi := [], transforms := [t] }]

theorem encodeChain_single_length (kind : UInt8) (data : Bytes) :
    (encodeChain [(kind, data)]).length = 4 + data.length := by
  simp only [encodeChain, List.append_nil, List.length_append, List.length_cons, List.length_nil, u16Bytes_length]

def echoProposal (t : Transform) : Proposal := ⟨1, protocol.isakmp, [], [t]⟩

theorem echoProposal_length (t : Transform) : (echoProposal t).toBytes.length = 8 + t.toBytes.length := by
  have chain := encodeChain_single_length payload.transform t.toBytes
  change (encodeChain [(payload.transform, t.toBytes)]).length + 4 = _
  omega

theorem echoSa_length (sa : SaPayload) (t : Transform) : (echoSa sa t).toBytes.length = 20 + t.toBytes.length := by
  have chain := encodeChain_single_length payload.proposal (echoProposal t).toBytes
  have proposal := echoProposal_length t
  change (encodeChain [(payload.proposal, (echoProposal t).toBytes)]).length + 8 = _
  omega

theorem echoSa_fits {sa : SaPayload} {t : Transform} (attributes : ∀ item ∈ t.attributes, item.Fits)
    (small : 20 + t.toBytes.length < 65536) : (echoSa sa t).Fits := by
  have size := echoProposal_length t
  refine ⟨List.cons_ne_nil _ _, ?_⟩
  intro proposal member
  rw [List.mem_singleton.mp member]
  refine ⟨List.cons_ne_nil _ _, ?_, ?_, ?_⟩
  · intro transform member
    rw [List.mem_singleton.mp member]
    exact ⟨attributes, by omega⟩
  · change 0 < 256
    decide
  · change 4 + (echoProposal t).toBytes.length < 65536
    omega

/-- The choice from the echo is the choice from the offer. -/
theorem first_echoSa (sa : SaPayload) (t : Transform) : FirstAcceptable (echoSa sa t) t := by
  refine ⟨[], _, [], rfl, fun _ member => absurd member List.not_mem_nil, [], [], rfl, ?_⟩
  exact fun _ member => absurd member List.not_mem_nil

theorem selectTransform_echoSa (sa : SaPayload) {t : Transform} {prf : Prf} {group : DhGroup}
    (acceptable : Acceptable t prf group) : selectTransform (echoSa sa t) = some (t, prf, group, 32) :=
  selectTransform_of_first (first_echoSa sa t) acceptable

/-! ## Message 1 -/

/-- An Aggressive Mode message with an SA, a share, a nonce and an identity. -/
def Offers (msg1 : Bytes) (sa : SaPayload) (gxi : Bytes) : Prop :=
  ∃ header ps saP keP, IsakmpHeader.parse msg1 = .ok header ∧ header.exchangeType = exchange.aggressive ∧
    parsePayloads header.nextPayload (msg1.drop IsakmpHeader.len) = .ok ps ∧
    find ps payload.sa = some saP ∧ SaPayload.parse saP.data = .ok sa ∧
    find ps payload.ke = some keP ∧ keP.data = gxi ∧
    (∃ nonceP, find ps payload.nonce = some nonceP) ∧ ∃ idP, find ps payload.id = some idP

def settle (ckyI : Cookie) (saiB idiiB ni : Bytes) (sa : SaPayload) (gxi : Bytes) : Result Offer := do
  let (chosen, prf, group, keyLen) ← okOr (selectTransform sa) .noProposalChosen
  if gxi.length ≠ group.publicLen then .error (.badKeyExchange group.transformId gxi.length)
  else .ok { ckyI, saiB, idiiB, gxi, ni, sa, chosen, prf, group, keyLen }

theorem readOffer_of_offers {msg1 : Bytes} {sa : SaPayload} {gxi : Bytes} (offers : Offers msg1 sa gxi) :
    ∃ ckyI saiB idiiB ni, ckyI.length = 8 ∧ 4 + saiB.length < 65536 ∧ SaPayload.parse saiB = .ok sa ∧
      readOffer msg1 = settle ckyI saiB idiiB ni sa gxi := by
  obtain ⟨header, ps, saP, keP, parsed, kind, chain, saFound, saParsed, keFound, rfl, ⟨nonceP, nonceFound⟩,
    idP, idFound⟩ := offers
  have small := (fits_of_parsePayloadsFrom chain saP (List.mem_of_find?_eq_some saFound)).1.2
  refine ⟨header.initCookie, saP.data, idP.data, nonceP.data, (parse_cookies parsed).1, small, saParsed, ?_⟩
  rw [readOffer, parsed, ok_bind, if_neg (not_not.mpr kind)]
  dsimp only
  rw [chain, ok_bind, saFound, keFound, nonceFound, idFound, okOr_some, ok_bind, okOr_some, ok_bind, okOr_some, ok_bind,
    okOr_some, ok_bind, saParsed, ok_bind]
  rfl

theorem offers_of_readOffer {msg1 : Bytes} {offer : Offer} (read : readOffer msg1 = .ok offer) :
    Offers msg1 offer.sa offer.gxi ∧
      selectTransform offer.sa = some (offer.chosen, offer.prf, offer.group, offer.keyLen) ∧
      offer.gxi.length = offer.group.publicLen := by
  unfold readOffer at read
  obtain ⟨header, parsed, read⟩ := bind_eq_ok read
  obtain ⟨kind, read⟩ := guard_eq_ok read
  obtain ⟨ps, chain, read⟩ := bind_eq_ok read
  obtain ⟨saP, saFound, read⟩ := bind_eq_ok read
  obtain ⟨keP, keFound, read⟩ := bind_eq_ok read
  obtain ⟨nonceP, nonceFound, read⟩ := bind_eq_ok read
  obtain ⟨idP, idFound, read⟩ := bind_eq_ok read
  obtain ⟨sa, saParsed, read⟩ := bind_eq_ok read
  obtain ⟨⟨chosen, prf, group, keyLen⟩, selected, read⟩ := bind_eq_ok read
  obtain ⟨sized, read⟩ := guard_eq_ok read
  cases read
  refine ⟨?_, okOr_eq_ok selected, not_not.mp sized⟩
  exact ⟨header, ps, saP, keP, parsed, not_not.mp kind, chain, okOr_eq_ok saFound, saParsed, okOr_eq_ok keFound, rfl,
    ⟨nonceP, okOr_eq_ok nonceFound⟩, idP, okOr_eq_ok idFound⟩

theorem Offers.settled {msg1 : Bytes} {sa : SaPayload} {gxi : Bytes} {t : Transform} {prf : Prf} {group : DhGroup}
    (offers : Offers msg1 sa gxi) (isFirst : FirstAcceptable sa t) (acceptable : Acceptable t prf group)
    (sized : gxi.length = group.publicLen) :
    ∃ ckyI saiB idiiB ni, ckyI.length = 8 ∧ 4 + saiB.length < 65536 ∧ SaPayload.parse saiB = .ok sa ∧
      readOffer msg1 = .ok ⟨ckyI, saiB, idiiB, gxi, ni, sa, t, prf, group, 32⟩ := by
  obtain ⟨ckyI, saiB, idiiB, ni, cookie, small, parsed, read⟩ := readOffer_of_offers offers
  refine ⟨ckyI, saiB, idiiB, ni, cookie, small, parsed, ?_⟩
  rw [read, settle, selectTransform_of_first isFirst acceptable, okOr_some, ok_bind]
  exact if_neg (not_not.mpr sized)

/-! ## Message 2 -/

def Announces (msg2 : Bytes) (sa : SaPayload) (xauth : Bool) : Prop :=
  ∃ header ps saP, IsakmpHeader.parse msg2 = .ok header ∧
    parsePayloads header.nextPayload (msg2.drop IsakmpHeader.len) = .ok ps ∧
    find ps payload.sa = some saP ∧ SaPayload.parse saP.data = .ok sa ∧
    (⟨payload.vendorId, xauthVendorId⟩ ∈ ps ↔ xauth = true)

def replyChain (sa : SaPayload) (t : Transform) (id : Id) (gxr nr proof : Bytes) : List (UInt8 × Bytes) :=
  [(payload.sa, (echoSa sa t).toBytes), (payload.ke, gxr), (payload.nonce, nr), (payload.id, id.toBytes),
    (payload.hash, proof)] ++
    if isXauthAuth ((t.attr attr.authMethod).getD 0) then [(payload.vendorId, xauthVendorId)] else []

theorem fits_replyChain {sa : SaPayload} {t : Transform} {id : Id} {gxr nr proof : Bytes}
    (small : 24 + t.toBytes.length < 65536) (idFits : id.Fits) (gxrSize : gxr.length ≤ 256) (nrSize : nr.length = 16)
    (proofSize : proof.length ≤ 32) : ∀ item ∈ replyChain sa t id gxr nr proof, Fits item := by
  have echoSize := echoSa_length sa t
  intro item member
  rcases List.mem_append.mp member with isFixed | isVendor
  · simp only [List.mem_cons, List.not_mem_nil, or_false] at isFixed
    rcases isFixed with rfl | rfl | rfl | rfl | rfl
    · exact .of (by decide) (by omega)
    · exact .of (by decide) (by omega)
    · exact .of (by decide) (by omega)
    · exact .of (by decide) idFits
    · exact .of (by decide) (by omega)
  · split at isVendor
    next =>
      rw [List.mem_singleton.mp isVendor]
      decide
    next => cases isVendor

theorem isXauthAuth_iff {t : Transform} {prf : Prf} {group : DhGroup} (acceptable : Acceptable t prf group) :
    isXauthAuth ((t.attr attr.authMethod).getD 0) = true ↔ t.attr attr.authMethod = some auth.xauthInitPsk := by
  rcases acceptable.method with isPsk | isXauth
  · rw [isPsk]
    decide
  · rw [isXauth]
    decide

theorem vendor_mem_replyChain (sa : SaPayload) (t : Transform) (id : Id) (gxr nr proof : Bytes) :
    (⟨payload.vendorId, xauthVendorId⟩ ∈ (replyChain sa t id gxr nr proof).map readBack) ↔
      isXauthAuth ((t.attr attr.authMethod).getD 0) = true := by
  have elsewhere : ∀ kind data, kind ≠ payload.vendorId →
      (⟨payload.vendorId, xauthVendorId⟩ : Payload) ≠ readBack (kind, data) := by
    intro kind data other same
    exact other (congrArg Payload.payloadType same).symm
  rw [replyChain, List.map_append, List.mem_append]
  constructor
  · rintro (isFixed | isVendor)
    · simp only [List.map_cons, List.map_nil, List.mem_cons, List.not_mem_nil, or_false] at isFixed
      rcases isFixed with same | same | same | same | same
      · exact absurd same (elsewhere _ _ (by decide))
      · exact absurd same (elsewhere _ _ (by decide))
      · exact absurd same (elsewhere _ _ (by decide))
      · exact absurd same (elsewhere _ _ (by decide))
      · exact absurd same (elsewhere _ _ (by decide))
    · split at isVendor
      next xauth => exact xauth
      next => cases isVendor
  · intro xauth
    rw [if_pos xauth]
    exact .inr List.mem_cons_self

theorem announces_replyChain {sa : SaPayload} {t : Transform} {prf : Prf} {group : DhGroup} {id : Id}
    {ckyI ckyR : Cookie} {gxr nr proof : Bytes} (attributes : ∀ item ∈ t.attributes, item.Fits)
    (small : 24 + t.toBytes.length < 65536)
    (acceptable : Acceptable t prf group) (idFits : id.Fits) (cookieI : ckyI.length = 8) (cookieR : ckyR.length = 8)
    (gxrSize : gxr.length ≤ 256) (nrSize : nr.length = 16) (proofSize : proof.length ≤ 32) :
    Announces (buildMessage (aggressiveHeader ckyI ckyR) (replyChain sa t id gxr nr proof)) (echoSa sa t)
      (decide (t.attr attr.authMethod = some auth.xauthInitPsk)) := by
  have fits : ∀ item ∈ replyChain sa t id gxr nr proof, Fits item :=
    fits_replyChain small idFits gxrSize nrSize proofSize
  have sizeI : (aggressiveHeader ckyI ckyR).initCookie.length = 8 := cookieI
  have sizeR : (aggressiveHeader ckyI ckyR).respCookie.length = 8 := cookieR
  obtain ⟨header, length, -, parsed, read⟩ := parse_buildMessage sizeI sizeR fits
  refine ⟨header, _, ⟨payload.sa, (echoSa sa t).toBytes⟩, parsed, read, rfl,
    SaPayload.parse_toBytes (echoSa_fits attributes (by omega)), ?_⟩
  rw [vendor_mem_replyChain, isXauthAuth_iff acceptable, decide_eq_true_iff]

theorem NamesGroup.modp {value : Option UInt16} {group : DhGroup} (names : NamesGroup value group) : Modp group := by
  cases names with
  | modp1024 => exact .inl rfl
  | modp2048 => exact .inr rfl

/-! ## The negotiation -/

/-- The condition under which message 1 is answered. -/
structure Agreeable (msg1 : Bytes) (sa : SaPayload) (gxi : Bytes) (t : Transform) (prf : Prf) (group : DhGroup) :
    Prop where
  offers : Offers msg1 sa gxi
  isFirst : FirstAcceptable sa t
  acceptable : Acceptable t prf group
  sized : gxi.length = group.publicLen
  valid : group.validPublic gxi = true

structure Settled (msg2 : Bytes) (st : Phase1State) (sa : SaPayload) (gxi : Bytes) (t : Transform) (prf : Prf)
    (group : DhGroup) : Prop where
  announces : Announces msg2 (echoSa sa t) (decide (t.attr attr.authMethod = some auth.xauthInitPsk))
  again : selectTransform (echoSa sa t) = some (t, prf, group, 32)
  prf : st.prf = prf
  group : st.group = group
  share : st.gxi = gxi
  encKey : st.encKey.length = 32

section Negotiation

variable {ε : Type} [Entropy ε] (P : Primitives) {cfg : Phase1Config} {msg1 : Bytes} {sa : SaPayload} {gxi : Bytes}
  {t : Transform} {prf : Prf} {group : DhGroup} (entropy : ε)

theorem Agreeable.answered (idFits : cfg.ourId.Fits) (agreeable : Agreeable msg1 sa gxi t prf group) :
    ∃ msg2 st, (respondAggressive P cfg msg1 entropy).1 = .ok (msg2, st) ∧ Settled msg2 st sa gxi t prf group := by
  obtain ⟨offers, isFirst, acceptable, sized, valid⟩ := agreeable
  obtain ⟨ckyI, saiB, idiiB, ni, cookieI, saSmall, saParsed, read⟩ := offers.settled isFirst acceptable sized
  obtain ⟨earlier, proposal, later, proposals, -, before, after, transforms, -⟩ := isFirst
  have isProposal : proposal ∈ sa.proposals := by
    rw [proposals]
    exact List.mem_append_right _ List.mem_cons_self
  have isTransform : t ∈ proposal.transforms := by
    rw [transforms]
    exact List.mem_append_right _ List.mem_cons_self
  obtain ⟨attributes, inside⟩ := SaPayload.parse_sizes saParsed isProposal isTransform
  have keySize := publicLen_le group
  obtain ⟨gxy, agreed⟩ :=
    (group.shared_isOk_iff P (Entropy.nextArray32 (Entropy.fill entropy 8).2).1 gxi).mpr ⟨sized, valid⟩
  rw [respondAggressive, read]
  dsimp only
  rw [answerOffer]
  dsimp only
  rw [agreed, ok_bind]
  refine ⟨_, _, rfl, ?_, selectTransform_echoSa sa acceptable, rfl, rfl, rfl, (derivePhase1_sizes ..).1⟩
  apply announces_replyChain attributes (by omega) acceptable idFits cookieI (Entropy.fill_length _ 8)
  · rw [group.public_length]
    exact keySize
  · exact Entropy.fill_length _ 16
  · rw [hashR, prf.mac_length]
    cases prf <;> decide

theorem agreeable_of_answered {answer : Bytes × Phase1State}
    (answered : (respondAggressive P cfg msg1 entropy).1 = .ok answer) :
    ∃ sa gxi t prf group, Agreeable msg1 sa gxi t prf group := by
  obtain ⟨offer, gxy, ckyR, dhR, nr, read, -, -, -, agreed, -⟩ := respondAggressive_eq_ok answered
  obtain ⟨offers, selected, sized⟩ := offers_of_readOffer read
  obtain ⟨t, prf, group, found, isFirst, acceptable⟩ := first_of_selectTransform selected
  have sameGroup : offer.group = group := congrArg (fun found => found.2.2.1) found
  rw [sameGroup] at sized agreed
  exact ⟨offer.sa, offer.gxi, t, prf, group, offers, isFirst, acceptable, sized,
    ((group.shared_isOk_iff P dhR _).mp ⟨gxy, agreed⟩).2⟩

theorem respondAggressive_error {error : IkeError} (failed : readOffer msg1 = .error error) :
    respondAggressive P cfg msg1 entropy = (.error error, entropy) := by
  rw [respondAggressive, failed]

theorem Offers.refused (offers : Offers msg1 sa gxi)
    (refused : ∀ proposal ∈ sa.proposals, ∀ t ∈ proposal.transforms, Refused t) :
    readOffer msg1 = .error .noProposalChosen := by
  obtain ⟨ckyI, saiB, idiiB, ni, -, -, -, read⟩ := readOffer_of_offers offers
  rw [read, settle, selectTransform_eq_none refused]
  rfl

theorem Offers.missized (offers : Offers msg1 sa gxi) (isFirst : FirstAcceptable sa t)
    (acceptable : Acceptable t prf group) (missized : gxi.length ≠ group.publicLen) :
    readOffer msg1 = .error (.badKeyExchange group.transformId gxi.length) := by
  obtain ⟨ckyI, saiB, idiiB, ni, -, -, -, read⟩ := readOffer_of_offers offers
  rw [read, settle, selectTransform_of_first isFirst acceptable, okOr_some, ok_bind]
  exact if_pos missized

end Negotiation

/-- Message 1 is answered exactly when its first acceptable transform has a share to go with it. The
answer offers that transform alone, whose own choice it is again, and acknowledges XAUTH exactly
where the transform asks for it. Offers without such a transform or share fail before anything is
drawn. -/
theorem phase1_negotiation {ε : Type} [Entropy ε] (P : Primitives) (cfg : Phase1Config) (idFits : cfg.ourId.Fits)
    (msg1 : Bytes) (entropy : ε) :
    ((∃ answer, (respondAggressive P cfg msg1 entropy).1 = .ok answer) ↔
      ∃ sa gxi t prf group, Agreeable msg1 sa gxi t prf group) ∧
    (∀ sa gxi t prf group msg2 st, Agreeable msg1 sa gxi t prf group →
      (respondAggressive P cfg msg1 entropy).1 = .ok (msg2, st) → Settled msg2 st sa gxi t prf group) ∧
    ∀ sa gxi, Offers msg1 sa gxi →
      ((∀ proposal ∈ sa.proposals, ∀ t ∈ proposal.transforms, Refused t) →
        respondAggressive P cfg msg1 entropy = (.error .noProposalChosen, entropy)) ∧
      ∀ t prf group, FirstAcceptable sa t → Acceptable t prf group → gxi.length ≠ group.publicLen →
        respondAggressive P cfg msg1 entropy = (.error (.badKeyExchange group.transformId gxi.length), entropy) := by
  refine ⟨⟨?_, ?_⟩, ?_, ?_⟩
  · rintro ⟨answer, answered⟩
    exact agreeable_of_answered P entropy answered
  · rintro ⟨sa, gxi, t, prf, group, agreeable⟩
    obtain ⟨msg2, st, answered, -⟩ := agreeable.answered P entropy idFits
    exact ⟨(msg2, st), answered⟩
  · intro sa gxi t prf group msg2 st agreeable answered
    obtain ⟨sent, reached, responded, settled⟩ := agreeable.answered P entropy idFits
    rw [responded] at answered
    cases answered
    exact settled
  · intro sa gxi offers
    refine ⟨?_, ?_⟩
    · intro refused
      exact respondAggressive_error P entropy (offers.refused refused)
    · intro t prf group isFirst acceptable missized
      exact respondAggressive_error P entropy (offers.missized isFirst acceptable missized)

namespace Toy

def weak : Transform := ⟨0, 1, [.ofShort attr.encryption enc.aesCbc, .ofShort attr.keyLength 128]⟩

def mixed : SaPayload :=
  ⟨ipsecDoi, sitIdentityOnly, [⟨1, protocol.isakmp, [], [weak, offeredTransform .modp1024 true]⟩]⟩

def share : Bytes := List.replicate 127 0 ++ [5]

def mixedChain : List (UInt8 × Bytes) :=
  [(payload.sa, mixed.toBytes), (payload.ke, share), (payload.nonce, List.replicate 16 7),
    (payload.id, clientId.toBytes)]

def mixedMessage : Bytes := buildMessage (aggressiveHeader [1, 1, 1, 1, 1, 1, 1, 1] (List.replicate 8 0)) mixedChain

theorem mixedMessage_offers : Offers mixedMessage mixed share := by
  have fits : ∀ item ∈ mixedChain, Fits item := by decide +kernel
  have saFits : mixed.Fits := by decide +kernel
  have cookieI : (aggressiveHeader [1, 1, 1, 1, 1, 1, 1, 1] (List.replicate 8 0)).initCookie.length = 8 := rfl
  obtain ⟨header, length, isHeader, parsed, read⟩ := parse_buildMessage cookieI rfl fits
  have kind : header.exchangeType = exchange.aggressive := by
    rw [isHeader]
    rfl
  exact ⟨header, _, ⟨payload.sa, mixed.toBytes⟩, ⟨payload.ke, share⟩, parsed, kind, read, rfl,
    SaPayload.parse_toBytes saFits, rfl, rfl, ⟨_, rfl⟩, _, rfl⟩

theorem mixedMessage_agreeable :
    Agreeable mixedMessage mixed share (offeredTransform .modp1024 true) .sha256 .modp1024 := by
  have none : supported weak = none := by decide +kernel
  have weakRefused : Refused weak := supported_eq_none_iff.mp none
  refine ⟨mixedMessage_offers, ⟨[], _, [], rfl, fun _ member => absurd member List.not_mem_nil, [weak], [], rfl, ?_⟩,
    ⟨by decide +kernel, by decide +kernel, .sha2256, .modp1024, .inr (by decide +kernel)⟩, by decide +kernel,
    by decide +kernel⟩
  intro t member
  rw [List.mem_singleton.mp member]
  exact weakRefused

end Toy

theorem phase1_negotiation_mixed :
    (∃ answer, (respondAggressive toy ⟨[1, 2, 3], Toy.serverId⟩ Toy.mixedMessage (⟨2⟩ : Ryke.Toy.Counter)).1 =
        .ok answer) ∧
      ∀ msg2 st, (respondAggressive toy ⟨[1, 2, 3], Toy.serverId⟩ Toy.mixedMessage (⟨2⟩ : Ryke.Toy.Counter)).1 =
        .ok (msg2, st) →
        Settled msg2 st Toy.mixed Toy.share (offeredTransform .modp1024 true) .sha256 .modp1024 := by
  have idFits : Toy.serverId.Fits := by
    unfold Id.Fits
    decide
  obtain ⟨isAnswered, settled, -⟩ := phase1_negotiation toy ⟨[1, 2, 3], Toy.serverId⟩ idFits Toy.mixedMessage
    (⟨2⟩ : Ryke.Toy.Counter)
  refine ⟨isAnswered.mpr ⟨_, _, _, _, _, Toy.mixedMessage_agreeable⟩, ?_⟩
  intro msg2 st answered
  exact settled _ _ _ _ _ msg2 st Toy.mixedMessage_agreeable answered

end Ryke.Ikev1
