import Ryke.Ikev1.Quick
import Ryke.Toy

/-! The IKEv1 handshake of two honest ends: Aggressive Mode with a shared PSK and then
Quick Mode, each step on the message that the other end sent. Both ends come to one
Phase-1 state, and to CHILD SAs that mirror each other. -/

namespace Ryke.Ikev1
open Lib Crypto

/-! ## Diffie-Hellman -/

def Modp (group : DhGroup) : Prop := group = .modp1024 ∨ group = .modp2048

theorem Modp.agreed_comm {group : DhGroup} (modp : Modp group) (P : Primitives) (a b : Bytes) :
    group.agreed P a (group.public_ P b) = group.agreed P b (group.public_ P a) := by
  apply DhGroup.agreed_comm P group
  rintro rfl
  rcases modp with other | other <;> cases other

theorem shared_of_validPublic (P : Primitives) {group : DhGroup} (modp : Modp group) {a b : Bytes}
    (validA : group.validPublic (group.public_ P a) = true) (validB : group.validPublic (group.public_ P b) = true) :
    ∃ gxy, group.shared P a (group.public_ P b) = .ok gxy ∧ group.shared P b (group.public_ P a) = .ok gxy := by
  obtain ⟨gxy, sharedA⟩ := (group.shared_isOk_iff P a _).mpr ⟨group.public_length P b, validB⟩
  obtain ⟨other, sharedB⟩ := (group.shared_isOk_iff P b _).mpr ⟨group.public_length P a, validA⟩
  have same : gxy = other := by
    rw [(DhGroup.shared_eq_ok sharedA).2, (DhGroup.shared_eq_ok sharedB).2, modp.agreed_comm P]
  exact ⟨gxy, sharedA, same ▸ sharedB⟩

/-! ## Aggressive Mode -/

def offeredTransform (group : DhGroup) (xauth : Bool) : Transform :=
  ((initiatorSa group xauth).proposals.flatMap Proposal.transforms).headD ⟨0, 0, []⟩

theorem initiatorSa_fits (group : DhGroup) (xauth : Bool) : (initiatorSa group xauth).Fits := by
  cases group <;> cases xauth <;> decide +kernel

theorem selectTransform_initiatorSa {group : DhGroup} (modp : Modp group) (xauth : Bool) :
    selectTransform (initiatorSa group xauth) = some (offeredTransform group xauth, .sha256, group, 32) := by
  rcases modp with rfl | rfl <;> cases xauth <;> decide +kernel

theorem isXauthAuth_offeredTransform (group : DhGroup) (xauth : Bool) :
    isXauthAuth (((offeredTransform group xauth).attr attr.authMethod).getD 0) = xauth := by
  cases group <;> cases xauth <;> decide +kernel

def Id.Fits (id : Id) : Prop := 4 + id.toBytes.length < 65536

def offerOf (group : DhGroup) (xauth : Bool) (id : Id) (ckyI : Cookie) (gxi ni : Bytes) : Offer where
  ckyI := ckyI
  saiB := (initiatorSa group xauth).toBytes
  idiiB := id.toBytes
  gxi := gxi
  ni := ni
  sa := initiatorSa group xauth
  chosen := offeredTransform group xauth
  prf := .sha256
  group := group
  keyLen := 32

def offerChain (group : DhGroup) (xauth : Bool) (id : Id) (gxi ni : Bytes) : List (UInt8 × Bytes) :=
  [(payload.sa, (initiatorSa group xauth).toBytes), (payload.ke, gxi), (payload.nonce, ni), (payload.id, id.toBytes)]

theorem publicLen_le (group : DhGroup) : group.publicLen ≤ 256 := by
  cases group <;> decide

theorem initiatorSa_length (group : DhGroup) (xauth : Bool) : (initiatorSa group xauth).toBytes.length = 56 := by
  cases group <;> cases xauth <;> decide +kernel

section Aggressive

variable {P : Primitives} {group : DhGroup} (modp : Modp group) (xauth : Bool) {idI idR : Id} (idIFits : idI.Fits)
  (idRFits : idR.Fits) {ckyI ckyR : Cookie} (ckyISize : ckyI.length = 8) (ckyRSize : ckyR.length = 8)
  {gxi gxr ni nr : Bytes} (gxiSize : gxi.length = group.publicLen) (gxrSize : gxr.length = group.publicLen)
  (niSize : ni.length = 16) (nrSize : nr.length = 16)

include idIFits gxiSize niSize in
theorem fits_offerChain : ∀ item ∈ offerChain group xauth idI gxi ni, Fits item := by
  have kePayload := publicLen_le group
  have saPayload := initiatorSa_length group xauth
  intro item member
  simp only [offerChain, List.mem_cons, List.not_mem_nil, or_false] at member
  rcases member with rfl | rfl | rfl | rfl
  · exact .of (by decide) (by omega)
  · exact .of (by decide) (by omega)
  · exact .of (by decide) (by omega)
  · exact .of (by decide) idIFits

include modp idIFits ckyISize gxiSize niSize in
theorem readOffer_offerChain :
    readOffer (buildMessage (aggressiveHeader ckyI (List.replicate 8 0)) (offerChain group xauth idI gxi ni)) =
      .ok (offerOf group xauth idI ckyI gxi ni) := by
  have fits := fits_offerChain xauth idIFits gxiSize niSize
  have cookies : (aggressiveHeader ckyI (List.replicate 8 0)).initCookie.length = 8 := ckyISize
  obtain ⟨header, length, isHeader, parsed, read⟩ := parse_buildMessage cookies rfl fits
  have kind : ¬ header.exchangeType ≠ exchange.aggressive := by
    rw [isHeader]
    exact not_not.mpr rfl
  have sized : ¬ gxi.length ≠ group.publicLen := not_not.mpr gxiSize
  have saFound : find ((offerChain group xauth idI gxi ni).map readBack) payload.sa =
      some ⟨payload.sa, (initiatorSa group xauth).toBytes⟩ := rfl
  have keFound : find ((offerChain group xauth idI gxi ni).map readBack) payload.ke = some ⟨payload.ke, gxi⟩ := rfl
  have nonceFound : find ((offerChain group xauth idI gxi ni).map readBack) payload.nonce =
      some ⟨payload.nonce, ni⟩ := rfl
  have idFound : find ((offerChain group xauth idI gxi ni).map readBack) payload.id =
      some ⟨payload.id, idI.toBytes⟩ := rfl
  rw [readOffer, parsed, ok_bind, if_neg kind, read, ok_bind, saFound, keFound, nonceFound, idFound, okOr_some, ok_bind,
    okOr_some, ok_bind, okOr_some, ok_bind, okOr_some, ok_bind, SaPayload.parse_toBytes (initiatorSa_fits group xauth),
    ok_bind, selectTransform_initiatorSa modp, okOr_some, ok_bind]
  dsimp only
  rw [if_neg sized, isHeader]
  rfl

def answerChain (group : DhGroup) (xauth : Bool) (id : Id) (gxr nr hash : Bytes) : List (UInt8 × Bytes) :=
  [(payload.sa, (initiatorSa group xauth).toBytes), (payload.ke, gxr), (payload.nonce, nr), (payload.id, id.toBytes),
    (payload.hash, hash)] ++ if xauth then [(payload.vendorId, xauthVendorId)] else []

/-- The responder answers with the offer's own SA payload: it has one transform. -/
theorem answerOffer_eq {psk gxy dhR : Bytes} (isGxr : group.public_ P dhR = gxr)
    (agreed : group.shared P dhR gxi = .ok gxy) :
    answerOffer P ⟨psk, idR⟩ (offerOf group xauth idI ckyI gxi ni) ckyR dhR nr =
      let state := derivePhase1 P .sha256 group psk ckyI ckyR gxy gxi gxr ni nr (initiatorSa group xauth).toBytes
        idI.toBytes 32
      .ok (buildMessage (aggressiveHeader ckyI ckyR) (answerChain group xauth idR gxr nr
        (hashR P .sha256 state.skeyid gxr gxi ckyR ckyI (initiatorSa group xauth).toBytes idR.toBytes)), state) := by
  have sameSa : (⟨(initiatorSa group xauth).doi, (initiatorSa group xauth).situation,
      [⟨1, protocol.isakmp, [], [offeredTransform group xauth]⟩]⟩ : SaPayload) = initiatorSa group xauth := rfl
  have asksXauth := isXauthAuth_offeredTransform group xauth
  subst isGxr
  unfold answerOffer offerOf
  dsimp only
  rw [agreed, ok_bind, sameSa, asksXauth]
  rfl

include idRFits gxrSize nrSize in
theorem fits_answerChain {proof : Bytes} (proofSize : proof.length = 32) :
    ∀ item ∈ answerChain group xauth idR gxr nr proof, Fits item := by
  have kePayload := publicLen_le group
  have saPayload := initiatorSa_length group xauth
  intro item member
  rcases List.mem_append.mp member with isFixed | isVendor
  · simp only [List.mem_cons, List.not_mem_nil, or_false] at isFixed
    rcases isFixed with rfl | rfl | rfl | rfl | rfl
    · exact .of (by decide) (by omega)
    · exact .of (by decide) (by omega)
    · exact .of (by decide) (by omega)
    · exact .of (by decide) idRFits
    · exact .of (by decide) (by omega)
  · cases xauth with
    | false => cases isVendor
    | true =>
      rw [List.mem_singleton.mp isVendor]
      decide

include idRFits ckyISize ckyRSize gxrSize nrSize in
theorem complete_answerChain {psk gxy dhI : Bytes} (agreed : group.shared P dhI gxr = .ok gxy) :
    let state := derivePhase1 P .sha256 group psk ckyI ckyR gxy gxi gxr ni nr (initiatorSa group xauth).toBytes
      idI.toBytes 32
    AggressiveInitiator.complete P ⟨.sha256, group, psk, ckyI, dhI, gxi, ni, idI.toBytes,
        (initiatorSa group xauth).toBytes, 32⟩
        (buildMessage (aggressiveHeader ckyI ckyR) (answerChain group xauth idR gxr nr
          (hashR P .sha256 state.skeyid gxr gxi ckyR ckyI (initiatorSa group xauth).toBytes idR.toBytes))) =
      .ok (buildMessage (aggressiveHeader ckyI ckyR) [(payload.hash,
        hashI P .sha256 state.skeyid gxi gxr ckyI ckyR (initiatorSa group xauth).toBytes idI.toBytes)], state) := by
  intro state
  let proof := hashR P .sha256 state.skeyid gxr gxi ckyR ckyI (initiatorSa group xauth).toBytes idR.toBytes
  let chain := answerChain group xauth idR gxr nr proof
  have proofSize : proof.length = 32 := Prf.mac_length P .sha256 _ _
  have fits : ∀ item ∈ chain, Fits item := fits_answerChain xauth idRFits gxrSize nrSize proofSize
  have cookieI : (aggressiveHeader ckyI ckyR).initCookie.length = 8 := ckyISize
  have cookieR : (aggressiveHeader ckyI ckyR).respCookie.length = 8 := ckyRSize
  obtain ⟨header, length, isHeader, parsed, read⟩ := parse_buildMessage cookieI cookieR fits
  have kind : ¬ header.exchangeType ≠ exchange.aggressive := by
    rw [isHeader]
    exact not_not.mpr rfl
  have respCookie : header.respCookie = ckyR := by
    rw [isHeader]
    rfl
  have keFound : find (chain.map readBack) payload.ke = some ⟨payload.ke, gxr⟩ := rfl
  have nonceFound : find (chain.map readBack) payload.nonce = some ⟨payload.nonce, nr⟩ := rfl
  have hashFound : find (chain.map readBack) payload.hash = some ⟨payload.hash, proof⟩ := rfl
  have idFound : find (chain.map readBack) payload.id = some ⟨payload.id, idR.toBytes⟩ := rfl
  have sized : ¬ gxr.length ≠ group.publicLen := not_not.mpr gxrSize
  rw [AggressiveInitiator.complete, parsed, ok_bind, if_neg kind]
  dsimp only
  rw [read, ok_bind, keFound, nonceFound, hashFound, idFound, okOr_some, ok_bind, okOr_some, ok_bind, okOr_some,
    ok_bind, okOr_some, ok_bind]
  dsimp only
  rw [if_neg sized, agreed, ok_bind, respCookie]
  exact if_neg (not_not.mpr rfl)

include ckyISize ckyRSize in
theorem verifyHashI_ok (state : Phase1State) (isI : state.ckyI = ckyI) (isR : state.ckyR = ckyR) :
    state.verifyHashI P (buildMessage (aggressiveHeader ckyI ckyR) [(payload.hash, hashI P state.prf state.skeyid
      state.gxi state.gxr ckyI ckyR state.saiB state.idiiB)]) = .ok () := by
  let proof := hashI P state.prf state.skeyid state.gxi state.gxr ckyI ckyR state.saiB state.idiiB
  have proofSize : proof.length ≤ 32 := by
    have size : proof.length = state.prf.outputLen := Prf.mac_length P state.prf _ _
    rw [size]
    cases state.prf <;> decide
  have fits : ∀ item ∈ [(payload.hash, proof)], Fits item := by
    intro item member
    rw [List.mem_singleton.mp member]
    exact .of (by decide) (by omega)
  have cookieI : (aggressiveHeader ckyI ckyR).initCookie.length = 8 := ckyISize
  have cookieR : (aggressiveHeader ckyI ckyR).respCookie.length = 8 := ckyRSize
  obtain ⟨header, length, isHeader, parsed, read⟩ := parse_buildMessage cookieI cookieR fits
  have clear : ¬ header.encrypted = true := by
    rw [isHeader]
    change ¬ ((0 : UInt8) &&& flags.encryption != 0) = true
    decide
  have hashFound : find ([(payload.hash, proof)].map readBack) payload.hash = some ⟨payload.hash, proof⟩ := rfl
  rw [Phase1State.verifyHashI, parsed, ok_bind]
  dsimp only
  rw [if_neg clear, ok_bind, read, ok_bind, hashFound, okOr_some, ok_bind, isI, isR]
  exact if_pos rfl

end Aggressive

/-! ## Quick Mode -/

def espTransform : Transform where
  num := 1
  transformId := espAesGcm16
  attributes := [
    .ofShort esp_attr.encapMode encapTunnel,
    .ofShort esp_attr.lifeType lifeSeconds,
    .longU32 esp_attr.lifeDuration 3600,
    .ofShort esp_attr.keyLength 256]

def espProposal (spi : UInt32) : Proposal := ⟨1, protocol.esp, u32Bytes spi, [espTransform]⟩

theorem espProposal_length (spi : UInt32) : (espProposal spi).toBytes.length = 36 := rfl

theorem espSa_length (spi : UInt32) : (espSa spi).toBytes.length = 48 := rfl

theorem espSa_fits (spi : UInt32) : (espSa spi).Fits := by
  refine ⟨nofun, ?_⟩
  change ∀ proposal ∈ [espProposal spi], proposal.Fits
  intro proposal member
  rw [List.mem_singleton.mp member]
  refine ⟨nofun, ?_, ?_, ?_⟩
  · change ∀ transform ∈ [espTransform], transform.Fits
    decide
  · change 4 < 256
    decide
  · rw [espProposal_length]
    decide

theorem peerEspSpi_espSa {ps : List Payload} {spi : UInt32}
    (carries : find ps payload.sa = some ⟨payload.sa, (espSa spi).toBytes⟩) : peerEspSpi ps = .ok spi := by
  have whole : u32At (u32Bytes spi) 0 = spi := be32_split spi
  rw [peerEspSpi, carries, okOr_some, ok_bind, SaPayload.parse_toBytes (espSa_fits spi), ok_bind]
  have first : (espSa spi).proposals.head? = some (espProposal spi) := rfl
  have size : ¬ (espProposal spi).spi.length ≠ 4 := not_not.mpr rfl
  rw [first, okOr_some, ok_bind, if_neg size]
  exact congrArg Except.ok whole

def selectors (tsLocal tsRemote : Ipv4Addr × Ipv4Addr) : List (UInt8 × Bytes) :=
  [(payload.id, tsId tsLocal.1.octets tsLocal.2.octets), (payload.id, tsId tsRemote.1.octets tsRemote.2.octets)]

def quickChain (spi : UInt32) (nonce : Bytes) (tsLocal tsRemote : Ipv4Addr × Ipv4Addr) : List (UInt8 × Bytes) :=
  [(payload.sa, (espSa spi).toBytes), (payload.nonce, nonce)] ++ selectors tsLocal tsRemote

/-- HASH(1), where nothing stands before those payloads, or HASH(2), where Ni does. -/
def quickHash (P : Primitives) (st : Phase1State) (msgid : UInt32) (hashPrefix : Bytes) (spi : UInt32) (nonce : Bytes)
    (tsLocal tsRemote : Ipv4Addr × Ipv4Addr) : Bytes :=
  st.prf.mac P st.skeyidA (u32Bytes msgid ++ hashPrefix ++ (encodePayloads (quickChain spi nonce tsLocal tsRemote)).2)

def hashedChain (P : Primitives) (st : Phase1State) (msgid : UInt32) (hashPrefix : Bytes) (spi : UInt32) (nonce : Bytes)
    (tsLocal tsRemote : Ipv4Addr × Ipv4Addr) : List (UInt8 × Bytes) :=
  (payload.hash, quickHash P st msgid hashPrefix spi nonce tsLocal tsRemote) :: quickChain spi nonce tsLocal tsRemote

theorem fits_hash (P : Primitives) (prf : Prf) (key data : Bytes) : Fits (payload.hash, prf.mac P key data) := by
  apply Fits.of (by decide)
  rw [prf.mac_length]
  cases prf <;> decide

section Quick

variable (P : Primitives) (st : Phase1State) (msgid : UInt32) (hashPrefix : Bytes) (spi : UInt32) (nonce : Bytes)
  (nonceSize : nonce.length = 16) (tsLocal tsRemote : Ipv4Addr × Ipv4Addr)

include nonceSize in
theorem quickChain_kinds :
    ∀ item ∈ quickChain spi nonce tsLocal tsRemote, Fits item ∧ item.1 ≠ payload.hash := by
  have saSize := espSa_length spi
  have tsSize : ∀ addr mask : Ipv4Addr, (tsId addr.octets mask.octets).length = 12 := fun _ _ => rfl
  have saKind : payload.sa ≠ payload.hash := by decide
  have nonceKind : payload.nonce ≠ payload.hash := by decide
  have idKind : payload.id ≠ payload.hash := by decide
  intro item member
  simp only [quickChain, selectors, List.cons_append, List.nil_append, List.mem_cons, List.not_mem_nil, or_false]
    at member
  rcases member with rfl | rfl | rfl | rfl
  · exact ⟨.of (by decide) (by omega), saKind⟩
  · exact ⟨.of (by decide) (by omega), nonceKind⟩
  · exact ⟨.of (by decide) (by rw [tsSize]; decide), idKind⟩
  · exact ⟨.of (by decide) (by rw [tsSize]; decide), idKind⟩

include nonceSize in
theorem fits_hashedChain : ∀ item ∈ hashedChain P st msgid hashPrefix spi nonce tsLocal tsRemote, Fits item := by
  intro item member
  rcases List.mem_cons.mp member with rfl | inRest
  · exact fits_hash P _ _ _
  · exact (quickChain_kinds spi nonce nonceSize tsLocal tsRemote item inRest).1

theorem find_hashedChain :
    let ps := (hashedChain P st msgid hashPrefix spi nonce tsLocal tsRemote).map readBack
    find ps payload.hash = some ⟨payload.hash, quickHash P st msgid hashPrefix spi nonce tsLocal tsRemote⟩ ∧
      find ps payload.nonce = some ⟨payload.nonce, nonce⟩ ∧ peerEspSpi ps = .ok spi ∧
      (ps.filter fun p => p.payloadType == payload.id).map (fun p => (payload.id, p.data)) =
        selectors tsLocal tsRemote :=
  ⟨rfl, rfl, peerEspSpi_espSa rfl, rfl⟩

include nonceSize in
theorem afterHash_hashedChain :
    afterHash ((hashedChain P st msgid hashPrefix spi nonce tsLocal tsRemote).map readBack) =
      (encodePayloads (quickChain spi nonce tsLocal tsRemote)).2 :=
  afterHash_readBack (fun item member => (quickChain_kinds spi nonce nonceSize tsLocal tsRemote item member).2) _

include nonceSize in
theorem readQuick_ok {message next : Bytes} {header : IsakmpHeader}
    (parsed : IsakmpHeader.parse message = .ok header) (kind : header.exchangeType = exchange.quick)
    (numbered : header.messageId = msgid)
    (decrypted : decryptPayloads P message st.encKey (phase2Iv P st.prf st.phase1Iv msgid aesBlock) =
      .ok (header, (hashedChain P st msgid [] spi nonce tsLocal tsRemote).map readBack, next)) :
    readQuick P st message =
      .ok (msgid, (hashedChain P st msgid [] spi nonce tsLocal tsRemote).map readBack, next, nonce, spi) := by
  obtain ⟨hashFound, nonceFound, spiFound, -⟩ := find_hashedChain P st msgid [] spi nonce tsLocal tsRemote
  have covered := afterHash_hashedChain P st msgid [] spi nonce nonceSize tsLocal tsRemote
  have verified : parseEncrypted P message st.prf st.skeyidA st.encKey (phase2Iv P st.prf st.phase1Iv msgid aesBlock) =
      .ok (header, (hashedChain P st msgid [] spi nonce tsLocal tsRemote).map readBack, next) := by
    rw [parseEncrypted, decrypted, ok_bind]
    dsimp only
    rw [hashFound, okOr_some, ok_bind, covered, numbered, if_neg]
    rw [quickHash, List.append_nil]
    exact not_not.mpr rfl
  rw [readQuick, parsed, ok_bind, if_neg (not_not.mpr kind)]
  dsimp only
  rw [numbered, verified, ok_bind]
  dsimp only
  rw [nonceFound, okOr_some, ok_bind, spiFound, ok_bind]

include nonceSize in
theorem complete_quick {self : QuickInitiator} {message next msg3 last : Bytes} {header : IsakmpHeader} {child : ChildSa}
    (prf : self.prf = st.prf) (skeyidA : self.skeyidA = st.skeyidA) (numbered : self.msgid = msgid)
    (decrypted : decryptPayloads P message self.encKey self.iv1 =
      .ok (header, (hashedChain P st msgid self.ni spi nonce tsLocal tsRemote).map readBack, next))
    (sent : encryptPayloads P (qmHeader self.ckyI self.ckyR msgid) self.encKey next
      [(payload.hash, hash3 P st.prf st.skeyidA msgid self.ni nonce)] = .ok (msg3, last))
    (derived : deriveChild P st.prf self.skeyidD self.ni nonce self.localSpi spi = .ok child) :
    self.complete P message = .ok (msg3, child) := by
  obtain ⟨hashFound, nonceFound, spiFound, -⟩ := find_hashedChain P st msgid self.ni spi nonce tsLocal tsRemote
  have covered := afterHash_hashedChain P st msgid self.ni spi nonce nonceSize tsLocal tsRemote
  have verified : ¬ quickHash P st msgid self.ni spi nonce tsLocal tsRemote ≠ st.prf.mac P st.skeyidA
      (u32Bytes msgid ++ self.ni ++ (encodePayloads (quickChain spi nonce tsLocal tsRemote)).2) := not_not.mpr rfl
  rw [QuickInitiator.complete, decrypted, ok_bind]
  dsimp only
  rw [nonceFound, okOr_some, ok_bind, spiFound, ok_bind, hashFound, okOr_some, ok_bind, covered, prf, skeyidA, numbered,
    if_neg verified, sent, ok_bind]
  dsimp only
  rw [derived, ok_bind]

theorem complete_hash3 {self : QuickResponder} {message next : Bytes} {header : IsakmpHeader} {child : ChildSa}
    (decrypted : decryptPayloads P message self.encKey self.iv2 = .ok (header,
      [(payload.hash, hash3 P self.prf self.skeyidA self.msgid self.ni self.nr)].map readBack, next))
    (derived : deriveChild P self.prf self.skeyidD self.ni self.nr self.localSpi self.peerSpi = .ok child) :
    self.complete P message = .ok child := by
  have found : find ([(payload.hash, hash3 P self.prf self.skeyidA self.msgid self.ni self.nr)].map readBack)
      payload.hash = some ⟨payload.hash, hash3 P self.prf self.skeyidA self.msgid self.ni self.nr⟩ := rfl
  rw [QuickResponder.complete, decrypted, ok_bind]
  dsimp only
  rw [found, okOr_some, ok_bind, if_neg (not_not.mpr rfl), derived]

end Quick

/-- Each end sends with what the other receives with. -/
def Mirror (one other : ChildSa) : Prop := one.outbound = other.inbound ∧ one.inbound = other.outbound

theorem mirror_deriveChild (P : Primitives) (prf : Prf) (skeyidD ni nr : Bytes) (spiI spiR : UInt32) :
    ∃ childI childR, deriveChild P prf skeyidD ni nr spiI spiR = .ok childI ∧
      deriveChild P prf skeyidD ni nr spiR spiI = .ok childR ∧ Mirror childI childR := by
  exact ⟨_, _, deriveChild_eq .., deriveChild_eq .., rfl, rfl⟩

structure Phase1State.Sized (st : Phase1State) : Prop where
  ckyI : st.ckyI.length = 8
  ckyR : st.ckyR.length = 8
  encKey : st.encKey.length = 32

/-- Quick Mode between two ends that hold one Phase-1 state. -/
theorem quick_agreement {ε δ : Type} [Entropy ε] [Entropy δ] {P : Primitives} (correct : P.CbcCorrect)
    {st : Phase1State} (sized : st.Sized) (tsLocal tsRemote : Ipv4Addr × Ipv4Addr) (initEntropy : ε) (respEntropy : δ) :
    ∃ qm1 qi qm2 qr qm3 childI childR,
      (initiateQuick P st initEntropy (tsLocal.1.octets, tsLocal.2.octets)
        (tsRemote.1.octets, tsRemote.2.octets)).1 = .ok (qm1, qi) ∧
      (respondQuick P st qm1 respEntropy).1 = .ok (qm2, qr) ∧
      qi.complete P qm2 = .ok (qm3, childI) ∧ qr.complete P qm3 = .ok childR ∧ Mirror childI childR := by
  let spiI := u32At (Entropy.fill initEntropy 4).1 0
  let msgid := u32At (Entropy.fill (Entropy.fill initEntropy 4).2 4).1 0 ||| 1
  let ni := (Entropy.fill (Entropy.fill (Entropy.fill initEntropy 4).2 4).2 16).1
  let spiR := u32At (Entropy.fill respEntropy 4).1 0
  let nr := (Entropy.fill (Entropy.fill respEntropy 4).2 16).1
  have niSize : ni.length = 16 := Entropy.fill_length _ 16
  have nrSize : nr.length = 16 := Entropy.fill_length _ 16
  have ivSize := phase2Iv_length P st.prf st.phase1Iv msgid
  have headerI : (qmHeader st.ckyI st.ckyR msgid).initCookie.length = 8 := sized.ckyI
  have headerR : (qmHeader st.ckyI st.ckyR msgid).respCookie.length = 8 := sized.ckyR
  obtain ⟨qm1, iv1, length1, sent1, iv1Size, parsed1, decrypted1⟩ := exists_encryptPayloads correct headerI headerR
    sized.encKey ivSize (List.cons_ne_nil _ _) (fits_hashedChain P st msgid [] spiI ni niSize tsLocal tsRemote)
  obtain ⟨qm2, iv2, length2, sent2, iv2Size, -, decrypted2⟩ := exists_encryptPayloads correct headerI headerR
    sized.encKey iv1Size (List.cons_ne_nil _ _) (fits_hashedChain P st msgid ni spiR nr nrSize tsLocal tsRemote)
  have fits3 : ∀ item ∈ [(payload.hash, hash3 P st.prf st.skeyidA msgid ni nr)], Fits item := by
    intro item member
    rw [List.mem_singleton.mp member]
    exact fits_hash P _ _ _
  obtain ⟨qm3, iv3, length3, sent3, -, -, decrypted3⟩ := exists_encryptPayloads correct headerI headerR sized.encKey
    iv2Size (List.cons_ne_nil _ _) fits3
  obtain ⟨childI, childR, derivedI, derivedR, mirror⟩ := mirror_deriveChild P st.prf st.skeyidD ni nr spiI spiR
  have read := readQuick_ok P st msgid spiI ni niSize tsLocal tsRemote parsed1 rfl rfl decrypted1
  refine ⟨qm1, ⟨st.prf, st.skeyidA, st.skeyidD, st.encKey, st.ckyI, st.ckyR, msgid, spiI, ni, iv1⟩, qm2,
    ⟨st.prf, st.skeyidA, st.skeyidD, st.encKey, msgid, spiR, spiI, ni, nr, iv2⟩, qm3, childI, childR, ?_, ?_, ?_, ?_,
    mirror⟩
  · have built : buildEncrypted P (qmHeader st.ckyI st.ckyR msgid) st.prf st.skeyidA st.encKey
        (phase2Iv P st.prf st.phase1Iv msgid aesBlock) (quickChain spiI ni tsLocal tsRemote) = .ok (qm1, iv1) := sent1
    change (buildEncrypted P (qmHeader st.ckyI st.ckyR msgid) st.prf st.skeyidA st.encKey
      (phase2Iv P st.prf st.phase1Iv msgid aesBlock) (quickChain spiI ni tsLocal tsRemote) >>= _) = _
    rw [built]
    rfl
  · have built : buildEncryptedPrefixed P (qmHeader st.ckyI st.ckyR msgid) st.prf st.skeyidA st.encKey iv1 ni
        (quickChain spiR nr tsLocal tsRemote) = .ok (qm2, iv2) := sent2
    obtain ⟨-, -, -, echoed⟩ := find_hashedChain P st msgid [] spiI ni tsLocal tsRemote
    rw [respondQuick, read]
    dsimp only
    rw [answerQuick, echoed]
    change (buildEncryptedPrefixed P (qmHeader st.ckyI st.ckyR msgid) st.prf st.skeyidA st.encKey iv1 ni
      (quickChain spiR nr tsLocal tsRemote) >>= _) = _
    rw [built]
    rfl
  · exact complete_quick P st msgid spiR nr nrSize tsLocal tsRemote rfl rfl rfl decrypted2 sent3 derivedI
  · exact complete_hash3 P decrypted3 derivedR

/-! ## The handshake -/

def exponentOf {ε : Type} [Entropy ε] (source : ε) : Bytes := (Entropy.nextArray32 (Entropy.fill source 8).2).1

/-- Both modes in a row, on the messages as they were sent: every step succeeds, both ends
hold one Phase-1 state, and the CHILD SAs mirror each other. -/
theorem handshake_agreement {ε δ : Type} [Entropy ε] [Entropy δ] (P : Primitives) (correct : P.CbcCorrect) (psk : Bytes)
    (idI idR : Id) (idIFits : idI.Fits) (idRFits : idR.Fits) (group : DhGroup) (modp : Modp group) (xauth : Bool)
    (tsLocal tsRemote : Ipv4Addr × Ipv4Addr) (initEntropy : ε) (respEntropy : δ)
    (validI : group.validPublic (group.public_ P (exponentOf initEntropy)) = true)
    (validR : group.validPublic (group.public_ P (exponentOf respEntropy)) = true) :
    let initiated := initiateAggressive P ⟨psk, idI, group, xauth⟩ initEntropy
    let responded := respondAggressive P ⟨psk, idR⟩ initiated.1.1 respEntropy
    ∃ msg2 stateR msg3 stateI qm1 qi qm2 qr qm3 childI childR,
      responded.1 = .ok (msg2, stateR) ∧
      initiated.1.2.complete P msg2 = .ok (msg3, stateI) ∧
      stateR.verifyHashI P msg3 = .ok () ∧
      (initiateQuick P stateI initiated.2 (tsLocal.1.octets, tsLocal.2.octets)
        (tsRemote.1.octets, tsRemote.2.octets)).1 = .ok (qm1, qi) ∧
      (respondQuick P stateR qm1 responded.2).1 = .ok (qm2, qr) ∧
      qi.complete P qm2 = .ok (qm3, childI) ∧
      qr.complete P qm3 = .ok childR ∧
      stateI = stateR ∧ Mirror childI childR := by
  intro initiated responded
  let ckyI := (Entropy.fill initEntropy 8).1
  let ckyR := (Entropy.fill respEntropy 8).1
  let dhI := exponentOf initEntropy
  let dhR := exponentOf respEntropy
  let ni := (Entropy.fill (Entropy.nextArray32 (Entropy.fill initEntropy 8).2).2 16).1
  let nr := (Entropy.fill (Entropy.nextArray32 (Entropy.fill respEntropy 8).2).2 16).1
  have ckyISize : ckyI.length = 8 := Entropy.fill_length _ 8
  have ckyRSize : ckyR.length = 8 := Entropy.fill_length _ 8
  have niSize : ni.length = 16 := Entropy.fill_length _ 16
  have nrSize : nr.length = 16 := Entropy.fill_length _ 16
  have gxiSize := group.public_length P dhI
  have gxrSize := group.public_length P dhR
  obtain ⟨gxy, sharedI, sharedR⟩ := shared_of_validPublic P modp validI validR
  let state := derivePhase1 P .sha256 group psk ckyI ckyR gxy (group.public_ P dhI) (group.public_ P dhR) ni nr
    (initiatorSa group xauth).toBytes idI.toBytes 32
  have read : readOffer initiated.1.1 = .ok (offerOf group xauth idI ckyI (group.public_ P dhI) ni) :=
    readOffer_offerChain modp xauth idIFits ckyISize gxiSize niSize
  let proofR := hashR P .sha256 state.skeyid (group.public_ P dhR) (group.public_ P dhI) ckyR ckyI
    (initiatorSa group xauth).toBytes idR.toBytes
  let msg2 := buildMessage (aggressiveHeader ckyI ckyR) (answerChain group xauth idR (group.public_ P dhR) nr proofR)
  have answered : responded.1 = .ok (msg2, state) := by
    change (respondAggressive P ⟨psk, idR⟩ initiated.1.1 respEntropy).1 = _
    rw [respondAggressive, read]
    exact answerOffer_eq xauth rfl sharedR
  let proofI := hashI P .sha256 state.skeyid (group.public_ P dhI) (group.public_ P dhR) ckyI ckyR
    (initiatorSa group xauth).toBytes idI.toBytes
  let msg3 := buildMessage (aggressiveHeader ckyI ckyR) [(payload.hash, proofI)]
  have completed : initiated.1.2.complete P msg2 = .ok (msg3, state) :=
    complete_answerChain xauth idRFits ckyISize ckyRSize gxrSize nrSize sharedI
  have verified : state.verifyHashI P msg3 = .ok () := verifyHashI_ok ckyISize ckyRSize state rfl rfl
  have sized : state.Sized := ⟨ckyISize, ckyRSize, (derivePhase1_sizes P .sha256 group psk ckyI ckyR gxy _ _ ni nr _ _ 32).1⟩
  obtain ⟨qm1, qi, qm2, qr, qm3, childI, childR, quick1, quick2, quick3, quick4, mirror⟩ :=
    quick_agreement correct sized tsLocal tsRemote initiated.2 responded.2
  exact ⟨msg2, state, msg3, state, qm1, qi, qm2, qr, qm3, childI, childR, answered, completed, verified, quick1, quick2,
    quick3, quick4, rfl, mirror⟩

namespace Toy

def everything : Ipv4Addr × Ipv4Addr := (⟨0, 0, 0, 0⟩, ⟨0, 0, 0, 0⟩)

def clientId : Id := ⟨1, 0, 0, [10, 1, 1, 1]⟩
def serverId : Id := ⟨1, 0, 0, [10, 1, 1, 2]⟩

end Toy

theorem handshake_agreement_xauth :
    let initiated := initiateAggressive toy ⟨[1, 2, 3], Toy.clientId, .modp1024, true⟩ (⟨1⟩ : Ryke.Toy.Counter)
    let responded := respondAggressive toy ⟨[1, 2, 3], Toy.serverId⟩ initiated.1.1 (⟨2⟩ : Ryke.Toy.Counter)
    ∃ msg2 stateR msg3 stateI qm1 qi qm2 qr qm3 childI childR,
      responded.1 = .ok (msg2, stateR) ∧
      initiated.1.2.complete toy msg2 = .ok (msg3, stateI) ∧
      stateR.verifyHashI toy msg3 = .ok () ∧
      (initiateQuick toy stateI initiated.2 (Toy.everything.1.octets, Toy.everything.2.octets)
        (Toy.everything.1.octets, Toy.everything.2.octets)).1 = .ok (qm1, qi) ∧
      (respondQuick toy stateR qm1 responded.2).1 = .ok (qm2, qr) ∧
      qi.complete toy qm2 = .ok (qm3, childI) ∧
      qr.complete toy qm3 = .ok childR ∧
      stateI = stateR ∧ Mirror childI childR := by
  have idFits : Toy.clientId.Fits ∧ Toy.serverId.Fits := by
    unfold Id.Fits
    decide
  have valid : DhGroup.modp1024.validPublic (DhGroup.modp1024.public_ toy (exponentOf (⟨1⟩ : Ryke.Toy.Counter))) = true ∧
      DhGroup.modp1024.validPublic (DhGroup.modp1024.public_ toy (exponentOf (⟨2⟩ : Ryke.Toy.Counter))) = true := by
    decide +kernel
  have done := handshake_agreement toy Ryke.Toy.toy_cbcCorrect [1, 2, 3] Toy.clientId Toy.serverId idFits.1 idFits.2
    .modp1024 (.inl rfl) true Toy.everything Toy.everything (⟨1⟩ : Ryke.Toy.Counter) (⟨2⟩ : Ryke.Toy.Counter) valid.1
    valid.2
  exact done

end Ryke.Ikev1
