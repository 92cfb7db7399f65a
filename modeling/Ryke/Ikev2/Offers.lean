import Ryke.Ikev2.Exchange
import Ryke.Ikev2.Sk

/-! What a negotiated suite is good for: whether the Encrypted payload can be keyed
with it, and whether the initiator offered it at all. -/

namespace Ryke.Ikev2
open Lib Crypto

/-! ## Suites that the Encrypted payload can be keyed with -/

/-- The two errors of the SK layer that blame the length of a key. -/
def KeyLengthError (error : IkeError) : Prop :=
  error = .crypto "SK_e must be 36 bytes (32-byte AES-256 key + 4-byte GCM salt)" ∨
    error = .crypto "bad AES-256 key length"

/-- Neither the builder nor the opener refuses the key for its length. -/
structure Usable (P : Primitives) (skE : Bytes) : Prop where
  builds : ∀ header firstInner inner iv error,
    buildEncryptedGcm P header firstInner inner skE iv = .error error → ¬ KeyLengthError error
  opens : ∀ message error, openEncryptedGcm P message skE = .error error → ¬ KeyLengthError error

theorem splitKey_of_length {skE : Bytes} (size : skE.length = 36) :
    splitKey skE = .ok (skE.take 32, skE.drop 32) :=
  if_neg (not_not.mpr size)

theorem splitKey_other_length {skE : Bytes} (size : skE.length ≠ 36) :
    splitKey skE = .error (.crypto "SK_e must be 36 bytes (32-byte AES-256 key + 4-byte GCM salt)") :=
  if_pos size

theorem buildEncryptedGcm_error {P : Primitives} {header : IkeHeader} {firstInner : PayloadType}
    {inner skE : Bytes} {iv : Iv} {error : IkeError} (size : skE.length = 36)
    (failed : buildEncryptedGcm P header firstInner inner skE iv = .error error) : ¬ KeyLengthError error := by
  rcases bind_eq_error failed with sealing | ⟨sealed, -, done⟩
  · rw [gcmSeal, splitKey_of_length size, ok_bind] at sealing
    dsimp only at sealing
    cases encrypted : P.gcmEncrypt (skE.take 32) (skE.drop 32 ++ iv.bytes) (skAad header firstInner inner)
        (inner ++ [0]) with
    | some sealed =>
      rw [encrypted] at sealing
      cases sealing
    | none =>
      rw [encrypted] at sealing
      cases sealing
      simp [KeyLengthError]
  · cases done

theorem gcmOpen_error {P : Primitives} {skE ivBytes aad ctAndTag : Bytes} {error : IkeError}
    (size : skE.length = 36) (failed : gcmOpen P skE ivBytes aad ctAndTag = .error error) :
    error = .badIntegrity := by
  rw [gcmOpen, splitKey_of_length size, ok_bind] at failed
  dsimp only at failed
  cases decrypted : P.gcmDecrypt (skE.take 32) (skE.drop 32 ++ ivBytes) aad ctAndTag with
  | some plaintext =>
    rw [decrypted] at failed
    cases failed
  | none =>
    rw [decrypted] at failed
    cases failed
    rfl

theorem stripPadding_error {empty long : String} {plaintext : Bytes} {error : IkeError}
    (failed : stripPadding empty long plaintext = .error error) : error = .crypto empty ∨ error = .crypto long := by
  rcases bind_eq_error failed with last | ⟨last, -, failed⟩
  · cases found : plaintext.getLast? with
    | some byte =>
      rw [found] at last
      cases last
    | none =>
      rw [found] at last
      cases last
      exact .inl rfl
  · split at failed
    next =>
      cases failed
      exact .inr rfl
    next => cases failed

theorem openEncryptedGcm_error {P : Primitives} {message skE : Bytes} {error : IkeError}
    (size : skE.length = 36) (failed : openEncryptedGcm P message skE = .error error) :
    ¬ KeyLengthError error := by
  unfold openEncryptedGcm at failed
  rw [splitKey_of_length size, ok_bind] at failed
  rcases bind_eq_error failed with short | ⟨header, -, failed⟩
  · unfold IkeHeader.parse at short
    split at short
    next =>
      cases short
      simp [KeyLengthError]
    next => cases short
  · split at failed
    next =>
      cases failed
      simp [KeyLengthError]
    next =>
      dsimp only at failed
      split at failed
      next =>
        cases failed
        simp [KeyLengthError]
      next =>
        split at failed
        next =>
          cases failed
          simp [KeyLengthError]
        next =>
          rcases bind_eq_error failed with closed | ⟨plaintext, -, failed⟩
          · rw [gcmOpen_error size closed]
            simp [KeyLengthError]
          · rcases bind_eq_error failed with padding | ⟨inner, -, done⟩
            · rcases stripPadding_error padding with rfl | rfl <;> simp [KeyLengthError]
            · cases done

theorem usable_iff (P : Primitives) (skE : Bytes) : Usable P skE ↔ skE.length = 36 := by
  constructor
  · intro usable
    by_contra size
    refine usable.opens [] _ ?_ (.inl rfl)
    rw [openEncryptedGcm, splitKey_other_length size]
    rfl
  · intro size
    exact ⟨fun _ _ _ _ _ failed => buildEncryptedGcm_error size failed,
      fun _ _ failed => openEncryptedGcm_error size failed⟩

inductive Derives (P : Primitives) (suite : ChosenSuite) : SessionKeys → Prop where
  | initial (sharedSecret ni nr : Bytes) (spiI spiR : UInt64) :
      Derives P suite (deriveSessionKeys P sharedSecret ni nr spiI spiR suite.keyLengths)
  | rekey (skDOld sharedSecret ni nr : Bytes) (spiI spiR : UInt64) :
      Derives P suite (deriveRekeySessionKeys P skDOld sharedSecret ni nr spiI spiR suite.keyLengths)

theorem Derives.encr_length {P : Primitives} {suite : ChosenSuite} {keys : SessionKeys}
    (derived : Derives P suite keys) :
    keys.skEi.length = suite.keyLengths.encr ∧ keys.skEr.length = suite.keyLengths.encr := by
  cases derived with
  | initial => exact splitSessionKeys_encr_length (prfPlus_length ..)
  | rekey => exact splitSessionKeys_encr_length (prfPlus_length ..)

/-- The first acceptable proposal of an offer has AES-256-GCM. -/
def OffersGcm (sa : SecurityAssociation) : Prop :=
  ∃ proposal, FirstAcceptable sa proposal ∧
    Contains proposal transform_type.encr transform_id.aesGcm16 (some 256)

theorem preferredSuite_encr_iff (proposal : Proposal) :
    (preferredSuite proposal).keyLengths.encr = 36 ↔
      Contains proposal transform_type.encr transform_id.aesGcm16 (some 256) := by
  by_cases gcm : Contains proposal transform_type.encr transform_id.aesGcm16 (some 256)
  · rw [preferredSuite, if_pos gcm, ChosenSuite.gcm_keyLengths]
    exact iff_of_true rfl gcm
  · rw [preferredSuite, if_neg gcm, ChosenSuite.cbc_keyLengths]
    exact iff_of_false (by decide) gcm

/-- The lengths of a negotiated suite are those of AES-256-GCM exactly where the first
acceptable proposal has it. -/
theorem select_encr_iff {sa : SecurityAssociation} {suite : ChosenSuite} (chosen : select sa = some suite) :
    suite.keyLengths.encr = 36 ↔ OffersGcm sa := by
  obtain ⟨proposal, isFirst, rfl⟩ := (select_eq_some_iff sa suite).mp chosen
  rw [preferredSuite_encr_iff]
  constructor
  · intro gcm
    exact ⟨proposal, isFirst, gcm⟩
  · rintro ⟨other, isOther, gcm⟩
    rw [isFirst.unique isOther]
    exact gcm

/-- The keys of a negotiated suite can key the Encrypted payload in both directions exactly
where the first acceptable proposal has AES-256-GCM; so can those of an SA that the
responder established. -/
theorem negotiated_keys_usable_iff (P : Primitives) :
    (∀ sa suite keys, select sa = some suite → Derives P suite keys →
      ((Usable P keys.skEi ∧ Usable P keys.skEr) ↔ OffersGcm sa)) ∧
    ∀ request secret response sa, Responds P request secret response sa →
      ∃ header payloads, IkeHeader.parse request = .ok header ∧
        parseSaInit header (request.drop IkeHeader.len) = .ok payloads ∧
        ((Usable P sa.keys.skEi ∧ Usable P sa.keys.skEr) ↔ OffersGcm payloads.sa) := by
  have negotiated : ∀ sa suite keys, select sa = some suite → Derives P suite keys →
      ((Usable P keys.skEi ∧ Usable P keys.skEr) ↔ OffersGcm sa) := by
    intro sa suite keys chosen derived
    rw [usable_iff, usable_iff, derived.encr_length.1, derived.encr_length.2, and_self]
    exact select_encr_iff chosen
  refine ⟨negotiated, ?_⟩
  intro request secret response sa answered
  obtain ⟨natt, cookie, inner⟩ := answered.inner
  obtain ⟨header, payloads, group, shared, received, -, form⟩ := responderRespondInner_established inner
  refine ⟨header, payloads, received.parsed, received.read, ?_⟩
  have derived : Derives P sa.suite sa.keys := by
    rw [form]
    exact .initial ..
  exact negotiated _ _ _ received.chosen derived

namespace Toy
open Ryke.Toy

def cbcOffer : SecurityAssociation :=
  ⟨[⟨1, protocol_id.ike, [],
    [⟨transform_type.encr, transform_id.aesCbc, some 256⟩,
      ⟨transform_type.integ, transform_id.authHmacSha2256128, none⟩,
      ⟨transform_type.prf, transform_id.prfHmacSha2256, none⟩,
      ⟨transform_type.dh, transform_id.x25519, none⟩]⟩]⟩

end Toy

theorem defaultOffer_keys_usable :
    ∃ suite, select defaultOffer = some suite ∧
      Usable toy (deriveSessionKeys toy [] [] [] 1 2 suite.keyLengths).skEi := by
  refine ⟨.gcm 1 31, by decide, ?_⟩
  have gcm : OffersGcm defaultOffer :=
    ⟨_, ⟨[], [], rfl, by decide, fun _ member => absurd member List.not_mem_nil⟩, by decide⟩
  exact (((negotiated_keys_usable_iff toy).1 defaultOffer (.gcm 1 31) _ (by decide) (.initial ..)).mpr gcm).1

/-- The fallback suite is negotiated, and the Encrypted payload refuses its keys. -/
theorem cbcOffer_keys_refused :
    ¬ ∀ sa suite keys, select sa = some suite → Derives toy suite keys →
      Usable toy keys.skEi ∧ Usable toy keys.skEr := by
  intro every
  have usable := every Toy.cbcOffer (.cbc 1 31) _ (by decide) (.initial [] [] [] 1 2)
  have size := (usable_iff _ _).mp usable.1
  rw [skEi_length, ChosenSuite.cbc_keyLengths] at size
  exact absurd size (by decide)

/-! ## Suites that were offered -/

structure Lists (proposal : Proposal) (suite : ChosenSuite) : Prop where
  encr : Contains proposal transform_type.encr suite.encrId (some suite.encrKeyBits)
  prf : Contains proposal transform_type.prf suite.prfId none
  integ : ∀ integ ∈ suite.integId, Contains proposal transform_type.integ integ none
  dh : Contains proposal transform_type.dh suite.dhId none

/-- One proposal of the offer lists the whole suite, whose group is the one that the
request carries a public value of. -/
structure Within (offer : SecurityAssociation) (suite : ChosenSuite) : Prop where
  listed : ∃ proposal ∈ offer.proposals, Lists proposal suite
  group : suite.dhId = (offerDhGroup offer).transformId

/-- The answer's KE payload is of the group that the initiator sent a value of, and the
cipher that its first acceptable proposal is taken for stands, with the PRF and the group,
in one proposal of the offer. -/
def KeepsTo (offer answer : SecurityAssociation) (keGroup : UInt16) : Prop :=
  keGroup = (offerDhGroup offer).transformId ∧
    ∃ first, FirstAcceptable answer first ∧ ∃ proposal ∈ offer.proposals,
      Contains proposal transform_type.prf transform_id.prfHmacSha2256 none ∧
      Contains proposal transform_type.dh keGroup none ∧
      if Contains first transform_type.encr transform_id.aesGcm16 (some 256) then
        Contains proposal transform_type.encr transform_id.aesGcm16 (some 256)
      else
        Contains proposal transform_type.encr transform_id.aesCbc (some 256) ∧
          Contains proposal transform_type.integ transform_id.authHmacSha2256128 none

theorem lists_preferredSuite_iff (proposal first : Proposal) :
    Lists proposal (preferredSuite first) ↔
      Contains proposal transform_type.prf transform_id.prfHmacSha2256 none ∧
      Contains proposal transform_type.dh (preferredSuite first).dhId none ∧
      if Contains first transform_type.encr transform_id.aesGcm16 (some 256) then
        Contains proposal transform_type.encr transform_id.aesGcm16 (some 256)
      else
        Contains proposal transform_type.encr transform_id.aesCbc (some 256) ∧
          Contains proposal transform_type.integ transform_id.authHmacSha2256128 none := by
  by_cases gcm : Contains first transform_type.encr transform_id.aesGcm16 (some 256)
  · rw [if_pos gcm, preferredSuite, if_pos gcm]
    constructor
    · intro lists
      exact ⟨lists.prf, lists.dh, lists.encr⟩
    · rintro ⟨prf, dh, encr⟩
      refine ⟨encr, prf, fun other member => ?_, dh⟩
      cases member
  · rw [if_neg gcm, preferredSuite, if_neg gcm]
    constructor
    · intro lists
      exact ⟨lists.prf, lists.dh, lists.encr, lists.integ _ rfl⟩
    · rintro ⟨prf, dh, encr, integ⟩
      refine ⟨encr, prf, fun other member => ?_, dh⟩
      cases member
      exact integ

/-- An accepted suite is within the offer exactly where the response keeps to it. -/
theorem Received.within_iff {P : Primitives} {secret : LocalSecret} {response : Bytes} {header : IkeHeader}
    {payloads : SaInitPayloads} {suite : ChosenSuite} {group : DhGroup} {shared : Bytes}
    (received : Received P secret response header payloads suite group shared) (offer : SecurityAssociation) :
    Within offer suite ↔ KeepsTo offer payloads.sa payloads.ke.dhGroup := by
  have dhId : suite.dhId = payloads.ke.dhGroup := received.dhId.trans received.sameGroup.symm
  obtain ⟨first, isFirst, own⟩ := (select_eq_some_iff _ _).mp received.chosen
  constructor
  · rintro ⟨⟨proposal, member, lists⟩, sameGroup⟩
    rw [own] at lists
    have parts := (lists_preferredSuite_iff proposal first).mp lists
    rw [← own, dhId] at parts
    exact ⟨dhId ▸ sameGroup, first, isFirst, proposal, member, parts⟩
  · rintro ⟨sameGroup, other, isOther, proposal, member, parts⟩
    rw [← isFirst.unique isOther, ← dhId, own] at parts
    refine ⟨⟨proposal, member, ?_⟩, dhId.trans sameGroup⟩
    rw [own]
    exact (lists_preferredSuite_iff proposal first).mpr parts

theorem Acceptable.lists {proposal : Proposal} (acceptable : Acceptable proposal) :
    Lists proposal (preferredSuite proposal) := by
  have group : Contains proposal transform_type.dh (preferredGroup proposal).transformId none := by
    unfold preferredGroup
    split
    next x25519 => exact x25519
    next notX25519 =>
      split
      next modp2048 => exact modp2048
      next notModp2048 => exact (acceptable.dh.resolve_left notX25519).resolve_left notModp2048
  rw [lists_preferredSuite_iff]
  by_cases gcm : Contains proposal transform_type.encr transform_id.aesGcm16 (some 256)
  · rw [if_pos gcm, preferredSuite, if_pos gcm]
    exact ⟨acceptable.prf, group, gcm⟩
  · rw [if_neg gcm, preferredSuite, if_neg gcm]
    exact ⟨acceptable.prf, group, acceptable.encr.resolve_left gcm⟩

theorem Responds.within {P : Primitives} {initiator responder : LocalSecret} {offer : SecurityAssociation}
    (offerFits : OfferFits offer) (nonceFits : NonceFits initiator) {response : Bytes} {sa : CompletedSaInit}
    (answered : Responds P (initiatorRequest P initiator offer) responder response sa) : Within offer sa.suite := by
  obtain ⟨natt, cookie, inner⟩ := answered.inner
  obtain ⟨header, payloads, group, shared, received, -⟩ := responderRespondInner_established inner
  obtain ⟨ownHeader, parsed, -, -, read⟩ := initiatorRequest_read P offerFits nonceFits []
  rw [List.append_nil] at parsed read
  obtain ⟨rfl, rfl⟩ := received.unique parsed read
  obtain ⟨first, ⟨before, after, split, acceptable, -⟩, own⟩ := (select_eq_some_iff _ _).mp received.chosen
  refine ⟨⟨first, ?_, own ▸ acceptable.lists⟩, received.dhId.trans received.sameGroup.symm⟩
  rw [split]
  exact List.mem_append_right _ List.mem_cons_self

def otherGroup (offer : SecurityAssociation) : DhGroup :=
  match offerDhGroup offer with
  | .x25519 => .modp2048
  | _ => .x25519

def beyondOffer (secret : LocalSecret) (offer : SecurityAssociation) : Bytes :=
  let group := otherGroup offer
  buildSaInit (baseHeader secret.spi 1 responseFlags) ⟨[(ChosenSuite.gcm 1 group.transformId).toProposal]⟩
    group.transformId (toBytesBeWidth group.publicLen 2) [] []

theorem modpValid_two : modpValid (toBytesBeWidth 256 2) modp2048Prime = true := by decide +kernel

theorem shared_two (P : Primitives) (offer : SecurityAssociation) (dhPrivate : Bytes) :
    ∃ shared, (otherGroup offer).shared P dhPrivate (toBytesBeWidth (otherGroup offer).publicLen 2) = .ok shared := by
  have size : ∀ group : DhGroup, ¬ (toBytesBeWidth group.publicLen 2).length ≠ group.publicLen :=
    fun group => not_not.mpr (toBytesBeWidth_length ..)
  unfold otherGroup
  split
  · rw [DhGroup.shared, if_neg (size _)]
    exact ⟨_, if_pos modpValid_two⟩
  · rw [DhGroup.shared, if_neg (size _)]
    exact ⟨_, rfl⟩

theorem otherGroup_ne (offer : SecurityAssociation) : otherGroup offer ≠ offerDhGroup offer := by
  unfold otherGroup
  cases offerDhGroup offer <;> simp

theorem beyondOffer_read (secret : LocalSecret) (offer : SecurityAssociation) :
    ∃ header, IkeHeader.parse (beyondOffer secret offer) = .ok header ∧
      parseSaInit header ((beyondOffer secret offer).drop IkeHeader.len) =
        .ok ⟨⟨[(ChosenSuite.gcm 1 (otherGroup offer).transformId).toProposal]⟩,
          ⟨(otherGroup offer).transformId, toBytesBeWidth (otherGroup offer).publicLen 2⟩, ⟨[]⟩, [2], none⟩ := by
  have small : 8 + (toBytesBeWidth (otherGroup offer).publicLen 2).length < 65536 := by
    rw [toBytesBeWidth_length]
    cases otherGroup offer <;> decide
  have empty : 4 + ([] : Bytes).length < 65536 := by decide
  obtain ⟨header, parsed, -, -, read⟩ := parseSaInit_build secret.spi 1 responseFlags
    (.toProposal (.gcm 1 (otherGroup offer))) small empty
    (fun notify (member : notify ∈ ([] : List Notify)) => absurd member List.not_mem_nil) []
  rw [List.append_nil] at parsed read
  exact ⟨header, parsed, read⟩

theorem exists_beyond (P : Primitives) (secret : LocalSecret) (offer : SecurityAssociation) (request : Bytes) :
    ∃ response sa, initiatorComplete P secret request response = .ok sa ∧ ¬ Within offer sa.suite := by
  obtain ⟨header, parsed, read⟩ := beyondOffer_read secret offer
  obtain ⟨shared, agreed⟩ := shared_two P offer secret.dhPrivate
  have received : Received P secret (beyondOffer secret offer) header _ _ (otherGroup offer) shared :=
    ⟨parsed, read, select_toProposal (.gcm 1 (otherGroup offer)), DhGroup.fromTransformId_transformId _, rfl, agreed⟩
  obtain ⟨sa, completed, suite⟩ := received.complete request
  refine ⟨_, sa, completed, fun within_ => otherGroup_ne offer ?_⟩
  apply DhGroup.transformId_injective
  rw [← within_.group, suite]
  rfl

/-- An accepted response gives a suite of the offer exactly where its SA and KE payloads
keep to the offer, which the initiator does not look at: for every offer there is a
response beyond it that is accepted. -/
theorem initiatorComplete_within_iff (P : Primitives) (secret : LocalSecret) (offer : SecurityAssociation) :
    (∀ response sa, initiatorComplete P secret (initiatorRequest P secret offer) response = .ok sa →
      ∃ header payloads, IkeHeader.parse response = .ok header ∧
        parseSaInit header (response.drop IkeHeader.len) = .ok payloads ∧
        (Within offer sa.suite ↔ KeepsTo offer payloads.sa payloads.ke.dhGroup)) ∧
    ∃ response sa, initiatorComplete P secret (initiatorRequest P secret offer) response = .ok sa ∧
      ¬ Within offer sa.suite := by
  constructor
  · intro response sa completed
    obtain ⟨header, payloads, group, shared, received, -⟩ := initiatorComplete_eq_ok completed
    exact ⟨header, payloads, received.parsed, received.read, received.within_iff offer⟩
  · exact exists_beyond P secret offer _

theorem defaultOffer_response_kept :
    ∃ response sa header payloads,
      initiatorComplete toy Toy.initiatorSecret (initiatorRequest toy Toy.initiatorSecret defaultOffer) response =
        .ok sa ∧
      IkeHeader.parse response = .ok header ∧
      parseSaInit header (response.drop IkeHeader.len) = .ok payloads ∧
      KeepsTo defaultOffer payloads.sa payloads.ke.dhGroup := by
  have runs : (do
      let (response, _) ← responderRespond toy
        (initiatorRequest toy Toy.initiatorSecret defaultOffer) Toy.responderSecret
      let sa ← initiatorComplete toy Toy.initiatorSecret
        (initiatorRequest toy Toy.initiatorSecret defaultOffer) response
      .ok (sa, sa.suite)).map Prod.snd = .ok (ChosenSuite.gcm 1 31) := by
    decide +kernel
  obtain ⟨_, both⟩ := exists_of_map_snd runs
  obtain ⟨⟨response, respSa⟩, answered, both⟩ := bind_eq_ok both
  obtain ⟨sa, completed, same⟩ := bind_eq_ok both
  have suite : sa.suite = .gcm 1 31 := congrArg Prod.snd (Except.ok.inj same)
  obtain ⟨header, payloads, parsed, read, kept⟩ :=
    (initiatorComplete_within_iff toy Toy.initiatorSecret defaultOffer).1 response sa completed
  refine ⟨response, sa, header, payloads, completed, parsed, read, kept.mp ?_⟩
  rw [suite]
  exact ⟨⟨_, List.mem_singleton.mpr rfl, by decide, by decide, nofun, by decide⟩, rfl⟩

/-- An offer of X25519 alone is completed over MODP-2048. -/
theorem defaultOffer_downgraded :
    ¬ ∀ response sa, initiatorComplete toy Toy.initiatorSecret
        (initiatorRequest toy Toy.initiatorSecret defaultOffer) response = .ok sa → Within defaultOffer sa.suite := by
  intro every
  obtain ⟨response, sa, completed, beyond⟩ := exists_beyond toy Toy.initiatorSecret defaultOffer
    (initiatorRequest toy Toy.initiatorSecret defaultOffer)
  exact beyond (every response sa completed)

end Ryke.Ikev2
