import Ryke.Crypto
import Ryke.Ikev2.Payload

/-! Suite negotiation for `IKE_SA_INIT`. The suites that can be chosen are few, and
a chosen suite is chosen again from the proposal that echoes it. Which proposals are
acceptable, and which suite an acceptable one gives, is said apart from the search. -/

namespace Ryke.Ikev2
open Lib Crypto

structure ChosenSuite where
  proposalNum : UInt8
  encrId : UInt16
  encrKeyBits : UInt16
  prfId : UInt16
  /-- `none` for an AEAD cipher. -/
  integId : Option UInt16
  dhId : UInt16
  deriving DecidableEq, Inhabited, Repr

namespace ChosenSuite

/-- Key lengths of the suite; the AEAD key carries a 4-byte salt. -/
def keyLengths (suite : ChosenSuite) : KeyLengths where
  prf := 32
  integ := if suite.integId.isSome then 32 else 0
  encr := (suite.encrKeyBits / 8).toNat + (if suite.encrId = transform_id.aesGcm16 then 4 else 0)

def toProposal (suite : ChosenSuite) : Proposal :=
  ⟨suite.proposalNum, protocol_id.ike, [],
    [⟨transform_type.encr, suite.encrId, some suite.encrKeyBits⟩, ⟨transform_type.prf, suite.prfId, none⟩] ++
    (suite.integId.map (fun integ => ⟨transform_type.integ, integ, none⟩)).toList ++
    [⟨transform_type.dh, suite.dhId, none⟩]⟩

end ChosenSuite

def has (proposal : Proposal) (ttype : UInt8) (tid : UInt16) (keyBits : Option UInt16) : Bool :=
  proposal.transforms.any fun t =>
    t.transformType == ttype && t.transformId == tid &&
      match keyBits with
      | some bits => t.keyLength == some bits
      | none => true

def selectFromProposal (proposal : Proposal) : Option ChosenSuite :=
  if proposal.protocolId ≠ protocol_id.ike then none
  else if !has proposal transform_type.prf transform_id.prfHmacSha2256 none then none
  else do
    let dhId ← [transform_id.x25519, transform_id.modp2048, transform_id.modp1024].find?
      fun group => has proposal transform_type.dh group none
    if has proposal transform_type.encr transform_id.aesGcm16 (some 256) then
      some ⟨proposal.num, transform_id.aesGcm16, 256, transform_id.prfHmacSha2256, none, dhId⟩
    else if has proposal transform_type.encr transform_id.aesCbc (some 256) &&
        has proposal transform_type.integ transform_id.authHmacSha2256128 none then
      some ⟨proposal.num, transform_id.aesCbc, 256, transform_id.prfHmacSha2256,
        some transform_id.authHmacSha2256128, dhId⟩
    else none

/-- The first proposal that is fully supported. -/
def select (sa : SecurityAssociation) : Option ChosenSuite := sa.proposals.findSome? selectFromProposal

namespace ChosenSuite

def gcm (num : UInt8) (dhId : UInt16) : ChosenSuite :=
  ⟨num, transform_id.aesGcm16, 256, transform_id.prfHmacSha2256, none, dhId⟩

def cbc (num : UInt8) (dhId : UInt16) : ChosenSuite :=
  ⟨num, transform_id.aesCbc, 256, transform_id.prfHmacSha2256, some transform_id.authHmacSha2256128, dhId⟩

inductive Supported : ChosenSuite → Prop where
  | gcm (num : UInt8) (group : DhGroup) : Supported (gcm num group.transformId)
  | cbc (num : UInt8) (group : DhGroup) : Supported (cbc num group.transformId)

end ChosenSuite

theorem selectFromProposal_supported {proposal : Proposal} {suite : ChosenSuite}
    (chosen : selectFromProposal proposal = some suite) : suite.Supported := by
  unfold selectFromProposal at chosen
  split at chosen
  next => cases chosen
  next =>
    split at chosen
    next => cases chosen
    next =>
      obtain ⟨dhId, found, rest⟩ := Option.bind_eq_some_iff.mp chosen
      have known : ∃ group : DhGroup, group.transformId = dhId := by
        have member := List.mem_of_find?_eq_some found
        simp only [List.mem_cons, List.not_mem_nil, or_false] at member
        rcases member with rfl | rfl | rfl
        · exact ⟨.x25519, rfl⟩
        · exact ⟨.modp2048, rfl⟩
        · exact ⟨.modp1024, rfl⟩
      obtain ⟨group, rfl⟩ := known
      split at rest
      next =>
        cases rest
        exact .gcm proposal.num group
      next =>
        split at rest
        next =>
          cases rest
          exact .cbc proposal.num group
        next => cases rest

theorem select_supported {sa : SecurityAssociation} {suite : ChosenSuite}
    (chosen : select sa = some suite) : suite.Supported := by
  obtain ⟨proposal, _, found⟩ := List.exists_of_findSome?_eq_some chosen
  exact selectFromProposal_supported found

/-- Negotiating again on the echoed proposal gives the same suite. -/
theorem select_toProposal {suite : ChosenSuite} (supported : suite.Supported) :
    select ⟨[suite.toProposal]⟩ = some suite := by
  cases supported with
  | gcm num group => cases group <;> rfl
  | cbc num group => cases group <;> rfl

theorem ChosenSuite.Supported.toProposal_fits {suite : ChosenSuite} (supported : suite.Supported) :
    suite.toProposal.Fits := by
  cases supported with
  | gcm num group => simp [Proposal.Fits, ChosenSuite.toProposal, ChosenSuite.gcm]
  | cbc num group => simp [Proposal.Fits, ChosenSuite.toProposal, ChosenSuite.cbc]

theorem ChosenSuite.Supported.group {suite : ChosenSuite} (supported : suite.Supported) :
    ∃ group : DhGroup, suite.dhId = group.transformId := by
  cases supported with
  | gcm num group => exact ⟨group, rfl⟩
  | cbc num group => exact ⟨group, rfl⟩

theorem ChosenSuite.Supported.dhId_eq {suite : ChosenSuite} (supported : suite.Supported) {group : DhGroup}
    (known : DhGroup.fromTransformId suite.dhId = some group) : suite.dhId = group.transformId := by
  obtain ⟨own, same⟩ := supported.group
  rw [same, DhGroup.fromTransformId_transformId] at known
  rw [same, Option.some.inj known]

theorem ChosenSuite.gcm_keyLengths (num : UInt8) (dhId : UInt16) :
    (ChosenSuite.gcm num dhId).keyLengths = ⟨32, 0, 36⟩ := by
  simp [keyLengths, gcm]

theorem ChosenSuite.cbc_keyLengths (num : UInt8) (dhId : UInt16) :
    (ChosenSuite.cbc num dhId).keyLengths = ⟨32, 32, 32⟩ := by
  simp [keyLengths, cbc, transform_id.aesCbc, transform_id.aesGcm16]

theorem ChosenSuite.Supported.gcm_of_encr {suite : ChosenSuite} (supported : suite.Supported)
    (length : suite.keyLengths.encr = 36) : suite.keyLengths = ⟨32, 0, 36⟩ := by
  cases supported with
  | gcm num group => exact gcm_keyLengths num _
  | cbc num group =>
    rw [cbc_keyLengths] at length
    exact absurd length (by decide)

/-! ## What is acceptable, and what is preferred -/

/-- A transform of the type with the identifier, and with the key length where one is
asked for. -/
def Contains (proposal : Proposal) (ttype : UInt8) (tid : UInt16) (keyBits : Option UInt16) : Prop :=
  ∃ t ∈ proposal.transforms, t.transformType = ttype ∧ t.transformId = tid ∧
    ∀ bits ∈ keyBits, t.keyLength = some bits

theorem has_iff (proposal : Proposal) (ttype : UInt8) (tid : UInt16) (keyBits : Option UInt16) :
    has proposal ttype tid keyBits = true ↔ Contains proposal ttype tid keyBits := by
  unfold has Contains
  rw [List.any_eq_true]
  apply exists_congr
  intro t
  apply and_congr_right
  intro member
  cases keyBits with
  | none => simp
  | some bits => simp [and_assoc]

instance (proposal : Proposal) (ttype : UInt8) (tid : UInt16) (keyBits : Option UInt16) :
    Decidable (Contains proposal ttype tid keyBits) :=
  decidable_of_iff _ (has_iff proposal ttype tid keyBits)

/-- An IKE proposal with the one PRF, a group and a cipher that ryke has. -/
structure Acceptable (proposal : Proposal) : Prop where
  ike : proposal.protocolId = protocol_id.ike
  prf : Contains proposal transform_type.prf transform_id.prfHmacSha2256 none
  dh : Contains proposal transform_type.dh transform_id.x25519 none ∨
    Contains proposal transform_type.dh transform_id.modp2048 none ∨
    Contains proposal transform_type.dh transform_id.modp1024 none
  encr : Contains proposal transform_type.encr transform_id.aesGcm16 (some 256) ∨
    (Contains proposal transform_type.encr transform_id.aesCbc (some 256) ∧
      Contains proposal transform_type.integ transform_id.authHmacSha2256128 none)

/-- X25519 before MODP-2048 before MODP-1024. -/
def preferredGroup (proposal : Proposal) : DhGroup :=
  if Contains proposal transform_type.dh transform_id.x25519 none then .x25519
  else if Contains proposal transform_type.dh transform_id.modp2048 none then .modp2048
  else .modp1024

def preferredSuite (proposal : Proposal) : ChosenSuite :=
  if Contains proposal transform_type.encr transform_id.aesGcm16 (some 256) then
    .gcm proposal.num (preferredGroup proposal).transformId
  else .cbc proposal.num (preferredGroup proposal).transformId

theorem find_group_eq_some_iff (proposal : Proposal) (dhId : UInt16) :
    [transform_id.x25519, transform_id.modp2048, transform_id.modp1024].find?
        (fun group => has proposal transform_type.dh group none) = some dhId ↔
      (Contains proposal transform_type.dh transform_id.x25519 none ∨
        Contains proposal transform_type.dh transform_id.modp2048 none ∨
        Contains proposal transform_type.dh transform_id.modp1024 none) ∧
        dhId = (preferredGroup proposal).transformId := by
  simp only [← has_iff, preferredGroup, List.find?_cons, List.find?_nil]
  cases has proposal transform_type.dh transform_id.x25519 none with
  | true =>
    simp only [if_true, true_or, true_and, Option.some.injEq]
    exact eq_comm
  | false =>
    cases has proposal transform_type.dh transform_id.modp2048 none with
    | true =>
      simp only [Bool.false_eq_true, if_false, if_true, true_or, or_true, true_and, Option.some.injEq]
      exact eq_comm
    | false =>
      cases has proposal transform_type.dh transform_id.modp1024 none with
      | true =>
        simp only [Bool.false_eq_true, if_false, or_true, true_and, Option.some.injEq]
        exact eq_comm
      | false => simp only [Bool.false_eq_true, or_self, false_and, reduceCtorEq]

theorem selectFromProposal_eq_some_iff (proposal : Proposal) (suite : ChosenSuite) :
    selectFromProposal proposal = some suite ↔ Acceptable proposal ∧ suite = preferredSuite proposal := by
  unfold selectFromProposal
  by_cases ike : proposal.protocolId = protocol_id.ike
  · rw [if_neg (not_not.mpr ike)]
    by_cases prf : Contains proposal transform_type.prf transform_id.prfHmacSha2256 none
    · rw [if_neg (by rw [(has_iff _ _ _ _).mpr prf]; decide)]
      constructor
      · intro chosen
        obtain ⟨dhId, found, chosen⟩ := Option.bind_eq_some_iff.mp chosen
        obtain ⟨dh, rfl⟩ := (find_group_eq_some_iff proposal dhId).mp found
        simp only [has_iff, Bool.and_eq_true] at chosen
        split at chosen
        next gcm =>
          cases chosen
          exact ⟨⟨ike, prf, dh, .inl gcm⟩, (if_pos gcm).symm⟩
        next notGcm =>
          split at chosen
          next cbc =>
            cases chosen
            exact ⟨⟨ike, prf, dh, .inr cbc⟩, (if_neg notGcm).symm⟩
          next => cases chosen
      · rintro ⟨acceptable, rfl⟩
        apply Option.bind_eq_some_iff.mpr
        refine ⟨_, (find_group_eq_some_iff proposal _).mpr ⟨acceptable.dh, rfl⟩, ?_⟩
        simp only [has_iff, Bool.and_eq_true, preferredSuite]
        by_cases gcm : Contains proposal transform_type.encr transform_id.aesGcm16 (some 256)
        · rw [if_pos gcm, if_pos gcm]
          rfl
        · rw [if_neg gcm, if_neg gcm, if_pos (acceptable.encr.resolve_left gcm)]
          rfl
    · rw [if_pos (by simpa [← has_iff] using prf)]
      constructor
      · nofun
      · rintro ⟨acceptable, -⟩
        exact absurd acceptable.prf prf
  · rw [if_pos ike]
    constructor
    · nofun
    · rintro ⟨acceptable, -⟩
      exact absurd acceptable.ike ike

theorem selectFromProposal_isSome_iff (proposal : Proposal) :
    (selectFromProposal proposal).isSome = true ↔ Acceptable proposal := by
  rw [Option.isSome_iff_exists]
  constructor
  · rintro ⟨suite, chosen⟩
    exact ((selectFromProposal_eq_some_iff proposal suite).mp chosen).1
  · intro acceptable
    exact ⟨_, (selectFromProposal_eq_some_iff proposal _).mpr ⟨acceptable, rfl⟩⟩

instance (proposal : Proposal) : Decidable (Acceptable proposal) :=
  decidable_of_iff _ (selectFromProposal_isSome_iff proposal)

def FirstAcceptable (sa : SecurityAssociation) (proposal : Proposal) : Prop :=
  ∃ before after, sa.proposals = before ++ proposal :: after ∧ Acceptable proposal ∧
    ∀ earlier ∈ before, ¬ Acceptable earlier

theorem FirstAcceptable.unique {sa : SecurityAssociation} {first second : Proposal}
    (isFirst : FirstAcceptable sa first) (isSecond : FirstAcceptable sa second) : first = second := by
  obtain ⟨before, after, split, acceptable, refused⟩ := isFirst
  obtain ⟨before', after', split', acceptable', refused'⟩ := isSecond
  rcases List.append_eq_append_iff.mp (split.symm.trans split') with ⟨between, rfl, rest⟩ | ⟨between, rfl, rest⟩
  · cases between with
    | nil => exact (List.cons.inj rest).1
    | cons proposal between =>
      obtain ⟨rfl, -⟩ := List.cons.inj rest
      exact absurd acceptable (refused' _ (by simp))
  · cases between with
    | nil => exact (List.cons.inj rest).1.symm
    | cons proposal between =>
      obtain ⟨rfl, -⟩ := List.cons.inj rest
      exact absurd acceptable' (refused _ (by simp))

theorem select_eq_some_iff (sa : SecurityAssociation) (suite : ChosenSuite) :
    select sa = some suite ↔ ∃ proposal, FirstAcceptable sa proposal ∧ suite = preferredSuite proposal := by
  have refused : ∀ proposal, selectFromProposal proposal = none ↔ ¬ Acceptable proposal := by
    intro proposal
    rw [← selectFromProposal_isSome_iff, Option.not_isSome_iff_eq_none]
  rw [select, List.findSome?_eq_some_iff]
  constructor
  · rintro ⟨before, proposal, after, split, chosen, none_before⟩
    obtain ⟨acceptable, own⟩ := (selectFromProposal_eq_some_iff proposal suite).mp chosen
    exact ⟨proposal, ⟨before, after, split, acceptable,
      fun earlier member => (refused earlier).mp (none_before earlier member)⟩, own⟩
  · rintro ⟨proposal, ⟨before, after, split, acceptable, none_before⟩, own⟩
    exact ⟨before, proposal, after, split, (selectFromProposal_eq_some_iff proposal suite).mpr ⟨acceptable, own⟩,
      fun earlier member => (refused earlier).mpr (none_before earlier member)⟩

/-- Negotiation finds a suite exactly in the offers that have an acceptable proposal, takes
it whole from the first of them, and finds it again in its own echo, on the wire too. -/
theorem select_sound_complete_stable (sa : SecurityAssociation) :
    ((select sa).isSome = true ↔ ∃ proposal ∈ sa.proposals, Acceptable proposal) ∧
      ∀ suite, select sa = some suite →
        (∃ proposal, FirstAcceptable sa proposal ∧ suite = preferredSuite proposal) ∧
        select ⟨[suite.toProposal]⟩ = some suite ∧
        ∃ echoed, SecurityAssociation.parse (SecurityAssociation.mk [suite.toProposal]).toBytes = .ok echoed ∧
          select echoed = some suite := by
  constructor
  · rw [select, List.findSome?_isSome_iff]
    apply exists_congr
    intro proposal
    exact and_congr_right fun _ => selectFromProposal_isSome_iff proposal
  · intro suite chosen
    have supported := select_supported chosen
    have again := select_toProposal supported
    refine ⟨(select_eq_some_iff sa suite).mp chosen, again, ⟨[suite.toProposal]⟩, ?_, again⟩
    apply SecurityAssociation.parse_toBytes
    intro proposal member
    rw [List.mem_singleton.mp member]
    exact supported.toProposal_fits

end Ryke.Ikev2
