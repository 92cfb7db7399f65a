import Ryke.Ikev1.Agreement
import Ryke.Ikev1.Schedule
import Ryke.Ikev1.ServerRuns

/-! Aggressive Mode over a network that rewrites messages 1 and 2. HASH_I covers the shares,
the cookies, the SA and the identity as one string without lengths, and the nonces only
through SKEYID, as one string as well. So two ends that both accept hold the same keys, and
may differ in where the nonces part, and in where the SA and the identity part. -/

namespace Ryke.Ikev1
open Lib Crypto

namespace Phase1State

/-- What HASH_I is computed over. -/
def transcript (st : Phase1State) : Bytes := st.gxi ++ st.gxr ++ st.ckyI ++ st.ckyR ++ st.saiB ++ st.idiiB

def proofQueries (psk : Bytes) (st : Phase1State) : List PrfQuery :=
  [⟨st.prf, st.skeyid, st.transcript⟩, ⟨st.prf, psk, st.ni ++ st.nr⟩]

structure Framed (st : Phase1State) : Prop where
  gxi : st.gxi.length = st.group.publicLen
  gxr : st.gxr.length = st.group.publicLen
  ckyI : st.ckyI.length = 8
  ckyR : st.ckyR.length = 8

/-- The responder's share happens to be a part of the initiator's transcript that a share of
another size takes for it. -/
def Overlaid (stI stR : Phase1State) : Prop :=
  stR.group.publicLen ≠ stI.group.publicLen ∧
    stR.gxr = (stI.transcript.drop stR.group.publicLen).take stR.group.publicLen

instance (stI stR : Phase1State) : Decidable (Overlaid stI stR) := inferInstanceAs (Decidable (_ ∧ _))

/-- The two ends hold the same, up to where the nonces part, and the SA and the identity. -/
structure SameUpToCuts (stI stR : Phase1State) : Prop where
  state : stI = { stR with ni := stI.ni, nr := stI.nr, saiB := stI.saiB, idiiB := stI.idiiB }
  nonces : stI.ni ++ stI.nr = stR.ni ++ stR.nr
  bodies : stI.saiB ++ stI.idiiB = stR.saiB ++ stR.idiiB

theorem take_transcript {st : Phase1State} (framed : st.Framed) :
    (st.transcript.drop st.group.publicLen).take st.group.publicLen = st.gxr := by
  have front : st.transcript = st.gxi ++ (st.gxr ++ (st.ckyI ++ st.ckyR ++ st.saiB ++ st.idiiB)) := by
    simp only [transcript, List.append_assoc]
  rw [front, List.drop_left' framed.gxi, List.take_left' framed.gxr]

/-- Transcripts with shares of one size part in the same places, but for the last two. -/
theorem transcript_parts {one other : Phase1State} (framed : one.Framed) (framedOther : other.Framed)
    (size : one.group.publicLen = other.group.publicLen) (same : one.transcript = other.transcript) :
    one.gxi = other.gxi ∧ one.gxr = other.gxr ∧ one.ckyI = other.ckyI ∧ one.ckyR = other.ckyR ∧
      one.saiB ++ one.idiiB = other.saiB ++ other.idiiB := by
  simp only [transcript, List.append_assoc] at same
  obtain ⟨gxi, same⟩ := List.append_inj same (by rw [framed.gxi, framedOther.gxi, size])
  obtain ⟨gxr, same⟩ := List.append_inj same (by rw [framed.gxr, framedOther.gxr, size])
  obtain ⟨ckyI, same⟩ := List.append_inj same (by rw [framed.ckyI, framedOther.ckyI])
  obtain ⟨ckyR, same⟩ := List.append_inj same (by rw [framed.ckyR, framedOther.ckyR])
  exact ⟨gxi, gxr, ckyI, ckyR, same⟩

end Phase1State

open Phase1State

/-! ## What the two ends check -/

theorem hashI_of_verified {P : Primitives} {st : Phase1State} {ckyI ckyR : Cookie} {proof : Bytes}
    (sizeI : ckyI.length = 8) (sizeR : ckyR.length = 8) (short : proof.length ≤ 32)
    (verified : st.verifyHashI P (buildMessage (aggressiveHeader ckyI ckyR) [(payload.hash, proof)]) = .ok ()) :
    proof = hashI P st.prf st.skeyid st.gxi st.gxr st.ckyI st.ckyR st.saiB st.idiiB := by
  have fits : ∀ item ∈ [(payload.hash, proof)], Fits item := by
    intro item member
    rw [List.mem_singleton.mp member]
    exact .of (by decide) (by omega)
  have cookieI : (aggressiveHeader ckyI ckyR).initCookie.length = 8 := sizeI
  have cookieR : (aggressiveHeader ckyI ckyR).respCookie.length = 8 := sizeR
  obtain ⟨header, length, isHeader, parsed, read⟩ := parse_buildMessage cookieI cookieR fits
  have clear : ¬ header.encrypted = true := by
    rw [isHeader]
    change ¬ ((0 : UInt8) &&& flags.encryption != 0) = true
    decide
  have hashFound : find ([(payload.hash, proof)].map readBack) payload.hash = some ⟨payload.hash, proof⟩ := rfl
  rw [Phase1State.verifyHashI, parsed, ok_bind] at verified
  dsimp only at verified
  rw [if_neg clear, ok_bind, read, ok_bind, hashFound, okOr_some, ok_bind] at verified
  by_contra differs
  rw [if_neg differs] at verified
  cases verified

theorem readOffer_supported {msg1 : Bytes} {offer : Offer} (read : readOffer msg1 = .ok offer) :
    Modp offer.group ∧ offer.keyLen = 32 := by
  obtain ⟨-, selected, -⟩ := offers_of_readOffer read
  obtain ⟨t, prf, group, found, -, acceptable⟩ := first_of_selectTransform selected
  have sameGroup : offer.group = group := congrArg (fun found => found.2.2.1) found
  have keyLen : offer.keyLen = 32 := congrArg (fun found => found.2.2.2) found
  exact ⟨sameGroup ▸ acceptable.namesGroup.modp, keyLen⟩

theorem group_of_publicLen {one other : DhGroup} (size : one.publicLen = other.publicLen) : one = other := by
  cases one <;> cases other <;> first | rfl | cases size

theorem prf_of_outputLen {one other : Prf} (size : one.outputLen = other.outputLen) : one = other := by
  cases one <;> cases other <;> first | rfl | cases size

/-! ## Both ends together -/

structure Concluded (P : Primitives) (cfg : InitiatorConfig) (dhI : Bytes) (msg3 : Bytes) (st : Phase1State) : Prop where
  framed : st.Framed
  group : st.group = cfg.group
  share : st.gxi = st.group.public_ P dhI
  derived : ∃ gxy, st.group.shared P dhI st.gxr = .ok gxy ∧
    st = derivePhase1 P st.prf st.group cfg.psk st.ckyI st.ckyR gxy st.gxi st.gxr st.ni st.nr st.saiB st.idiiB 32
  message : msg3 = buildMessage (aggressiveHeader st.ckyI st.ckyR)
    [(payload.hash, hashI P st.prf st.skeyid st.gxi st.gxr st.ckyI st.ckyR st.saiB st.idiiB)]

theorem concluded_of_completes {ε : Type} [Entropy ε] {P : Primitives} {cfg : InitiatorConfig} {entropy : ε}
    {msg2 msg3 : Bytes} {st : Phase1State}
    (completed : (initiateAggressive P cfg entropy).1.2.complete P msg2 = .ok (msg3, st)) :
    Concluded P cfg (Entropy.nextArray32 (Entropy.fill entropy 8).2).1 msg3 st := by
  obtain ⟨ckyR, gxy, gxr, nr, sizeR, sizeGxr, agreed, rfl, message⟩ := AggressiveInitiator.complete_eq_ok completed
  exact ⟨⟨cfg.group.public_length P _, sizeGxr, Entropy.fill_length _ 8, sizeR⟩, rfl, rfl, ⟨gxy, agreed, rfl⟩, message⟩

structure Replied (P : Primitives) (cfg : Phase1Config) (dhR : Bytes) (st : Phase1State) : Prop where
  framed : st.Framed
  modp : Modp st.group
  share : st.gxr = st.group.public_ P dhR
  derived : ∃ gxy, st.group.shared P dhR st.gxi = .ok gxy ∧
    st = derivePhase1 P st.prf st.group cfg.psk st.ckyI st.ckyR gxy st.gxi st.gxr st.ni st.nr st.saiB st.idiiB 32

theorem replied_of_responds {ε : Type} [Entropy ε] {P : Primitives} {cfg : Phase1Config} {entropy : ε}
    {msg1 msg2 : Bytes} {st : Phase1State} (answered : (respondAggressive P cfg msg1 entropy).1 = .ok (msg2, st)) :
    Replied P cfg (Entropy.nextArray32 (Entropy.fill entropy 8).2).1 st := by
  obtain ⟨offer, gxy, ckyR, dhR, nr, read, isR, isDh, -, agreed, rfl⟩ := respondAggressive_eq_ok answered
  obtain ⟨header, ps, parsed, -, -, -, own, sized⟩ := readOffer_eq_ok read
  obtain ⟨modp, keyLen⟩ := readOffer_supported read
  have sizeI : offer.ckyI.length = 8 := by rw [own]; exact (parse_cookies parsed).1
  have sizeR : ckyR.length = 8 := by rw [isR]; exact Entropy.fill_length _ 8
  rw [← isDh, keyLen]
  exact ⟨⟨sized, offer.group.public_length P dhR, sizeI, sizeR⟩, modp, rfl, ⟨gxy, agreed, rfl⟩⟩

/-- The key schedule takes the nonces as one string, and the SA and the identity not at all. -/
theorem derivePhase1_cuts {P : Primitives} {prf : Prf} {group : DhGroup} {psk : Bytes} {ckyI ckyR : Cookie}
    {gxy gxi gxr ni nr ni' nr' : Bytes} (nonces : ni ++ nr = ni' ++ nr') (saiB saiB' idiiB idiiB' : Bytes)
    {keyLen : Nat} :
    derivePhase1 P prf group psk ckyI ckyR gxy gxi gxr ni nr saiB idiiB keyLen =
      { derivePhase1 P prf group psk ckyI ckyR gxy gxi gxr ni' nr' saiB' idiiB' keyLen with ni, nr, saiB, idiiB } := by
  unfold derivePhase1 skeyidPsk
  rw [nonces]

theorem same_secret {P : Primitives} {group : DhGroup} (modp : Modp group) {dhI dhR secretI secretR : Bytes}
    (agreedI : group.shared P dhI (group.public_ P dhR) = .ok secretI)
    (agreedR : group.shared P dhR (group.public_ P dhI) = .ok secretR) : secretI = secretR := by
  rw [(DhGroup.shared_eq_ok agreedI).2, (DhGroup.shared_eq_ok agreedR).2, modp.agreed_comm P]

/-- Whatever came in the place of messages 1 and 2: when both ends accept, message 3 as it was
sent, they have one pre-shared key and hold the same keys, shares and cookies. -/
theorem aggressive_tampering_evident {ε δ : Type} [Entropy ε] [Entropy δ] (P : Primitives) (cfgI : InitiatorConfig)
    (cfgR : Phase1Config) (entropyI : ε) (entropyR : δ) {msg1 msg2 sent2 msg3 : Bytes} {stI stR : Phase1State}
    (answered : (respondAggressive P cfgR msg1 entropyR).1 = .ok (sent2, stR))
    (completed : (initiateAggressive P cfgI entropyI).1.2.complete P msg2 = .ok (msg3, stI))
    (verified : stR.verifyHashI P msg3 = .ok ())
    (noCollision : Prf.NoCollision P (stI.proofQueries cfgI.psk ++ stR.proofQueries cfgR.psk)) :
    Overlaid stI stR ∨ cfgI.psk = cfgR.psk ∧ SameUpToCuts stI stR := by
  obtain ⟨framedI, groupI, shareI, ⟨gxyI, agreedI, derivedI⟩, message⟩ := concluded_of_completes completed
  obtain ⟨framedR, modp, shareR, gxyR, agreedR, derivedR⟩ := replied_of_responds answered
  rw [message] at verified
  have short : (stI.prf.mac P stI.skeyid stI.transcript).length ≤ 32 := by
    rw [Prf.mac_length]
    cases stI.prf <;> decide
  have proofs : stI.prf.mac P stI.skeyid stI.transcript = stR.prf.mac P stR.skeyid stR.transcript :=
    hashI_of_verified framedI.ckyI framedI.ckyR short verified
  have prf : stI.prf = stR.prf := by
    apply prf_of_outputLen
    rw [← stI.prf.mac_length P stI.skeyid stI.transcript, proofs, Prf.mac_length]
  have hashed := noCollision ⟨stI.prf, stI.skeyid, stI.transcript⟩ (by simp [proofQueries])
    ⟨stR.prf, stR.skeyid, stR.transcript⟩ (by simp [proofQueries]) prf proofs
  injection hashed with _ skeyid transcript
  by_cases size : stI.group.publicLen = stR.group.publicLen
  case neg =>
    refine .inl ⟨fun same => size same.symm, ?_⟩
    rw [transcript, take_transcript framedR]
  refine .inr ?_
  have group := group_of_publicLen size
  obtain ⟨gxi, gxr, ckyI, ckyR, bodies⟩ := transcript_parts framedI framedR size transcript
  have skeyids : stI.prf.mac P cfgI.psk (stI.ni ++ stI.nr) = stR.prf.mac P cfgR.psk (stR.ni ++ stR.nr) := by
    have ofI : stI.skeyid = stI.prf.mac P cfgI.psk (stI.ni ++ stI.nr) := congrArg Phase1State.skeyid derivedI
    have ofR : stR.skeyid = stR.prf.mac P cfgR.psk (stR.ni ++ stR.nr) := congrArg Phase1State.skeyid derivedR
    rw [← ofI, ← ofR, skeyid]
  have keyed := noCollision ⟨stI.prf, cfgI.psk, stI.ni ++ stI.nr⟩ (by simp [proofQueries])
    ⟨stR.prf, cfgR.psk, stR.ni ++ stR.nr⟩ (by simp [proofQueries]) prf skeyids
  injection keyed with _ psk nonces
  have secrets : gxyI = gxyR := by
    rw [gxr, shareR, group] at agreedI
    rw [← gxi, shareI, group] at agreedR
    exact same_secret modp agreedI agreedR
  have state := calc
    stI = derivePhase1 P stI.prf stI.group cfgI.psk stI.ckyI stI.ckyR gxyI stI.gxi stI.gxr stI.ni stI.nr stI.saiB
        stI.idiiB 32 := derivedI
    _ = derivePhase1 P stR.prf stR.group cfgR.psk stR.ckyI stR.ckyR gxyR stR.gxi stR.gxr stI.ni stI.nr stI.saiB
        stI.idiiB 32 := by rw [prf, group, psk, ckyI, ckyR, secrets, gxi, gxr]
    _ = { stR with ni := stI.ni, nr := stI.nr, saiB := stI.saiB, idiiB := stI.idiiB } := by
      rw [derivePhase1_cuts nonces stI.saiB stR.saiB stI.idiiB stR.idiiB, ← derivedR]
  exact ⟨psk, state, nonces, bodies⟩

namespace Toy
open Ryke.Toy

def rewriteNonce (change : Bytes → Bytes) (message : Bytes) : Bytes :=
  let rewritten : Result Bytes := do
    let header ← IsakmpHeader.parse message
    let ps ← parsePayloads header.nextPayload (message.drop IsakmpHeader.len)
    .ok (buildMessage header (ps.map fun p =>
      (p.payloadType, if p.payloadType = payload.nonce then change p.data else p.data)))
  rewritten.toOption.getD []

def initiator : InitiatorConfig := ⟨[112], ourId, .modp1024, false⟩

def replied : Result (Bytes × Phase1State) :=
  (respondAggressive toy ⟨[112], ourId⟩ (rewriteNonce (· ++ [7]) offer.1) (⟨10⟩ : Counter)).1

def concluded (sent2 : Bytes) : Result (Bytes × Phase1State) :=
  (initiateAggressive toy initiator (⟨1⟩ : Counter)).1.2.complete toy (rewriteNonce ([7] ++ ·) sent2)

end Toy

/-- A byte moved from one nonce to the other goes unnoticed. -/
theorem aggressive_tampering_evident_stretched : ∃ sent2 stR msg3 stI, Toy.replied = .ok (sent2, stR) ∧
    Toy.concluded sent2 = .ok (msg3, stI) ∧ stI.ni ≠ stR.ni ∧
    (Overlaid stI stR ∨ Toy.initiator.psk = [112] ∧ SameUpToCuts stI stR) := by
  have run : Toy.replied.toOption.any (fun sent =>
      (Toy.concluded sent.1).toOption.any fun done =>
        (sent.2.verifyHashI toy done.1).isOk &&
          decide (Prf.NoCollision toy (done.2.proofQueries Toy.initiator.psk ++ sent.2.proofQueries [112]) ∧
            done.2.ni ≠ sent.2.ni)) = true := by
    decide +kernel
  obtain ⟨⟨sent2, stR⟩, answered, run⟩ := exists_of_any run
  obtain ⟨⟨msg3, stI⟩, completed, run⟩ := exists_of_any run
  obtain ⟨accepts, checked⟩ := Bool.and_eq_true_iff.mp run
  obtain ⟨noCollision, differs⟩ := of_decide_eq_true checked
  obtain ⟨_, verified⟩ := exists_of_isOk accepts
  exact ⟨sent2, stR, msg3, stI, answered, completed, differs,
    aggressive_tampering_evident toy Toy.initiator ⟨[112], Toy.ourId⟩ (⟨1⟩ : Ryke.Toy.Counter) (⟨10⟩ : Ryke.Toy.Counter)
      answered completed verified noCollision⟩

end Ryke.Ikev1
