import Ryke.Ikev1.Phase1

/-! The key schedule of Phase 1 at either end: what each end read and drew, the PRF inputs
that its state is derived with, and how much of the state one derived key gives away. -/

namespace Ryke.Ikev1
open Lib Crypto

structure PrfQuery where
  prf : Prf
  key : Bytes
  input : Bytes
  deriving DecidableEq

def PrfQuery.answer (P : Primitives) (query : PrfQuery) : Bytes := query.prf.mac P query.key query.input

/-- Among the inputs of each PRF that occur, no two collide. -/
def Prf.NoCollision (P : Primitives) (queries : List PrfQuery) : Prop :=
  ∀ first ∈ queries, ∀ second ∈ queries, first.prf = second.prf → first.answer P = second.answer P → first = second

instance (P : Primitives) (queries : List PrfQuery) : Decidable (Prf.NoCollision P queries) :=
  inferInstanceAs (Decidable (∀ first ∈ queries, ∀ second ∈ queries, _ = _ → _ = _ → _ = _))

theorem Prf.NoCollision.mono {P : Primitives} {fewer more : List PrfQuery} (noCollision : Prf.NoCollision P more)
    (within : ∀ query ∈ fewer, query ∈ more) : Prf.NoCollision P fewer :=
  fun first inFirst second inSecond => noCollision first (within first inFirst) second (within second inSecond)

/-! ## What an end read -/

theorem parse_cookies {message : Bytes} {header : IsakmpHeader} (parsed : IsakmpHeader.parse message = .ok header) :
    header.initCookie.length = 8 ∧ header.respCookie.length = 8 := by
  unfold IsakmpHeader.parse at parsed
  obtain ⟨long, parsed⟩ := guard_eq_ok parsed
  cases parsed
  unfold IsakmpHeader.len at long
  constructor
  · exact slice_length (by omega)
  · exact slice_length (by omega)

theorem readOffer_eq_ok {msg1 : Bytes} {offer : Offer} (read : readOffer msg1 = .ok offer) :
    ∃ header ps, IsakmpHeader.parse msg1 = .ok header ∧ header.exchangeType = exchange.aggressive ∧
      parsePayloads header.nextPayload (msg1.drop IsakmpHeader.len) = .ok ps ∧
      find ps payload.sa = some ⟨payload.sa, offer.saiB⟩ ∧ offer.ckyI = header.initCookie ∧
      offer.gxi.length = offer.group.publicLen := by
  unfold readOffer at read
  obtain ⟨header, parsed, read⟩ := bind_eq_ok read
  obtain ⟨kind, read⟩ := guard_eq_ok read
  obtain ⟨ps, chain, read⟩ := bind_eq_ok read
  obtain ⟨saP, saFound, read⟩ := bind_eq_ok read
  obtain ⟨keP, -, read⟩ := bind_eq_ok read
  obtain ⟨nonceP, -, read⟩ := bind_eq_ok read
  obtain ⟨idP, -, read⟩ := bind_eq_ok read
  obtain ⟨sa, -, read⟩ := bind_eq_ok read
  obtain ⟨⟨chosen, prf, group, keyLen⟩, -, read⟩ := bind_eq_ok read
  obtain ⟨sized, read⟩ := guard_eq_ok read
  cases read
  have saFound := okOr_eq_ok saFound
  refine ⟨header, ps, parsed, not_not.mp kind, chain, ?_, rfl, not_not.mp sized⟩
  rw [saFound, ← find_kind saFound]

theorem respondAggressive_eq_ok {ε : Type} [Entropy ε] {P : Primitives} {cfg : Phase1Config} {msg1 msg2 : Bytes}
    {entropy : ε} {st : Phase1State} (answered : (respondAggressive P cfg msg1 entropy).1 = .ok (msg2, st)) :
    ∃ offer gxy ckyR dhR nr, readOffer msg1 = .ok offer ∧ ckyR = (Entropy.fill entropy 8).1 ∧
      dhR = (Entropy.nextArray32 (Entropy.fill entropy 8).2).1 ∧ nr.length = 16 ∧
      offer.group.shared P dhR offer.gxi = .ok gxy ∧
      st = derivePhase1 P offer.prf offer.group cfg.psk offer.ckyI ckyR gxy offer.gxi (offer.group.public_ P dhR)
        offer.ni nr offer.saiB offer.idiiB offer.keyLen := by
  unfold respondAggressive at answered
  split at answered
  next => cases answered
  next offer read =>
    dsimp only at answered
    unfold answerOffer at answered
    obtain ⟨gxy, agreed, answered⟩ := bind_eq_ok answered
    cases answered
    exact ⟨offer, gxy, _, _, _, read, rfl, rfl, Entropy.fill_length _ 16, agreed, rfl⟩

theorem AggressiveInitiator.complete_eq_ok {P : Primitives} {self : AggressiveInitiator} {msg2 msg3 : Bytes}
    {st : Phase1State} (completed : self.complete P msg2 = .ok (msg3, st)) :
    ∃ ckyR gxy gxr nr, ckyR.length = 8 ∧ gxr.length = self.group.publicLen ∧
      self.group.shared P self.dhPrivate gxr = .ok gxy ∧
      st = derivePhase1 P self.prf self.group self.psk self.ckyI ckyR gxy self.gxi gxr self.ni nr self.saiB self.idiB
        self.keyLen ∧
      msg3 = buildMessage (aggressiveHeader self.ckyI ckyR) [(payload.hash,
        hashI P self.prf st.skeyid self.gxi gxr self.ckyI ckyR self.saiB self.idiB)] := by
  unfold complete at completed
  obtain ⟨header, parsed, completed⟩ := bind_eq_ok completed
  obtain ⟨-, completed⟩ := guard_eq_ok completed
  dsimp only at completed
  obtain ⟨ps, -, completed⟩ := bind_eq_ok completed
  obtain ⟨keP, -, completed⟩ := bind_eq_ok completed
  obtain ⟨nonceP, -, completed⟩ := bind_eq_ok completed
  obtain ⟨hashP, -, completed⟩ := bind_eq_ok completed
  obtain ⟨idP, -, completed⟩ := bind_eq_ok completed
  obtain ⟨sized, completed⟩ := guard_eq_ok completed
  obtain ⟨gxy, agreed, completed⟩ := bind_eq_ok completed
  obtain ⟨-, completed⟩ := guard_eq_ok completed
  cases completed
  exact ⟨header.respCookie, gxy, keP.data, nonceP.data, (parse_cookies parsed).2, not_not.mp sized, agreed, rfl, rfl⟩

/-! ## SKEYID_a -/

/-- The PRF input that SKEYID_a of a state is derived with, for the secret of the end and
the share of its peer. -/
def scheduleOf (P : Primitives) (group : DhGroup) (secret peer : Bytes) (st : Phase1State) : List PrfQuery :=
  match group.shared P secret peer with
  | .ok gxy => [⟨st.prf, st.skeyid, st.skeyidD ++ gxy ++ st.ckyI ++ st.ckyR ++ [1]⟩]
  | .error _ => []

/-- A state of Phase 1 whose SKEYID_a is derived with a PRF input among `queries`. -/
structure Scheduled (P : Primitives) (queries : List PrfQuery) (st : Phase1State) : Prop where
  ckyI : st.ckyI.length = 8
  ckyR : st.ckyR.length = 8
  skeyidD : st.skeyidD.length = st.prf.outputLen
  derived : ∃ gxy, st.skeyidA = skeyidA P st.prf st.skeyid st.skeyidD gxy st.ckyI st.ckyR ∧
    ⟨st.prf, st.skeyid, st.skeyidD ++ gxy ++ st.ckyI ++ st.ckyR ++ [1]⟩ ∈ queries

theorem Scheduled.mono {P : Primitives} {fewer more : List PrfQuery} {st : Phase1State}
    (scheduled : Scheduled P fewer st) (within : ∀ query ∈ fewer, query ∈ more) : Scheduled P more st := by
  obtain ⟨ckyI, ckyR, skeyidD, gxy, derived, member⟩ := scheduled
  exact ⟨ckyI, ckyR, skeyidD, gxy, derived, within _ member⟩

theorem Scheduled.same {P : Primitives} {queries : List PrfQuery} (noCollision : Prf.NoCollision P queries)
    {st other : Phase1State} (scheduled : Scheduled P queries st) (scheduledOther : Scheduled P queries other)
    (prf : other.prf = st.prf) (skeyidA : other.skeyidA = st.skeyidA) :
    other.skeyidD = st.skeyidD ∧ other.ckyI = st.ckyI ∧ other.ckyR = st.ckyR := by
  obtain ⟨ckyI, ckyR, skeyidD, gxy, derived, member⟩ := scheduled
  obtain ⟨ckyI', ckyR', skeyidD', gxy', derived', member'⟩ := scheduledOther
  rw [derived, derived'] at skeyidA
  have inputs := congrArg PrfQuery.input (noCollision _ member' _ member prf skeyidA)
  dsimp only at inputs
  have sizeR : other.ckyR.length = st.ckyR.length := by rw [ckyR, ckyR']
  have sizeI : other.ckyI.length = st.ckyI.length := by rw [ckyI, ckyI']
  obtain ⟨front, sameR⟩ := List.append_inj' (List.append_cancel_right inputs) sizeR
  obtain ⟨secrets, sameI⟩ := List.append_inj' front sizeI
  have sizeD : other.skeyidD.length = st.skeyidD.length := by rw [skeyidD, skeyidD', prf]
  exact ⟨(List.append_inj secrets sizeD).1, sameI, sameR⟩

theorem scheduled_derivePhase1 {P : Primitives} {prf : Prf} {group : DhGroup} {secret peer gxy : Bytes}
    (agreed : group.shared P secret peer = .ok gxy) (psk : Bytes) {ckyI ckyR : Cookie} (sizeI : ckyI.length = 8)
    (sizeR : ckyR.length = 8) (gxi gxr ni nr saiB idiiB : Bytes) (keyLen : Nat) :
    Scheduled P
      (scheduleOf P group secret peer (derivePhase1 P prf group psk ckyI ckyR gxy gxi gxr ni nr saiB idiiB keyLen))
      (derivePhase1 P prf group psk ckyI ckyR gxy gxi gxr ni nr saiB idiiB keyLen) := by
  refine ⟨sizeI, sizeR, Prf.mac_length P prf _ _, gxy, rfl, ?_⟩
  rw [scheduleOf, agreed]
  exact List.mem_singleton_self _

theorem scheduled_of_completes {P : Primitives} {self : AggressiveInitiator} {msg2 msg3 : Bytes} {st : Phase1State}
    (completed : self.complete P msg2 = .ok (msg3, st)) (sizeI : self.ckyI.length = 8) :
    Scheduled P (scheduleOf P self.group self.dhPrivate st.gxr st) st := by
  obtain ⟨ckyR, gxy, gxr, nr, sizeR, -, agreed, rfl, -⟩ := AggressiveInitiator.complete_eq_ok completed
  exact scheduled_derivePhase1 agreed self.psk sizeI sizeR _ _ _ _ _ _ _

theorem scheduled_of_responds {ε : Type} [Entropy ε] {P : Primitives} {cfg : Phase1Config} {msg1 msg2 : Bytes}
    {entropy : ε} {st : Phase1State} (answered : (respondAggressive P cfg msg1 entropy).1 = .ok (msg2, st)) :
    Scheduled P (scheduleOf P st.group (Entropy.nextArray32 (Entropy.fill entropy 8).2).1 st.gxi st) st := by
  obtain ⟨offer, gxy, ckyR, dhR, nr, read, isR, isDh, -, agreed, rfl⟩ := respondAggressive_eq_ok answered
  obtain ⟨header, ps, parsed, -, -, -, own, -⟩ := readOffer_eq_ok read
  have sizeI : offer.ckyI.length = 8 := by rw [own]; exact (parse_cookies parsed).1
  have sizeR : ckyR.length = 8 := by rw [isR]; exact Entropy.fill_length _ 8
  rw [← isDh]
  exact scheduled_derivePhase1 agreed cfg.psk sizeI sizeR _ _ _ _ _ _ _

end Ryke.Ikev1
