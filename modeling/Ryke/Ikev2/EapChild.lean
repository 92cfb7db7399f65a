import Ryke.Ikev2.EapFinality

/-! The CHILD SA of an established EAP exchange. The responder keeps the SPI and the identity
of the message that opened the exchange last, and asks for neither when it ends. -/

namespace Ryke.Ikev2
open Lib Crypto

/-- The first proposal of an SA payload names a four-byte SPI, behind its header of eight bytes. -/
structure NamesSpi (sai2 : Bytes) (spi : UInt32) : Prop where
  size : byteAt sai2 6 = 4
  bytes : slice sai2 8 12 = u32Bytes spi

theorem espSpiFromSa_eq_some_iff (sai2 : Bytes) (spi : UInt32) : espSpiFromSa sai2 = some spi ↔ NamesSpi sai2 spi := by
  constructor
  · intro named
    unfold espSpiFromSa at named
    split at named
    next fits =>
      rw [← Option.some.inj named]
      exact ⟨fits.2, (u32Bytes_u32At fits.1).symm⟩
    next => cases named
  · intro names
    have long : sai2.length ≥ 12 := by
      have four : (slice sai2 8 12).length = 4 := by rw [names.bytes, u32Bytes_length]
      rw [slice, List.length_take, List.length_drop] at four
      omega
    have spi_ : u32At sai2 8 = spi := u32Bytes_injective ((u32Bytes_u32At long).trans names.bytes)
    rw [espSpiFromSa, if_pos ⟨long, names.size⟩, spi_]

namespace EapResponder

def LastOpening {ε : Type} (P : Primitives) (sa : CompletedSaInit)
    (calls : List (Call EapResponder (Bytes × ε) (Result EapEvent))) (k : Nat) (sai2 idi : Bytes) : Prop :=
  Machine.LastNoted (fun input => openingOf P sa input.1) calls k (sai2, idi)

/-- The exchange has been opened, last by a message whose SA payload names an SPI. -/
def OpenedAt {ε : Type} (P : Primitives) (sa : CompletedSaInit)
    (calls : List (Call EapResponder (Bytes × ε) (Result EapEvent))) (k : Nat) : Prop :=
  ∃ sai2 idi spi, LastOpening P sa calls k sai2 idi ∧ NamesSpi sai2 spi

/-- The AUTH of a message is keyed by the MSK of the state and covers the identity. -/
def Covers (P : Primitives) (sa : CompletedSaInit) (state : EapResponder) (message idi : Bytes) : Prop :=
  ∃ msgId ps authBytes auth, decrypt P sa message = .ok (msgId, ps) ∧ find ps .authentication = some authBytes ∧
    Authentication.parse authBytes = .ok auth ∧
    auth.data = pskAuth P (state.msk P) (initiatorSignedOctets P sa.initMessage sa.nr sa.keys.skPi idi)

/-- There is a CHILD SA to key: its SPI is that of the message whose identity the AUTH covers. -/
def KeyedAt {ε : Type} (P : Primitives) (sa : CompletedSaInit)
    (calls : List (Call EapResponder (Bytes × ε) (Result EapEvent))) (k : Nat)
    (call : Call EapResponder (Bytes × ε) (Result EapEvent)) : Prop :=
  ∃ sai2 idi spi, LastOpening P sa calls k sai2 idi ∧ NamesSpi sai2 spi ∧ call.after.peerChildSpi = some spi ∧
    Covers P sa call.before call.input.1 idi

def Keyed {ε : Type} (P : Primitives) (sa : CompletedSaInit)
    (calls : List (Call EapResponder (Bytes × ε) (Result EapEvent))) : Prop :=
  ∀ (k : Nat) call, calls[k]? = some call → Established call.output → KeyedAt P sa calls k call

/-! ## What a call captures -/

def Holds (state : EapResponder) (opening : Bytes × Bytes) : Prop :=
  state.peerChildSpi = espSpiFromSa opening.1 ∧ state.peerIdi = opening.2

structure Captures (P : Primitives) (before : EapResponder) (message : Bytes) (after : EapResponder) : Prop where
  sa : after.sa = before.sa
  opens : ∀ opening, openingOf P before.sa message = some opening → after.Holds opening
  keeps : openingOf P before.sa message = none →
    after.peerChildSpi = before.peerChildSpi ∧ after.peerIdi = before.peerIdi

theorem Captures.of_keeps {P : Primitives} {before after : EapResponder} {message : Bytes}
    (noOpening : openingOf P before.sa message = none) (sa : after.sa = before.sa)
    (spi : after.peerChildSpi = before.peerChildSpi) (idi : after.peerIdi = before.peerIdi) :
    Captures P before message after := by
  refine ⟨sa, fun opening opens => ?_, fun _ => ⟨spi, idi⟩⟩
  cases noOpening.symm.trans opens

theorem answer_captures {ε : Type} [Entropy ε] {P : Primitives} {self : EapResponder} {message : Bytes}
    (noOpening : openingOf P self.sa message = none) (msgId : UInt32) (packet : EapPacket) (entropy : ε) :
    Captures P self message (self.answer P msgId packet entropy).2.1 := by
  obtain ⟨_, _, _, _, _, after⟩ := answer_after P self msgId packet entropy
  rw [after]
  exact .of_keeps noOpening rfl rfl rfl

theorem startEap_captures {ε : Type} [Entropy ε] {P : Primitives} {self : EapResponder} {message : Bytes}
    {msgId : UInt32} {ps : List Payload}
    (opening : openingOf P self.sa message =
      (find ps .securityAssociation).map fun sai2 => (sai2, (find ps .idInitiator).getD [])) (entropy : ε) :
    Captures P self message (self.startEap P msgId ps entropy).2.1 := by
  unfold startEap
  cases offered : find ps .securityAssociation with
  | none =>
    rw [offered] at opening
    exact .of_keeps opening rfl rfl rfl
  | some sai2 =>
    rw [offered, Option.map_some] at opening
    dsimp only
    have captured : ∀ after : EapResponder, after.sa = self.sa → after.peerChildSpi = espSpiFromSa sai2 →
        after.peerIdi = (find ps .idInitiator).getD [] → Captures P self message after := by
      intro after sa spi idi
      refine ⟨sa, fun other opens => ?_, fun none => ?_⟩
      · cases opening.symm.trans opens
        exact ⟨spi, idi⟩
      · cases opening.symm.trans none
    split
    · exact captured _ rfl rfl rfl
    · exact captured _ rfl rfl rfl

/-- The step lemma: every branch of `handle`, by what it captures. -/
theorem handle_captures {ε : Type} [Entropy ε] (P : Primitives) (self : EapResponder) (message : Bytes) (entropy : ε) :
    Captures P self message (self.handle P message entropy).2.1 := by
  unfold handle
  cases opened : decrypt P self.sa message with
  | error error =>
    have unread : openingOf P self.sa message = none := by
      rw [openingOf, opened]
      rfl
    exact .of_keeps unread rfl rfl rfl
  | ok pair =>
    obtain ⟨msgId, ps⟩ := pair
    have opening := openingOf_eq opened
    dsimp only
    cases hasEap : find ps .eap with
    | none =>
      cases hasAuth : find ps .authentication with
      | none =>
        rw [if_pos ⟨hasEap, hasAuth⟩] at opening
        exact startEap_captures opening entropy
      | some authBytes =>
        rw [hasAuth, if_neg (by simp)] at opening
        exact .of_keeps opening rfl rfl rfl
    | some eapBytes =>
      rw [hasEap, if_neg (by simp)] at opening
      dsimp only
      split
      · exact .of_keeps opening rfl rfl rfl
      · exact answer_captures opening msgId _ entropy

theorem covers_of_established {ε : Type} [Entropy ε] {P : Primitives} {self : EapResponder} {input : Bytes × ε}
    (established : Established (self.handle P input.1 input.2).1) :
    isFinal P self.sa input.1 = true ∧ (self.handle P input.1 input.2).2.1 = self ∧
      Covers P self.sa self input.1 self.peerIdi := by
  obtain ⟨isLast, same⟩ := final_of_established (handle_handled P self input.1 input.2) established
  refine ⟨isLast, same, ?_⟩
  have agreed : self.agrees P input = true := (isEstablished_handle P self input).symm.trans established
  obtain ⟨msgId, ps, authBytes, got, _, opened, -, hasAuth, parsed, keyed, -⟩ := agrees_eq_true agreed
  exact ⟨msgId, ps, authBytes, got, opened, hasAuth, parsed, keyedByMsk_of_parsed keyed parsed⟩

/-! ## Runs -/

section
variable {ε : Type} [Entropy ε] (P : Primitives) (sa : CompletedSaInit) (id : Identification) (auth : ServerAuth)
  (users : Table Bytes Text) (childSpi : UInt32) (assigned : Option AssignedConfig) (inputs : List (Bytes × ε))

/-- The state that a call meets holds what the last opening before it said. -/
theorem holds_lastOpening {k : Nat} {call : Call EapResponder (Bytes × ε) (Result EapEvent)} {sai2 idi : Bytes}
    (isCall : ((machine P).calls ((newMulti sa id auth users childSpi).setAssigned assigned) inputs)[k]? = some call)
    (last : LastOpening P sa
      ((machine P).calls ((newMulti sa id auth users childSpi).setAssigned assigned) inputs) k sai2 idi) :
    call.before.Holds (sai2, idi) := by
  have captures : ∀ (self : EapResponder) (input : Bytes × ε), Captures P self input.1 (machine P self input).2 :=
    fun self input => handle_captures P self input.1 input.2
  apply Machine.recalls (fun self : EapResponder => self.sa = sa) (fun input : Bytes × ε => openingOf P sa input.1)
    Holds rfl ?_ ?_ ?_ isCall last
  · intro self input sameSa
    exact (captures self input).sa.trans sameSa
  · rintro self input opening rfl opens
    exact (captures self input).opens opening opens
  · rintro self input opening rfl noOpening holds
    obtain ⟨spi, idi⟩ := (captures self input).keeps noOpening
    exact ⟨spi.trans holds.1, idi.trans holds.2⟩

theorem sa_of_call {k : Nat} {call : Call EapResponder (Bytes × ε) (Result EapEvent)}
    (isCall : ((machine P).calls ((newMulti sa id auth users childSpi).setAssigned assigned) inputs)[k]? = some call) :
    call.before.sa = sa := by
  obtain ⟨input, rfl⟩ := Machine.calls_getElem? isCall
  exact (final_fixes P ((newMulti sa id auth users childSpi).setAssigned assigned) _).sa

/-- An established call has a CHILD SA to key exactly where the last message before it that
opened the exchange names an SPI. So has every established call of a run in which this holds
of each last message of the initiator. -/
theorem keyed_iff_opened :
    (∀ (k : Nat) call,
      ((machine P).calls ((newMulti sa id auth users childSpi).setAssigned assigned) inputs)[k]? = some call →
      Established call.output →
      (KeyedAt P sa ((machine P).calls ((newMulti sa id auth users childSpi).setAssigned assigned) inputs) k call ↔
        OpenedAt P sa ((machine P).calls ((newMulti sa id auth users childSpi).setAssigned assigned) inputs) k)) ∧
    ((∀ (k : Nat) call,
      ((machine P).calls ((newMulti sa id auth users childSpi).setAssigned assigned) inputs)[k]? = some call →
      isFinal P sa call.input.1 = true →
      OpenedAt P sa ((machine P).calls ((newMulti sa id auth users childSpi).setAssigned assigned) inputs) k) →
      Keyed P sa ((machine P).calls ((newMulti sa id auth users childSpi).setAssigned assigned) inputs)) := by
  have pointwise : ∀ (k : Nat) call,
      ((machine P).calls ((newMulti sa id auth users childSpi).setAssigned assigned) inputs)[k]? = some call →
      Established call.output → isFinal P sa call.input.1 = true ∧
      (KeyedAt P sa ((machine P).calls ((newMulti sa id auth users childSpi).setAssigned assigned) inputs) k call ↔
        OpenedAt P sa ((machine P).calls ((newMulti sa id auth users childSpi).setAssigned assigned) inputs) k) := by
    intro k call isCall established
    have sameSa := sa_of_call P sa id auth users childSpi assigned inputs isCall
    obtain ⟨input, made⟩ := Machine.calls_getElem? isCall
    rw [made] at established
    obtain ⟨isLast, same, covers⟩ := covers_of_established established
    have before : call.before = (machine P).final ((newMulti sa id auth users childSpi).setAssigned assigned)
        (inputs.take k) := congrArg Call.before made
    have after : call.after = call.before := (congrArg Call.after made).trans (same.trans before.symm)
    have input_ : call.input = input := congrArg Call.input made
    rw [← before, ← input_, sameSa] at isLast
    rw [← before, ← input_, sameSa] at covers
    refine ⟨isLast, ?_, ?_⟩
    · rintro ⟨sai2, idi, spi, last, names, -, -⟩
      exact ⟨sai2, idi, spi, last, names⟩
    · rintro ⟨sai2, idi, spi, last, names⟩
      obtain ⟨captured, identity⟩ := holds_lastOpening P sa id auth users childSpi assigned inputs isCall last
      refine ⟨sai2, idi, spi, last, names, ?_, ?_⟩
      · rw [after, captured]
        exact (espSpiFromSa_eq_some_iff sai2 spi).mpr names
      · rw [show idi = call.before.peerIdi from identity.symm]
        exact covers
  refine ⟨fun k call isCall established => (pointwise k call isCall established).2, ?_⟩
  intro opened k call isCall established
  obtain ⟨isLast, exactly⟩ := pointwise k call isCall established
  exact exactly.mpr (opened k call isCall isLast)

end

end EapResponder

namespace Toy
open Ryke.Toy

def spilessOpening : Bytes :=
  (buildSk toy initSa 1 false [(.idInitiator, alice.toBytes), (.securityAssociation, defaultOffer.toBytes),
    (.trafficSelectorInitiator, fullTunnelTs), (.trafficSelectorResponder, fullTunnelTs)]
    (.ofU64 1)).toOption.getD []

def spilessInputs : List (Bytes × Counter) := (exchange 4 eapClient eapServer spilessOpening).map (·, ⟨2⟩)

end Toy

namespace EapResponder

/-- After an opening that names no SPI the exchange ends established, with no CHILD SA to key. -/
theorem not_keyed_spiless : ¬ Keyed toy Toy.respSa ((machine toy).calls Toy.eapServer Toy.spilessInputs) := by
  intro keyed
  have ends : (((machine toy).calls Toy.eapServer Toy.spilessInputs)[4]?.map fun call =>
      (isEstablished call.output, call.after.peerChildSpi)) = some (true, none) := by
    decide +kernel
  obtain ⟨call, isCall, said⟩ := Option.map_eq_some_iff.mp ends
  obtain ⟨-, -, spi, -, -, captured, -⟩ := keyed 4 call isCall (congrArg Prod.fst said)
  cases (congrArg Prod.snd said).symm.trans captured

end EapResponder

end Ryke.Ikev2
