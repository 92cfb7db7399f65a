import Ryke.Ikev2.EapNetwork

/-! What an EAP exchange that ends at the client proves about the `IKE_SA_INIT` before it. The
MSK keys an AUTH over each of the two messages, so no tampering with either goes unseen. -/

namespace Ryke.Ikev2
open Lib Crypto

/-! ## What each end holds after `IKE_SA_INIT` -/

/-- The SA of an end that was handed a message: its keys come from what it read there. -/
structure KeyedFrom (P : Primitives) (secret : LocalSecret) (message : Bytes) (sa : CompletedSaInit) : Prop where
  supported : sa.suite.Supported
  keys : sa.keys = deriveSessionKeys P (sharedWith P secret message) sa.ni sa.nr sa.spiI sa.spiR sa.suite.keyLengths

theorem keyedFrom_of_completed {P : Primitives} {secret : LocalSecret} {request response : Bytes} {sa : CompletedSaInit}
    (completed : initiatorComplete P secret request response = .ok sa) :
    sa.role = .initiator ∧ KeyedFrom P secret response sa := by
  obtain ⟨header, payloads, group, shared, got, form⟩ := initiatorComplete_eq_ok completed
  refine ⟨by rw [form], got.supported, ?_⟩
  rw [got.sharedWith_eq, form]

theorem keyedFrom_of_responds {P : Primitives} {secret : LocalSecret} {request response : Bytes} {sa : CompletedSaInit}
    (answered : Responds P request secret response sa) : sa.role = .responder ∧ KeyedFrom P secret request sa := by
  obtain ⟨natt, cookie, inner⟩ := answered.inner
  obtain ⟨header, payloads, group, shared, got, -, form⟩ := responderRespondInner_established inner
  refine ⟨by rw [form], got.supported, ?_⟩
  rw [got.sharedWith_eq, form]

theorem decrypt_key {P : Primitives} {sa sender : CompletedSaInit} {number msgId : UInt32} {isResponse : Bool}
    {inner ps : List Payload} {iv : Iv} {message : Bytes} (ideal : P.GcmIdeal [sealedText message])
    (built : buildSk P sender number isResponse inner iv = .ok message)
    (opened : decrypt P sa message = .ok (msgId, ps)) :
    peerSkE sa = ourSkE sender ∧ (ourSkE sender).length = 36 := by
  unfold decrypt at opened
  obtain ⟨own, -, opened⟩ := bind_eq_ok opened
  obtain ⟨⟨first, plain⟩, plainly, -⟩ := bind_eq_ok opened
  obtain ⟨same, size, -⟩ := open_buildEncryptedGcm ideal built plainly
  exact ⟨same, size⟩

namespace EapParties

variable {ε δ : Type} [Entropy ε] [Entropy δ] {P : Primitives}

theorem sa_kept (world : EapParties) (action : EapAction ε δ) :
    (machine P world action).2.client.sa = world.client.sa ∧
      (machine P world action).2.responder.sa = world.responder.sa := by
  cases action with
  | start entropy => exact ⟨rfl, rfl⟩
  | toServer message entropy => exact ⟨rfl, (EapResponder.handle_fixes P world.responder message entropy).sa⟩
  | toClient message entropy =>
    obtain ⟨ntResponse, verified, after⟩ := EapInitiator.handle_after P world.client message entropy
    refine ⟨?_, rfl⟩
    change (world.client.handle P message entropy).2.1.sa = world.client.sa
    rw [after]

theorem sa_of_call {world : EapParties} {actions : List (EapAction ε δ)}
    {call : Call EapParties (EapAction ε δ) (Result EapEvent)} (isCall : call ∈ (machine P).calls world actions) :
    call.before.client.sa = world.client.sa ∧ call.before.responder.sa = world.responder.sa := by
  obtain ⟨past, action, rfl⟩ := Machine.mem_calls isCall
  apply Machine.invariant (machine P) world (fun reached => reached.client.sa = world.client.sa ∧
    reached.responder.sa = world.responder.sa) ⟨rfl, rfl⟩
  rintro reached action ⟨client, responder⟩
  obtain ⟨clientKept, responderKept⟩ := sa_kept (P := P) reached action
  exact ⟨clientKept.trans client, responderKept.trans responder⟩

theorem same_skE {world : EapParties} {actions : List (EapAction ε δ)}
    {sender : Call EapParties (EapAction ε δ) (Result EapEvent)} (ideal : P.GcmIdeal (sealedTexts sender))
    (isCall : sender ∈ (machine P).calls world actions)
    (answers : ToClient sender) {heard : Heard} (given : heard ∈ gives P sender) :
    peerSkE world.responder.sa = ourSkE world.client.sa ∧ (ourSkE world.client.sa).length = 36 := by
  obtain ⟨client, responder⟩ := sa_of_call isCall
  obtain ⟨past, action, rfl⟩ := Machine.mem_calls isCall
  obtain ⟨message, entropy, rfl⟩ := answers
  cases sent : sentWith (((machine P).final world past).client.handle P message entropy).1 with
  | none =>
    rw [gives_none sent] at given
    cases given
  | some crossing =>
    rw [gives_toClient sent] at given
    obtain ⟨msgId, ps, opened, -⟩ := mem_heardByServer.mp given
    obtain ⟨number, packet, inner, iv, -, -, built⟩ := EapInitiator.handle_utters sent
    rw [← client, ← responder]
    exact decrypt_key (ideal.single (mem_sealedTexts sent)) built opened

def scheduleQueries (P : Primitives) (secret : LocalSecret) (message : Bytes) (sa : CompletedSaInit) :
    List (Bytes × Bytes) :=
  keyQueries P (sharedWith P secret message) sa.ni sa.nr sa.spiI sa.spiR sa.suite.keyLengths

/-- Ends that share `SK_ei` had one key schedule. -/
theorem same_schedule_of_skE {queries : List (Bytes × Bytes)} (noCollision : P.NoCollision queries)
    {initiator responder : LocalSecret} {received request : Bytes} {initSa respSa : CompletedSaInit}
    (keyedI : KeyedFrom P initiator received initSa) (keyedR : KeyedFrom P responder request respSa)
    (left : ∀ query ∈ scheduleQueries P initiator received initSa, query ∈ queries)
    (right : ∀ query ∈ scheduleQueries P responder request respSa, query ∈ queries)
    (same : respSa.keys.skEi = initSa.keys.skEi) (size : initSa.keys.skEi.length = 36) :
    (sharedWith P initiator received = sharedWith P responder request ∧
        initSa.ni ++ initSa.nr = respSa.ni ++ respSa.nr ∧ initSa.spiI = respSa.spiI ∧ initSa.spiR = respSa.spiR) ∧
      (initSa.ni = respSa.ni → initSa.nr = respSa.nr → initSa.keys = respSa.keys) := by
  obtain ⟨lengthsI, keysI⟩ := gcm_of_skEi keyedI.supported keyedI.keys size
  obtain ⟨lengthsR, keysR⟩ := gcm_of_skEi keyedR.supported keyedR.keys (by rw [same, size])
  unfold scheduleQueries at left right
  rw [lengthsI] at left
  rw [lengthsR] at right
  have inputs := same_schedule noCollision left right (by rw [← keysI, ← keysR, same])
  refine ⟨inputs, fun sameNi sameNr => ?_⟩
  obtain ⟨shared, -, spiI, spiR⟩ := inputs
  rw [keysI, keysR, shared, sameNi, sameNr, spiI, spiR]

/-- Whatever reached the two ends in the place of the IKE_SA_INIT messages and of the EAP
exchange: an exchange that ends established at the client, over which neither end accepted a
sealed message that the other did not send, leaves no tampering with IKE_SA_INIT undetected. -/
theorem eap_binds_saInit (P : Primitives) (initiator responder : LocalSecret)
    (offer : SecurityAssociation) (offerFits : OfferFits offer) (initiatorFits : NonceFits initiator)
    (responderFits : NonceFits responder) (received response request : Bytes) (world : EapParties)
    (completed : initiatorComplete P initiator (initiatorRequest P initiator offer) received = .ok world.client.sa)
    (answered : Responds P request responder response world.responder.sa) (actions : List (EapAction ε δ))
    (unforged : Machine.Sourced (takes P) (gives P) ((machine P).calls world actions))
    (ideal : P.GcmIdeal (((machine P).calls world actions).flatMap sealedTexts))
    (noCollision : P.NoCollision (((machine P).calls world actions).flatMap (queries P) ++
      scheduleQueries P initiator received world.client.sa ++ scheduleQueries P responder request world.responder.sa))
    (k : Nat) (call : Call EapParties (EapAction ε δ) (Result EapEvent))
    (isCall : ((machine P).calls world actions)[k]? = some call) (done : ClientDone call) :
    initiatorRequest P initiator offer = request ∧ response = received ∧
      world.client.sa.suite = world.responder.sa.suite ∧ world.client.sa.keys = world.responder.sa.keys ∧
      world.client.sa.ni = world.responder.sa.ni ∧ world.client.sa.nr = world.responder.sa.nr ∧
      world.client.sa.spiI = world.responder.sa.spiI ∧ world.client.sa.spiR = world.responder.sa.spiR := by
  have within : ∀ query ∈ ((machine P).calls world actions).flatMap (queries P), query ∈
      ((machine P).calls world actions).flatMap (queries P) ++ scheduleQueries P initiator received world.client.sa ++
        scheduleQueries P responder request world.responder.sa :=
    fun query member => List.mem_append_left _ (List.mem_append_left _ member)
  have ofCall : ∀ other ∈ (machine P).calls world actions, other.before.client.sa = world.client.sa ∧
      other.before.responder.sa = world.responder.sa := fun other member => sa_of_call member
  -- the client has the last message of a responder that was established by the client's AUTH
  obtain ⟨last, before, lastDone, -, answer⟩ :=
    answered_of_clientDone world actions unforged ideal noCollision within isCall done
  obtain ⟨j, -, isLast⟩ := Machine.getElem?_of_mem_take before
  obtain ⟨-, sender, earlier, toClient, ⟨msgId, given⟩, asked⟩ :=
    authSent_of_serverDone world actions unforged ideal noCollision within isLast lastDone
  have isSender := List.mem_of_mem_take earlier
  have signedRequest := asked.signed
  rw [(ofCall sender isSender).1, (ofCall last (List.mem_of_getElem? isLast)).2] at signedRequest
  have signedResponse := answer.signed
  rw [(ofCall call (List.mem_of_getElem? isCall)).1, (ofCall last (List.mem_of_getElem? isLast)).2] at signedResponse
  -- the AUTH crossed under one key, so the two schedules had one input
  obtain ⟨roleI, keyedI⟩ := keyedFrom_of_completed completed
  obtain ⟨roleR, keyedR⟩ := keyedFrom_of_responds answered
  have idealSender : P.GcmIdeal (sealedTexts sender) :=
    ideal.mono fun text inside => List.mem_flatMap.mpr ⟨sender, isSender, inside⟩
  obtain ⟨sameSkE, size⟩ := same_skE idealSender isSender toClient given
  rw [peerSkE, roleR, ourSkE, roleI] at sameSkE
  rw [ourSkE, roleI] at size
  obtain ⟨⟨-, nonces, spiI, spiR⟩, keysOf⟩ := same_schedule_of_skE noCollision keyedI keyedR
    (fun query member => List.mem_append_left _ (List.mem_append_right _ member))
    (fun query member => List.mem_append_right _ member) sameSkE size
  obtain ⟨sameRequest, sameResponse, suite, ni, nr⟩ := saInit_unshifted offerFits initiatorFits responderFits completed
    answered nonces signedRequest signedResponse
  exact ⟨sameRequest, sameResponse, suite, keysOf ni nr, ni, nr, spiI, spiR⟩

theorem eap_binds_saInit_honest : ClientDone (Toy.eapTurn 10) ∧
    Toy.eapParties.client.sa.suite = Toy.eapParties.responder.sa.suite ∧
    Toy.eapParties.client.sa.keys = Toy.eapParties.responder.sa.keys := by
  let inputs := (List.range 11).map fun k => (Toy.eapTurn k).input
  have made : (machine Ryke.toy).calls Toy.eapParties inputs = (List.range 11).map Toy.eapTurn :=
    (Machine.calls_turns Toy.eapMachine Toy.nextDelivery Toy.eapParties (.start ⟨1⟩) 10).1
  have completed : initiatorComplete Ryke.toy Toy.initiatorSecret Toy.saInitRequest Toy.saInitAnswer.1 =
      .ok Toy.eapParties.client.sa := by
    decide +kernel
  have answered : responderRespond Ryke.toy Toy.saInitRequest Toy.responderSecret =
      .ok (Toy.saInitAnswer.1, Toy.eapParties.responder.sa) := by
    decide +kernel
  have unforged : Machine.Sourced (takes Ryke.toy) (gives Ryke.toy) ((List.range 11).map Toy.eapTurn) := by
    decide +kernel
  have noCollision : Ryke.toy.NoCollision (((List.range 11).map Toy.eapTurn).flatMap (queries Ryke.toy) ++
      scheduleQueries Ryke.toy Toy.initiatorSecret Toy.saInitAnswer.1 Toy.eapParties.client.sa ++
      scheduleQueries Ryke.toy Toy.responderSecret Toy.saInitRequest Toy.eapParties.responder.sa) := by
    unfold Primitives.NoCollision
    decide +kernel
  have clientDone : ClientDone (Toy.eapTurn 10) := ⟨⟨_, _, rfl⟩, by decide +kernel⟩
  have bound := eap_binds_saInit Ryke.toy Toy.initiatorSecret Toy.responderSecret defaultOffer
    (by decide) (by decide) (by decide) Toy.saInitAnswer.1 Toy.saInitAnswer.1 Toy.saInitRequest Toy.eapParties completed
    (.inl answered) inputs
  rw [made] at bound
  obtain ⟨-, -, suite, keys, -⟩ := bound unforged (Ryke.Toy.toy_gcmIdeal _) noCollision 10 (Toy.eapTurn 10) rfl clientDone
  exact ⟨clientDone, suite, keys⟩

end EapParties

end Ryke.Ikev2
