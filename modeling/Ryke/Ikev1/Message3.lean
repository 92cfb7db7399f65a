import Ryke.Ikev1.ServerRuns

/-! Message 3 of Aggressive Mode at the server. The Phase-1 state reads HASH_I in the clear
or encrypted, but the server tells message 3 from message 1 by walking the payloads of the
datagram as if it always came in the clear, and only hands on what that walk takes for a
message 3. -/

namespace Ryke.Ikev1
open Lib

namespace Server

variable {ε : Type}

/-- Walked as if it came in the clear, the datagram is a chain without an SA payload, and
one with a HASH payload if it is encrypted. -/
def takenForMessage3 (hdr : IsakmpHeader) (data : Bytes) : Bool :=
  (parsePayloads hdr.nextPayload (data.drop IsakmpHeader.len)).toOption.any fun ps =>
    !has ps payload.sa && (has ps payload.hash || !hdr.encrypted)

theorem has_of_find {ps : List Payload} {payloadType : UInt8} {p : Payload} (found : find ps payloadType = some p) :
    has ps payloadType = true := by
  unfold find at found
  have kind := List.find?_some found
  exact List.any_eq_true.mpr ⟨p, List.mem_of_find?_eq_some found, kind⟩

theorem chain_of_verifyHashI {P : Primitives} {st : Phase1State} {hdr : IsakmpHeader} {data : Bytes}
    (parsed : IsakmpHeader.parse data = .ok hdr) (clear : ¬ hdr.encrypted = true)
    (verifies : (st.verifyHashI P data).isOk = true) :
    ∃ ps, parsePayloads hdr.nextPayload (data.drop IsakmpHeader.len) = .ok ps ∧ has ps payload.hash = true := by
  obtain ⟨⟨⟩, verified⟩ := exists_of_isOk verifies
  rw [Phase1State.verifyHashI, parsed, ok_bind] at verified
  dsimp only at verified
  rw [if_neg clear, ok_bind] at verified
  obtain ⟨ps, chain, verified⟩ := bind_eq_ok verified
  obtain ⟨hashP, found, -⟩ := bind_eq_ok verified
  exact ⟨ps, chain, has_of_find (okOr_eq_ok found)⟩

/-- What verifies is taken for a message 3 exactly when the walk finds a HASH and no SA. -/
theorem takenForMessage3_iff {P : Primitives} {st : Phase1State} {hdr : IsakmpHeader} {data : Bytes}
    (parsed : IsakmpHeader.parse data = .ok hdr) (verifies : (st.verifyHashI P data).isOk = true) :
    takenForMessage3 hdr data = true ↔ ∃ ps, parsePayloads hdr.nextPayload (data.drop IsakmpHeader.len) = .ok ps ∧
      ¬ has ps payload.sa = true ∧ has ps payload.hash = true := by
  constructor
  · intro taken
    obtain ⟨ps, chain, kinds⟩ := exists_of_any taken
    obtain ⟨noSa, proof⟩ := Bool.and_eq_true_iff.mp kinds
    have without : ¬ has ps payload.sa = true := by
      rw [(Bool.not_eq_true' _).mp noSa]
      exact Bool.false_ne_true
    refine ⟨ps, chain, without, ?_⟩
    rcases Bool.or_eq_true_iff.mp proof with hash | clear
    · exact hash
    · have isClear : ¬ hdr.encrypted = true := by
        rw [(Bool.not_eq_true' _).mp clear]
        exact Bool.false_ne_true
      obtain ⟨walked, sameChain, hash⟩ := chain_of_verifyHashI parsed isClear verifies
      have same : ps = walked := Except.ok.inj (chain.symm.trans sameChain)
      rw [same]
      exact hash
  · rintro ⟨ps, chain, noSa, hash⟩
    rw [takenForMessage3, chain]
    change (!has ps payload.sa && (has ps payload.hash || !hdr.encrypted)) = true
    rw [eq_false_of_ne_true noSa, hash]
    rfl

theorem handleOne_established_iff [Entropy ε] (P : Primitives) (self : Server ε)
    (received : Option (Bytes × SocketAddr)) (sendOk : Bool) :
    (self.handleOne P received sendOk).event = .ok .phase1Established ↔
      (self.verifiesHashI P received).isSome = true := by
  constructor
  · intro established
    cases handleOne_step P self received sendOk with
    | quiet _ _ idle =>
      rcases idle with ignored | ⟨error, failed⟩
      · rw [ignored] at established; cases established
      · rw [failed] at established; cases established
    | offered _ _ _ _ event => rw [event] at established; cases established
    | verified _ _ verifies _ _ _ => rw [verifies]; rfl
    | started _ _ _ _ _ _ _ _ _ _ _ _ event => rw [event] at established; cases established
    | dropped _ _ _ _ _ _ _ _ _ event =>
      obtain ⟨error, failed⟩ := event
      rw [failed] at established
      cases established
    | completed _ _ _ _ _ _ _ _ _ _ event => rw [event] at established; cases established
  · intro verifies
    obtain ⟨pair, verifies⟩ := Option.isSome_iff_exists.mp verifies
    exact handleOne_verifies verifies sendOk

theorem verifiesHashI_isSome_iff {P : Primitives} {self : Server ε} {received : Option (Bytes × SocketAddr)}
    {hdr : IsakmpHeader} {data : Bytes} {st : Phase1State}
    (found : headed exchange.aggressive received = some (hdr, data)) (stored : self.phase1 hdr.initCookie = some st)
    (verifies : (st.verifyHashI P data).isOk = true) :
    (self.verifiesHashI P received).isSome = true ↔ takenForMessage3 hdr data = true := by
  obtain ⟨sender, -, parsed, -⟩ := headed_eq_some found
  rw [takenForMessage3_iff parsed verifies, verifiesHashI, found]
  simp only [Option.bind_eq_bind, Option.bind_some, stored]
  cases chain : parsePayloads hdr.nextPayload (data.drop IsakmpHeader.len) with
  | error error =>
    constructor
    · intro none
      cases none
    · rintro ⟨ps, walked, -⟩
      cases walked
  | ok ps =>
    simp only [Except.toOption, Option.bind_some]
    split
    next kinds =>
      constructor
      · intro _
        exact ⟨ps, rfl, kinds.1, kinds.2.1⟩
      · intro _
        rfl
    next others =>
      constructor
      · intro none
        cases none
      · rintro ⟨walked, same, noSa, hash⟩
        cases same
        exact absurd ⟨noSa, hash, verifies⟩ others

/-- In every run, an Aggressive-Mode datagram that verifies under the state stored for its
cookie is answered as message 3 exactly when its bytes are taken for one. -/
theorem established_iff_takenForMessage3 [Entropy ε] (P : Primitives) (entropy : ε) (cfg : Phase1Config)
    (actions : List Action) (call : Call (Server ε) Action Answer)
    (isCall : call ∈ (machine P).calls (bind entropy cfg) actions) (hdr : IsakmpHeader) (data : Bytes)
    (found : headed exchange.aggressive call.input.received = some (hdr, data)) (st : Phase1State)
    (stored : call.before.phase1 hdr.initCookie = some st) (verifies : (st.verifyHashI P data).isOk = true) :
    call.output = some (.ok .phase1Established) ↔ takenForMessage3 hdr data = true := by
  obtain ⟨past, action, rfl⟩ := Machine.mem_calls isCall
  rw [← verifiesHashI_isSome_iff found stored verifies]
  cases action with
  | takeChild ckyI => cases found
  | receive received sendOk =>
    have handled := handleOne_established_iff P ((machine P).final (bind entropy cfg) past) received sendOk
    exact Iff.trans ⟨Option.some.inj, congrArg some⟩ handled

end Server

namespace Toy
open Ryke.Toy

/-- The same primitives with a cipher that complements every byte. -/
def toyFlip : Primitives :=
  { toy with
    cbcEncrypt := fun _ _ text => text.map (255 - ·)
    cbcDecrypt := fun _ _ text => text.map (255 - ·)
    cbcEncrypt_length := fun _ _ _ => List.length_map _
    cbcDecrypt_length := fun _ _ _ => List.length_map _ }

theorem toyFlip_cbcCorrect : toyFlip.CbcCorrect := by
  intro key iv text _ _ _
  have twice : ∀ byte : UInt8, 255 - (255 - byte) = byte := by
    intro byte
    grind
  change (text.map (255 - ·)).map (255 - ·) = text
  rw [List.map_map]
  exact (List.map_congr_left fun byte _ => twice byte).trans (List.map_id' text)

def hiddenProof (P : Primitives) : Bytes :=
  ((agreed.toOption.bind fun done =>
    (encryptPayloads P (aggressiveHeader done.2.ckyI done.2.ckyR) done.2.encKey done.2.phase1Iv
      [(payload.hash, hashI P done.2.prf done.2.skeyid done.2.gxi done.2.gxr done.2.ckyI done.2.ckyR
        done.2.saiB done.2.idiiB)]).toOption).map Prod.fst).getD []

def halfOpen (P : Primitives) : Server Counter := (Server.machine P).final start [deliver offer.1]

def verified (P : Primitives) (message : Bytes) : Option (IsakmpHeader × Bytes × Phase1State) := do
  let (hdr, data) ← Server.headed exchange.aggressive (deliver message).received
  let st ← (halfOpen P).phase1 hdr.initCookie
  if (st.verifyHashI P data).isOk then some (hdr, data, st) else none

theorem verified_eq_some {P : Primitives} {message : Bytes} {hdr : IsakmpHeader} {data : Bytes} {st : Phase1State}
    (known : verified P message = some (hdr, data, st)) :
    Server.headed exchange.aggressive (deliver message).received = some (hdr, data) ∧
      (halfOpen P).phase1 hdr.initCookie = some st ∧ (st.verifyHashI P data).isOk = true := by
  unfold verified at known
  obtain ⟨⟨header, bytes⟩, found, known⟩ := Option.bind_eq_some_iff.mp known
  obtain ⟨state, stored, known⟩ := Option.bind_eq_some_iff.mp known
  split at known
  next verifies =>
    cases known
    exact ⟨found, stored, verifies⟩
  next => cases known

end Toy

namespace Server
open Ryke.Toy

theorem mem_calls_halfOpen (P : Primitives) (message : Bytes) :
    (machine P).call (Toy.halfOpen P) (Toy.deliver message) ∈
      (machine P).calls Toy.start [Toy.deliver Toy.offer.1, Toy.deliver message] :=
  List.mem_cons_of_mem _ List.mem_cons_self

/-- In the clear, and encrypted with a cipher whose output reads as the chain that went in. -/
theorem established_iff_takenForMessage3_both :
    ((machine toy).call (Toy.halfOpen toy) (Toy.deliver Toy.proof)).output = some (.ok .phase1Established) ∧
      ((machine toy).call (Toy.halfOpen toy) (Toy.deliver (Toy.hiddenProof toy))).output =
        some (.ok .phase1Established) := by
  have answered : ∀ message, (Toy.verified toy message).any (fun known => takenForMessage3 known.1 known.2.1) = true →
      ((machine toy).call (Toy.halfOpen toy) (Toy.deliver message)).output = some (.ok .phase1Established) := by
    intro message run
    obtain ⟨⟨hdr, data, st⟩, known, taken⟩ := (Option.any_eq_true _ _).mp run
    obtain ⟨found, stored, verifies⟩ := Toy.verified_eq_some known
    have criterion := established_iff_takenForMessage3 toy (⟨10⟩ : Counter) ⟨[112], Toy.ourId⟩ _ _
      (mem_calls_halfOpen toy message)
    dsimp only [Machine.call] at criterion
    exact (criterion hdr data found st stored verifies).mpr taken
  exact ⟨answered _ (by decide +kernel), answered _ (by decide +kernel)⟩

example : ((Toy.verified toy (Toy.hiddenProof toy)).map fun known => known.1.encrypted) = some true := by
  decide +kernel

/-- The same message 3 encrypted verifies too, and is refused as a broken chain. -/
theorem not_established_encrypted : Toy.toyFlip.CbcCorrect ∧ ¬ ∀ call ∈ (machine Toy.toyFlip).calls Toy.start
    [Toy.deliver Toy.offer.1, Toy.deliver (Toy.hiddenProof Toy.toyFlip)], ∀ hdr data st,
    headed exchange.aggressive call.input.received = some (hdr, data) →
    call.before.phase1 hdr.initCookie = some st → (st.verifyHashI Toy.toyFlip data).isOk = true →
    call.output = some (.ok .phase1Established) := by
  refine ⟨Toy.toyFlip_cbcCorrect, fun accepted => ?_⟩
  have run : (Toy.verified Toy.toyFlip (Toy.hiddenProof Toy.toyFlip)).isSome = true := by decide +kernel
  have answer : ((machine Toy.toyFlip).call (Toy.halfOpen Toy.toyFlip) (Toy.deliver (Toy.hiddenProof Toy.toyFlip))).output =
      some (.error (.ike (.badLength 65499 48))) := by
    decide +kernel
  obtain ⟨⟨hdr, data, st⟩, known⟩ := Option.isSome_iff_exists.mp run
  obtain ⟨found, stored, verifies⟩ := Toy.verified_eq_some known
  have last := accepted _ (mem_calls_halfOpen Toy.toyFlip (Toy.hiddenProof Toy.toyFlip)) hdr data st
  rw [answer] at last
  dsimp only [Machine.call] at last
  cases last found stored verifies

end Server

end Ryke.Ikev1
