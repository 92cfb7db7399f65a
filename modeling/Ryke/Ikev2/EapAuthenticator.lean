import Ryke.Ikev2.EapClientRuns

/-! Whether the EAP client has the authenticator's proof before it uses the MSK. It answers a
Success request without a look at its text, and sends its AUTH on the Success packet alone. -/

namespace Ryke.Ikev2
open Lib Crypto

namespace EapInitiator

section
variable {ε : Type} [Entropy ε] (P : Primitives)

/-- The call sends the AUTH that is keyed by the MSK in the state. -/
def EmitsAuth (call : Call EapInitiator (Bytes × ε) (Result EapEvent)) : Prop :=
  ∃ msgId iv message, replyOf call.output = some message ∧
    buildSk P call.before.sa msgId false [(.authentication, (call.before.mskAuth P).toBytes)] iv = .ok message

/-- The `i`-th call answers this challenge with this peer challenge. -/
def AnsweredAt (calls : List (Call EapInitiator (Bytes × ε) (Result EapEvent))) (i : Nat)
    (authChallenge peerChallenge : Bytes) : Prop :=
  ∃ call, calls[i]? = some call ∧ challengeOf P call.before call.input.1 = some authChallenge ∧
    (Entropy.fill call.input.2 16).1 = peerChallenge ∧ isReply call.output = true

def ProvedAt (calls : List (Call EapInitiator (Bytes × ε) (Result EapEvent))) (j : Nat) (text : Bytes) : Prop :=
  ∃ call, calls[j]? = some call ∧ successTextOf P call.before call.input.1 = some text

/-- The text that proves the authenticator to the client. -/
def proofText (self : EapInitiator) (authChallenge peerChallenge : Bytes) : Bytes :=
  mschapv2.generateAuthenticatorResponse P self.password (self.ntResponseTo P authChallenge peerChallenge)
    peerChallenge authChallenge self.user

/-- Before the `k`-th call a challenge was answered, with the NT-Response of the state, and
then came a Success request with the text that proves the authenticator. -/
def Checked (calls : List (Call EapInitiator (Bytes × ε) (Result EapEvent))) (k : Nat) (self : EapInitiator) : Prop :=
  ∃ i j authChallenge peerChallenge, i < j ∧ j < k ∧ AnsweredAt P calls i authChallenge peerChallenge ∧
    self.ntResponse = self.ntResponseTo P authChallenge peerChallenge ∧
    ProvedAt P calls j (mschapv2.generateAuthenticatorResponse P self.password self.ntResponse peerChallenge
      authChallenge self.user)

/-- The MSK is used only after the authenticator has been checked. -/
def ChecksAuthenticator (calls : List (Call EapInitiator (Bytes × ε) (Result EapEvent))) : Prop :=
  ∀ (k : Nat) call, calls[k]? = some call → EmitsAuth P call → Checked P calls k call.before

/-! ## How far the server has come -/

/-- By the packets so far: nothing answered, a challenge answered, or its answer acknowledged
with the right text. -/
inductive Progress where
  | nothing
  | answered (authChallenge peerChallenge : Bytes)
  | proved (authChallenge peerChallenge : Bytes)
  deriving DecidableEq

/-- The Response to the MSCHAPv2 Challenge in a message can be sealed, with the randomness that
its call draws. -/
def sealsResponse (self : EapInitiator) (input : Bytes × ε) : Bool :=
  match packetOf P self input.1 with
  | none => false
  | some (msgId, packet) =>
      match eap.parseChallenge packet.data with
      | .error _ => false
      | .ok (mschapId, authChallenge, _) =>
          let (peerChallenge, entropy) := Entropy.fill input.2 16
          let response : EapPacket := ⟨eap.code.response, packet.identifier,
            eap.buildResponse P mschapId authChallenge peerChallenge self.user self.password⟩
          (buildSk P self.sa (msgId + 1) false [(.eap, response.toBytes)] (Iv.draw entropy).1).isOk

def Progress.acknowledge (self : EapInitiator) (text : Option Bytes) : Progress → Progress
  | .nothing => .nothing
  | .answered authChallenge peerChallenge =>
      if text = some (self.proofText P authChallenge peerChallenge) then .proved authChallenge peerChallenge
      else .answered authChallenge peerChallenge
  | .proved authChallenge peerChallenge => .proved authChallenge peerChallenge

def Progress.next (progress : Progress) (call : Call EapInitiator (Bytes × ε) (Result EapEvent)) : Progress :=
  match challengeOf P call.before call.input.1 with
  | some authChallenge =>
      if sealsResponse P call.before call.input then .answered authChallenge (Entropy.fill call.input.2 16).1
      else .nothing
  | none => progress.acknowledge P call.before (successTextOf P call.before call.input.1)

def progressAfter (past : List (Call EapInitiator (Bytes × ε) (Result EapEvent))) : Progress :=
  past.foldl (Progress.next P) .nothing

def Progress.isProved : Progress → Bool
  | .proved _ _ => true
  | _ => false

/-- The message is an EAP-Success packet that the client acts on. -/
def isSuccess (self : EapInitiator) (message : Bytes) : Bool :=
  match packetOf P self message with
  | some (_, packet) => packet.code == eap.code.success
  | none => false

def SuccessBehindProof (calls : List (Call EapInitiator (Bytes × ε) (Result EapEvent))) : Prop :=
  ∀ k (inside : k < calls.length), isSuccess P calls[k].before calls[k].input.1 = true →
    (progressAfter P (calls.take k)).isProved = true

end

/-! ## What the progress says -/

section
variable {ε : Type} [Entropy ε] {P : Primitives}

/-- An AUTH goes out on a Success packet only: an EAP response begins with another payload. -/
theorem isSuccess_of_emitsAuth {self : EapInitiator} {input : Bytes × ε}
    (emits : EmitsAuth P ((machine P).call self input)) : isSuccess P self input.1 = true := by
  obtain ⟨msgId, iv, message, sent, built⟩ := emits
  obtain ⟨msgId', packet, carried, -, inner, iv', sends, built'⟩ := handle_sends P self input.1 input.2 sent
  cases sends with
  | auth code =>
    rw [isSuccess, carried]
    exact beq_iff_eq.mpr code
  | response notSuccess body =>
    have kinds := (buildSk_fields built).2.symm.trans (buildSk_fields built').2
    have differs : PayloadType.authentication.toU8 ≠ PayloadType.eap.toU8 := by decide
    exact absurd kinds differs

theorem isReply_of_sealsResponse {self : EapInitiator} {input : Bytes × ε} {authChallenge : Bytes}
    (asked : challengeOf P self input.1 = some authChallenge) (seals : sealsResponse P self input = true) :
    isReply (self.handle P input.1 input.2).1 = true := by
  rcases handle_packetOf P self input.1 input.2 with ⟨verified, msgId, packet, carried, handled⟩ | ⟨noPacket, -, -⟩
  · rw [challengeOf, carried] at asked
    change packet.challenge = _ at asked
    rw [EapPacket.challenge] at asked
    split at asked
    next isChallenge =>
      obtain ⟨⟨notFailure, notSuccess⟩, kind, op⟩ := isChallenge
      have notIdentity : packet.eapType ≠ some eap.eap_type.identity := by
        rw [kind]
        decide
      rw [sealsResponse, carried] at seals
      dsimp only at seals
      cases parsed : eap.parseChallenge packet.data with
      | error =>
        rw [parsed] at seals
        cases seals
      | ok parts =>
        rw [parsed] at seals
        obtain ⟨message, built⟩ := exists_of_isOk seals
        rw [handled, answer, if_neg notFailure, if_neg notSuccess, if_neg notIdentity, if_pos ⟨kind, op⟩, parsed]
        change isReply ((buildSk P self.sa _ false _ _).map EapEvent.reply) = true
        exact (congrArg (fun result => isReply (Except.map EapEvent.reply result)) built).trans rfl
    next => cases asked
  · rw [challengeOf, noPacket] at asked
    cases asked

/-- The calls so far bear the progress out, and so does the state. -/
def Supports (P : Primitives) (past : List (Call EapInitiator (Bytes × ε) (Result EapEvent))) (state : EapInitiator) :
    Progress → Prop
  | .nothing => True
  | .answered authChallenge peerChallenge =>
      state.ntResponse = state.ntResponseTo P authChallenge peerChallenge ∧
        ∃ i < past.length, AnsweredAt P past i authChallenge peerChallenge
  | .proved authChallenge peerChallenge =>
      state.ntResponse = state.ntResponseTo P authChallenge peerChallenge ∧
        ∃ i j, i < j ∧ j < past.length ∧ AnsweredAt P past i authChallenge peerChallenge ∧
          ProvedAt P past j (state.proofText P authChallenge peerChallenge)

theorem AnsweredAt.append {calls : List (Call EapInitiator (Bytes × ε) (Result EapEvent))} {i : Nat}
    {authChallenge peerChallenge : Bytes} (answered : AnsweredAt P calls i authChallenge peerChallenge)
    (more : List (Call EapInitiator (Bytes × ε) (Result EapEvent))) :
    AnsweredAt P (calls ++ more) i authChallenge peerChallenge := by
  obtain ⟨call, isCall, rest⟩ := answered
  exact ⟨call, Machine.getElem?_append_of_some isCall more, rest⟩

omit [Entropy ε] in
theorem ProvedAt.append {calls : List (Call EapInitiator (Bytes × ε) (Result EapEvent))} {j : Nat} {text : Bytes}
    (proved : ProvedAt P calls j text) (more : List (Call EapInitiator (Bytes × ε) (Result EapEvent))) :
    ProvedAt P (calls ++ more) j text := by
  obtain ⟨call, isCall, rest⟩ := proved
  exact ⟨call, Machine.getElem?_append_of_some isCall more, rest⟩

theorem Leaves.ntResponseTo {before after : EapInitiator} {input : Bytes × ε} (leaves : Leaves P before input after)
    (authChallenge peerChallenge : Bytes) :
    after.ntResponseTo P authChallenge peerChallenge = before.ntResponseTo P authChallenge peerChallenge := by
  rw [EapInitiator.ntResponseTo, EapInitiator.ntResponseTo, leaves.user, leaves.password]

theorem Leaves.proofText {before after : EapInitiator} {input : Bytes × ε} (leaves : Leaves P before input after)
    (authChallenge peerChallenge : Bytes) :
    after.proofText P authChallenge peerChallenge = before.proofText P authChallenge peerChallenge := by
  rw [EapInitiator.proofText, EapInitiator.proofText, leaves.ntResponseTo, leaves.user, leaves.password]

theorem Supports.step {past : List (Call EapInitiator (Bytes × ε) (Result EapEvent))} {state : EapInitiator}
    {progress : Progress} (supports : Supports P past state progress) (input : Bytes × ε) :
    Supports P (past ++ [(machine P).call state input]) (machine P state input).2
      (progress.next P ((machine P).call state input)) := by
  have leaves : Leaves P state input (machine P state input).2 := handle_leaves P state input
  have size : (past ++ [(machine P).call state input]).length = past.length + 1 := by
    rw [List.length_append, List.length_singleton]
  have here : (past ++ [(machine P).call state input])[past.length]? = some ((machine P).call state input) :=
    List.getElem?_concat_length
  have nt := leaves.ntResponse
  have value : progress.next P ((machine P).call state input) =
      match challengeOf P state input.1 with
      | some authChallenge =>
          if sealsResponse P state input then .answered authChallenge (Entropy.fill input.2 16).1 else .nothing
      | none => progress.acknowledge P state (successTextOf P state input.1) := rfl
  rw [value]
  cases asked : challengeOf P state input.1 with
  | some authChallenge =>
    rw [asked] at nt
    dsimp only at nt ⊢
    cases seals : sealsResponse P state input with
    | false => exact trivial
    | true =>
      refine ⟨by rw [nt, leaves.ntResponseTo], past.length, by omega, ?_⟩
      exact ⟨_, here, asked, rfl, isReply_of_sealsResponse asked seals⟩
  | none =>
    rw [asked] at nt
    dsimp only at nt ⊢
    cases progress with
    | nothing => exact trivial
    | answered authChallenge peerChallenge =>
      obtain ⟨own, i, inside, answered⟩ := supports
      unfold Progress.acknowledge
      dsimp only
      split
      next text =>
        refine ⟨by rw [nt, leaves.ntResponseTo, own], i, past.length, inside, by omega, answered.append _, ?_⟩
        rw [leaves.proofText]
        exact ⟨_, here, text⟩
      next => exact ⟨by rw [nt, leaves.ntResponseTo, own], i, by omega, answered.append _⟩
    | proved authChallenge peerChallenge =>
      obtain ⟨own, i, j, before, inside, answered, proved⟩ := supports
      refine ⟨by rw [nt, leaves.ntResponseTo, own], i, j, before, by omega, answered.append _, ?_⟩
      rw [leaves.proofText]
      exact proved.append _

/-- In every run whose Success packets come behind the proof, the MSK is used only after the
authenticator has been checked. -/
theorem checksAuthenticator_of_successBehindProof (P : Primitives) (self : EapInitiator) (inputs : List (Bytes × ε))
    (ordered : SuccessBehindProof P ((machine P).calls self inputs)) :
    ChecksAuthenticator P ((machine P).calls self inputs) := by
  intro k call isCall emits
  obtain ⟨inside, atK⟩ := List.getElem?_eq_some_iff.mp isCall
  obtain ⟨input, rfl⟩ := Machine.calls_getElem? isCall
  have supported := Machine.history (machine P) self (fun past state => Supports P past state (progressAfter P past))
    trivial (fun past state input supports => by
      rw [progressAfter, List.foldl_append]
      exact supports.step input) (inputs.take k)
  rw [← Machine.calls_take] at supported
  have reached := ordered k inside (by rw [atK]; exact isSuccess_of_emitsAuth emits)
  cases progress : progressAfter P (((machine P).calls self inputs).take k) with
  | nothing =>
    rw [progress] at reached
    cases reached
  | answered authChallenge peerChallenge =>
    rw [progress] at reached
    cases reached
  | proved authChallenge peerChallenge =>
    rw [progress] at supported
    obtain ⟨own, i, j, before, inside', answered, proved⟩ := supported
    have whole := List.take_append_drop k ((machine P).calls self inputs)
    have later : j < k := inside'.trans_le (List.length_take_le k _)
    have answered' := answered.append (((machine P).calls self inputs).drop k)
    have proved' := proved.append (((machine P).calls self inputs).drop k)
    rw [whole] at answered' proved'
    refine ⟨i, j, authChallenge, peerChallenge, before, later, answered', own, ?_⟩
    rw [proofText, ← own] at proved'
    exact proved'

end

end EapInitiator

namespace Toy
open Ryke.Toy

def bareSuccess : Bytes × Counter :=
  ((buildSk toyMac respSa 1 true [(.eap, (EapPacket.mk eap.code.success 1 []).toBytes)] (.ofU64 7)).toOption.getD [], ⟨3⟩)

end Toy

namespace EapInitiator

theorem checksAuthenticator_of_successBehindProof_honest :
    SuccessBehindProof toy ((machine toy).calls Toy.eapClient Toy.honestAnswers) ∧
      (((machine toy).calls Toy.eapClient Toy.honestAnswers).map fun call =>
        isSuccess toy call.before call.input.1) = [false, false, false, true] ∧
      ChecksAuthenticator toy ((machine toy).calls Toy.eapClient Toy.honestAnswers) := by
  have ordered : SuccessBehindProof toy ((machine toy).calls Toy.eapClient Toy.honestAnswers) := by
    unfold SuccessBehindProof
    decide +kernel
  have lastOnly : (((machine toy).calls Toy.eapClient Toy.honestAnswers).map fun call =>
      isSuccess toy call.before call.input.1) = [false, false, false, true] := by
    decide +kernel
  exact ⟨ordered, lastOnly, checksAuthenticator_of_successBehindProof toy Toy.eapClient Toy.honestAnswers ordered⟩

/-- A fresh client that is fed nothing but a Success packet sends its AUTH. -/
theorem not_checksAuthenticator_bare_success :
    ¬ ChecksAuthenticator Ryke.Toy.toyMac ((machine Ryke.Toy.toyMac).calls Toy.trustingClient [Toy.bareSuccess]) := by
  intro checks
  have emits : EmitsAuth Ryke.Toy.toyMac ((machine Ryke.Toy.toyMac).call Toy.trustingClient Toy.bareSuccess) := by
    have sent : (replyOf ((machine Ryke.Toy.toyMac).call Toy.trustingClient Toy.bareSuccess).output).map Except.ok =
        some (buildSk Ryke.Toy.toyMac Toy.trustingClient.sa 2 false
          [(.authentication, (Toy.trustingClient.mskAuth Ryke.Toy.toyMac).toBytes)]
          (Iv.draw (⟨3⟩ : Ryke.Toy.Counter)).1) := by
      decide +kernel
    obtain ⟨message, replied, built⟩ := Option.map_eq_some_iff.mp sent
    exact ⟨_, _, message, replied, built.symm⟩
  obtain ⟨i, j, -, -, -, never, -⟩ := checks 0 _ rfl emits
  exact absurd never (Nat.not_lt_zero j)

end EapInitiator

end Ryke.Ikev2
