import Ryke.Ikev2.EapRuns

/-! Whether an EAP exchange stays ended. The responder keeps no flag for it: after it has
said Established or Failed it still compares the AUTH of every last message with the
MSK in its state, and answers the ones that agree. -/

namespace Ryke.Ikev2
open Lib Crypto

namespace EapResponder

def Ended (event : Result EapEvent) : Prop := isEstablished event = true ∨ event = .ok .failed

instance (event : Result EapEvent) : Decidable (Ended event) := inferInstanceAs (Decidable (_ ∨ _))

/-- Established comes at most once, and never after Failed. -/
def Terminal {ε : Type} (calls : List (Call EapResponder (Bytes × ε) (Result EapEvent))) : Prop :=
  ∀ (j k : Nat) earlier later, j < k → calls[j]? = some earlier → calls[k]? = some later → Ended earlier.output →
    ¬ Established later.output

/-! ## What the messages select -/

/-- The user, password and challenge of the last Identity response that names a user, the
NT-Response expected at the last Response, and the IDi of the last opening. -/
structure Selected where
  user : Bytes
  password : Text
  authChallenge : Bytes
  ntResponse : Bytes
  peerIdi : Bytes
  deriving DecidableEq

def selected (self : EapResponder) : Selected :=
  ⟨self.user, self.password, self.authChallenge, self.ntResponse, self.peerIdi⟩

/-- The SA payload and the identity of a message that opens the exchange: it has neither
EAP nor AUTH. -/
def openingOf (P : Primitives) (sa : CompletedSaInit) (message : Bytes) : Option (Bytes × Bytes) := do
  let (_, ps) ← (decrypt P sa message).toOption
  if find ps .eap = none ∧ find ps .authentication = none then
    let sai2 ← find ps .securityAssociation
    some (sai2, (find ps .idInitiator).getD [])
  else none

/-- A message with neither EAP nor AUTH nor SA. -/
def isStray (P : Primitives) (sa : CompletedSaInit) (message : Bytes) : Bool :=
  match decrypt P sa message with
  | .error _ => false
  | .ok (_, ps) =>
      (find ps .eap).isNone && (find ps .authentication).isNone && (find ps .securityAssociation).isNone

def finalAuthOf (P : Primitives) (sa : CompletedSaInit) (message : Bytes) : Option Authentication := do
  let (_, ps) ← (decrypt P sa message).toOption
  if (find ps .eap).isNone then (find ps .authentication).bind fun bytes => (Authentication.parse bytes).toOption
  else none

namespace Selected

def expected (P : Primitives) (selected : Selected) (resp : eap.Response) : Bytes :=
  mschapv2.generateNtResponse P selected.authChallenge resp.peerChallenge selected.user selected.password

/-- What one message selects, with the randomness that its call draws. -/
def next {ε : Type} [Entropy ε] (P : Primitives) (sa : CompletedSaInit) (users : Table Bytes Text)
    (selected : Selected) (input : Bytes × ε) : Selected :=
  match openingOf P sa input.1, identityOf P sa input.1, responseOf P sa input.1 with
  | some (_, idi), _, _ => { selected with peerIdi := idi }
  | none, some name, _ =>
      match users.get name with
      | some password =>
          { selected with user := name, password := password, authChallenge := (Entropy.fill input.2 16).1 }
      | none => selected
  | none, none, some resp => { selected with ntResponse := selected.expected P resp }
  | none, none, none => selected

/-- The message has the initiator's AUTH over the selected IDi, keyed by the MSK of the selected
password and NT-Response. -/
def keys (P : Primitives) (sa : CompletedSaInit) (selected : Selected) (message : Bytes) : Bool :=
  (finalAuthOf P sa message).map Authentication.data ==
    some (pskAuth P (mschapv2.deriveMsk P selected.password selected.ntResponse)
      (initiatorSignedOctets P sa.initMessage sa.nr sa.keys.skPi selected.peerIdi))

/-- An EAP packet that has to fail: an unknown user, a wrong NT-Response, or none of the
packets of the exchange. -/
def refuses (P : Primitives) (users : Table Bytes Text) (selected : Selected) (packet : EapPacket) : Bool :=
  if packet.eapType = some eap.eap_type.identity then (users.get (packet.data.drop 1)).isNone
  else if packet.eapType = some eap.eap_type.mschapv2 ∧ packet.data[1]? = some eap.op.response then
    match eap.parseResponse packet.data with
    | .error _ => false
    | .ok resp => selected.expected P resp != resp.ntResponse
  else !decide (packet.eapType = some eap.eap_type.mschapv2 ∧ packet.data[1]? = some eap.op.success)

/-- The message ends the exchange, one way or the other. -/
def ends (P : Primitives) (sa : CompletedSaInit) (users : Table Bytes Text) (selected : Selected) (message : Bytes) :
    Bool :=
  (finalAuthOf P sa message).isSome || isStray P sa message ||
    match eapOf P sa message with
    | some packet => selected.refuses P users packet
    | none => false

end Selected

def selectedAfter {ε : Type} [Entropy ε] (P : Primitives) (self : EapResponder) (inputs : List (Bytes × ε)) : Selected :=
  inputs.foldl (Selected.next P self.sa self.users) self.selected

/-- No last message that is keyed by what the messages before it select is fed after an end. -/
def NoneKeyedAfterEnd {ε : Type} [Entropy ε] (P : Primitives) (self : EapResponder) (inputs : List (Bytes × ε)) : Prop :=
  ∀ k < inputs.length, ∀ j < k, ∀ later ∈ inputs[k]?, ∀ earlier ∈ inputs[j]?,
    (selectedAfter P self (inputs.take j)).ends P self.sa self.users earlier.1 = true →
      ¬ (selectedAfter P self (inputs.take k)).keys P self.sa later.1 = true

/-- Every answer to a last message can be sealed. -/
def Sealable (P : Primitives) (self : EapResponder) : Prop :=
  ∀ password ntResponse msgId iv, (buildSk P self.sa msgId true
    ({ self with password := password, ntResponse := ntResponse }.lastPayloads P) iv).isOk = true

section Opened

variable {P : Primitives} {sa : CompletedSaInit} {message : Bytes} {msgId : UInt32} {ps : List Payload}

theorem openingOf_eq (opened : decrypt P sa message = .ok (msgId, ps)) :
    openingOf P sa message =
      if find ps .eap = none ∧ find ps .authentication = none then
        (find ps .securityAssociation).map fun sai2 => (sai2, (find ps .idInitiator).getD [])
      else none := by
  rw [openingOf, opened]
  change (if find ps .eap = none ∧ find ps .authentication = none then
    (find ps .securityAssociation).bind fun sai2 => some (sai2, (find ps .idInitiator).getD []) else none) = _
  rw [Option.map_eq_bind]
  rfl

theorem finalAuthOf_eq (opened : decrypt P sa message = .ok (msgId, ps)) :
    finalAuthOf P sa message = if (find ps .eap).isNone then
      (find ps .authentication).bind fun bytes => (Authentication.parse bytes).toOption else none := by
  rw [finalAuthOf, opened]
  rfl

theorem identityOf_eq {packet : EapPacket} (carried : eapOf P sa message = some packet) :
    identityOf P sa message =
      if packet.eapType = some eap.eap_type.identity then some (packet.data.drop 1) else none := by
  rw [identityOf, carried]
  rfl

theorem responseOf_eq {packet : EapPacket} (carried : eapOf P sa message = some packet) :
    responseOf P sa message =
      if packet.eapType = some eap.eap_type.mschapv2 ∧ packet.data[1]? = some eap.op.response then
        (eap.parseResponse packet.data).toOption
      else none := by
  rw [responseOf, carried]
  rfl

end Opened

section Selection

variable {ε : Type} [Entropy ε] {P : Primitives}

theorem Selected.next_of_none {sa : CompletedSaInit} {users : Table Bytes Text} (selected : Selected)
    {input : Bytes × ε} (noOpening : openingOf P sa input.1 = none) (noEap : eapOf P sa input.1 = none) :
    selected.next P sa users input = selected := by
  obtain ⟨noIdentity, noResponse⟩ := no_response noEap
  rw [Selected.next, noOpening, noIdentity, noResponse]

theorem selected_startEap (self : EapResponder) {ps : List Payload} {sai2 : Bytes}
    (hasSa : find ps .securityAssociation = some sai2) (msgId : UInt32) (entropy : ε) :
    (self.startEap P msgId ps entropy).2.1.selected =
      { self.selected with peerIdi := (find ps .idInitiator).getD [] } := by
  unfold startEap
  rw [hasSa]
  dsimp only
  split
  next => rfl
  next => rfl

theorem selected_answer {self : EapResponder} {input : Bytes × ε} {packet : EapPacket}
    (noOpening : openingOf P self.sa input.1 = none) (carried : eapOf P self.sa input.1 = some packet)
    (msgId : UInt32) :
    (self.answer P msgId packet input.2).2.1.selected = self.selected.next P self.sa self.users input := by
  have identity := identityOf_eq carried
  have response := responseOf_eq carried
  rw [Selected.next, noOpening]
  unfold answer
  dsimp only
  split
  next isIdentity =>
    rw [if_pos isIdentity] at identity
    rw [identity]
    dsimp only
    split
    next unknown => rw [unknown]; rfl
    next pw known => rw [known]; rfl
  next notIdentity =>
    rw [if_neg notIdentity] at identity
    rw [identity]
    split
    next isResponse =>
      rw [if_pos isResponse] at response
      split
      next error malformed =>
        rw [response, malformed]
        rfl
      next resp parsed =>
        rw [response, parsed]
        split
        next => rfl
        next => rfl
    next notResponse =>
      rw [if_neg notResponse] at response
      rw [response]
      split
      next => rfl
      next => rfl

/-- The step lemma: a call leaves what its message selects. -/
theorem selected_handle (self : EapResponder) (input : Bytes × ε) :
    (self.handle P input.1 input.2).2.1.selected = self.selected.next P self.sa self.users input := by
  unfold handle
  split
  next error sealed =>
    symm
    apply Selected.next_of_none
    · rw [openingOf, sealed]
      rfl
    · rw [eapOf, sealed]
      rfl
  next msgId ps opened =>
    have packets := eapOf_eq opened
    have opening := openingOf_eq opened
    split
    next noEap noAuth =>
      rw [noEap, noAuth, if_pos ⟨rfl, rfl⟩] at opening
      rw [noEap] at packets
      cases hasSa : find ps .securityAssociation with
      | none =>
        rw [hasSa] at opening
        rw [Selected.next_of_none self.selected opening packets, startEap, hasSa]
      | some sai2 =>
        rw [hasSa] at opening
        rw [selected_startEap self hasSa, Selected.next, opening]
        rfl
    next authBytes noEap hasAuth =>
      rw [hasAuth, if_neg (by simp)] at opening
      rw [noEap] at packets
      exact (Selected.next_of_none self.selected opening packets).symm
    next _ eapBytes hasEap =>
      rw [hasEap, if_neg (by simp)] at opening
      rw [hasEap, Option.bind_some] at packets
      split
      next error malformed =>
        rw [malformed] at packets
        exact (Selected.next_of_none self.selected opening packets).symm
      next packet parsed =>
        rw [parsed] at packets
        exact selected_answer opening packets msgId

end Selection

/-! ## What a call tells of the message -/

structure Fixes (before after : EapResponder) : Prop where
  sa : after.sa = before.sa
  id : after.id = before.id
  users : after.users = before.users
  childSpi : after.childSpi = before.childSpi
  assigned : after.assigned = before.assigned

theorem handle_fixes {ε : Type} [Entropy ε] (P : Primitives) (self : EapResponder) (message : Bytes) (entropy : ε) :
    self.Fixes (self.handle P message entropy).2.1 := by
  unfold handle
  split
  next => exact ⟨rfl, rfl, rfl, rfl, rfl⟩
  next =>
    split
    next =>
      obtain ⟨_, _, after⟩ := startEap_after P self _ _ entropy
      rw [after]
      exact ⟨rfl, rfl, rfl, rfl, rfl⟩
    next => exact ⟨rfl, rfl, rfl, rfl, rfl⟩
    next =>
      split
      next => exact ⟨rfl, rfl, rfl, rfl, rfl⟩
      next =>
        obtain ⟨_, _, _, _, _, after⟩ := answer_after P self _ _ entropy
        rw [after]
        exact ⟨rfl, rfl, rfl, rfl, rfl⟩

theorem Fixes.trans {first second third : EapResponder} (earlier : first.Fixes second) (later : second.Fixes third) :
    first.Fixes third :=
  ⟨later.sa.trans earlier.sa, later.id.trans earlier.id, later.users.trans earlier.users,
    later.childSpi.trans earlier.childSpi, later.assigned.trans earlier.assigned⟩

/-- The last answer of a state depends on what may change by its password and NT-Response. -/
theorem Fixes.lastPayloads {before after : EapResponder} (fixes : before.Fixes after) (P : Primitives) :
    after.lastPayloads P =
      { before with password := after.password, ntResponse := after.ntResponse }.lastPayloads P := by
  simp only [EapResponder.lastPayloads, msk, fixes.sa, fixes.id, fixes.childSpi, fixes.assigned]

section Told

variable {ε : Type} [Entropy ε] {P : Primitives} {self : EapResponder} {input : Bytes × ε}

theorem keyedByMsk_eq_true_iff (authBytes : Bytes) :
    self.keyedByMsk P authBytes = true ↔
      (Authentication.parse authBytes).toOption.map Authentication.data = some (pskAuth P (self.msk P)
        (initiatorSignedOctets P self.sa.initMessage self.sa.nr self.sa.keys.skPi self.peerIdi)) := by
  unfold keyedByMsk
  cases parsed : Authentication.parse authBytes with
  | error error => constructor <;> rintro ⟨⟩
  | ok got => exact beq_iff_eq.trans Option.some_inj.symm

theorem keys_iff_takesLast (message : Bytes) :
    self.selected.keys P self.sa message = true ↔ self.takesLast P message = true := by
  cases opened : decrypt P self.sa message with
  | error error =>
    rw [Selected.keys, finalAuthOf, takesLast, opened]
    constructor <;> rintro ⟨⟩
  | ok pair =>
    obtain ⟨msgId, ps⟩ := pair
    rw [Selected.keys, beq_iff_eq, finalAuthOf_eq opened, takesLast, opened]
    dsimp only
    cases find ps .eap with
    | some eapBytes =>
      rw [if_neg (by simp)]
      constructor <;> rintro ⟨⟩
    | none =>
      rw [if_pos Option.isNone_none, Option.isNone_none, Bool.true_and]
      cases find ps .authentication with
      | none => constructor <;> rintro ⟨⟩
      | some authBytes => exact (keyedByMsk_eq_true_iff authBytes).symm

theorem keys_of_established (established : Established (self.handle P input.1 input.2).1) :
    self.selected.keys P self.sa input.1 = true :=
  (keys_iff_takesLast input.1).mpr (takesLast_of_established established)

theorem established_of_keys
    (sealable : ∀ msgId iv, (buildSk P self.sa msgId true (self.lastPayloads P) iv).isOk = true)
    (keyed : self.selected.keys P self.sa input.1 = true) : Established (self.handle P input.1 input.2).1 := by
  have taken := (keys_iff_takesLast input.1).mp keyed
  refine (isEstablished_handle P self input).trans ?_
  unfold takesLast at taken
  unfold agrees
  split at taken
  next => cases taken
  next msgId ps _ =>
    obtain ⟨noEap, hasAuth⟩ := Bool.and_eq_true_iff.mp taken
    obtain ⟨authBytes, found, agreed⟩ := (Option.any_eq_true _ _).mp hasAuth
    simp only [Option.isNone_iff_eq_none.mp noEap, found, agreed, sealable, Bool.and_self]

theorem not_failed_replyWith {sa : CompletedSaInit} {msgId : UInt32} {isResponse : Bool} {inner : List Payload}
    {event : Bytes → EapEvent} {entropy : ε} (other : ∀ message, event message ≠ .failed) :
    (replyWith P sa msgId isResponse inner event entropy).1 ≠ .ok .failed := by
  unfold replyWith
  dsimp only
  intro failed
  cases built : buildSk P sa msgId isResponse inner (Iv.draw entropy).1 with
  | error error =>
    rw [built] at failed
    cases failed
  | ok message =>
    rw [built] at failed
    exact other message (Except.ok.inj failed)

theorem answer_failed_iff (msgId : UInt32) (packet : EapPacket) (entropy : ε) :
    (self.answer P msgId packet entropy).1 = .ok .failed ↔ self.selected.refuses P self.users packet = true := by
  have replies : ∀ {msgId isResponse} {inner : List Payload} {entropy : ε},
      (replyWith P self.sa msgId isResponse inner .reply entropy).1 ≠ .ok .failed :=
    fun {_ _ _ _} => not_failed_replyWith (fun _ => nofun)
  unfold answer Selected.refuses
  dsimp only
  split
  next isIdentity =>
    cases known : self.users.get (packet.data.drop 1) with
    | none => exact ⟨fun _ => rfl, fun _ => rfl⟩
    | some pw => exact ⟨fun failed => absurd failed replies, fun unknown => (nomatch unknown)⟩
  next =>
    split
    next =>
      cases eap.parseResponse packet.data with
      | error error => constructor <;> rintro ⟨⟩
      | ok resp =>
        dsimp only
        rw [bne_iff_ne]
        split
        next differs => exact ⟨fun _ => differs, fun _ => rfl⟩
        next same => exact ⟨fun failed => absurd failed replies, fun differs => absurd differs same⟩
    next =>
      split
      next isSuccess =>
        rw [decide_eq_true isSuccess]
        exact ⟨fun failed => absurd failed replies, fun refused => (nomatch refused)⟩
      next notSuccess =>
        rw [decide_eq_false notSuccess]
        exact ⟨fun _ => rfl, fun _ => rfl⟩

theorem startEap_failed_iff (msgId : UInt32) (ps : List Payload) (entropy : ε) :
    (self.startEap P msgId ps entropy).1 = .ok .failed ↔ find ps .securityAssociation = none := by
  unfold startEap
  cases find ps .securityAssociation with
  | none => exact ⟨fun _ => rfl, fun _ => rfl⟩
  | some sai2 =>
    refine iff_of_false ?_ (by simp)
    dsimp only
    split
    next => simp
    next => exact not_failed_replyWith fun _ => nofun

theorem parsed_of_finish_failed {msgId : UInt32} {authBytes : Bytes} {entropy : ε}
    (failed : (self.finish P msgId authBytes entropy).1 = .ok .failed) : (Authentication.parse authBytes).isOk = true := by
  unfold finish at failed
  cases parsed : Authentication.parse authBytes with
  | error error =>
    rw [parsed] at failed
    cases failed
  | ok got => rfl

theorem ends_eq {message : Bytes} {msgId : UInt32} {ps : List Payload}
    (opened : decrypt P self.sa message = .ok (msgId, ps)) :
    self.selected.ends P self.sa self.users message =
      match find ps .eap, find ps .authentication with
      | none, none => (find ps .securityAssociation).isNone
      | none, some authBytes => (Authentication.parse authBytes).isOk
      | some eapBytes, _ =>
          match EapPacket.parse eapBytes with
          | .error _ => false
          | .ok packet => self.selected.refuses P self.users packet := by
  rw [Selected.ends, finalAuthOf_eq opened, isStray, opened, eapOf_eq opened]
  dsimp only
  cases find ps .eap with
  | none =>
    cases find ps .authentication with
    | none => simp
    | some authBytes =>
      cases parsed : Authentication.parse authBytes with
      | error error => simp [parsed, Except.toOption, Except.isOk, Except.toBool]
      | ok got => simp [parsed, Except.toOption, Except.isOk, Except.toBool]
  | some eapBytes =>
    cases parsed : EapPacket.parse eapBytes with
    | error error => simp [parsed, Except.toOption]
    | ok packet => simp [parsed, Except.toOption]

/-- Every end was brought about by a message that has to end the exchange. -/
theorem ends_of_ended (ended : Ended (self.handle P input.1 input.2).1) :
    self.selected.ends P self.sa self.users input.1 = true := by
  rcases ended with established | failed
  · have agreed : self.agrees P input = true := (isEstablished_handle P self input).symm.trans established
    obtain ⟨_, _, _, _, _, opened, noEap, hasAuth, parsed, _, _⟩ := agrees_eq_true agreed
    rw [ends_eq opened, noEap, hasAuth]
    dsimp only
    rw [parsed]
    rfl
  · unfold handle at failed
    split at failed
    next => cases failed
    next msgId ps opened =>
      split at failed
      next noEap noAuth =>
        rw [ends_eq opened, noEap, noAuth]
        exact Option.isNone_iff_eq_none.mpr ((startEap_failed_iff msgId ps input.2).mp failed)
      next authBytes noEap hasAuth =>
        rw [ends_eq opened, noEap, hasAuth]
        exact parsed_of_finish_failed failed
      next _ eapBytes hasEap =>
        rw [ends_eq opened, hasEap]
        dsimp only
        cases parsed : EapPacket.parse eapBytes with
        | error error =>
          rw [parsed] at failed
          cases failed
        | ok packet =>
          rw [parsed] at failed
          exact (answer_failed_iff msgId packet input.2).mp failed

/-- And every such message does, when the last answer can be sealed. -/
theorem ended_of_ends
    (sealable : ∀ msgId iv, (buildSk P self.sa msgId true (self.lastPayloads P) iv).isOk = true)
    (ends : self.selected.ends P self.sa self.users input.1 = true) : Ended (self.handle P input.1 input.2).1 := by
  cases opened : decrypt P self.sa input.1 with
  | error error =>
    rw [Selected.ends, finalAuthOf, isStray, eapOf, opened] at ends
    cases ends
  | ok pair =>
    obtain ⟨msgId, ps⟩ := pair
    rw [ends_eq opened] at ends
    rw [handle, opened]
    dsimp only
    cases hasEap : find ps .eap with
    | some eapBytes =>
      rw [hasEap] at ends
      dsimp only at ends ⊢
      cases parsed : EapPacket.parse eapBytes with
      | error error =>
        rw [parsed] at ends
        cases ends
      | ok packet =>
        rw [parsed] at ends
        exact .inr ((answer_failed_iff msgId packet input.2).mpr ends)
    | none =>
      rw [hasEap] at ends
      cases hasAuth : find ps .authentication with
      | none =>
        rw [hasAuth] at ends
        exact .inr ((startEap_failed_iff msgId ps input.2).mpr (Option.isNone_iff_eq_none.mp ends))
      | some authBytes =>
        rw [hasAuth] at ends
        dsimp only at ends ⊢
        obtain ⟨got, parsed⟩ := exists_of_isOk ends
        rw [finish_eq P self msgId parsed]
        split
        next => exact .inl ((isEstablished_map _).trans (sealable _ _))
        next => exact .inr rfl

end Told

/-! ## Runs -/

section Runs

variable {ε : Type} [Entropy ε] (P : Primitives) (self : EapResponder)

theorem final_fixes (inputs : List (Bytes × ε)) : self.Fixes ((machine P).final self inputs) := by
  refine Machine.invariant (machine P) self self.Fixes ⟨rfl, rfl, rfl, rfl, rfl⟩ ?_ inputs
  intro state input fixes
  exact fixes.trans (handle_fixes P state input.1 input.2)

/-- The run lemma: the messages fed decide what the state has selected. -/
theorem final_selected (inputs : List (Bytes × ε)) :
    ((machine P).final self inputs).selected = selectedAfter P self inputs := by
  induction inputs using List.reverseRecOn with
  | nil => rfl
  | append_singleton inputs input ih =>
    have fixes := final_fixes P self inputs
    rw [Machine.final_append, selectedAfter, List.foldl_append, ← selectedAfter, ← ih, ← fixes.sa, ← fixes.users]
    exact selected_handle ((machine P).final self inputs) input

theorem ends_final (inputs : List (Bytes × ε)) (message : Bytes) :
    ((machine P).final self inputs).selected.ends P ((machine P).final self inputs).sa
      ((machine P).final self inputs).users message =
        (selectedAfter P self inputs).ends P self.sa self.users message := by
  have fixes := final_fixes P self inputs
  rw [final_selected, fixes.sa, fixes.users]

theorem keys_final (inputs : List (Bytes × ε)) (message : Bytes) :
    ((machine P).final self inputs).selected.keys P ((machine P).final self inputs).sa message =
      (selectedAfter P self inputs).keys P self.sa message := by
  rw [final_selected, (final_fixes P self inputs).sa]

theorem ends_of_call {inputs : List (Bytes × ε)} {j : Nat} {call : Call EapResponder (Bytes × ε) (Result EapEvent)}
    (isCall : ((machine P).calls self inputs)[j]? = some call) (ended : Ended call.output) :
    ∃ input, inputs[j]? = some input ∧
      (selectedAfter P self (inputs.take j)).ends P self.sa self.users input.1 = true := by
  rw [Machine.getElem?_calls] at isCall
  obtain ⟨input, fed, rfl⟩ := Option.map_eq_some_iff.mp isCall
  exact ⟨input, fed, (ends_final P self (inputs.take j) input.1).symm.trans (ends_of_ended ended)⟩

theorem keys_of_call {inputs : List (Bytes × ε)} {k : Nat} {call : Call EapResponder (Bytes × ε) (Result EapEvent)}
    (isCall : ((machine P).calls self inputs)[k]? = some call) (established : Established call.output) :
    ∃ input, inputs[k]? = some input ∧
      (selectedAfter P self (inputs.take k)).keys P self.sa input.1 = true := by
  rw [Machine.getElem?_calls] at isCall
  obtain ⟨input, fed, rfl⟩ := Option.map_eq_some_iff.mp isCall
  exact ⟨input, fed, (keys_final P self (inputs.take k) input.1).symm.trans (keys_of_established established)⟩

theorem Sealable.final {self : EapResponder} (sealable : Sealable P self) (inputs : List (Bytes × ε)) (msgId : UInt32)
    (iv : Iv) :
    (buildSk P ((machine P).final self inputs).sa msgId true
      (((machine P).final self inputs).lastPayloads P) iv).isOk = true := by
  have fixes := final_fixes P self inputs
  rw [fixes.lastPayloads, fixes.sa]
  exact sealable _ _ msgId iv

/-- In every run of every responder that is fed no last message keyed by the selected credentials
after an end, the exchange stays ended. A run that stays ended is no other, as long as the last
answer can be sealed. -/
theorem terminal_of_noneKeyedAfterEnd (inputs : List (Bytes × ε)) :
    (NoneKeyedAfterEnd P self inputs → Terminal ((machine P).calls self inputs)) ∧
      (Sealable P self → Terminal ((machine P).calls self inputs) → NoneKeyedAfterEnd P self inputs) := by
  constructor
  · intro unkeyed j k earlier later sooner atJ atK ended established
    obtain ⟨first, fedFirst, ends⟩ := ends_of_call P self atJ ended
    obtain ⟨second, fedSecond, keys⟩ := keys_of_call P self atK established
    exact unkeyed k (List.getElem?_eq_some_iff.mp fedSecond).1 j sooner second fedSecond first fedFirst ends keys
  · intro sealable terminal k _ j sooner later fedLater earlier fedEarlier ends keys
    rw [← ends_final] at ends
    rw [← keys_final] at keys
    have atJ := Machine.getElem?_calls (machine P) self inputs j
    have atK := Machine.getElem?_calls (machine P) self inputs k
    rw [Option.mem_def.mp fedEarlier] at atJ
    rw [Option.mem_def.mp fedLater] at atK
    exact terminal j k _ _ sooner atJ atK (ended_of_ends (sealable.final P (inputs.take j)) ends)
      (established_of_keys (sealable.final P (inputs.take k)) keys)

end Runs

end EapResponder

namespace Toy
open Ryke.Toy

def replayedLast : List (Bytes × Counter) := honestInputs ++ honestInputs.drop 4

def failedFirst : List (Bytes × Counter) := honestInputs.take 4 ++ [(emptyFinal, ⟨2⟩)] ++ honestInputs.drop 4

def strangerLast : List (Bytes × Counter) := honestInputs ++ [(emptyFinal, ⟨2⟩)]

def macFinal : Bytes :=
  let msk := mschapv2.deriveMsk toyMac [] (List.replicate 24 0)
  let octets := initiatorSignedOctets toyMac initSa.initMessage initSa.nr initSa.keys.skPi []
  (buildSk toyMac initSa 1 false [(.authentication, (pskAuthPayload toyMac msk octets).toBytes)]
    (.ofU64 1)).toOption.getD []

def macTwice : List (Bytes × Counter) := List.replicate 2 (macFinal, ⟨2⟩)

theorem sealable_toyMac (self : EapResponder) (size : (ourSkE self.sa).length = 36) : self.Sealable toyMac := by
  intro password ntResponse msgId iv
  rw [buildSk, buildEncryptedGcm,
    gcmSeal_of_encrypt size (show toyMac.gcmEncrypt _ _ _ _ = some (macEncrypt _ _ _ _) from rfl)]
  rfl

end Toy

namespace EapResponder

/-- An exchange that is fed a strange last message after its end stays ended, and a responder that
is fed the same last message twice does not. -/
theorem terminal_of_noneKeyedAfterEnd_stranger :
    Terminal ((machine toy).calls Toy.eapServer Toy.strangerLast) ∧
      ¬ Terminal ((machine Ryke.Toy.toyMac).calls Toy.eapServer Toy.macTwice) := by
  constructor
  · apply (terminal_of_noneKeyedAfterEnd toy Toy.eapServer Toy.strangerLast).1
    unfold NoneKeyedAfterEnd
    decide +kernel
  · intro terminal
    have size : (ourSkE Toy.eapServer.sa).length = 36 := by decide +kernel
    have sealable : Sealable Ryke.Toy.toyMac Toy.eapServer := Toy.sealable_toyMac Toy.eapServer size
    have unkeyed := (terminal_of_noneKeyedAfterEnd Ryke.Toy.toyMac Toy.eapServer Toy.macTwice).2 sealable terminal
    have keyed : ¬ NoneKeyedAfterEnd Ryke.Toy.toyMac Toy.eapServer Toy.macTwice := by
      unfold NoneKeyedAfterEnd
      decide +kernel
    exact keyed unkeyed

theorem Terminal.answers {ε : Type} {calls : List (Call EapResponder (Bytes × ε) (Result EapEvent))}
    (terminal : Terminal calls) {answers : List (Bool × Bool)}
    (said : (calls.map fun call => (decide (Ended call.output), isEstablished call.output)) = answers) {j k : Nat}
    (sooner : j < k) (ended : answers[j]?.map Prod.fst = some true) : answers[k]?.map Prod.snd ≠ some true := by
  intro established
  rw [← said, List.getElem?_map, Option.map_map, Option.map_eq_some_iff] at ended established
  obtain ⟨earlier, atJ, isEnd⟩ := ended
  obtain ⟨later, atK, isLate⟩ := established
  exact terminal j k earlier later sooner atJ atK (of_decide_eq_true isEnd) isLate

/-- The last message of an honest exchange is answered twice, and also after a failure. -/
theorem not_terminal_replayed : ¬ Terminal ((machine toy).calls Toy.eapServer Toy.replayedLast) ∧
    ¬ Terminal ((machine toy).calls Toy.eapServer Toy.failedFirst) := by
  constructor
  · intro terminal
    have said : (((machine toy).calls Toy.eapServer Toy.replayedLast).map fun call =>
        (decide (Ended call.output), isEstablished call.output)) =
          List.replicate 4 (false, false) ++ [(true, true), (true, true)] := by
      decide +kernel
    exact terminal.answers said (j := 4) (k := 5) (by decide) rfl rfl
  · intro terminal
    have said : (((machine toy).calls Toy.eapServer Toy.failedFirst).map fun call =>
        (decide (Ended call.output), isEstablished call.output)) =
          List.replicate 4 (false, false) ++ [(true, false), (true, true)] := by
      decide +kernel
    exact terminal.answers said (j := 4) (k := 5) (by decide) rfl rfl

end EapResponder

end Ryke.Ikev2
