import Ryke.Ikev2.Server

/-! Runs of the IKEv2 responder under any datagrams: what the two tables hold, and which
call put it there. -/

namespace Ryke.Ikev2
open Lib

namespace Server

inductive Request where
  | receive (received : Option (Bytes × SocketAddr)) (sendOk : Bool)
  | takeChild (spiI spiR : UInt64)

def Request.received : Request → Option (Bytes × SocketAddr)
  | .receive received _ => received
  | .takeChild _ _ => none

abbrev Answer := Option (Except DriverError ServerEvent)

variable {ε : Type} [Entropy ε]

def machine (P : Primitives) : Machine (Server ε) Request Answer := fun self request =>
  match request with
  | .receive received sendOk =>
      let outcome := self.handleOne P received sendOk
      (some outcome.event, outcome.server)
  | .takeChild spiI spiR => (none, (self.takeChild spiI spiR).2)

/-- The configuration stays, and every session is kept under its own SPIs. -/
structure Valid (auth : AuthConfig) (state : Server ε) : Prop where
  configured : state.auth = auth
  ownSpis : ∀ spiI spiR sa, state.sessions.get (spiI, spiR) = some sa →
    sa.spiI = spiI ∧ sa.spiR = spiR ∧ sa.role = .responder

/-- The call met a session for the SPIs, `responder_process_auth` accepted the datagram
against it, and the child is derived from that session. -/
def Accepted (P : Primitives) (auth : AuthConfig) (call : Call (Server ε) Request Answer) (spiI spiR : UInt64)
    (peerId : Identification) (child : ChildSa) : Prop :=
  ∃ data sender sa childSpi iv response peerChildSpi, call.input.received = some (data, sender) ∧
    call.before.sessions.get (spiI, spiR) = some sa ∧ (drawAuth call.before.entropy).1 = (childSpi, iv) ∧
    responderProcessAuth P sa data auth childSpi iv none = .ok (response, peerId, peerChildSpi) ∧
    child = .derive P sa.keys.skD sa.ni sa.nr .responder childSpi peerChildSpi

/-- What one call may do to the tables, told by what it returned. -/
structure Sound (P : Primitives) (auth : AuthConfig) (call : Call (Server ε) Request Answer) : Prop where
  inserted : ∀ spiI spiR child, call.after.children.get (spiI, spiR) = some child →
    call.before.children.get (spiI, spiR) = some child ∨
      ∃ peerId, call.output = some (.ok (.established spiI spiR peerId)) ∧
        Accepted P auth call spiI spiR peerId child
  established : ∀ spiI spiR peerId, call.output = some (.ok (.established spiI spiR peerId)) →
    ∃ child, Accepted P auth call spiI spiR peerId child ∧
      call.after.children = call.before.children.insert (spiI, spiR) child
  idle : call.output = some (.ok .ignored) ∨ (∃ error, call.output = some (.error error)) →
    call.after.sessions = call.before.sessions ∧ call.after.children = call.before.children

theorem role_of_responds {P : Primitives} {data response : Bytes} {secret : LocalSecret} {sa : CompletedSaInit}
    (answered : responderRespond P data secret = .ok (response, sa)) : sa.role = .responder := by
  unfold responderRespond at answered
  obtain ⟨result, inner, answered⟩ := bind_eq_ok answered
  cases result with
  | invalidKe => cases answered
  | cookieRequired => cases answered
  | established =>
    cases answered
    obtain ⟨header, payloads, group, shared, -, -, isSa⟩ := responderRespondInner_established inner
    rw [isSa]

theorem Valid.step {auth : AuthConfig} {self : Server ε} (valid : Valid auth self) (P : Primitives)
    (request : Request) : Valid auth (machine P self request).2 := by
  cases request with
  | takeChild spiI spiR => exact ⟨valid.configured, valid.ownSpis⟩
  | receive received sendOk =>
    change Valid auth (self.handleOne P received sendOk).server
    have effect := handleOne_effect P self received sendOk
    generalize self.handleOne P received sendOk = outcome at effect
    cases effect with
    | idle => exact ⟨valid.configured, valid.ownSpis⟩
    | auth => exact ⟨valid.configured, valid.ownSpis⟩
    | saInit data sender response sa got answered =>
      refine ⟨valid.configured, ?_⟩
      intro spiI spiR other stored
      rw [Table.get_insert] at stored
      split at stored
      next same =>
        cases stored
        cases same
        exact ⟨rfl, rfl, role_of_responds answered⟩
      next => exact valid.ownSpis spiI spiR other stored

theorem sound_takeChild {auth : AuthConfig} {self : Server ε} (P : Primitives) (spiI spiR : UInt64) :
    Sound P auth ((machine P).call self (.takeChild spiI spiR)) := by
  refine ⟨?_, nofun, ?_⟩
  · intro i r child held
    change (self.children.remove (spiI, spiR)).get (i, r) = some child at held
    rw [Table.get_remove] at held
    split at held
    next => cases held
    next => exact .inl held
  · rintro (isIgnored | ⟨error, isError⟩)
    · cases isIgnored
    · cases isError

theorem Valid.sound {auth : AuthConfig} {self : Server ε} (valid : Valid auth self) (P : Primitives)
    (request : Request) : Sound P auth ((machine P).call self request) := by
  cases request with
  | takeChild spiI spiR => exact sound_takeChild P spiI spiR
  | receive received sendOk =>
    have effect := handleOne_effect P self received sendOk
    have isCall : (machine P).call self (.receive received sendOk) =
        ⟨self, .receive received sendOk, some (self.handleOne P received sendOk).event,
          (self.handleOne P received sendOk).server⟩ := rfl
    rw [isCall]
    generalize self.handleOne P received sendOk = outcome at effect
    cases effect with
    | idle entropy event isIdle =>
      refine ⟨fun _ _ _ held => .inl held, ?_, fun _ => ⟨rfl, rfl⟩⟩
      rintro spiI spiR peerId isEvent
      rcases isIdle with rfl | ⟨error, rfl⟩ <;> cases isEvent
    | saInit => exact ⟨fun _ _ _ held => .inl held, nofun, by rintro (isEvent | ⟨_, isEvent⟩) <;> cases isEvent⟩
    | auth data sender header sa response peerId peerChildSpi got parsed kind session processed =>
      unfold processAuth at processed
      rw [valid.configured] at processed
      refine ⟨?_, ?_, by rintro (isEvent | ⟨_, isEvent⟩) <;> cases isEvent⟩
      · intro spiI spiR child held
        rw [Table.get_insert] at held
        split at held
        next same =>
          cases same
          exact .inr ⟨peerId, rfl, data, sender, sa, _, _, response, peerChildSpi, got, session, rfl, processed,
            (Option.some.inj held).symm⟩
        next => exact .inl held
      · intro spiI spiR other isEvent
        cases isEvent
        exact ⟨_, ⟨data, sender, sa, _, _, response, peerChildSpi, got, session, rfl, processed, rfl⟩, rfl⟩

/-- Every child that is held was put there by one of the calls, which accepted its
`IKE_AUTH`. -/
def Explained (P : Primitives) (auth : AuthConfig) (past : List (Call (Server ε) Request Answer))
    (state : Server ε) : Prop :=
  ∀ spiI spiR child, state.children.get (spiI, spiR) = some child →
    ∃ call ∈ past, ∃ peerId, call.output = some (.ok (.established spiI spiR peerId)) ∧
      Accepted P auth call spiI spiR peerId child

theorem Explained.extend {P : Primitives} {auth : AuthConfig} {past : List (Call (Server ε) Request Answer)}
    {self : Server ε} (explained : Explained P auth past self) {call : Call (Server ε) Request Answer}
    (before : call.before = self) (sound : Sound P auth call) : Explained P auth (past ++ [call]) call.after := by
  intro spiI spiR child held
  rcases sound.inserted spiI spiR child held with earlier | ⟨peerId, told, accepted⟩
  · rw [before] at earlier
    obtain ⟨made, member, rest⟩ := explained spiI spiR child earlier
    exact ⟨made, List.mem_append_left _ member, rest⟩
  · exact ⟨call, List.mem_append_right _ List.mem_cons_self, peerId, told, accepted⟩

/-- In every run the sessions stand under their own SPIs, every call is sound, and every
child is explained. -/
theorem run_valid_and_sound (P : Primitives) (entropy : ε) (auth : AuthConfig) (requests : List Request) :
    Valid auth ((machine P).final (bind entropy auth) requests) ∧
      (∀ call ∈ (machine P).calls (bind entropy auth) requests, Sound P auth call) ∧
      Explained P auth ((machine P).calls (bind entropy auth) requests)
        ((machine P).final (bind entropy auth) requests) := by
  refine Machine.history (machine P) (bind entropy auth)
    (fun past state => Valid auth state ∧ (∀ call ∈ past, Sound P auth call) ∧ Explained P auth past state) ?_ ?_ requests
  · refine ⟨⟨rfl, ?_⟩, ?_, ?_⟩
    · intro spiI spiR sa stored
      cases stored
    · intro call member
      cases member
    · intro spiI spiR child held
      cases held
  · intro past state request ⟨valid, sound, explained⟩
    have now := valid.sound P request
    refine ⟨valid.step P request, ?_, explained.extend rfl now⟩
    intro call member
    rw [List.mem_append, List.mem_singleton] at member
    rcases member with before | rfl
    · exact sound call before
    · exact now

end Server

end Ryke.Ikev2
