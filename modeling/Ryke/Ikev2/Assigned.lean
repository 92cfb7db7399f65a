import Ryke.Ikev2.EapFinality
import Ryke.Ikev2.Narrowing

/-! The configuration that a responder assigns, as it arrives. Both authentication paths put
the same reply into their last answer, and the reply has room for one resolver. -/

namespace Ryke.Ikev2
open Lib Crypto

/-! ## What is read from an answer -/

def bodiesOf (kind : PayloadType) (items : List (Result RawPayload)) : List Bytes :=
  ((flatten items).filter fun payload => payload.payloadType == kind).map RawPayload.data

/-- The one Configuration payload and the one TSi of a decrypted answer. -/
structure CarriesConfig (first : PayloadType) (inner : Bytes) (cp : Configuration) (tsi : TrafficSelectors) : Prop where
  config : ∃ body, bodiesOf .configuration (payloads first inner) = [body] ∧ Configuration.parse body = .ok cp
  tsi : ∃ body, bodiesOf .trafficSelectorInitiator (payloads first inner) = [body] ∧ TrafficSelectors.parse body = .ok tsi

def valuesOf (attrType : UInt16) (cp : Configuration) : List Bytes :=
  (cp.attrs.filter fun attr => attr.attrType == attrType).map ConfigAttr.value

structure Whole (config : AssignedConfig) (cp : Configuration) : Prop where
  reply : cp.cfgType = cfg_type.reply
  address : valuesOf config_attr.internalIp4Address cp = [config.ip.octets]
  resolvers : valuesOf config_attr.internalIp4Dns cp = config.dns.map Ipv4Addr.octets

/-- The answer carries the whole configuration, and the assigned host as TSi. -/
def DeliversWhole (config : AssignedConfig) (first : PayloadType) (inner : Bytes) : Prop :=
  ∃ cp, CarriesConfig first inner cp ⟨[.ipv4Host config.ip]⟩ ∧ Whole config cp

def AssignedConfig.reply (config : AssignedConfig) : Configuration := .replyIpv4 config.ip none config.dns.head?

theorem whole_reply_iff (config : AssignedConfig) : Whole config config.reply ↔ config.dns.length ≤ 1 := by
  have address : valuesOf config_attr.internalIp4Address config.reply = [config.ip.octets] := by
    unfold AssignedConfig.reply
    cases config.dns.head? <;> rfl
  have resolvers : valuesOf config_attr.internalIp4Dns config.reply = config.dns.head?.toList.map Ipv4Addr.octets := by
    unfold AssignedConfig.reply
    cases config.dns.head? <;> rfl
  constructor
  · intro whole
    have counts := congrArg List.length (resolvers.symm.trans whole.resolvers)
    rw [List.length_map, List.length_map] at counts
    rw [← counts]
    exact Option.length_toList_le
  · intro few
    refine ⟨rfl, address, ?_⟩
    rw [resolvers]
    cases listed : config.dns with
    | nil => rfl
    | cons server rest =>
      rw [listed, List.length_cons] at few
      have alone : rest = [] := List.length_eq_zero_iff.mp (by omega)
      rw [alone]
      rfl

theorem CarriesConfig.unique {first : PayloadType} {inner : Bytes} {cp cp' : Configuration} {tsi tsi' : TrafficSelectors}
    (one : CarriesConfig first inner cp tsi) (other : CarriesConfig first inner cp' tsi') : cp = cp' := by
  obtain ⟨body, found, parsed⟩ := one.config
  obtain ⟨body', found', parsed'⟩ := other.config
  cases found.symm.trans found'
  exact Except.ok.inj (parsed.symm.trans parsed')

theorem deliversWhole_iff {config : AssignedConfig} {first : PayloadType} {inner : Bytes}
    (carries : CarriesConfig first inner config.reply ⟨[.ipv4Host config.ip]⟩) :
    DeliversWhole config first inner ↔ config.dns.length ≤ 1 := by
  rw [← whole_reply_iff]
  constructor
  · rintro ⟨cp, isCarried, whole⟩
    rw [← isCarried.unique carries]
    exact whole
  · intro whole
    exact ⟨config.reply, carries, whole⟩

/-! ## What the answers are built of -/

def chainBodies (kind : PayloadType) (chain : List Payload) : List Bytes :=
  (chain.filter fun payload => payload.1 == kind).map Prod.snd

theorem bodiesOf_map_raw (kind : PayloadType) (chain : List Payload) :
    bodiesOf kind (chain.map fun payload => .ok (raw payload)) = chainBodies kind chain := by
  have kept : flatten (chain.map fun payload => (.ok (raw payload) : Result RawPayload)) = chain.map raw := by
    rw [flatten, List.filterMap_map, ← List.filterMap_eq_map]
    rfl
  rw [bodiesOf, kept, List.filter_map, List.map_map]
  rfl

structure Assigns (config : AssignedConfig) (chain : List Payload) : Prop where
  proper : ∀ kind ∈ chain.map Prod.fst, kind.Proper
  reply : chainBodies .configuration chain = [config.reply.toBytes]
  tsi : chainBodies .trafficSelectorInitiator chain = [(TrafficSelectors.mk [.ipv4Host config.ip]).toBytes]

/-- An answer that was built of such a chain carries the reply, as long as it fits a datagram. -/
theorem Assigns.carries {P : Primitives} (correct : P.GcmCorrect) {config : AssignedConfig} {chain : List Payload}
    (assigns : Assigns config chain) {header : IkeHeader} {skE response inner : Bytes} {iv : Iv} {first : PayloadType}
    (built : buildEncryptedGcm P header (firstPayloadType chain) (encodePayloadChain chain) skE iv = .ok response)
    (sendable : response.length < 65536) (opened : openEncryptedGcm P response skE = .ok (first, inner)) :
    CarriesConfig first inner config.reply ⟨[.ipv4Host config.ip]⟩ := by
  have small : skPayloadLen (encodePayloadChain chain) < 65536 := by
    rw [buildEncryptedGcm_length built] at sendable
    omega
  rw [openEncryptedGcm_built correct small built] at opened
  cases opened
  have fits := fits_of_small assigns.proper small
  have walk := payloads_encodePayloadChain fits []
  rw [List.append_nil] at walk
  rw [fromU8_firstPayloadType fits]
  constructor
  · refine ⟨config.reply.toBytes, ?_, Configuration.parse_replyIpv4 ..⟩
    rw [walk, bodiesOf_map_raw, assigns.reply]
  · refine ⟨(TrafficSelectors.mk [.ipv4Host config.ip]).toBytes, ?_, parse_hostTs config.ip⟩
    rw [walk, bodiesOf_map_raw, assigns.tsi]

theorem buildLocalAuth_certs {P : Primitives} {cfg : AuthConfig} {sa : CompletedSaInit} {octets : Bytes}
    {auth : Authentication} {certs : List Payload} (built : buildLocalAuth P cfg sa octets = .ok (auth, certs)) :
    ∀ payload ∈ certs, payload.1 = .certificate := by
  unfold buildLocalAuth at built
  split at built
  next =>
    cases built
    exact fun _ member => absurd member List.not_mem_nil
  next key chain _ =>
    obtain ⟨own, -, built⟩ := bind_eq_ok built
    cases built
    intro payload member
    obtain ⟨der, -, rfl⟩ := List.mem_map.mp member
    rfl

theorem responderAuthChain_assigns {cfg : AuthConfig} {auth : Authentication} {certs : List Payload}
    (areCerts : ∀ payload ∈ certs, payload.1 = .certificate) (childSpi : UInt32) (config : AssignedConfig) :
    Assigns config (responderAuthChain cfg auth certs childSpi (some config)) := by
  have none_of : ∀ kind, kind ≠ .certificate → certs.filter (fun payload => payload.1 == kind) = [] := by
    intro kind other
    rw [List.filter_eq_nil_iff]
    intro payload member same
    exact other ((eq_of_beq same).symm.trans (areCerts payload member))
  refine ⟨?_, ?_, ?_⟩
  · intro kind member
    simp only [responderAuthChain, assignedPayloads, List.map_append, List.mem_append, List.map_cons, List.map_nil,
      List.mem_cons, List.not_mem_nil, or_false] at member
    rcases member with (((rfl | inCerts) | rfl) | rfl) | rfl | rfl | rfl | rfl
    · decide
    · obtain ⟨payload, isCert, rfl⟩ := List.mem_map.mp inCerts
      rw [areCerts payload isCert]
      decide
    all_goals decide
  · simp only [chainBodies, responderAuthChain, List.filter_append, none_of .configuration (by decide)]
    rfl
  · simp only [chainBodies, responderAuthChain, List.filter_append, none_of .trafficSelectorInitiator (by decide)]
    rfl

theorem EapResponder.lastPayloads_assigns (P : Primitives) {self : EapResponder} {config : AssignedConfig}
    (assigned : self.assigned = some config) : Assigns config (self.lastPayloads P) := by
  unfold EapResponder.lastPayloads
  rw [assigned]
  refine ⟨?_, rfl, rfl⟩
  change ∀ kind ∈ [PayloadType.idResponder, .authentication, .configuration, .securityAssociation,
    .trafficSelectorInitiator, .trafficSelectorResponder, .notify], kind.Proper
  decide

theorem EapResponder.handle_established {ε : Type} [Entropy ε] {P : Primitives} {self : EapResponder}
    {message response : Bytes} {entropy : ε}
    (done : (self.handle P message entropy).1 = .ok (.established (some response))) :
    ∃ msgId iv, buildSk P self.sa msgId true (self.lastPayloads P) iv = .ok response := by
  have agreed : self.agrees P (message, entropy) = true := by
    rw [← isEstablished_handle, done]
    rfl
  obtain ⟨msgId, ps, authBytes, got, sealed, opened, noEap, hasAuth, parsed, keyed, built⟩ :=
    EapResponder.agrees_eq_true agreed
  simp only [EapResponder.handle, opened, noEap, hasAuth] at done
  rw [EapResponder.finish_eq P self msgId parsed, if_pos keyed] at done
  simp only [replyWith, built] at done
  cases done
  exact ⟨msgId, _, built⟩

theorem responderProcessAuth_carries {P : Primitives} (correct : P.GcmCorrect) {sa : CompletedSaInit} {request : Bytes}
    {cfg : AuthConfig} {childSpi peerChildSpi : UInt32} {iv : Iv} {config : AssignedConfig} {response inner : Bytes}
    {peerId : Identification} {first : PayloadType}
    (accepted : responderProcessAuth P sa request cfg childSpi iv (some config) = .ok (response, peerId, peerChildSpi))
    (sendable : response.length < 65536) (opened : openEncryptedGcm P response sa.keys.skEr = .ok (first, inner)) :
    CarriesConfig first inner config.reply ⟨[.ipv4Host config.ip]⟩ := by
  obtain ⟨_, _, got, auth, certs, -, -, -, -, -, signed, built⟩ := responderProcessAuth_eq_ok accepted
  exact (responderAuthChain_assigns (buildLocalAuth_certs signed) childSpi config).carries correct built sendable opened

namespace EapResponder

theorem handle_carries {P : Primitives} (correct : P.GcmCorrect) {ε : Type} [Entropy ε] {self : EapResponder}
    {message response inner : Bytes} {entropy : ε} {config : AssignedConfig} {first : PayloadType}
    (assigned : self.assigned = some config)
    (established : (self.handle P message entropy).1 = .ok (.established (some response)))
    (sendable : response.length < 65536) (opened : openEncryptedGcm P response (ourSkE self.sa) = .ok (first, inner)) :
    CarriesConfig first inner config.reply ⟨[.ipv4Host config.ip]⟩ := by
  obtain ⟨msgId, iv, built⟩ := handle_established established
  exact (lastPayloads_assigns P assigned).carries correct built sendable opened

/-! ## The configuration during a run -/

theorem final_assigned {ε : Type} [Entropy ε] (P : Primitives) (self : EapResponder) (inputs : List (Bytes × ε)) :
    ((machine P).final self inputs).assigned = self.assigned :=
  (final_fixes P self inputs).assigned

end EapResponder

/-- On both paths the last answer, as long as it fits a datagram, carries the same reply and
the assigned host, and that is the whole configuration exactly when it names at most one
resolver. -/
theorem assigned_delivered_iff (P : Primitives) (correct : P.GcmCorrect) (config : AssignedConfig) :
    (∀ sa request cfg childSpi iv response peerId peerChildSpi first inner,
      responderProcessAuth P sa request cfg childSpi iv (some config) = .ok (response, peerId, peerChildSpi) →
      response.length < 65536 → openEncryptedGcm P response sa.keys.skEr = .ok (first, inner) →
        CarriesConfig first inner config.reply ⟨[.ipv4Host config.ip]⟩ ∧
          (DeliversWhole config first inner ↔ config.dns.length ≤ 1)) ∧
    (∀ (ε : Type) [Entropy ε] (self : EapResponder) message (entropy : ε) response first inner,
      self.assigned = some config → (self.handle P message entropy).1 = .ok (.established (some response)) →
      response.length < 65536 → openEncryptedGcm P response (ourSkE self.sa) = .ok (first, inner) →
        CarriesConfig first inner config.reply ⟨[.ipv4Host config.ip]⟩ ∧
          (DeliversWhole config first inner ↔ config.dns.length ≤ 1)) := by
  constructor
  · intro sa request cfg childSpi iv response peerId peerChildSpi first inner accepted sendable opened
    have carries := responderProcessAuth_carries correct accepted sendable opened
    exact ⟨carries, deliversWhole_iff carries⟩
  · intro ε _ self message entropy response first inner assigned established sendable opened
    have carries := EapResponder.handle_carries correct assigned established sendable opened
    exact ⟨carries, deliversWhole_iff carries⟩

namespace Toy
open Ryke.Toy

def oneResolver : AssignedConfig := ⟨⟨10, 9, 0, 2⟩, [⟨10, 9, 0, 1⟩]⟩
def twoResolvers : AssignedConfig := ⟨⟨10, 9, 0, 2⟩, [⟨10, 9, 0, 1⟩, ⟨1, 1, 1, 1⟩]⟩

def lastServer (config : AssignedConfig) : EapResponder :=
  (EapResponder.machine toy).final (eapServer.setAssigned (some config)) (honestInputs.take 4)

def lastMessage : Bytes := (honestInputs.getD 4 ([], ⟨2⟩)).1

theorem lastServer_assigned (config : AssignedConfig) : (lastServer config).assigned = some config :=
  EapResponder.final_assigned toy _ _

structure Answered (config : AssignedConfig) (response eapResponse inner eapInner : Bytes) (first eapFirst : PayloadType) :
    Prop where
  accepted : responderProcessAuth toy respSa (authRequest [alice] alice) serverConfig 7 (.ofU64 2) (some config) =
    .ok (response, alice, 5)
  opened : openEncryptedGcm toy response respSa.keys.skEr = .ok (first, inner)
  established : ((lastServer config).handle toy lastMessage (⟨2⟩ : Counter)).1 = .ok (.established (some eapResponse))
  eapOpened : openEncryptedGcm toy eapResponse (ourSkE (lastServer config).sa) = .ok (eapFirst, eapInner)
  sendable : response.length < 65536 ∧ eapResponse.length < 65536

def bothAnswer (config : AssignedConfig) : Bool :=
  ((responderProcessAuth toy respSa (authRequest [alice] alice) serverConfig 7 (.ofU64 2) (some config)).toOption.any
    fun answer => answer.2 == (alice, 5) && decide (answer.1.length < 65536) &&
      (openEncryptedGcm toy answer.1 respSa.keys.skEr).isOk) &&
  (((lastServer config).handle toy lastMessage (⟨2⟩ : Counter)).1.toOption.any fun event =>
    match event with
    | .established (some response) =>
        decide (response.length < 65536) && (openEncryptedGcm toy response (ourSkE (lastServer config).sa)).isOk
    | _ => false)

theorem exists_answered {config : AssignedConfig} (answers : bothAnswer config = true) :
    ∃ response eapResponse inner eapInner first eapFirst,
      Answered config response eapResponse inner eapInner first eapFirst := by
  obtain ⟨plain, eap⟩ := (Bool.and_eq_true _ _).mp answers
  obtain ⟨⟨response, rest⟩, accepted, plain⟩ := exists_of_any plain
  obtain ⟨front, opens⟩ := (Bool.and_eq_true _ _).mp plain
  obtain ⟨same, short⟩ := (Bool.and_eq_true _ _).mp front
  cases eq_of_beq same
  obtain ⟨⟨first, inner⟩, opened⟩ := exists_of_isOk opens
  obtain ⟨event, handled, eapOpens⟩ := exists_of_any eap
  cases event with
  | established message =>
    cases message with
    | some eapResponse =>
      obtain ⟨eapShort, eapOpens⟩ := (Bool.and_eq_true _ _).mp eapOpens
      obtain ⟨⟨eapFirst, eapInner⟩, eapOpened⟩ := exists_of_isOk eapOpens
      exact ⟨response, eapResponse, inner, eapInner, first, eapFirst, accepted, opened, handled, eapOpened,
        of_decide_eq_true short, of_decide_eq_true eapShort⟩
    | none => cases eapOpens
  | _ => cases eapOpens

theorem bothAnswer_oneResolver : bothAnswer oneResolver = true := by decide +kernel

theorem bothAnswer_twoResolvers : bothAnswer twoResolvers = true := by decide +kernel

end Toy

theorem assigned_delivered_one_resolver :
    ∃ response eapResponse inner eapInner first eapFirst,
      Toy.Answered Toy.oneResolver response eapResponse inner eapInner first eapFirst ∧
        DeliversWhole Toy.oneResolver first inner ∧ DeliversWhole Toy.oneResolver eapFirst eapInner := by
  obtain ⟨response, eapResponse, inner, eapInner, first, eapFirst, answered⟩ :=
    Toy.exists_answered Toy.bothAnswer_oneResolver
  obtain ⟨plain, eap⟩ := assigned_delivered_iff toy Ryke.Toy.toy_gcmCorrect Toy.oneResolver
  obtain ⟨-, whole⟩ := plain _ _ _ _ _ _ _ _ _ _ answered.accepted answered.sendable.1 answered.opened
  obtain ⟨-, eapWhole⟩ := eap Ryke.Toy.Counter _ _ _ _ _ _ (Toy.lastServer_assigned Toy.oneResolver)
    answered.established answered.sendable.2 answered.eapOpened
  exact ⟨response, eapResponse, inner, eapInner, first, eapFirst, answered, whole.mpr (by decide),
    eapWhole.mpr (by decide)⟩

/-- Of two resolvers neither path delivers the second. -/
theorem not_delivered_two_resolvers :
    ∃ response eapResponse inner eapInner first eapFirst,
      Toy.Answered Toy.twoResolvers response eapResponse inner eapInner first eapFirst ∧
        ¬ DeliversWhole Toy.twoResolvers first inner ∧ ¬ DeliversWhole Toy.twoResolvers eapFirst eapInner := by
  obtain ⟨response, eapResponse, inner, eapInner, first, eapFirst, answered⟩ :=
    Toy.exists_answered Toy.bothAnswer_twoResolvers
  have plain := responderProcessAuth_carries Ryke.Toy.toy_gcmCorrect answered.accepted answered.sendable.1
    answered.opened
  have eap := EapResponder.handle_carries Ryke.Toy.toy_gcmCorrect (Toy.lastServer_assigned Toy.twoResolvers)
    answered.established answered.sendable.2 answered.eapOpened
  refine ⟨response, eapResponse, inner, eapInner, first, eapFirst, answered, ?_, ?_⟩
  · rw [deliversWhole_iff plain]
    decide
  · rw [deliversWhole_iff eap]
    decide

end Ryke.Ikev2
