import Ryke.Ikev2.Renegotiate

/-! NAT detection in `IKE_SA_INIT`. The responder sends a hash of either end's address as it
sees it, and whoever reads the answer compares each hash with the address it sees itself. -/

namespace Ryke.Ikev2
open Lib Crypto Renegotiate

/-! ## The checks -/

def peerIsBehindNat (P : Primitives) (sourceNotifyData : Bytes) (spiI spiR : UInt64) (observedPeerIp : IpAddr)
    (observedPeerPort : UInt16) : Bool :=
  sourceNotifyData != natDetectionHash P spiI spiR observedPeerIp observedPeerPort

def weAreBehindNat (P : Primitives) (destNotifyData : Bytes) (spiI spiR : UInt64) (ourIp : IpAddr)
    (ourPort : UInt16) : Bool :=
  destNotifyData != natDetectionHash P spiI spiR ourIp ourPort

structure NatInput where
  spiI : UInt64
  spiR : UInt64
  addr : SocketAddr
  deriving DecidableEq

namespace NatInput

def toBytes (input : NatInput) : Bytes :=
  u64Bytes input.spiI ++ u64Bytes input.spiR ++ input.addr.ip.octets ++ u16Bytes input.addr.port

theorem octets_injective {ip other : IpAddr} (same : ip.octets = other.octets) : ip = other := by
  cases ip with
  | v4 addr =>
    cases other with
    | v4 addr' =>
      simp only [IpAddr.octets, Ipv4Addr.octets, List.cons.injEq, and_true] at same
      obtain ⟨a, b, c, d⟩ := same
      cases addr
      cases addr'
      simp_all
    | v6 addr' =>
      have size := congrArg List.length same
      simp [IpAddr.octets, Ipv4Addr.octets] at size
  | v6 addr =>
    cases other with
    | v4 addr' =>
      have size := congrArg List.length same
      simp [IpAddr.octets, Ipv4Addr.octets] at size
    | v6 addr' =>
      congr 1
      exact Vector.toList_inj.mp same

/-- The addresses have 4 or 16 bytes, so their length is clear from that of the whole. -/
theorem toBytes_injective : Function.Injective toBytes := by
  intro input other same
  unfold toBytes at same
  obtain ⟨front, port⟩ := List.append_inj' same rfl
  obtain ⟨spis, ip⟩ := List.append_inj front rfl
  obtain ⟨spiI, spiR⟩ := List.append_inj spis rfl
  cases input with
  | mk i r addr =>
    cases other with
    | mk i' r' addr' =>
      cases addr
      cases addr'
      simp only [mk.injEq, SocketAddr.mk.injEq]
      exact ⟨u64Bytes_injective spiI, u64Bytes_injective spiR, octets_injective ip, u16Bytes_injective port⟩

end NatInput

/-- Inputs that hash alike are the same bytes. -/
def Sha1.NoCollision (P : Primitives) (inputs : List NatInput) : Prop :=
  ∀ first ∈ inputs, ∀ second ∈ inputs, P.sha1 first.toBytes = P.sha1 second.toBytes → first.toBytes = second.toBytes

instance (P : Primitives) (inputs : List NatInput) : Decidable (Sha1.NoCollision P inputs) :=
  inferInstanceAs (Decidable (∀ first ∈ inputs, ∀ second ∈ inputs, _ → _))

theorem natDetectionHash_bne_eq_false_iff {P : Primitives} {hashed input : NatInput}
    (noCollision : Sha1.NoCollision P [hashed, input]) :
    (natDetectionHash P hashed.spiI hashed.spiR hashed.addr.ip hashed.addr.port !=
        natDetectionHash P input.spiI input.spiR input.addr.ip input.addr.port) = false ↔ input = hashed := by
  rw [bne_eq_false_iff_eq]
  constructor
  · intro same
    have bytes := noCollision hashed List.mem_cons_self input (List.mem_cons_of_mem _ List.mem_cons_self) same
    exact NatInput.toBytes_injective bytes.symm
  · rintro rfl
    rfl

/-! ## What the answer carries -/

theorem notifyData_build {builder : MessageBuilder} (formed : builder.WellFormed) {front back : List Payload}
    {kind : UInt16} {data : Bytes} (split : builder.payloads = front ++ (.notify, (Notify.status kind data).toBytes) :: back)
    (others : ∀ payload ∈ front, notifyOf kind (.ok (raw payload)) = none) :
    notifyData kind builder.build = some data := by
  have parsed := MessageBuilder.parse_build formed []
  have walk := MessageBuilder.payloads_build formed []
  rw [List.append_nil] at parsed walk
  have found : notifyOf kind (.ok (raw (.notify, (Notify.status kind data).toBytes))) = some data := by
    have read : Notify.parse (Notify.status kind data).toBytes = .ok (.status kind data) :=
      Notify.parse_toBytes (by simp [Notify.status])
    change (do let notify ← (Notify.parse (Notify.status kind data).toBytes).toOption
               if notify.notifyType = kind then some notify.data else none) = _
    rw [read]
    exact if_pos rfl
  have passed : (front.map fun payload => (.ok (raw payload) : Result RawPayload)).findSome? (notifyOf kind) = none := by
    rw [List.findSome?_eq_none_iff]
    intro item member
    obtain ⟨payload, inFront, rfl⟩ := List.mem_map.mp member
    exact others payload inFront
  rw [notifyData, parsed]
  change (payloads _ _).findSome? _ = _
  rw [walk, split, List.map_append, List.findSome?_append, passed, List.map_cons, List.findSome?_cons, found]
  rfl

theorem notifyOf_other {kind other : UInt16} (differs : other ≠ kind) (data : Bytes) :
    notifyOf kind (.ok (raw (.notify, (Notify.status other data).toBytes))) = none := by
  have read : Notify.parse (Notify.status other data).toBytes = .ok (.status other data) :=
    Notify.parse_toBytes (by simp [Notify.status])
  change (do let notify ← (Notify.parse (Notify.status other data).toBytes).toOption
             if notify.notifyType = kind then some notify.data else none) = _
  rw [read]
  exact if_neg differs

theorem notifyOf_plain {kind : UInt16} {payloadType : PayloadType} (differs : payloadType ≠ .notify) (body : Bytes) :
    notifyOf kind (.ok (raw (payloadType, body))) = none :=
  if_neg differs

theorem natNotifies_read (P : Primitives) {secret : LocalSecret} (fits : NonceFits secret) (spiI : UInt64)
    {suite : ChosenSuite} (supported : suite.Supported) (group : DhGroup) (ours peer : SocketAddr) :
    notifyData notify_type.natDetectionSourceIp (responderResponse P secret spiI suite group (some (ours, peer))) =
        some (natDetectionHash P spiI secret.spi ours.ip ours.port) ∧
      notifyData notify_type.natDetectionDestinationIp
          (responderResponse P secret spiI suite group (some (ours, peer))) =
        some (natDetectionHash P spiI secret.spi peer.ip peer.port) := by
  have formed := saInitBuilder_wellFormed spiI secret.spi responseFlags suite.dhId (OfferFits.toProposal supported).2
    (public_small P group secret.dhPrivate) fits (natNotifies_passive P spiI secret.spi (some (ours, peer)))
  let front : List Payload := [(.securityAssociation, (SecurityAssociation.mk [suite.toProposal]).toBytes),
    (.keyExchange, (KeyExchange.mk suite.dhId (group.public_ P secret.dhPrivate)).toBytes),
    (.nonce, (Nonce.mk secret.nonce).toBytes), (.notify, sighashNotify.toBytes)]
  let source : Payload := (.notify, (sourceIpNotify P spiI secret.spi ours.ip ours.port).toBytes)
  let destination : Payload := (.notify, (destinationIpNotify P spiI secret.spi peer.ip peer.port).toBytes)
  let builder := saInitBuilder (baseHeader spiI secret.spi responseFlags) ⟨[suite.toProposal]⟩ suite.dhId
    (group.public_ P secret.dhPrivate) secret.nonce (natNotifies P spiI secret.spi (some (ours, peer)))
  have others : ∀ kind, kind ≠ notify_type.signatureHashAlgorithms → ∀ payload ∈ front,
      notifyOf kind (.ok (raw payload)) = none := by
    intro kind other payload member
    simp only [front, List.mem_cons, List.not_mem_nil, or_false] at member
    rcases member with rfl | rfl | rfl | rfl
    · exact notifyOf_plain (by decide) _
    · exact notifyOf_plain (by decide) _
    · exact notifyOf_plain (by decide) _
    · exact notifyOf_other other.symm _
  constructor
  · have split : builder.payloads = front ++ source :: [destination] := rfl
    exact notifyData_build formed split (others _ (by decide))
  · have split : builder.payloads = (front ++ [source]) ++ destination :: [] := rfl
    refine notifyData_build formed split fun payload member => ?_
    rcases List.mem_append.mp member with early | isSource
    · exact others _ (by decide) payload early
    · rw [List.mem_singleton.mp isSource]
      exact notifyOf_other (by decide) _

/-- Whoever reads the answer finds the responder behind a NAT unless it sees it at the address
that the responder has itself, and itself behind one unless it has the address that the
responder saw; and everybody behind one with the SPIs of another handshake. -/
theorem nat_detection_exact (P : Primitives) (secret : LocalSecret) (fits : NonceFits secret) (request : Bytes)
    (ours peer : SocketAddr) (cookie : Option CookiePolicy) (response : Bytes) (sa : CompletedSaInit)
    (established : responderRespondNatt P request secret ours peer cookie = .ok (.established response sa)) :
    ∃ source destination, notifyData notify_type.natDetectionSourceIp response = some source ∧
      notifyData notify_type.natDetectionDestinationIp response = some destination ∧
      ∀ spiI spiR addr,
        (Sha1.NoCollision P [⟨sa.spiI, sa.spiR, ours⟩, ⟨spiI, spiR, addr⟩] →
          (peerIsBehindNat P source spiI spiR addr.ip addr.port = false ↔
            spiI = sa.spiI ∧ spiR = sa.spiR ∧ addr = ours)) ∧
        (Sha1.NoCollision P [⟨sa.spiI, sa.spiR, peer⟩, ⟨spiI, spiR, addr⟩] →
          (weAreBehindNat P destination spiI spiR addr.ip addr.port = false ↔
            spiI = sa.spiI ∧ spiR = sa.spiR ∧ addr = peer)) := by
  obtain ⟨header, payloads, group, shared, received, sent, form⟩ := responderRespondInner_established established
  obtain ⟨source, destination⟩ := natNotifies_read P fits header.initiatorSpi received.supported group ours peer
  rw [← sent] at source destination
  have spis : sa.spiI = header.initiatorSpi ∧ sa.spiR = secret.spi := by rw [form]; exact ⟨rfl, rfl⟩
  rw [spis.1, spis.2]
  refine ⟨_, _, source, destination, fun spiI spiR addr => ⟨fun noCollision => ?_, fun noCollision => ?_⟩⟩
  · exact (natDetectionHash_bne_eq_false_iff noCollision).trans (by rw [NatInput.mk.injEq])
  · exact (natDetectionHash_bne_eq_false_iff noCollision).trans (by rw [NatInput.mk.injEq])

namespace Toy
open Ryke.Toy

def natResponder : SocketAddr := ⟨.v4 ⟨203, 0, 113, 5⟩, 500⟩
def natInside : SocketAddr := ⟨.v4 ⟨10, 0, 0, 7⟩, 500⟩
def natOutside : SocketAddr := ⟨.v4 ⟨198, 51, 100, 9⟩, 61000⟩

def natAnswer : Result SaInitResult :=
  responderRespondNatt toy saInitRequest responderSecret natResponder natOutside none

def establishedOf : Result SaInitResult → Option (Bytes × CompletedSaInit)
  | .ok (.established response sa) => some (response, sa)
  | _ => none

theorem establishedOf_eq_some {result : Result SaInitResult} {response : Bytes} {sa : CompletedSaInit}
    (found : establishedOf result = some (response, sa)) : result = .ok (.established response sa) := by
  unfold establishedOf at found
  split at found
  next => cases found; rfl
  next => cases found

end Toy

theorem nat_detection_exact_translated : ∃ response sa source destination,
    Toy.natAnswer = .ok (.established response sa) ∧
      notifyData notify_type.natDetectionSourceIp response = some source ∧
      notifyData notify_type.natDetectionDestinationIp response = some destination ∧
      peerIsBehindNat toy source sa.spiI sa.spiR Toy.natResponder.ip Toy.natResponder.port = false ∧
      weAreBehindNat toy destination sa.spiI sa.spiR Toy.natInside.ip Toy.natInside.port = true := by
  have run : (Toy.establishedOf Toy.natAnswer).any (fun answer => decide
      (Sha1.NoCollision toy [⟨answer.2.spiI, answer.2.spiR, Toy.natResponder⟩,
          ⟨answer.2.spiI, answer.2.spiR, Toy.natResponder⟩] ∧
        Sha1.NoCollision toy [⟨answer.2.spiI, answer.2.spiR, Toy.natOutside⟩,
          ⟨answer.2.spiI, answer.2.spiR, Toy.natInside⟩])) = true := by
    decide +kernel
  obtain ⟨⟨response, sa⟩, found, checked⟩ := (Option.any_eq_true _ _).mp run
  obtain ⟨noCollision, translated⟩ := of_decide_eq_true checked
  have answered := Toy.establishedOf_eq_some found
  obtain ⟨source, destination, hasSource, hasDestination, exactly⟩ := nat_detection_exact toy Toy.responderSecret
    (by decide) Toy.saInitRequest Toy.natResponder Toy.natOutside none response sa answered
  refine ⟨response, sa, source, destination, answered, hasSource, hasDestination, ?_, ?_⟩
  · exact ((exactly sa.spiI sa.spiR Toy.natResponder).1 noCollision).mpr ⟨rfl, rfl, rfl⟩
  · have differs := mt ((exactly sa.spiI sa.spiR Toy.natInside).2 translated).mp
      (fun same => absurd same.2.2 (by decide))
    exact eq_true_of_ne_false differs

end Ryke.Ikev2
