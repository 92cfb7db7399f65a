import Ryke.Primitives

/-! IKEv2 message framing: the fixed header and the generic payload chain. A chain
that the builder wrote is read back payload by payload, whatever bytes follow it,
and a chain cut short anywhere is reported as an error. -/

namespace Ryke.Ikev2
open Lib

inductive ExchangeType where
  | ikeSaInit
  | ikeAuth
  | createChildSa
  | informational
  | other (value : UInt8)
  deriving DecidableEq, Repr

namespace ExchangeType

def fromU8 (value : UInt8) : ExchangeType :=
  match value with
  | 34 => .ikeSaInit
  | 35 => .ikeAuth
  | 36 => .createChildSa
  | 37 => .informational
  | value => .other value

def toU8 : ExchangeType → UInt8
  | .ikeSaInit => 34
  | .ikeAuth => 35
  | .createChildSa => 36
  | .informational => 37
  | .other value => value

end ExchangeType

inductive PayloadType where
  | noNext
  | securityAssociation
  | keyExchange
  | idInitiator
  | idResponder
  | certificate
  | certRequest
  | authentication
  | nonce
  | notify
  | delete
  | vendorId
  | trafficSelectorInitiator
  | trafficSelectorResponder
  | encrypted
  | configuration
  | eap
  | encryptedFragment
  | other (value : UInt8)
  deriving DecidableEq, Repr

namespace PayloadType

def fromU8 (value : UInt8) : PayloadType :=
  match value with
  | 0 => .noNext
  | 33 => .securityAssociation
  | 34 => .keyExchange
  | 35 => .idInitiator
  | 36 => .idResponder
  | 37 => .certificate
  | 38 => .certRequest
  | 39 => .authentication
  | 40 => .nonce
  | 41 => .notify
  | 42 => .delete
  | 43 => .vendorId
  | 44 => .trafficSelectorInitiator
  | 45 => .trafficSelectorResponder
  | 46 => .encrypted
  | 47 => .configuration
  | 48 => .eap
  | 53 => .encryptedFragment
  | value => .other value

def toU8 : PayloadType → UInt8
  | .noNext => 0
  | .securityAssociation => 33
  | .keyExchange => 34
  | .idInitiator => 35
  | .idResponder => 36
  | .certificate => 37
  | .certRequest => 38
  | .authentication => 39
  | .nonce => 40
  | .notify => 41
  | .delete => 42
  | .vendorId => 43
  | .trafficSelectorInitiator => 44
  | .trafficSelectorResponder => 45
  | .encrypted => 46
  | .configuration => 47
  | .eap => 48
  | .encryptedFragment => 53
  | .other value => value

/-- The types that survive the wire and stand for a payload. -/
def Proper (payloadType : PayloadType) : Prop :=
  fromU8 payloadType.toU8 = payloadType ∧ payloadType ≠ .noNext

instance (payloadType : PayloadType) : Decidable payloadType.Proper :=
  inferInstanceAs (Decidable (_ ∧ _))

end PayloadType

structure Flags where
  initiator : Bool
  version : Bool
  response : Bool
  deriving DecidableEq, Repr

namespace Flags

def fromU8 (value : UInt8) : Flags where
  initiator := value &&& 0x08 != 0
  version := value &&& 0x10 != 0
  response := value &&& 0x20 != 0

def toU8 (flags : Flags) : UInt8 :=
  (if flags.initiator then 0x08 else 0) ||| (if flags.version then 0x10 else 0) |||
    (if flags.response then 0x20 else 0)

@[simp] theorem fromU8_toU8 (flags : Flags) : fromU8 flags.toU8 = flags := by
  obtain ⟨initiator, version, response⟩ := flags
  cases initiator <;> cases version <;> cases response <;> rfl

end Flags

structure IkeHeader where
  initiatorSpi : UInt64
  responderSpi : UInt64
  nextPayload : PayloadType
  majorVersion : UInt8
  minorVersion : UInt8
  exchangeType : ExchangeType
  flags : Flags
  messageId : UInt32
  length : UInt32
  deriving DecidableEq, Repr

namespace IkeHeader

def len : Nat := 28

def parse (input : Bytes) : Result IkeHeader :=
  if input.length < len then .error (.truncated len input.length)
  else
    let version := byteAt input 17
    .ok {
      initiatorSpi := u64At input 0
      responderSpi := u64At input 8
      nextPayload := PayloadType.fromU8 (byteAt input 16)
      majorVersion := version >>> 4
      minorVersion := version &&& 0x0f
      exchangeType := ExchangeType.fromU8 (byteAt input 18)
      flags := Flags.fromU8 (byteAt input 19)
      messageId := u32At input 20
      length := u32At input 24 }

def toBytes (header : IkeHeader) : Bytes :=
  u64Bytes header.initiatorSpi ++ u64Bytes header.responderSpi ++
    [header.nextPayload.toU8, (header.majorVersion <<< 4) ||| (header.minorVersion &&& 0x0f),
      header.exchangeType.toU8, header.flags.toU8] ++
    u32Bytes header.messageId ++ u32Bytes header.length

/-- The headers whose every field survives the wire. -/
structure WellFormed (header : IkeHeader) : Prop where
  next : PayloadType.fromU8 header.nextPayload.toU8 = header.nextPayload
  major : header.majorVersion < 16
  minor : header.minorVersion < 16
  exchange : ExchangeType.fromU8 header.exchangeType.toU8 = header.exchangeType

@[simp] theorem toBytes_length (header : IkeHeader) : header.toBytes.length = len := rfl

private theorem version_nibbles (major minor : UInt8) (majorSmall : major < 16) (minorSmall : minor < 16) :
    ((major <<< 4) ||| (minor &&& 0x0f)) >>> 4 = major ∧
      ((major <<< 4) ||| (minor &&& 0x0f)) &&& 0x0f = minor := by
  have every : ∀ x y : Fin 16,
      ((UInt8.ofNat x.val <<< 4) ||| (UInt8.ofNat y.val &&& 0x0f)) >>> 4 = UInt8.ofNat x.val ∧
        ((UInt8.ofNat x.val <<< 4) ||| (UInt8.ofNat y.val &&& 0x0f)) &&& 0x0f = UInt8.ofNat y.val := by
    decide +kernel
  simpa using every ⟨major.toNat, majorSmall⟩ ⟨minor.toNat, minorSmall⟩

theorem parse_toBytes {header : IkeHeader} (formed : header.WellFormed) (rest : Bytes) :
    parse (header.toBytes ++ rest) = .ok header := by
  obtain ⟨high, low⟩ := version_nibbles _ _ formed.major formed.minor
  have long : ¬ (header.toBytes ++ rest).length < len := by simp
  rw [parse, if_neg long]
  simp only [toBytes, u64Bytes, u32Bytes, u64At, u32At, List.cons_append, List.nil_append,
    byteAt_cons_zero, byteAt_cons_succ, be64_split, be32_split, formed.next, formed.exchange, high, low,
    Flags.fromU8_toU8]

theorem parse_eq_ok_length {input : Bytes} {header : IkeHeader} (parsed : parse input = .ok header) :
    len ≤ input.length := by
  obtain ⟨long, -⟩ := guard_eq_ok parsed
  omega

end IkeHeader

/-! ## The payload chain -/

structure RawPayload where
  payloadType : PayloadType
  critical : Bool
  data : Bytes
  deriving DecidableEq, Repr

structure PayloadIter where
  nextType : PayloadType
  rest : Bytes
  done : Bool

namespace PayloadIter

/-- `Iterator::next`. -/
def next (iter : PayloadIter) : Option (Result RawPayload × PayloadIter) :=
  if iter.done = true ∨ iter.nextType = .noNext then none
  else if iter.rest.length < 4 then
    some (.error (.truncated 4 iter.rest.length), { iter with done := true })
  else
    let length := u16At iter.rest 2
    if length.toNat < 4 then
      some (.error (.shortPayload length), { iter with done := true })
    else if length.toNat > iter.rest.length then
      some (.error (.badLength length.toNat iter.rest.length), { iter with done := true })
    else
      some (.ok {
          payloadType := iter.nextType
          critical := byteAt iter.rest 1 &&& 0x80 != 0
          data := slice iter.rest 4 length.toNat },
        { iter with
          rest := iter.rest.drop length.toNat
          nextType := PayloadType.fromU8 (byteAt iter.rest 0) })

def collect : Nat → PayloadIter → List (Result RawPayload)
  | 0, _ => []
  | fuel + 1, iter =>
      match iter.next with
      | none => []
      | some (item, iter) => item :: collect fuel iter

end PayloadIter

/-- Every item the iterator yields, the error that stops it included. -/
def payloads (first : PayloadType) (body : Bytes) : List (Result RawPayload) :=
  PayloadIter.collect (body.length + 1) ⟨first, body, false⟩

namespace PayloadIter

theorem collect_done (fuel : Nat) (first : PayloadType) (body : Bytes) :
    collect fuel ⟨first, body, true⟩ = [] := by
  cases fuel <;> simp [collect, next]

theorem next_cases (first : PayloadType) (body : Bytes) :
    next ⟨first, body, false⟩ = none ∨
      (∃ error, next ⟨first, body, false⟩ = some (.error error, ⟨first, body, true⟩)) ∨
      ∃ payload following rest, rest.length < body.length ∧
        next ⟨first, body, false⟩ = some (.ok payload, ⟨following, rest, false⟩) := by
  unfold next
  dsimp only
  split
  next stop => exact .inl rfl
  next more =>
    split
    next short => exact .inr (.inl ⟨_, rfl⟩)
    next long =>
      split
      next tiny => exact .inr (.inl ⟨_, rfl⟩)
      next header =>
        split
        next beyond => exact .inr (.inl ⟨_, rfl⟩)
        next fits => exact .inr (.inr ⟨_, _, _, by simp only [List.length_drop]; omega, rfl⟩)

theorem collect_congr (first : PayloadType) (body : Bytes) (fuel other : Nat)
    (enough : body.length < fuel) (enoughOther : body.length < other) :
    collect fuel ⟨first, body, false⟩ = collect other ⟨first, body, false⟩ := by
  induction fuel generalizing first body other with
  | zero => omega
  | succ fuel ih =>
    obtain ⟨other, rfl⟩ : ∃ fewer, other = fewer + 1 := ⟨other - 1, by omega⟩
    rw [collect, collect]
    rcases next_cases first body with stop | ⟨error, wrong⟩ | ⟨payload, following, rest, shorter, step⟩
    · rw [stop]
    · rw [wrong]
      simp only [collect_done]
    · rw [step]
      dsimp only
      rw [ih following rest other (by omega) (by omega)]

theorem collect_fuel (first : PayloadType) (body : Bytes) (fuel : Nat) (enough : body.length < fuel) :
    collect fuel ⟨first, body, false⟩ = payloads first body :=
  collect_congr first body fuel _ enough (by omega)

end PayloadIter

theorem payloads_noNext (body : Bytes) : payloads .noNext body = [] := by
  simp [payloads, PayloadIter.collect, PayloadIter.next]

theorem payloads_step {first : PayloadType} (more : first ≠ .noNext) (body : Bytes) :
    payloads first body =
      if body.length < 4 then [.error (.truncated 4 body.length)]
      else if (u16At body 2).toNat < 4 then [.error (.shortPayload (u16At body 2))]
      else if (u16At body 2).toNat > body.length then
        [.error (.badLength (u16At body 2).toNat body.length)]
      else
        .ok ⟨first, byteAt body 1 &&& 0x80 != 0, slice body 4 (u16At body 2).toNat⟩ ::
          payloads (PayloadType.fromU8 (byteAt body 0)) (body.drop (u16At body 2).toNat) := by
  have go : ¬ (false = true ∨ first = PayloadType.noNext) := by simp [more]
  rw [payloads, PayloadIter.collect, PayloadIter.next, if_neg go]
  dsimp only
  by_cases short : body.length < 4
  · simp only [if_pos short, PayloadIter.collect_done]
  · by_cases tiny : (u16At body 2).toNat < 4
    · simp only [if_neg short, if_pos tiny, PayloadIter.collect_done]
    · by_cases beyond : (u16At body 2).toNat > body.length
      · simp only [if_neg short, if_neg tiny, if_pos beyond, PayloadIter.collect_done]
      · simp only [if_neg short, if_neg tiny, if_neg beyond]
        rw [PayloadIter.collect_fuel _ _ _ (by simp only [List.length_drop]; omega)]

abbrev Payload := PayloadType × Bytes

def raw (payload : Payload) : RawPayload := ⟨payload.1, false, payload.2⟩

def firstPayloadType (chain : List Payload) : PayloadType :=
  match chain with
  | [] => .noNext
  | (payloadType, _) :: _ => payloadType

def encodePayloadChain : List Payload → Bytes
  | [] => []
  | (_, body) :: rest =>
      [(firstPayloadType rest).toU8, 0] ++ u16Bytes (UInt16.ofNat (4 + body.length)) ++ body ++
        encodePayloadChain rest

theorem encodePayloadChain_length (chain : List Payload) :
    (encodePayloadChain chain).length = (chain.map fun payload => 4 + payload.2.length).sum := by
  induction chain with
  | nil => rfl
  | cons payload rest ih =>
    rw [List.map_cons, List.sum_cons, ← ih]
    simp only [encodePayloadChain, List.length_append, List.length_cons, List.length_nil, u16Bytes_length]

/-- A payload that its 16-bit length field can describe. -/
def Fits (payload : Payload) : Prop := payload.1.Proper ∧ 4 + payload.2.length < 65536

instance (payload : Payload) : Decidable (Fits payload) := inferInstanceAs (Decidable (_ ∧ _))

theorem Fits.of {payloadType : PayloadType} {body : Bytes} (proper : payloadType.Proper)
    (small : 4 + body.length < 65536) : Fits (payloadType, body) := ⟨proper, small⟩

theorem fromU8_firstPayloadType {chain : List Payload} (fits : ∀ payload ∈ chain, Fits payload) :
    PayloadType.fromU8 (firstPayloadType chain).toU8 = firstPayloadType chain := by
  cases chain with
  | nil => rfl
  | cons payload rest => exact (fits payload List.mem_cons_self).1.1

private theorem declared_length {body : Bytes} (small : 4 + body.length < 65536) :
    (UInt16.ofNat (4 + body.length)).toNat = 4 + body.length := by
  simp [small]

theorem payloads_frame {first next : PayloadType} {body : Bytes} (more : first ≠ .noNext)
    (canonical : PayloadType.fromU8 next.toU8 = next) (small : 4 + body.length < 65536) (rest : Bytes) :
    payloads first ([next.toU8, 0] ++ u16Bytes (UInt16.ofNat (4 + body.length)) ++ body ++ rest) =
      .ok ⟨first, false, body⟩ :: payloads next rest := by
  have declared := declared_length small
  have length : u16At ([next.toU8, 0] ++ u16Bytes (UInt16.ofNat (4 + body.length)) ++ body ++ rest) 2 =
      UInt16.ofNat (4 + body.length) := by
    simp only [u16Bytes, u16At, List.cons_append, List.nil_append, byteAt_cons_zero, byteAt_cons_succ,
      be16_split]
  have total : ([next.toU8, 0] ++ u16Bytes (UInt16.ofNat (4 + body.length)) ++ body ++ rest).length =
      4 + body.length + rest.length := by
    simp
    omega
  rw [payloads_step more, length, declared, total, if_neg (by omega), if_neg (by omega),
    if_neg (by omega)]
  have data : slice ([next.toU8, 0] ++ u16Bytes (UInt16.ofNat (4 + body.length)) ++ body ++ rest) 4
      (4 + body.length) = body := by
    rw [List.append_assoc]
    exact slice_append_mid rfl rfl
  have behind : ([next.toU8, 0] ++ u16Bytes (UInt16.ofNat (4 + body.length)) ++ body ++ rest).drop
      (4 + body.length) = rest := by
    rw [List.drop_left' (by simp; omega)]
  rw [data, behind]
  simp only [List.cons_append, byteAt_cons_zero, byteAt_cons_succ, canonical]
  rfl

/-- What the builder framed is what the walk yields, whatever follows the chain. -/
theorem payloads_encodePayloadChain {chain : List Payload} (fits : ∀ payload ∈ chain, Fits payload)
    (rest : Bytes) :
    payloads (firstPayloadType chain) (encodePayloadChain chain ++ rest) =
      chain.map (fun payload => .ok (raw payload)) := by
  induction chain with
  | nil => exact payloads_noNext rest
  | cons payload chain ih =>
    obtain ⟨payloadType, body⟩ := payload
    have here : Fits (payloadType, body) := fits _ List.mem_cons_self
    have later : ∀ payload ∈ chain, Fits payload := fun p member => fits p (List.mem_cons_of_mem _ member)
    rw [encodePayloadChain, List.append_assoc, firstPayloadType,
      payloads_frame here.1.2 (fromU8_firstPayloadType later) here.2, ih later]
    rfl

theorem length_le_encodePayloadChain {chain : List Payload} {payload : Payload} (member : payload ∈ chain) :
    4 + payload.2.length ≤ (encodePayloadChain chain).length := by
  induction chain with
  | nil => cases member
  | cons first rest ih =>
    simp only [encodePayloadChain, List.length_append, List.length_cons, List.length_nil, u16Bytes_length]
    rcases List.mem_cons.mp member with rfl | inRest
    · omega
    · have inner := ih inRest
      omega

/-- A chain that loses any of its last bytes no longer reads without an error. -/
theorem payloads_cut {chain : List Payload} (fits : ∀ payload ∈ chain, Fits payload) {front lost : Bytes}
    (cut : front ++ lost = encodePayloadChain chain) (nonempty : lost ≠ []) :
    ∃ error, .error error ∈ payloads (firstPayloadType chain) front := by
  induction chain generalizing front with
  | nil =>
    rw [encodePayloadChain, List.append_eq_nil_iff] at cut
    exact absurd cut.2 nonempty
  | cons payload chain ih =>
    obtain ⟨payloadType, body⟩ := payload
    have here : Fits (payloadType, body) := fits _ List.mem_cons_self
    have later : ∀ payload ∈ chain, Fits payload := fun p member => fits p (List.mem_cons_of_mem _ member)
    have declared := declared_length here.2
    rw [encodePayloadChain] at cut
    rcases List.append_eq_append_iff.mp cut with ⟨tail, whole, rest⟩ | ⟨tail, whole, rest⟩
    · -- the cut falls inside this payload
      by_cases full : tail = []
      · subst full
        rw [List.append_nil] at whole
        rw [← whole, firstPayloadType]
        have walk := payloads_frame here.1.2 (fromU8_firstPayloadType later) here.2 []
        rw [List.append_nil] at walk
        have all_lost : [] ++ lost = encodePayloadChain chain := by simpa using rest
        obtain ⟨error, member⟩ := ih later all_lost
        exact ⟨error, by rw [walk]; exact List.mem_cons_of_mem _ member⟩
      · have shorter : front.length < 4 + body.length := by
          have total := congrArg List.length whole
          have positive := List.length_pos_iff.mpr full
          simp at total
          omega
        rw [firstPayloadType, payloads_step here.1.2]
        by_cases short : front.length < 4
        · rw [if_pos short]
          exact ⟨_, List.mem_singleton.mpr rfl⟩
        · have length : u16At front 2 = UInt16.ofNat (4 + body.length) := by
            have bytes : ∀ i, i < 4 → byteAt front i = byteAt ([(firstPayloadType chain).toU8, 0] ++
                u16Bytes (UInt16.ofNat (4 + body.length)) ++ body) i := by
              intro i inside
              rw [whole, byteAt_append_left (by omega)]
            rw [u16At, bytes 2 (by omega), bytes 3 (by omega)]
            simp only [u16Bytes, List.cons_append, List.nil_append, byteAt_cons_zero, byteAt_cons_succ,
              be16_split]
          rw [if_neg short, length, declared, if_neg (by omega), if_pos (by omega)]
          exact ⟨_, List.mem_singleton.mpr rfl⟩
    · rw [whole, firstPayloadType, payloads_frame here.1.2 (fromU8_firstPayloadType later) here.2]
      obtain ⟨error, member⟩ := ih later rest.symm
      exact ⟨error, List.mem_cons_of_mem _ member⟩

/-- `for payload in payloads(..) { let payload = payload?; .. }`: a loop that stops at
the first malformed payload. -/
def forPayloads {α : Type} (items : List (Result RawPayload)) (init : α)
    (step : α → RawPayload → Result α) : Result α :=
  items.foldlM (fun acc item => item >>= step acc) init

theorem forPayloads_map_ok {α β : Type} (list : List β) (f : β → RawPayload) (init : α)
    (step : α → RawPayload → Result α) :
    forPayloads (list.map fun x => .ok (f x)) init step = list.foldlM (fun acc x => step acc (f x)) init := by
  rw [forPayloads, List.foldlM_map]
  rfl

theorem forPayloads_collect {chain : List Payload} (fits : ∀ payload ∈ chain, Fits payload) :
    forPayloads (payloads (firstPayloadType chain) (encodePayloadChain chain)) []
      (fun out payload => .ok (out ++ [(payload.payloadType, payload.data)])) = .ok chain := by
  have walk := payloads_encodePayloadChain fits []
  rw [List.append_nil] at walk
  have pushes : ∀ (rest out : List Payload),
      rest.foldlM (fun out payload => .ok (out ++ [((raw payload).payloadType, (raw payload).data)])) out =
        (.ok (out ++ rest) : Result (List Payload)) := by
    intro rest
    induction rest with
    | nil =>
      intro out
      rw [List.append_nil]
      rfl
    | cons payload rest ih =>
      intro out
      rw [List.foldlM_cons, ok_bind, ih, List.append_assoc]
      rfl
  rw [walk, forPayloads_map_ok]
  exact pushes chain []

/-- A loop that ran to its end ran over well-formed payloads only. -/
theorem forPayloads_eq_ok {α : Type} {items : List (Result RawPayload)} {init result : α}
    {step : α → RawPayload → Result α} (done : forPayloads items init step = .ok result) :
    ∃ chain : List RawPayload, items = chain.map .ok ∧ chain.foldlM step init = .ok result := by
  induction items generalizing init with
  | nil => exact ⟨[], rfl, done⟩
  | cons item rest ih =>
    rw [forPayloads, List.foldlM_cons] at done
    obtain ⟨acc, first, later⟩ := bind_eq_ok done
    obtain ⟨payload, rfl, here⟩ := bind_eq_ok first
    obtain ⟨chain, rfl, others⟩ := ih later
    exact ⟨payload :: chain, rfl, by rw [List.foldlM_cons, here]; exact others⟩

theorem forPayloads_no_error {α : Type} {items : List (Result RawPayload)} {init result : α}
    {step : α → RawPayload → Result α} (done : forPayloads items init step = .ok result)
    (error : IkeError) : .error error ∉ items := by
  obtain ⟨chain, rfl, -⟩ := forPayloads_eq_ok done
  intro member
  obtain ⟨payload, -, wrong⟩ := List.mem_map.mp member
  cases wrong

/-! ## Whole messages -/

structure MessageBuilder where
  header : IkeHeader
  payloads : List Payload

namespace MessageBuilder

def fullHeader (builder : MessageBuilder) : IkeHeader :=
  { builder.header with
    nextPayload := firstPayloadType builder.payloads
    length := UInt32.ofNat (IkeHeader.len + (encodePayloadChain builder.payloads).length) }

def build (builder : MessageBuilder) : Bytes :=
  builder.fullHeader.toBytes ++ encodePayloadChain builder.payloads

/-- The builders whose message can be read back. -/
structure WellFormed (builder : MessageBuilder) : Prop where
  major : builder.header.majorVersion < 16
  minor : builder.header.minorVersion < 16
  exchange : ExchangeType.fromU8 builder.header.exchangeType.toU8 = builder.header.exchangeType
  fits : ∀ payload ∈ builder.payloads, Fits payload

theorem parse_build {builder : MessageBuilder} (formed : builder.WellFormed) (rest : Bytes) :
    IkeHeader.parse (builder.build ++ rest) = .ok builder.fullHeader := by
  have header : builder.fullHeader.WellFormed :=
    ⟨fromU8_firstPayloadType formed.fits, formed.major, formed.minor, formed.exchange⟩
  rw [build, List.append_assoc, IkeHeader.parse_toBytes header]

theorem build_drop (builder : MessageBuilder) (rest : Bytes) :
    (builder.build ++ rest).drop IkeHeader.len = encodePayloadChain builder.payloads ++ rest := by
  rw [build, List.append_assoc, List.drop_left' builder.fullHeader.toBytes_length]

theorem payloads_build {builder : MessageBuilder} (formed : builder.WellFormed) (rest : Bytes) :
    Ikev2.payloads builder.fullHeader.nextPayload ((builder.build ++ rest).drop IkeHeader.len) =
      builder.payloads.map (fun payload => .ok (raw payload)) := by
  rw [build_drop]
  exact payloads_encodePayloadChain formed.fits rest

theorem payloads_cut_build {builder : MessageBuilder} (formed : builder.WellFormed) {front lost : Bytes}
    (cut : front ++ lost = builder.build) (nonempty : lost ≠ []) {header : IkeHeader}
    (parsed : IkeHeader.parse front = .ok header) :
    ∃ error, .error error ∈ Ikev2.payloads header.nextPayload (front.drop IkeHeader.len) := by
  have long := IkeHeader.parse_eq_ok_length parsed
  have next : header.nextPayload = firstPayloadType builder.payloads := by
    unfold IkeHeader.parse at parsed
    rw [if_neg (by omega)] at parsed
    have inside : 16 < front.length := by
      simp only [IkeHeader.len] at long
      omega
    rw [← Except.ok.inj parsed]
    dsimp only
    rw [← byteAt_append_left inside, cut]
    exact fromU8_firstPayloadType formed.fits
  have chain : front.drop IkeHeader.len ++ lost = encodePayloadChain builder.payloads := by
    rw [← List.drop_append_of_le_length long, cut]
    simpa using builder.build_drop []
  rw [next]
  exact payloads_cut formed.fits chain nonempty

end MessageBuilder

end Ryke.Ikev2
