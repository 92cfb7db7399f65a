import Mathlib.Data.List.Pairwise
import Mathlib.Data.List.Perm.Basic
import Mathlib.Data.List.Sort
import Ryke.Ikev2.Sk
import Ryke.Toy

/-! IKE message fragmentation. Each fragment is sealed on its own, and a set of
fragments is put together by number and total alone. -/

namespace Ryke.Ikev2
open Lib

def skfExtra : Nat := 4
def skfMinBody : Nat := skfExtra + ivLen + icvLen

/-- `slice::chunks`: pieces of `size` bytes, the last one possibly shorter. -/
def chunksOf (size : Nat) : Nat → Bytes → List Bytes
  | 0, _ => []
  | _ + 1, [] => []
  | fuel + 1, rest => rest.take size :: chunksOf size fuel (rest.drop size)

structure FragmentCall where
  header : IkeHeader
  firstInner : PayloadType
  inner : Bytes
  ivBase : UInt64
  contentPerFragment : Nat

namespace FragmentCall

def chunks (call : FragmentCall) : List Bytes :=
  if call.inner.isEmpty then [[]] else chunksOf call.contentPerFragment call.inner.length call.inner

def total (call : FragmentCall) : UInt16 := UInt16.ofNat call.chunks.length

def fragNum (index : Nat) : UInt16 := UInt16.ofNat (index + 1)

def skfPayloadLen (chunk : Bytes) : Nat := 4 + skfExtra + ivLen + (chunk.length + 1) + icvLen

def nextByte (call : FragmentCall) (index : Nat) : UInt8 :=
  if fragNum index = 1 then call.firstInner.toU8 else 0

/-- IKE header, SKF generic header, fragment number and total: everything before the IV. -/
def aad (call : FragmentCall) (chunk : Bytes) (index : Nat) : Bytes :=
  { call.header with
    nextPayload := .encryptedFragment
    length := UInt32.ofNat (IkeHeader.len + skfPayloadLen chunk) : IkeHeader }.toBytes ++
    ([call.nextByte index, 0] ++ u16Bytes (UInt16.ofNat (skfPayloadLen chunk)) ++
      u16Bytes (fragNum index) ++ u16Bytes call.total)

def iv (call : FragmentCall) (index : Nat) : Iv := .ofU64 (call.ivBase + (fragNum index).toUInt64)

def fragment (P : Primitives) (skE : Bytes) (call : FragmentCall) (chunk : Bytes) (index : Nat) :
    Result Bytes := do
  let ctAndTag ← gcmSeal P skE (call.iv index) (call.aad chunk index) (chunk ++ [0])
  .ok (call.aad chunk index ++ ((call.iv index).bytes ++ ctAndTag))

/-- The loop of `build_fragments` from piece number `index` on. -/
def fragments (P : Primitives) (skE : Bytes) (call : FragmentCall) : List Bytes → Nat → Result (List Bytes)
  | [], _ => .ok []
  | chunk :: rest, index => do
      let message ← call.fragment P skE chunk index
      let later ← fragments P skE call rest (index + 1)
      .ok (message :: later)

def buildFragments (P : Primitives) (skE : Bytes) (call : FragmentCall) : Result (List Bytes) :=
  if call.contentPerFragment = 0 then .error (.crypto "fragment content size must be > 0")
  else call.fragments P skE call.chunks 0

end FragmentCall

structure Fragment where
  fragNum : UInt16
  total : UInt16
  nextPayload : UInt8
  content : Bytes
  deriving DecidableEq, Repr

def openFragment (P : Primitives) (message skE : Bytes) : Result Fragment := do
  let header ← IkeHeader.parse message
  if header.nextPayload ≠ .encryptedFragment then .error (.missingPayload "SKF")
  else
    let body := message.drop IkeHeader.len
    if body.length < 4 + skfMinBody then .error (.truncated (4 + skfMinBody) body.length)
    else
      let declared := (u16At body 2).toNat
      if declared < 4 + skfMinBody ∨ declared > body.length then .error (.badLength declared body.length)
      else do
        let plaintext ← gcmOpen P skE (slice body 8 16) (message.take (IkeHeader.len + 4 + skfExtra))
          (slice body 16 declared)
        let content ← stripPadding "empty fragment" "pad length exceeds fragment" plaintext
        .ok ⟨u16At body 4, u16At body 6, byteAt body 0, content⟩

def sortByNum (frags : List Fragment) : List Fragment :=
  frags.insertionSort fun a b => a.fragNum ≤ b.fragNum

def joinFragments (frags : List Fragment) : Result (PayloadType × Bytes) :=
  match frags with
  | [] => .error (.crypto "no fragments")
  | first :: _ =>
      let total := first.total
      if total = 0 ∨ frags.any (fun f => f.total ≠ total) then
        .error (.crypto "inconsistent Total Fragments")
      else if frags.length ≠ total.toNat then .error (.crypto "wrong number of fragments")
      else
        let frags := sortByNum frags
        if frags.zipIdx.any (fun (f, i) => f.fragNum ≠ UInt16.ofNat (i + 1)) then
          .error (.crypto "duplicate or missing fragment number")
        else
          .ok (PayloadType.fromU8 ((frags.head?.map Fragment.nextPayload).getD 0),
            frags.flatMap Fragment.content)

def reassemble (P : Primitives) (messages : List Bytes) (skE : Bytes) : Result (PayloadType × Bytes) := do
  let frags ← messages.mapM (openFragment P · skE)
  joinFragments frags

/-! ## What one fragment opens to -/

namespace FragmentCall

/-- The calls whose counts and lengths fit their 16-bit fields. -/
structure InRange (call : FragmentCall) : Prop where
  firstInner : PayloadType.fromU8 call.firstInner.toU8 = call.firstInner
  count : call.chunks.length < 65536
  sizes : ∀ chunk ∈ call.chunks, skfPayloadLen chunk < 65536

def fragmentAt (call : FragmentCall) (chunk : Bytes) (index : Nat) : Fragment :=
  ⟨fragNum index, call.total, call.nextByte index, chunk⟩

theorem aad_length (call : FragmentCall) (chunk : Bytes) (index : Nat) :
    (call.aad chunk index).length = IkeHeader.len + 4 + skfExtra := rfl

def skfHead (call : FragmentCall) (chunk : Bytes) (index : Nat) : Bytes :=
  [call.nextByte index, 0] ++ u16Bytes (UInt16.ofNat (skfPayloadLen chunk)) ++ u16Bytes (fragNum index) ++
    u16Bytes call.total

theorem skfHead_length (call : FragmentCall) (chunk : Bytes) (index : Nat) :
    (call.skfHead chunk index).length = 8 := rfl

theorem skfHead_fields (call : FragmentCall) (chunk : Bytes) (index : Nat) (rest : Bytes) :
    byteAt (call.skfHead chunk index ++ rest) 0 = call.nextByte index ∧
      u16At (call.skfHead chunk index ++ rest) 2 = UInt16.ofNat (skfPayloadLen chunk) ∧
      u16At (call.skfHead chunk index ++ rest) 4 = fragNum index ∧
      u16At (call.skfHead chunk index ++ rest) 6 = call.total := by
  refine ⟨rfl, ?_, ?_, ?_⟩ <;>
    simp only [skfHead, u16At, u16Bytes, List.cons_append, List.nil_append, byteAt_cons_zero, byteAt_cons_succ,
      be16_split]

theorem aad_drop (call : FragmentCall) (chunk : Bytes) (index : Nat) (rest : Bytes) :
    (call.aad chunk index ++ rest).drop IkeHeader.len = call.skfHead chunk index ++ rest := by
  rw [aad, List.append_assoc, List.drop_left' (IkeHeader.toBytes_length _), skfHead]

theorem skf_length {P : Primitives} {skE aad chunk sealed : Bytes} {iv : Iv}
    (sealing : gcmSeal P skE iv aad (chunk ++ [0]) = .ok sealed) (call : FragmentCall) (index : Nat) :
    (call.skfHead chunk index ++ (iv.bytes ++ sealed)).length = skfPayloadLen chunk := by
  rw [List.length_append, List.length_append, skfHead_length, iv.size, gcmSeal_length sealing, List.length_append,
    List.length_singleton]
  simp only [skfPayloadLen, skfExtra, ivLen]
  omega

theorem openFragment_fragment {P : Primitives} (correct : P.GcmCorrect) {skE : Bytes}
    {call : FragmentCall} {chunk message : Bytes} {index : Nat} (small : skfPayloadLen chunk < 65536)
    (built : call.fragment P skE chunk index = .ok message) :
    openFragment P message skE = .ok (call.fragmentAt chunk index) := by
  obtain ⟨sealed, sealing, built⟩ := bind_eq_ok built
  cases built
  have long : ¬ (call.aad chunk index ++ ((call.iv index).bytes ++ sealed)).length < IkeHeader.len := by
    rw [List.length_append, aad_length]
    omega
  have front : (call.aad chunk index ++ ((call.iv index).bytes ++ sealed)).take
      (IkeHeader.len + 4 + skfExtra) = call.aad chunk index := List.take_left' (aad_length call chunk index)
  have declared : (UInt16.ofNat (skfPayloadLen chunk)).toNat = skfPayloadLen chunk := by simp [small]
  have total := skf_length sealing call index
  obtain ⟨next, length, number, count⟩ := call.skfHead_fields chunk index ((call.iv index).bytes ++ sealed)
  have ivPart : slice (call.skfHead chunk index ++ ((call.iv index).bytes ++ sealed)) 8 16 = (call.iv index).bytes :=
    slice_append_mid rfl (by rw [skfHead_length, (call.iv index).size])
  have ctPart : slice (call.skfHead chunk index ++ ((call.iv index).bytes ++ sealed)) 16 (skfPayloadLen chunk) =
      sealed := by
    rw [← List.append_assoc] at total ⊢
    apply slice_append_end
    · rw [List.length_append, skfHead_length, (call.iv index).size]
    · rw [← List.length_append]
      exact total.symm
  have least : 4 + skfMinBody ≤ skfPayloadLen chunk := by
    simp only [skfMinBody, skfPayloadLen, skfExtra, ivLen, icvLen]
    omega
  have kind : PayloadType.fromU8 (byteAt (call.aad chunk index ++ ((call.iv index).bytes ++ sealed)) 16) =
      .encryptedFragment := rfl
  have isFragment : ¬ PayloadType.encryptedFragment ≠ .encryptedFragment := by decide
  rw [openFragment, IkeHeader.parse, if_neg long, aad_drop, front, ok_bind]
  dsimp only
  rw [kind, if_neg isFragment, total, if_neg (by omega), length, declared, if_neg (by omega), ivPart, ctPart,
    gcmOpen_gcmSeal correct sealing, number, count, next]
  change (do
    let content ← stripPadding "empty fragment" "pad length exceeds fragment" (chunk ++ [0])
    Except.ok (Fragment.mk (fragNum index) call.total (call.nextByte index) content)) = _
  rw [stripPadding_zero]
  rfl

theorem chunksOf_flatten {size : Nat} (positive : 0 < size) (fuel : Nat) (bytes : Bytes)
    (enough : bytes.length ≤ fuel) : (chunksOf size fuel bytes).flatten = bytes := by
  induction fuel generalizing bytes with
  | zero =>
    obtain rfl := List.length_eq_zero_iff.mp (Nat.le_zero.mp enough)
    rfl
  | succ fuel ih =>
    cases bytes with
    | nil => rfl
    | cons b rest =>
      have shorter : ((b :: rest).drop size).length ≤ fuel := by
        simp only [List.length_drop, List.length_cons] at enough ⊢
        omega
      rw [chunksOf, List.flatten_cons, ih _ shorter, List.take_append_drop]
      exact nofun

theorem chunks_flatten {call : FragmentCall} (positive : 0 < call.contentPerFragment) :
    call.chunks.flatten = call.inner := by
  unfold chunks
  split
  next empty => simpa using (List.isEmpty_iff.mp empty).symm
  next => exact chunksOf_flatten positive _ _ le_rfl

theorem chunks_ne_nil (call : FragmentCall) : call.chunks ≠ [] := by
  unfold chunks
  split
  next => exact nofun
  next full =>
    cases inner : call.inner with
    | nil => rw [inner] at full; exact absurd rfl full
    | cons b rest => exact nofun

theorem mem_fragments {P : Primitives} {skE : Bytes} {call : FragmentCall} {pieces : List Bytes}
    {start : Nat} {out : List Bytes} (built : call.fragments P skE pieces start = .ok out)
    {message : Bytes} (member : message ∈ out) :
    ∃ i, ∃ inside : i < pieces.length, call.fragment P skE pieces[i] (start + i) = .ok message := by
  induction pieces generalizing start out with
  | nil =>
    cases built
    cases member
  | cons chunk rest ih =>
    obtain ⟨first, here, built⟩ := bind_eq_ok built
    obtain ⟨later, others, built⟩ := bind_eq_ok built
    cases built
    rcases List.mem_cons.mp member with rfl | inRest
    · exact ⟨0, Nat.zero_lt_succ _, here⟩
    · obtain ⟨i, inside, found⟩ := ih others inRest
      refine ⟨i + 1, Nat.succ_lt_succ inside, ?_⟩
      rwa [List.getElem_cons_succ, Nat.add_comm i 1, ← Nat.add_assoc]

def Made (P : Primitives) (skE : Bytes) (call : FragmentCall) (index : Nat) (message : Bytes) : Prop :=
  ∃ inside : index < call.chunks.length, call.fragment P skE call.chunks[index] index = .ok message

theorem buildFragments_eq_ok {P : Primitives} {skE : Bytes} {call : FragmentCall} {out : List Bytes}
    (built : call.buildFragments P skE = .ok out) :
    0 < call.contentPerFragment ∧ ∀ message ∈ out, ∃ index, call.Made P skE index message := by
  obtain ⟨nonzero, built⟩ := guard_eq_ok built
  refine ⟨Nat.pos_of_ne_zero nonzero, ?_⟩
  intro message member
  obtain ⟨i, inside, found⟩ := mem_fragments built member
  rw [Nat.zero_add] at found
  exact ⟨i, inside, found⟩

end FragmentCall

/-! ## The fields a fragment carries in the clear -/

def messageIdOf (message : Bytes) : UInt32 := u32At message 20
def fragNumOf (message : Bytes) : UInt16 := u16At message 32
def totalOf (message : Bytes) : UInt16 := u16At message 34

theorem FragmentCall.Made.fields {P : Primitives} {skE : Bytes} {call : FragmentCall} {index : Nat}
    {message : Bytes} (made : call.Made P skE index message) :
    messageIdOf message = call.header.messageId ∧ fragNumOf message = fragNum index ∧
      totalOf message = call.total := by
  obtain ⟨inside, built⟩ := made
  obtain ⟨sealed, _, built⟩ := bind_eq_ok built
  cases built
  refine ⟨?_, ?_, ?_⟩ <;>
    simp only [messageIdOf, fragNumOf, totalOf, aad, IkeHeader.toBytes, u64Bytes, u32Bytes, u16Bytes, u32At,
      u16At, List.cons_append, List.nil_append, byteAt_cons_zero, byteAt_cons_succ, be32_split, be16_split]

theorem FragmentCall.Made.opens {P : Primitives} (correct : P.GcmCorrect) {skE : Bytes}
    {call : FragmentCall} (inRange : call.InRange) {index : Nat} {message : Bytes}
    (made : call.Made P skE index message) :
    ∃ inside : index < call.chunks.length,
      openFragment P message skE = .ok (call.fragmentAt call.chunks[index] index) := by
  obtain ⟨inside, built⟩ := made
  exact ⟨inside, openFragment_fragment correct (inRange.sizes _ (List.getElem_mem inside)) built⟩

/-! ## Putting fragments together -/

def numbers (count : Nat) : List UInt16 := (List.range count).map fun i => UInt16.ofNat (i + 1)

theorem ofNat_succ_injective {i j : Nat} (iSmall : i + 1 < 65536) (jSmall : j + 1 < 65536)
    (same : UInt16.ofNat (i + 1) = UInt16.ofNat (j + 1)) : i = j := by
  have values := congrArg UInt16.toNat same
  simp only [UInt16.toNat_ofNat', Nat.mod_eq_of_lt iSmall, Nat.mod_eq_of_lt jSmall] at values
  omega

theorem numbers_sorted {count : Nat} (small : count < 65536) : (numbers count).Pairwise (· ≤ ·) := by
  rw [numbers, List.pairwise_map]
  refine List.pairwise_lt_range.imp_of_mem fun {i j} iIn jIn below => ?_
  rw [List.mem_range] at iIn jIn
  rw [UInt16.le_iff_toNat_le]
  simp only [UInt16.toNat_ofNat']
  omega

theorem sortByNum_numbers_iff {frags : List Fragment} {count : Nat} (small : count < 65536) :
    (sortByNum frags).map Fragment.fragNum = numbers count ↔
      (frags.map Fragment.fragNum).Perm (numbers count) := by
  have commute : (sortByNum frags).map Fragment.fragNum =
      (frags.map Fragment.fragNum).insertionSort (· ≤ ·) :=
    List.map_insertionSort _ _ Fragment.fragNum frags fun _ _ _ _ => Iff.rfl
  rw [commute]
  constructor
  · intro same
    exact same ▸ (List.perm_insertionSort (· ≤ ·) (frags.map Fragment.fragNum)).symm
  · intro perm
    exact ((List.perm_insertionSort _ _).trans perm).eq_of_pairwise'
      (List.pairwise_insertionSort (· ≤ ·) _) (numbers_sorted small)

theorem zipIdx_numbered_iff (frags : List Fragment) :
    (frags.zipIdx.any fun (f, i) => f.fragNum ≠ UInt16.ofNat (i + 1)) = false ↔
      frags.map Fragment.fragNum = numbers frags.length := by
  rw [List.any_eq_false]
  constructor
  · intro each
    apply List.ext_getElem (by simp [numbers])
    intro i inside _
    rw [List.length_map] at inside
    have member : (frags[i], i) ∈ frags.zipIdx := by
      rw [List.mk_mem_zipIdx_iff_getElem?, List.getElem?_eq_getElem inside]
    simpa [numbers] using each _ member
  · rintro same ⟨f, i⟩ member
    rw [List.mk_mem_zipIdx_iff_getElem?] at member
    have value := congrArg (fun list => list[i]?) same
    simp only [List.getElem?_map, member, Option.map_some, numbers] at value
    have inside := (List.getElem?_eq_some_iff.mp member).1
    rw [List.getElem?_range inside] at value
    simpa using value

theorem joinFragments_eq_ok_iff {frags : List Fragment} {first : PayloadType} {inner : Bytes} :
    joinFragments frags = .ok (first, inner) ↔
      frags ≠ [] ∧ (∀ f ∈ frags, f.total.toNat = frags.length) ∧
      (sortByNum frags).map Fragment.fragNum = numbers frags.length ∧
      first = PayloadType.fromU8 (((sortByNum frags).head?.map Fragment.nextPayload).getD 0) ∧
      inner = (sortByNum frags).flatMap Fragment.content := by
  have sortedLength : (sortByNum frags).length = frags.length := List.length_insertionSort _ _
  have numbered := zipIdx_numbered_iff (sortByNum frags)
  rw [sortedLength] at numbered
  cases frags with
  | nil => exact ⟨fun done => (by cases done), fun ⟨full, _⟩ => absurd rfl full⟩
  | cons head rest =>
    rw [joinFragments]
    dsimp only
    constructor
    · intro done
      obtain ⟨consistent, done⟩ := guard_eq_ok done
      obtain ⟨counted, done⟩ := guard_eq_ok done
      obtain ⟨ordered, done⟩ := guard_eq_ok done
      cases done
      have same : ∀ f ∈ head :: rest, f.total = head.total := by
        intro f member
        by_contra different
        exact consistent (.inr (List.any_eq_true.mpr ⟨f, member, by simpa using different⟩))
      refine ⟨List.cons_ne_nil _ _, ?_, numbered.mp (Bool.eq_false_iff.mpr ordered), rfl, rfl⟩
      intro f member
      rw [same f member]
      exact (not_not.mp counted).symm
    · rintro ⟨-, totals, ordered, rfl, rfl⟩
      have headTotal := totals head List.mem_cons_self
      have consistent : ¬ (head.total = 0 ∨ (head :: rest).any (fun f => f.total ≠ head.total) = true) := by
        rintro (zero | different)
        · rw [zero] at headTotal
          exact absurd headTotal (by simp)
        · obtain ⟨f, member, unequal⟩ := List.any_eq_true.mp different
          have sameTotal : f.total = head.total := UInt16.toNat.inj ((totals f member).trans headTotal.symm)
          simp [sameTotal] at unequal
      rw [if_neg consistent, if_neg (not_not.mpr headTotal.symm), numbered.mpr ordered]
      rfl

/-- `message` is one of the messages that one of the calls returned. -/
def DrawnFrom (P : Primitives) (skE : Bytes) (calls : List FragmentCall) (message : Bytes) : Prop :=
  ∃ call ∈ calls, ∃ out, call.buildFragments P skE = .ok out ∧ message ∈ out

/-- An accepted list is the work of one call, and the result is that call's message. -/
def ReassemblesOneCall (P : Primitives) (skE : Bytes) (calls : List FragmentCall)
    (messages : List Bytes) : Prop :=
  ∀ first inner, reassemble P messages skE = .ok (first, inner) →
    ∃ call ∈ calls, ∃ out, call.buildFragments P skE = .ok out ∧ (∀ message ∈ messages, message ∈ out) ∧
      first = call.firstInner ∧ inner = call.inner

/-- The list is numbered as one complete message but carries different message IDs. -/
def Spliced (messages : List Bytes) : Prop :=
  (∃ a ∈ messages, ∃ b ∈ messages, messageIdOf a ≠ messageIdOf b) ∧
    (∀ message ∈ messages, (totalOf message).toNat = messages.length) ∧
    (messages.map fragNumOf).Perm (numbers messages.length)

instance (messages : List Bytes) : Decidable (Spliced messages) :=
  inferInstanceAs (Decidable ((∃ a ∈ messages, ∃ b ∈ messages, messageIdOf a ≠ messageIdOf b) ∧ _ ∧ _))

theorem drawn_open {P : Primitives} (correct : P.GcmCorrect) {skE : Bytes} {calls : List FragmentCall}
    (inRange : ∀ call ∈ calls, call.InRange) {messages : List Bytes}
    (drawn : ∀ message ∈ messages, DrawnFrom P skE calls message) :
    ∃ frags, messages.mapM (openFragment P · skE) = .ok frags ∧
      frags.map Fragment.fragNum = messages.map fragNumOf ∧ frags.map Fragment.total = messages.map totalOf := by
  induction messages with
  | nil => exact ⟨[], rfl, rfl, rfl⟩
  | cons message rest ih =>
    obtain ⟨frags, opened, nums, totals⟩ := ih fun m member => drawn m (List.mem_cons_of_mem _ member)
    obtain ⟨call, member, out, built, isOut⟩ := drawn message List.mem_cons_self
    obtain ⟨index, made⟩ := (FragmentCall.buildFragments_eq_ok built).2 message isOut
    obtain ⟨inside, here⟩ := made.opens correct (inRange call member)
    obtain ⟨-, number, total⟩ := made.fields
    refine ⟨call.fragmentAt call.chunks[index] index :: frags, ?_, ?_, ?_⟩
    · exact mapM_eq_ok.mpr (.cons here (mapM_eq_ok.mp opened))
    · rw [List.map_cons, List.map_cons, nums, number]
      rfl
    · rw [List.map_cons, List.map_cons, totals, total]
      rfl

theorem reassemble_spliced {P : Primitives} (correct : P.GcmCorrect) {skE : Bytes}
    {calls : List FragmentCall} (inRange : ∀ call ∈ calls, call.InRange) {messages : List Bytes}
    (drawn : ∀ message ∈ messages, DrawnFrom P skE calls message) (spliced : Spliced messages) :
    ∃ first inner, reassemble P messages skE = .ok (first, inner) := by
  obtain ⟨⟨a, aIn, -⟩, totals, perm⟩ := spliced
  obtain ⟨frags, opened, nums, sameTotals⟩ := drawn_open correct inRange drawn
  have length : frags.length = messages.length := by simpa using congrArg List.length nums
  have small : messages.length < 65536 := totals a aIn ▸ UInt16.toNat_lt _
  have fragTotals : ∀ f ∈ frags, f.total.toNat = frags.length := by
    intro f member
    have inTotals : f.total ∈ messages.map totalOf := sameTotals ▸ List.mem_map_of_mem member
    obtain ⟨message, isMessage, same⟩ := List.mem_map.mp inTotals
    rw [← same, totals message isMessage, length]
  have ordered : (sortByNum frags).map Fragment.fragNum = numbers frags.length := by
    rw [length, sortByNum_numbers_iff small, nums]
    exact perm
  have full : frags ≠ [] := by
    rintro rfl
    rw [List.length_nil] at length
    exact absurd aIn (List.length_eq_zero_iff.mp length.symm ▸ List.not_mem_nil)
  have joined := joinFragments_eq_ok_iff.mpr ⟨full, fragTotals, ordered, rfl, rfl⟩
  exact ⟨_, _, (congrArg (· >>= joinFragments) opened).trans joined⟩

namespace FragmentCall

def frags (call : FragmentCall) : List Fragment := call.chunks.mapIdx fun i chunk => call.fragmentAt chunk i

theorem frags_length (call : FragmentCall) : call.frags.length = call.chunks.length := by simp [frags]

theorem frags_flatMap_content {call : FragmentCall} (positive : 0 < call.contentPerFragment) :
    call.frags.flatMap Fragment.content = call.inner := by
  have contents : call.frags.map Fragment.content = call.chunks := by
    apply List.ext_getElem (by simp [frags])
    intro i _ _
    simp [frags, fragmentAt]
  rw [List.flatMap_def, contents, chunks_flatten positive]

theorem frags_head (call : FragmentCall) :
    (call.frags.head?.map Fragment.nextPayload).getD 0 = call.firstInner.toU8 := by
  obtain ⟨chunk, rest, form⟩ := List.exists_cons_of_ne_nil call.chunks_ne_nil
  simp [frags, form, fragmentAt, nextByte, fragNum]

theorem frags_total {call : FragmentCall} (inRange : call.InRange) {f : Fragment} (member : f ∈ call.frags) :
    f.total.toNat = call.chunks.length := by
  obtain ⟨i, inside, rfl⟩ := List.getElem_of_mem member
  have small := inRange.count
  simp [frags, fragmentAt, total, small]

theorem eq_frags {call : FragmentCall} (inRange : call.InRange) {list : List Fragment}
    (own : ∀ f ∈ list, f ∈ call.frags) (length : list.length = call.chunks.length)
    (ordered : list.map Fragment.fragNum = numbers list.length) : list = call.frags := by
  apply List.ext_getElem (by rw [length, frags_length])
  intro i inList inFrags
  obtain ⟨j, inside, same⟩ := List.getElem_of_mem (own _ (List.getElem_mem inList))
  have number : list[i].fragNum = UInt16.ofNat (i + 1) := by
    have value := congrArg (fun nums => nums[i]?) ordered
    simpa [numbers, inList] using value
  rw [frags_length] at inside inFrags
  have count := inRange.count
  have position : j = i := by
    rw [← same] at number
    simp only [frags, List.getElem_mapIdx, fragmentAt, fragNum] at number
    exact ofNat_succ_injective (by omega) (by omega) number
  subst position
  exact same.symm

end FragmentCall

theorem mem_frags_of_made {P : Primitives} (correct : P.GcmCorrect) {skE : Bytes} {call : FragmentCall}
    (inRange : call.InRange) {index : Nat} {message : Bytes} (made : call.Made P skE index message)
    {f : Fragment} (opened : openFragment P message skE = .ok f) : f ∈ call.frags := by
  obtain ⟨inside, here⟩ := made.opens correct inRange
  obtain rfl := Except.ok.inj (opened.symm.trans here)
  rw [FragmentCall.frags, List.mem_iff_getElem]
  exact ⟨index, by simpa using inside, by simp⟩

/-- An accepted list of one call's messages gives back that call's payloads. -/
theorem reassemble_one_call {P : Primitives} (correct : P.GcmCorrect) {skE : Bytes} {call : FragmentCall}
    (inRange : call.InRange) {out : List Bytes} (built : call.buildFragments P skE = .ok out)
    {messages : List Bytes} (own : ∀ message ∈ messages, message ∈ out) {first : PayloadType} {inner : Bytes}
    (accepted : reassemble P messages skE = .ok (first, inner)) :
    first = call.firstInner ∧ inner = call.inner := by
  obtain ⟨positive, each⟩ := FragmentCall.buildFragments_eq_ok built
  obtain ⟨frags, opened, joined⟩ := bind_eq_ok accepted
  obtain ⟨full, totals, ordered, rfl, rfl⟩ := joinFragments_eq_ok_iff.mp joined
  have ownFrags : ∀ f ∈ frags, f ∈ call.frags := by
    intro f member
    obtain ⟨message, isMessage, here⟩ := exists_of_mem_mapM opened member
    obtain ⟨index, made⟩ := each message (own message isMessage)
    exact mem_frags_of_made correct inRange made here
  have sortedLength : (sortByNum frags).length = frags.length := List.length_insertionSort _ _
  obtain ⟨f, member⟩ := List.exists_mem_of_ne_nil frags full
  have count : frags.length = call.chunks.length := by
    rw [← totals f member]
    exact FragmentCall.frags_total inRange (ownFrags f member)
  have all : sortByNum frags = call.frags :=
    FragmentCall.eq_frags inRange (fun f inSorted => ownFrags f ((List.mem_insertionSort _).mp inSorted))
      (sortedLength.trans count) (by rw [sortedLength, ordered])
  rw [all, FragmentCall.frags_head, FragmentCall.frags_flatMap_content positive, inRange.firstInner]
  exact ⟨rfl, rfl⟩

/-- Reassembly is sound exactly on the lists that are not spliced. -/
theorem reassembles_one_call_iff (P : Primitives) (correct : P.GcmCorrect) (skE : Bytes)
    (calls : List FragmentCall) (inRange : ∀ call ∈ calls, call.InRange)
    (ids : calls.Pairwise fun a b => a.header.messageId ≠ b.header.messageId) (messages : List Bytes)
    (drawn : ∀ message ∈ messages, DrawnFrom P skE calls message) :
    ReassemblesOneCall P skE calls messages ↔ ¬ Spliced messages := by
  have symmetric : Std.Symm fun a b : FragmentCall => a.header.messageId ≠ b.header.messageId :=
    ⟨fun _ _ different => different.symm⟩
  have idOf : ∀ {call : FragmentCall} {out message}, call.buildFragments P skE = .ok out → message ∈ out →
      messageIdOf message = call.header.messageId := by
    intro call out message built member
    obtain ⟨index, made⟩ := (FragmentCall.buildFragments_eq_ok built).2 message member
    exact made.fields.1
  constructor
  · intro sound spliced
    obtain ⟨first, inner, accepted⟩ := reassemble_spliced correct inRange drawn spliced
    obtain ⟨call, -, out, built, own, -⟩ := sound first inner accepted
    obtain ⟨⟨a, aIn, b, bIn, different⟩, -⟩ := spliced
    exact different ((idOf built (own a aIn)).trans (idOf built (own b bIn)).symm)
  · intro whole first inner accepted
    obtain ⟨frags, opened, joined⟩ := bind_eq_ok accepted
    obtain ⟨full, totals, ordered, -⟩ := joinFragments_eq_ok_iff.mp joined
    obtain ⟨frags', opened', nums, sameTotals⟩ := drawn_open correct inRange drawn
    obtain rfl := Except.ok.inj (opened.symm.trans opened')
    have length : frags.length = messages.length := by simpa using congrArg List.length nums
    have messageTotals : ∀ message ∈ messages, (totalOf message).toNat = messages.length := by
      intro message member
      have inTotals : totalOf message ∈ frags.map Fragment.total := sameTotals ▸ List.mem_map_of_mem member
      obtain ⟨f, isFrag, same⟩ := List.mem_map.mp inTotals
      rw [← same, totals f isFrag, length]
    obtain ⟨a, aIn⟩ := List.exists_mem_of_length_pos (length ▸ List.length_pos_iff.mpr full)
    have small : messages.length < 65536 := messageTotals a aIn ▸ UInt16.toNat_lt _
    have perm : (messages.map fragNumOf).Perm (numbers messages.length) := by
      rw [← nums, ← length]
      exact (sortByNum_numbers_iff (length ▸ small)).mp ordered
    have sameIds : ∀ b ∈ messages, messageIdOf b = messageIdOf a := by
      intro b bIn
      by_contra different
      exact whole ⟨⟨b, bIn, a, aIn, different⟩, messageTotals, perm⟩
    obtain ⟨call, isCall, out, built, aOut⟩ := drawn a aIn
    have own : ∀ message ∈ messages, message ∈ out := by
      intro b bIn
      obtain ⟨other, isOther, otherOut, otherBuilt, bOut⟩ := drawn b bIn
      have sameId : other.header.messageId = call.header.messageId := by
        rw [← idOf otherBuilt bOut, ← idOf built aOut, sameIds b bIn]
      have sameCall : other = call := by
        by_contra different
        exact ids.forall isOther isCall different sameId
      subst sameCall
      obtain rfl := Except.ok.inj (otherBuilt.symm.trans built)
      exact bOut
    exact ⟨call, isCall, out, built, own, reassemble_one_call correct (inRange call isCall) built own accepted⟩

/-! ## The round trip -/

namespace FragmentCall

theorem exists_fragments {P : Primitives} (seals : P.GcmSeals) {skE : Bytes} (size : skE.length = 36)
    (call : FragmentCall) {pieces : List Bytes} (sizes : ∀ chunk ∈ pieces, skfPayloadLen chunk < 65536)
    (start : Nat) : ∃ out, call.fragments P skE pieces start = .ok out := by
  induction pieces generalizing start with
  | nil => exact ⟨[], rfl⟩
  | cons chunk rest ih =>
    obtain ⟨later, others⟩ := ih (fun other member => sizes other (List.mem_cons_of_mem _ member)) (start + 1)
    have small := sizes chunk List.mem_cons_self
    have key : (skE.take 32).length = 32 := by rw [List.length_take, size]; rfl
    have nonce : (skE.drop 32 ++ (call.iv start).bytes).length = 12 := by
      rw [List.length_append, List.length_drop, size, (call.iv start).size]
    have short : (chunk ++ [0]).length < 65536 := by
      rw [List.length_append, List.length_singleton]
      simp only [skfPayloadLen] at small
      omega
    obtain ⟨sealed, encrypted⟩ := Option.isSome_iff_exists.mp (seals _ _ (call.aad chunk start) _ key nonce short)
    rw [fragments, fragment, gcmSeal_of_encrypt size encrypted, ok_bind, ok_bind, others, ok_bind]
    exact ⟨_, rfl⟩

theorem fragments_open {P : Primitives} (correct : P.GcmCorrect) {skE : Bytes} {call : FragmentCall}
    {pieces : List Bytes} (sizes : ∀ chunk ∈ pieces, skfPayloadLen chunk < 65536) {start : Nat} {out : List Bytes}
    (built : call.fragments P skE pieces start = .ok out) :
    List.Forall₂ (fun message f => openFragment P message skE = .ok f) out
      (pieces.mapIdx fun i chunk => call.fragmentAt chunk (start + i)) := by
  induction pieces generalizing start out with
  | nil =>
    cases built
    exact .nil
  | cons chunk rest ih =>
    obtain ⟨message, here, built⟩ := bind_eq_ok built
    obtain ⟨later, others, built⟩ := bind_eq_ok built
    cases built
    rw [List.mapIdx_cons]
    refine .cons (openFragment_fragment correct (sizes chunk List.mem_cons_self) here) ?_
    have opened := ih (fun other member => sizes other (List.mem_cons_of_mem _ member)) others
    have shift : (fun i chunk => call.fragmentAt chunk (start + (i + 1))) =
        fun i chunk => call.fragmentAt chunk (start + 1 + i) := by
      funext i chunk
      rw [Nat.add_assoc, Nat.add_comm 1 i]
    rw [shift]
    exact opened

theorem frags_map_fragNum (call : FragmentCall) : call.frags.map Fragment.fragNum = numbers call.chunks.length := by
  apply List.ext_getElem (by simp [frags, numbers])
  intro i _ _
  simp [frags, numbers, fragmentAt, fragNum]

/-- Fragments of one call are accepted in any order. -/
theorem joinFragments_perm {call : FragmentCall} (inRange : call.InRange) {list : List Fragment}
    (perm : list.Perm call.frags) : ∃ first inner, joinFragments list = .ok (first, inner) := by
  have length : list.length = call.chunks.length := perm.length_eq.trans call.frags_length
  have full : list ≠ [] := by
    rintro rfl
    exact call.chunks_ne_nil (List.length_eq_zero_iff.mp length.symm)
  have ordered : (sortByNum list).map Fragment.fragNum = numbers list.length := by
    rw [length, sortByNum_numbers_iff inRange.count, ← frags_map_fragNum]
    exact perm.map _
  have totals : ∀ f ∈ list, f.total.toNat = list.length := by
    intro f member
    rw [length]
    exact frags_total inRange (perm.mem_iff.mp member)
  exact ⟨_, _, joinFragments_eq_ok_iff.mpr ⟨full, totals, ordered, rfl, rfl⟩⟩

end FragmentCall

/-- A message is fragmented, and its fragments in any order give it back. -/
theorem reassemble_perm_buildFragments (P : Primitives) (correct : P.GcmCorrect) (seals : P.GcmSeals) (skE : Bytes)
    (size : skE.length = 36) (call : FragmentCall) (positive : 0 < call.contentPerFragment)
    (inRange : call.InRange) :
    ∃ out, call.buildFragments P skE = .ok out ∧
      ∀ messages, messages.Perm out → reassemble P messages skE = .ok (call.firstInner, call.inner) := by
  obtain ⟨out, fragments⟩ := FragmentCall.exists_fragments seals size call inRange.sizes 0
  have built : call.buildFragments P skE = .ok out := by
    rw [FragmentCall.buildFragments, if_neg (Nat.pos_iff_ne_zero.mp positive)]
    exact fragments
  refine ⟨out, built, fun messages perm => ?_⟩
  have opened := FragmentCall.fragments_open correct inRange.sizes fragments
  simp only [Nat.zero_add] at opened
  obtain ⟨list, each, reordered⟩ := List.perm_comp_forall₂ perm opened
  obtain ⟨first, inner, joined⟩ := FragmentCall.joinFragments_perm inRange reordered
  have accepted : reassemble P messages skE = .ok (first, inner) := by
    rw [reassemble, mapM_eq_ok.mpr each, ok_bind, joined]
  obtain ⟨rfl, rfl⟩ := reassemble_one_call correct inRange built (fun _ member => perm.mem_iff.mp member) accepted
  exact accepted

namespace Toy
open Ryke.Toy

def fragmentKey : Bytes := [1, 2] ++ List.replicate 34 0

def fragmentHeader (messageId : UInt32) : IkeHeader where
  initiatorSpi := 1
  responderSpi := 2
  nextPayload := .noNext
  majorVersion := 2
  minorVersion := 0
  exchangeType := .ikeAuth
  flags := ⟨true, false, false⟩
  messageId := messageId
  length := 0

def firstCall : FragmentCall := ⟨fragmentHeader 1, .idInitiator, [1, 2, 3, 4], 10, 2⟩
def secondCall : FragmentCall := ⟨fragmentHeader 2, .notify, [5, 6, 7, 8], 20, 2⟩

def messageOf (call : FragmentCall) (i : Nat) : Bytes :=
  match call.buildFragments toy fragmentKey with
  | .ok out => out.getD i []
  | .error _ => []

def splice : List Bytes := [messageOf firstCall 0, messageOf secondCall 1]

theorem firstCall_built :
    firstCall.buildFragments toy fragmentKey = .ok [messageOf firstCall 0, messageOf firstCall 1] := by
  decide +kernel

theorem secondCall_built :
    secondCall.buildFragments toy fragmentKey = .ok [messageOf secondCall 0, messageOf secondCall 1] := by
  decide +kernel

theorem calls_inRange : ∀ call ∈ [firstCall, secondCall], call.InRange := by
  intro call member
  rcases List.mem_cons.mp member with rfl | member
  · exact ⟨by decide, by decide, by decide⟩
  · rw [List.mem_singleton] at member
    subst member
    exact ⟨by decide, by decide, by decide⟩

theorem splice_drawn : ∀ message ∈ splice, DrawnFrom toy fragmentKey [firstCall, secondCall] message := by
  intro message member
  rcases List.mem_cons.mp member with rfl | member
  · exact ⟨firstCall, by simp, _, firstCall_built, by simp⟩
  · rw [List.mem_singleton] at member
    subst member
    exact ⟨secondCall, by simp, _, secondCall_built, by simp⟩

end Toy

/-- Two messages under one key, with different message IDs and IVs: a fragment of each
makes up a list that is accepted. -/
theorem reassemble_splices_two_calls :
    ([Toy.firstCall, Toy.secondCall].Pairwise fun a b => a.header.messageId ≠ b.header.messageId) ∧
      ([Toy.firstCall.iv 0, Toy.firstCall.iv 1, Toy.secondCall.iv 0, Toy.secondCall.iv 1].Nodup) ∧
      (∀ call ∈ [Toy.firstCall, Toy.secondCall], call.InRange) ∧
      (∀ message ∈ Toy.splice, DrawnFrom toy Toy.fragmentKey [Toy.firstCall, Toy.secondCall] message) ∧
      ¬ ReassemblesOneCall toy Toy.fragmentKey [Toy.firstCall, Toy.secondCall] Toy.splice := by
  refine ⟨by decide, by decide, Toy.calls_inRange, Toy.splice_drawn, fun sound => ?_⟩
  have result : reassemble toy Toy.splice Toy.fragmentKey = .ok (.idInitiator, [1, 2, 7, 8]) := by
    decide +kernel
  obtain ⟨call, member, out, -, -, -, inner⟩ := sound _ _ result
  rcases List.mem_cons.mp member with rfl | member
  · exact absurd inner (by decide)
  · rw [List.mem_singleton] at member
    subst member
    exact absurd inner (by decide)

theorem reassembles_one_call_iff_splice :
    ReassemblesOneCall toy Toy.fragmentKey [Toy.firstCall, Toy.secondCall] Toy.splice ↔
      ¬ Spliced Toy.splice :=
  reassembles_one_call_iff toy Ryke.Toy.toy_gcmCorrect Toy.fragmentKey [Toy.firstCall, Toy.secondCall]
    Toy.calls_inRange (by decide) Toy.splice Toy.splice_drawn

theorem reassemble_reversed_firstCall :
    ∃ out, Toy.firstCall.buildFragments Ryke.Toy.toyMac Toy.fragmentKey = .ok out ∧
      reassemble Ryke.Toy.toyMac out.reverse Toy.fragmentKey = .ok (.idInitiator, [1, 2, 3, 4]) := by
  obtain ⟨out, built, joins⟩ := reassemble_perm_buildFragments Ryke.Toy.toyMac Ryke.Toy.toyMac_gcmCorrect
    Ryke.Toy.toyMac_gcmSeals Toy.fragmentKey (by decide) Toy.firstCall (by decide)
    (Toy.calls_inRange _ List.mem_cons_self)
  exact ⟨out, built, joins _ out.reverse_perm⟩

end Ryke.Ikev2
