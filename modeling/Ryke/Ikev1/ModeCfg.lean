import Ryke.Ikev1.Isakmp

/-! The body of an ISAKMP Configuration payload, as XAUTH and Mode-Config use it, and the
attribute lists that it shares with the transforms of an SA. -/

namespace Ryke.Ikev1
open Lib

structure ConfigPayload where
  cfgType : UInt8
  identifier : UInt16
  attributes : List Attribute
  deriving DecidableEq, Repr

namespace ConfigPayload

def toBytes (config : ConfigPayload) : Bytes :=
  [config.cfgType, 0] ++ u16Bytes config.identifier ++ config.attributes.flatMap Attribute.toBytes

def parse (body : Bytes) : Result ConfigPayload :=
  if body.length < 4 then .error (.truncated 4 body.length)
  else do
    let attributes ← parseAttributes (body.drop 4)
    .ok ⟨byteAt body 0, u16At body 2, attributes⟩

def Fits (config : ConfigPayload) : Prop := ∀ item ∈ config.attributes, item.Fits

theorem parse_toBytes {config : ConfigPayload} (fits : config.Fits) : parse config.toBytes = .ok config := by
  have long : ¬ config.toBytes.length < 4 := by
    rw [toBytes, List.length_append]
    exact Nat.not_lt.mpr (Nat.le_add_right 4 _)
  have rest : config.toBytes.drop 4 = config.attributes.flatMap Attribute.toBytes := rfl
  have identifier : u16At config.toBytes 2 = config.identifier := be16_split _
  rw [parse, if_neg long, rest, parseAttributes_toBytes fits, ok_bind, identifier]
  rfl

end ConfigPayload

/-! ## What the wire brings -/

theorem Attribute.parse_admits : Admits Attribute.parse Attribute.Fits (fun _ => 0) := by
  intro b item consumed parsed
  obtain ⟨long, parsed⟩ := guard_eq_ok parsed
  have kind : u16At b 0 &&& 0x7FFF < 0x8000 := by
    rw [UInt16.lt_iff_toNat_lt, UInt16.toNat_and]
    exact Nat.lt_succ_of_le Nat.and_le_right
  have lengthSmall := UInt16.toNat_lt (u16At b 2)
  dsimp only at parsed
  by_cases short : u16At b 0 &&& 0x8000 ≠ 0
  · rw [if_pos short] at parsed
    cases parsed
    exact ⟨⟨kind, trivial⟩, Nat.zero_le _, by omega⟩
  · rw [if_neg short] at parsed
    obtain ⟨fits, done⟩ := guard_eq_ok parsed
    cases done
    refine ⟨⟨kind, ?_⟩, Nat.zero_le _, by omega⟩
    dsimp only
    rw [slice_length (by omega)]
    omega

theorem ConfigPayload.roundTrip : RoundTrip parse toBytes Fits (fun _ => True) := by
  apply RoundTrip.of_bounds
  · intro config fits
    exact parse_toBytes fits
  · intro body config _ read
    obtain ⟨long, read⟩ := guard_eq_ok read
    obtain ⟨attributes, parsed, done⟩ := bind_eq_ok read
    cases done
    exact (parseMany_admits Attribute.parse_admits parsed).1

/-- The SA tree and the configuration body survive the wire, attribute by attribute. -/
theorem sa_and_config_roundTrip :
    (∀ sa : SaPayload, sa.Fits → SaPayload.parse sa.toBytes = .ok sa) ∧
      RoundTrip ConfigPayload.parse ConfigPayload.toBytes ConfigPayload.Fits (fun _ => True) := by
  constructor
  · intro sa fits
    exact SaPayload.parse_toBytes fits
  · exact ConfigPayload.roundTrip

end Ryke.Ikev1
