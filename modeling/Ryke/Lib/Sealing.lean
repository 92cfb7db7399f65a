import Ryke.Lib.Bytes

/-! Messages of an AEAD whose nonce travels with them: associated data of a fixed length, the
part of the nonce that is not a salt, and the ciphertext. Two such messages that are opened
with the same inputs are the same message, also across formats. -/

namespace Ryke.Lib

structure Sealed where
  key : Bytes
  nonce : Bytes
  aad : Bytes
  text : Bytes
  deriving DecidableEq

namespace Sealed

/-- The inputs with which a message is opened, when `front` bytes of it are associated data
and the next `width` bytes follow the salt in the nonce. -/
def ofMessage (width : Nat) (key salt : Bytes) (front : Nat) (message : Bytes) : Sealed where
  key := key
  nonce := salt ++ slice message front (front + width)
  aad := message.take front
  text := message.drop (front + width)

theorem parts (message : Bytes) (front width : Nat) :
    message.take front ++ slice message front (front + width) ++ message.drop (front + width) = message := by
  have front_slice : message.take (front + width) = message.take front ++ slice message front (front + width) := by
    rw [List.take_add, slice, Nat.add_sub_cancel_left]
  rw [← front_slice, List.take_append_drop]

/-- The inputs determine the key, the salt, the format and the message. -/
theorem ofMessage_inj {width front front' : Nat} {key salt message key' salt' message' : Bytes}
    (salts : salt.length = salt'.length) (long : front ≤ message.length) (long' : front' ≤ message'.length)
    (same : ofMessage width key salt front message = ofMessage width key' salt' front' message') :
    key = key' ∧ salt = salt' ∧ front = front' ∧ message = message' := by
  have keys := congrArg Sealed.key same
  have nonces := congrArg Sealed.nonce same
  have aads := congrArg Sealed.aad same
  have texts := congrArg Sealed.text same
  have fronts : front = front' := by
    have lengths := congrArg List.length aads
    simp only [ofMessage, List.length_take] at lengths
    omega
  obtain ⟨sameSalt, sameSlice⟩ := List.append_inj nonces salts
  refine ⟨keys, sameSalt, fronts, ?_⟩
  calc message = message.take front ++ slice message front (front + width) ++ message.drop (front + width) :=
        (parts message front width).symm
    _ = message'.take front' ++ slice message' front' (front' + width) ++ message'.drop (front' + width) :=
        congr (congrArg _ (congr (congrArg _ aads) sameSlice)) texts
    _ = message' := parts message' front' width

end Sealed

end Ryke.Lib
