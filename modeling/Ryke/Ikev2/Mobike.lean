import Ryke.Ikev2.EapSteps
import Ryke.Ikev2.Informational

/-! MOBIKE signalling: the INFORMATIONAL request of an end whose address changed. -/

namespace Ryke.Ikev2
open Lib

namespace notify_type
def updateSaAddresses : UInt16 := 16400
end notify_type

def updateSaAddresses : Notify := .status notify_type.updateSaAddresses []

def buildUpdateSaAddresses (P : Primitives) (sa : CompletedSaInit) (messageId : UInt32) (iv : Iv) : Result Bytes :=
  buildInformational P sa messageId false [(.notify, updateSaAddresses.toBytes)] iv

def hasNotify (inner : List Payload) (want : UInt16) : Bool :=
  inner.any fun payload => payload.1 == .notify &&
    match Notify.parse payload.2 with
    | .ok notify => notify.notifyType == want
    | .error _ => false

def containsUpdateSaAddresses (inner : List Payload) : Bool := hasNotify inner notify_type.updateSaAddresses

theorem hasNotify_of_mem {inner : List Payload} {notify : Notify} (small : notify.spi.length < 256)
    (member : ((.notify, notify.toBytes) : Payload) ∈ inner) : hasNotify inner notify.notifyType = true := by
  refine List.any_eq_true.mpr ⟨_, member, ?_⟩
  dsimp only
  rw [Notify.parse_toBytes small]
  simp

/-- The peer learns of the move, and no liveness probe passes for one. -/
theorem openInformational_updateSaAddresses {P : Primitives} (correct : P.GcmCorrect) {sa peer : CompletedSaInit}
    (facing : Facing sa peer) {messageId : UInt32} {iv : Iv} {message : Bytes} :
    (buildUpdateSaAddresses P sa messageId iv = .ok message →
      ∃ chain, openInformational P peer message = .ok chain ∧ containsUpdateSaAddresses chain = true) ∧
    (dpdRequest P sa messageId iv = .ok message →
      ∃ chain, openInformational P peer message = .ok chain ∧ containsUpdateSaAddresses chain = false) := by
  constructor
  · intro built
    refine ⟨_, openInformational_built correct facing ?_ (by decide) built, ?_⟩
    · intro payload member
      rw [List.mem_singleton.mp member]
      decide
    · exact hasNotify_of_mem (by decide) (List.mem_singleton_self _)
  · intro built
    exact ⟨[], openInformational_built correct facing nofun (by decide) built, rfl⟩

end Ryke.Ikev2
