import Ryke.Lib.Run

/-! Two ends joined by two channels that keep the order and lose nothing. Who runs when is
open, and so is anything else that happens to an end from outside. -/

namespace Ryke.Lib

/-- What the two ends do: the client starts or gets a message, the server gets one, and each
answers with what it sends; `outside` is everything else. -/
structure Ends (σ μ α : Type) where
  start : σ → List μ × σ
  atServer : μ → σ → List μ × σ
  atClient : μ → σ → List μ × σ
  outside : α → σ → σ

/-- The ends and the messages on their way, the oldest first. -/
structure Relay (σ μ : Type) where
  ends : σ
  toServer : List μ
  toClient : List μ

inductive RelayAction (α : Type) where
  | connect
  | deliverServer
  | deliverClient
  | outside (action : α)
  deriving DecidableEq

def Ends.machine {σ μ α : Type} (ends : Ends σ μ α) : Machine (Relay σ μ) (RelayAction α) (List μ) := fun self action =>
  match action with
  | .connect =>
      let (sent, after) := ends.start self.ends
      (sent, ⟨after, self.toServer ++ sent, self.toClient⟩)
  | .deliverServer =>
      match self.toServer with
      | [] => ([], self)
      | message :: rest =>
          let (sent, after) := ends.atServer message self.ends
          (sent, ⟨after, rest, self.toClient ++ sent⟩)
  | .deliverClient =>
      match self.toClient with
      | [] => ([], self)
      | message :: rest =>
          let (sent, after) := ends.atClient message self.ends
          (sent, ⟨after, self.toServer ++ sent, rest⟩)
  | .outside action => ([], { self with ends := ends.outside action self.ends })

end Ryke.Lib
