import Mathlib.Data.List.Basic

/-! A state handed on from step to step, where a step may fail. Two ends that hand on
the same state stay in step for as long as the first one succeeds. -/

namespace Ryke.Lib

/-- Feed inputs to a step in order; every output is kept with the state behind it. -/
def thread {ε σ ι ω : Type} (step : σ → ι → Except ε (ω × σ)) : σ → List ι → Except ε (List (ω × σ))
  | _, [] => .ok []
  | state, input :: rest => do
      let (output, next) ← step state input
      let later ← thread step next rest
      .ok ((output, next) :: later)

section
variable {ε ε' σ ι ω ρ : Type} {send : σ → ι → Except ε (ω × σ)} {receive : σ → ω → Except ε' (ρ × σ)}

theorem thread_cons {state next : σ} {input : ι} {output : ω} {rest : List ι} {later : List (ω × σ)}
    (first : send state input = .ok (output, next)) (others : thread send next rest = .ok later) :
    thread send state (input :: rest) = .ok ((output, next) :: later) := by
  rw [thread, first]
  change (thread send next rest >>= fun later => Except.ok ((output, next) :: later)) = _
  rw [others]
  rfl

theorem thread_cons_eq_ok {state : σ} {input : ι} {rest : List ι} {sent : List (ω × σ)}
    (done : thread send state (input :: rest) = .ok sent) :
    ∃ output next later, send state input = .ok (output, next) ∧ thread send next rest = .ok later ∧
      sent = (output, next) :: later := by
  rw [thread] at done
  cases first : send state input with
  | error e =>
    rw [first] at done
    cases done
  | ok pair =>
    rw [first] at done
    change (thread send pair.2 rest >>= fun later => Except.ok (pair :: later)) = _ at done
    cases others : thread send pair.2 rest with
    | error e =>
      rw [others] at done
      cases done
    | ok later =>
      rw [others] at done
      cases done
      exact ⟨pair.1, pair.2, later, rfl, others, rfl⟩

/-- Where one step is answered in the same state, so are all. -/
theorem thread_inStep (good : ι → Prop) (expected : ι → ρ)
    (answers : ∀ state input output next, good input → send state input = .ok (output, next) →
      receive state output = .ok (expected input, next)) {state : σ} {inputs : List ι}
    (each : ∀ input ∈ inputs, good input) {sent : List (ω × σ)} (done : thread send state inputs = .ok sent) :
    ∃ received, thread receive state (sent.map Prod.fst) = .ok received ∧
      received.map Prod.fst = inputs.map expected ∧ received.map Prod.snd = sent.map Prod.snd := by
  induction inputs generalizing state sent with
  | nil =>
    cases done
    exact ⟨[], rfl, rfl, rfl⟩
  | cons input rest ih =>
    obtain ⟨output, next, later, first, others, rfl⟩ := thread_cons_eq_ok done
    obtain ⟨received, reads, values, states⟩ := ih (fun other member => each other (List.mem_cons_of_mem _ member)) others
    have answered := answers state input output next (each input List.mem_cons_self) first
    refine ⟨(expected input, next) :: received, thread_cons answered reads, ?_, ?_⟩
    · rw [List.map_cons, List.map_cons, values]
    · rw [List.map_cons, List.map_cons, states]

/-- Steps that succeed in good states, and leave good ones, all succeed. -/
theorem exists_thread (inv : σ → Prop) (good : ι → Prop)
    (succeeds : ∀ state input, inv state → good input → ∃ output next, send state input = .ok (output, next) ∧ inv next)
    {state : σ} (starts : inv state) {inputs : List ι} (each : ∀ input ∈ inputs, good input) :
    ∃ sent, thread send state inputs = .ok sent := by
  induction inputs generalizing state with
  | nil => exact ⟨[], rfl⟩
  | cons input rest ih =>
    obtain ⟨output, next, first, holds⟩ := succeeds state input starts (each input List.mem_cons_self)
    obtain ⟨later, others⟩ := ih holds fun other member => each other (List.mem_cons_of_mem _ member)
    exact ⟨_, thread_cons first others⟩

end

end Ryke.Lib
