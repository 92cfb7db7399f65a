import Mathlib.Data.List.Induction

/-! Runs of a machine that is fed one input at a time. A run keeps every call with
the state it met, so that a property of one call can speak of the calls before it. -/

namespace Ryke.Lib

/-- One call of a machine: the state it met, its input, its answer and the state it left. -/
structure Call (σ ι ω : Type) where
  before : σ
  input : ι
  output : ω
  after : σ

abbrev Machine (σ ι ω : Type) := σ → ι → ω × σ

namespace Machine

def call {σ ι ω : Type} (step : Machine σ ι ω) (state : σ) (input : ι) : Call σ ι ω :=
  ⟨state, input, (step state input).1, (step state input).2⟩

def calls {σ ι ω : Type} (step : Machine σ ι ω) : σ → List ι → List (Call σ ι ω)
  | _, [] => []
  | state, input :: rest => step.call state input :: calls step (step state input).2 rest

def final {σ ι ω : Type} (step : Machine σ ι ω) : σ → List ι → σ
  | state, [] => state
  | state, input :: rest => final step (step state input).2 rest

theorem final_append {σ ι ω : Type} (step : Machine σ ι ω) (state : σ) (first second : List ι) :
    step.final state (first ++ second) = step.final (step.final state first) second := by
  induction first generalizing state with
  | nil => rfl
  | cons input rest ih => exact ih _

theorem calls_append {σ ι ω : Type} (step : Machine σ ι ω) (state : σ) (first second : List ι) :
    step.calls state (first ++ second) =
      step.calls state first ++ step.calls (step.final state first) second := by
  induction first generalizing state with
  | nil => rfl
  | cons input rest ih => simp only [List.cons_append, calls, final, ih]

/-- A statement about the calls made so far and the present state holds of every run
when it holds of the empty one and one more call extends it. -/
theorem history {σ ι ω : Type} (step : Machine σ ι ω) (start : σ)
    (holds : List (Call σ ι ω) → σ → Prop) (base : holds [] start)
    (extend : ∀ past state input, holds past state →
      holds (past ++ [step.call state input]) (step state input).2) (inputs : List ι) :
    holds (step.calls start inputs) (step.final start inputs) := by
  induction inputs using List.reverseRecOn with
  | nil => exact base
  | append_singleton inputs input ih =>
    rw [calls_append, final_append]
    exact extend _ _ input ih

/-- A state property kept by every step holds in every state of a run. -/
theorem invariant {σ ι ω : Type} (step : Machine σ ι ω) (start : σ) (inv : σ → Prop)
    (base : inv start) (keep : ∀ state input, inv state → inv (step state input).2)
    (inputs : List ι) : inv (step.final start inputs) :=
  history step start (fun _ state => inv state) base (fun _ state input => keep state input) inputs

/-- The same, where only calls of a kind keep the property and the run makes no others. -/
theorem invariant_of_calls {σ ι ω : Type} (step : Machine σ ι ω) (start : σ) (inv : σ → Prop)
    (kind : Call σ ι ω → Prop) (base : inv start)
    (keep : ∀ state input, kind (step.call state input) → inv state → inv (step state input).2)
    {inputs : List ι} (all : ∀ call ∈ step.calls start inputs, kind call) : inv (step.final start inputs) := by
  refine history step start (fun past state => (∀ call ∈ past, kind call) → inv state) (fun _ => base) ?_ inputs all
  intro past state input holds all
  apply keep state input (all _ (List.mem_append_right _ List.mem_cons_self))
  exact holds fun call member => all call (List.mem_append_left _ member)

theorem calls_take {σ ι ω : Type} (step : Machine σ ι ω) (state : σ) (inputs : List ι) (k : Nat) :
    (step.calls state inputs).take k = step.calls state (inputs.take k) := by
  induction inputs generalizing state k with
  | nil => simp [calls]
  | cons input rest ih =>
    cases k with
    | zero => rfl
    | succ k => simp only [calls, List.take_succ_cons, ih]

theorem getElem?_calls {σ ι ω : Type} (step : Machine σ ι ω) (state : σ) (inputs : List ι) (k : Nat) :
    (step.calls state inputs)[k]? = inputs[k]?.map (step.call (step.final state (inputs.take k))) := by
  induction inputs generalizing state k with
  | nil => rfl
  | cons input rest ih =>
    cases k with
    | zero => rfl
    | succ k => exact ih _ k

theorem calls_getElem? {σ ι ω : Type} {step : Machine σ ι ω} {state : σ} {inputs : List ι} {k : Nat}
    {made : Call σ ι ω} (isCall : (step.calls state inputs)[k]? = some made) :
    ∃ input, made = step.call (step.final state (inputs.take k)) input := by
  rw [getElem?_calls] at isCall
  obtain ⟨input, -, same⟩ := Option.map_eq_some_iff.mp isCall
  exact ⟨input, same.symm⟩

theorem mem_calls {σ ι ω : Type} {step : Machine σ ι ω} {state : σ} {inputs : List ι} {made : Call σ ι ω}
    (isCall : made ∈ step.calls state inputs) : ∃ past input, made = step.call (step.final state past) input := by
  obtain ⟨k, found⟩ := List.mem_iff_getElem?.mp isCall
  exact ⟨inputs.take k, calls_getElem? found⟩

theorem input_mem {σ ι ω : Type} {step : Machine σ ι ω} {state : σ} {inputs : List ι} {made : Call σ ι ω}
    (isCall : made ∈ step.calls state inputs) : made.input ∈ inputs := by
  induction inputs generalizing state with
  | nil => cases isCall
  | cons input rest ih =>
    rcases List.mem_cons.mp isCall with rfl | later
    · exact List.mem_cons_self
    · exact List.mem_cons_of_mem _ (ih later)

theorem calls_succ {σ ι ω : Type} {step : Machine σ ι ω} {state : σ} {inputs : List ι} {k : Nat}
    {made next : Call σ ι ω} (isCall : (step.calls state inputs)[k]? = some made)
    (isNext : (step.calls state inputs)[k + 1]? = some next) : next.before = made.after := by
  induction inputs generalizing state k with
  | nil => cases isCall
  | cons input rest ih =>
    cases k with
    | zero =>
      cases rest with
      | nil => cases isNext
      | cons second rest =>
        cases isCall
        cases isNext
        rfl
    | succ k => exact ih isCall isNext

theorem getElem?_append_of_some {α : Type} {front : List α} {i : Nat} {a : α} (found : front[i]? = some a)
    (back : List α) : (front ++ back)[i]? = some a := by
  rw [List.getElem?_append_left (List.getElem?_eq_some_iff.mp found).1]
  exact found

theorem getElem?_of_mem_take {α : Type} {list : List α} {k : Nat} {a : α} (member : a ∈ list.take k) :
    ∃ j < k, list[j]? = some a := by
  obtain ⟨j, found⟩ := List.mem_iff_getElem?.mp member
  rw [List.getElem?_take] at found
  split at found
  next inside => exact ⟨j, inside, found⟩
  next => cases found

/-- A flag that only a `cause` raises: a call that finds or leaves it raised has a cause
at or before it. -/
theorem caused {σ ι ω : Type} {step : Machine σ ι ω} {start : σ} (inv flag : σ → Prop)
    (cause : Call σ ι ω → Prop) (base : inv start) (lowered : ¬ flag start)
    (keep : ∀ state input, inv state → inv (step state input).2)
    (raise : ∀ state input, inv state → flag (step state input).2 →
      flag state ∨ cause (step.call state input))
    {inputs : List ι} {k : Nat} {made : Call σ ι ω} (isCall : (step.calls start inputs)[k]? = some made)
    (raised : flag made.after) :
    ∃ j ≤ k, ∃ earlier, (step.calls start inputs)[j]? = some earlier ∧ cause earlier := by
  obtain ⟨input, rfl⟩ := calls_getElem? isCall
  have before := history step start
    (fun past state => inv state ∧ (flag state → ∃ earlier ∈ past, cause earlier))
    ⟨base, fun up => absurd up lowered⟩
    (by
      intro past state input ⟨holds, why⟩
      refine ⟨keep state input holds, fun up => ?_⟩
      rcases raise state input holds up with already | now
      · obtain ⟨earlier, member, isCause⟩ := why already
        exact ⟨earlier, List.mem_append_left _ member, isCause⟩
      · exact ⟨_, List.mem_append_right _ List.mem_cons_self, now⟩)
    (inputs.take k)
  rcases raise _ input before.1 raised with already | now
  · obtain ⟨earlier, member, isCause⟩ := before.2 already
    rw [← calls_take] at member
    obtain ⟨j, inside, found⟩ := getElem?_of_mem_take member
    exact ⟨j, Nat.le_of_lt inside, earlier, found, isCause⟩
  · exact ⟨k, Nat.le_refl k, _, isCall, now⟩

/-- The call at `j` is the last one before `k` whose input notes something, and notes `a`. -/
def LastNoted {σ ι ω α : Type} (note : ι → Option α) (calls : List (Call σ ι ω)) (k : Nat) (a : α) : Prop :=
  ∃ j < k, ∃ earlier, calls[j]? = some earlier ∧ note earlier.input = some a ∧
    ∀ i between, j < i → i < k → calls[i]? = some between → note between.input = none

/-- A state that holds what was noted last, as long as every call keeps it or notes anew. -/
theorem recalls {σ ι ω α : Type} {step : Machine σ ι ω} {start : σ} (inv : σ → Prop) (note : ι → Option α)
    (knows : σ → α → Prop) (base : inv start) (keep : ∀ state input, inv state → inv (step state input).2)
    (sets : ∀ state input a, inv state → note input = some a → knows (step state input).2 a)
    (holds : ∀ state input a, inv state → note input = none → knows state a → knows (step state input).2 a)
    {inputs : List ι} {k : Nat} {made : Call σ ι ω} (isCall : (step.calls start inputs)[k]? = some made) {a : α}
    (noted : LastNoted note (step.calls start inputs) k a) : knows made.before a := by
  obtain ⟨j, before, earlier, atJ, notes, quiet⟩ := noted
  have met : ∀ (i : Nat) (call : Call σ ι ω), (step.calls start inputs)[i]? = some call →
      inv call.before ∧ call.after = (step call.before call.input).2 := by
    intro i call atI
    obtain ⟨input, rfl⟩ := calls_getElem? atI
    exact ⟨invariant step start inv base keep (inputs.take i), rfl⟩
  have inside := (List.getElem?_eq_some_iff.mp isCall).1
  have later : ∀ m, j + 1 ≤ m → m ≤ k → ∀ call : Call σ ι ω, (step.calls start inputs)[m]? = some call →
      knows call.before a := by
    intro m reached
    induction reached with
    | refl =>
      intro _ call atNext
      obtain ⟨holdsInv, after⟩ := met j earlier atJ
      rw [calls_succ atJ atNext, after]
      exact sets earlier.before earlier.input a holdsInv notes
    | @step m more ih =>
      intro bound call atNext
      have exists_ : m < (step.calls start inputs).length := by omega
      have atM := List.getElem?_eq_getElem exists_
      obtain ⟨holdsInv, after⟩ := met m _ atM
      rw [calls_succ atM atNext, after]
      exact holds _ _ a holdsInv (quiet m _ more (by omega) atM) (ih (by omega) _ atM)
  exact later k before (Nat.le_refl k) made isCall

def turns {σ ι ω : Type} (step : Machine σ ι ω) (next : Call σ ι ω → ι) (start : σ) (first : ι) : Nat → Call σ ι ω
  | 0 => step.call start first
  | n + 1 => step.call (turns step next start first n).after (next (turns step next start first n))

theorem calls_turns {σ ι ω : Type} (step : Machine σ ι ω) (next : Call σ ι ω → ι) (start : σ) (first : ι) (n : Nat) :
    step.calls start ((List.range (n + 1)).map fun k => (step.turns next start first k).input) =
        (List.range (n + 1)).map (step.turns next start first) ∧
      step.final start ((List.range (n + 1)).map fun k => (step.turns next start first k).input) =
        (step.turns next start first n).after := by
  induction n with
  | zero => exact ⟨rfl, rfl⟩
  | succ n ih =>
    obtain ⟨made, reached⟩ := ih
    rw [List.range_succ, List.map_append, List.map_append, calls_append, final_append, made, reached]
    exact ⟨rfl, rfl⟩

/-- Everything that a call takes was given by a call before it. -/
def Sourced {σ ι ω α : Type} (takes gives : Call σ ι ω → List α) (calls : List (Call σ ι ω)) : Prop :=
  ∀ k (inside : k < calls.length), ∀ a ∈ takes calls[k], ∃ earlier ∈ calls.take k, a ∈ gives earlier

instance {σ ι ω α : Type} [DecidableEq α] (takes gives : Call σ ι ω → List α) (calls : List (Call σ ι ω)) :
    Decidable (Sourced takes gives calls) :=
  inferInstanceAs (Decidable (∀ k (_ : k < calls.length), ∀ a ∈ _, ∃ earlier ∈ _, a ∈ gives earlier))

section Sourced

variable {σ ι ω α : Type} {takes gives : Call σ ι ω → List α} {past : List (Call σ ι ω)} {call : Call σ ι ω}

theorem Sourced.front (sourced : Sourced takes gives (past ++ [call])) : Sourced takes gives past := by
  intro k inside a member
  have longer : k < (past ++ [call]).length := by
    rw [List.length_append]
    omega
  have same : (past ++ [call])[k] = past[k] := List.getElem_append_left inside
  obtain ⟨earlier, before, given⟩ := sourced k longer a (same ▸ member)
  rw [List.take_append_of_le_length (Nat.le_of_lt inside)] at before
  exact ⟨earlier, before, given⟩

theorem Sourced.last (sourced : Sourced takes gives (past ++ [call])) {a : α} (taken : a ∈ takes call) :
    a ∈ past.flatMap gives := by
  have inside : past.length < (past ++ [call]).length := by
    rw [List.length_append, List.length_singleton]
    omega
  have same : (past ++ [call])[past.length] = call := List.getElem_concat_length rfl inside
  have member : a ∈ takes (past ++ [call])[past.length] := by
    rw [same]
    exact taken
  obtain ⟨earlier, before, given⟩ := sourced past.length inside a member
  rw [List.take_left] at before
  exact List.mem_flatMap.mpr ⟨earlier, before, given⟩

end Sourced

/-- The history rule where the calls are known to be of a kind, which their front keeps. -/
theorem history_of {σ ι ω : Type} (step : Machine σ ι ω) (start : σ) (kind : List (Call σ ι ω) → Prop)
    (front : ∀ past call, kind (past ++ [call]) → kind past) (holds : List (Call σ ι ω) → σ → Prop)
    (base : holds [] start)
    (extend : ∀ past state input, kind (past ++ [step.call state input]) → holds past state →
      holds (past ++ [step.call state input]) (step state input).2)
    {inputs : List ι} (known : kind (step.calls start inputs)) :
    holds (step.calls start inputs) (step.final start inputs) := by
  refine history step start (fun past state => kind past → holds past state) (fun _ => base) ?_ inputs known
  intro past state input before kept
  exact extend past state input kept (before (front past _ kept))

/-- A script that the inputs follow in order, with anything between its lines: the next line
moves the run on to the rest of the script, and every other input lets it stay. -/
theorem plays {σ ι ω : Type} {step : Machine σ ι ω} (stage : List ι → σ → Prop) (kind : Call σ ι ω → Prop)
    (advance : ∀ state input left, kind (step.call state input) → stage (input :: left) state →
      stage left (step state input).2)
    (keep : ∀ state input left, kind (step.call state input) → left.head? ≠ some input → stage left state →
      stage left (step state input).2)
    {script inputs : List ι} (follows : script.Sublist inputs) {start : σ} (base : stage script start)
    (all : ∀ call ∈ step.calls start inputs, kind call) : stage [] (step.final start inputs) := by
  classical
  induction inputs generalizing script start with
  | nil =>
    cases List.sublist_nil.mp follows
    exact base
  | cons input rest ih =>
    have first : kind (step.call start input) := all _ List.mem_cons_self
    have others : ∀ call ∈ step.calls (step start input).2 rest, kind call :=
      fun call member => all call (List.mem_cons_of_mem _ member)
    by_cases next : script.head? = some input
    · obtain ⟨left, rfl⟩ : ∃ left, script = input :: left := List.head?_eq_some_iff.mp next
      exact ih (List.cons_sublist_cons.mp follows) (advance start input left first base) others
    · refine ih ?_ (keep start input script first next base) others
      cases follows with
      | cons _ inRest => exact inRest
      | cons_cons _ _ => exact absurd rfl next

end Machine

end Ryke.Lib
