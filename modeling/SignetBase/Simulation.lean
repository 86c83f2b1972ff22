/-
  SignetBase/Simulation.lean
  ==========================
  **A device and what it is meant to be.**

  What a component is for is said by an abstract machine: a relation that says which
  outputs an event may have and what state it leads to.  A device simulates the machine
  when related states stay related and what the device sends is what the machine may
  send; then all that is visible of a run of the device is visible of a run of the
  machine.
-/
import SignetBase.Run

namespace SignetBase

variable {σ α ε ω : Type}

/-- `Behaves init step tr a`: from an initial state the abstract machine comes to `a` by the
    events of `tr`, newest first, each with the outputs beside it. -/
inductive Behaves (init : α → Prop) (step : α → ε → List ω → α → Prop) :
    List (ε × List ω) → α → Prop
  | start {a : α} : init a → Behaves init step [] a
  | next {tr : List (ε × List ω)} {a a' : α} {e : ε} {out : List ω} :
      Behaves init step tr a → step a e out a' → Behaves init step ((e, out) :: tr) a'

/-- What is visible of a run: the events, each with what the device sends in that step. -/
def observed (out : σ → ε → List ω) (h : History σ ε) : List (ε × List ω) :=
  h.map fun x => (x.2, out x.1 x.2)

/-- The relation `R` between the states of a device and of an abstract machine is kept by every
    permitted step, and the machine may send what the device sends. -/
structure Simulates (init : σ → Prop) (step : σ → ε → σ) (ok : σ → ε → Prop)
    (out : σ → ε → List ω) (ainit : α → Prop) (astep : α → ε → List ω → α → Prop)
    (R : σ → α → Prop) : Prop where
  start : ∀ s, init s → ∃ a, ainit a ∧ R s a
  next : ∀ s e a, ok s e → R s a → ∃ a', astep a e (out s e) a' ∧ R (step s e) a'

variable {init : σ → Prop} {step : σ → ε → σ} {ok : σ → ε → Prop} {out : σ → ε → List ω}
  {ainit : α → Prop} {astep : α → ε → List ω → α → Prop} {R : σ → α → Prop}
  {h : History σ ε} {s : σ}

/-- **What is visible of a run of the device is visible of a run of the machine, which ends in a
    related state.** -/
theorem Simulates.behaves (hsim : Simulates init step ok out ainit astep R)
    (hr : Run init step ok h s) : ∃ a, Behaves ainit astep (observed out h) a ∧ R s a := by
  refine hr.invariant (P := fun h s => ∃ a, Behaves ainit astep (observed out h) a ∧ R s a) ?_ ?_
  · intro s hs
    obtain ⟨a, ha, hrel⟩ := hsim.start s hs
    exact ⟨a, .start ha, hrel⟩
  · rintro h s e - hok ⟨a, hb, hrel⟩
    obtain ⟨a', hstep, hrel'⟩ := hsim.next s e a hok hrel
    exact ⟨a', .next hb hstep, hrel'⟩

end SignetBase
