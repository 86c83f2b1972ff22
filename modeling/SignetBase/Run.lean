/-
  SignetBase/Run.lean
  ===================
  **Runs with their history.**

  A device is a set of initial states and a function that says what one event
  does.  A run carries the list of steps taken so far, newest first, each with
  the state it was taken in, so that a temporal property ("only if a press was
  consumed since …") is a predicate on that list.  A run may be restricted to
  steps that meet a condition on the state before the step and the event.
-/
import Mathlib.Data.List.Basic
import Mathlib.Order.RelClasses
import Mathlib.Tactic.Common

namespace SignetBase

variable {σ ε : Type}

/-- The steps taken so far, newest first: each event with the state it met. -/
abbrev History (σ ε : Type) := List (σ × ε)

/-- `Run init step ok h s`: `s` is reached from an initial state by the steps
    `h`, all of which satisfy `ok`. -/
inductive Run (init : σ → Prop) (step : σ → ε → σ) (ok : σ → ε → Prop) :
    History σ ε → σ → Prop where
  | start {s : σ} : init s → Run init step ok [] s
  | next {h : History σ ε} {s : σ} {e : ε} :
      Run init step ok h s → ok s e → Run init step ok ((s, e) :: h) (step s e)

/-- No restriction on the steps. -/
def anyStep (_ : σ) (_ : ε) : Prop := True

namespace Run

variable {init : σ → Prop} {step : σ → ε → σ} {ok ok' : σ → ε → Prop}
  {h : History σ ε} {s : σ}

/-- What holds initially and is kept by every permitted step holds along a run.
    The step case may use everything already known of the run so far. -/
theorem invariant {P : History σ ε → σ → Prop} (h0 : ∀ s, init s → P [] s)
    (hs : ∀ h s e, Run init step ok h s → ok s e → P h s → P ((s, e) :: h) (step s e))
    (hr : Run init step ok h s) : P h s := by
  induction hr with
  | start hi => exact h0 _ hi
  | next hr he ih => exact hs _ _ _ hr he ih

/-- A restricted run is a run under any weaker restriction. -/
theorem weaken (himp : ∀ s e, ok s e → ok' s e) (hr : Run init step ok h s) :
    Run init step ok' h s := by
  induction hr with
  | start hi => exact .start hi
  | next _ he ih => exact .next ih (himp _ _ he)

/-- The state before a step was reached by the steps before it. -/
theorem of_mem (hr : Run init step ok h s) : ∀ x ∈ h, ∃ h', Run init step ok h' x.1 := by
  induction hr with
  | start _ => simp
  | next hr _ ih =>
    intro x hx
    rcases List.mem_cons.mp hx with rfl | hx
    · exact ⟨_, hr⟩
    · exact ih x hx

/-- A run all of whose steps meet a condition is a run under that condition. -/
theorem restrict (hr : Run init step ok h s) (hok : ∀ x ∈ h, ok' x.1 x.2) :
    Run init step ok' h s := by
  induction hr with
  | start hi => exact .start hi
  | next _ _ ih =>
    exact .next (ih fun x hx => hok x (List.mem_cons_of_mem _ hx)) (hok _ List.mem_cons_self)

end Run

/-! ### Driven systems -/

/-- The state after `n` steps from `s`, whose events `next` chooses. -/
def drive (step : σ → ε → σ) (next : Nat → σ → ε) (s : σ) : Nat → σ
  | 0 => s
  | n + 1 => step (drive step next s n) (next n (drive step next s n))

section Drive

variable {init : σ → Prop} {step : σ → ε → σ} {ok : σ → ε → Prop} {next : Nat → σ → ε} {s : σ}
  {α : Type} [LT α] [WellFoundedLT α]

/-- **A driven system gets done** when each of its steps is permitted, keeps an invariant and
    lowers a measure. -/
theorem drive_done (μ : Nat → α) {inv done : σ → Prop} (hs : inv s)
    (hstep : ∀ n, inv (drive step next s n) → ¬ done (drive step next s n) →
      ok (drive step next s n) (next n (drive step next s n)) ∧ inv (drive step next s (n + 1)) ∧
        μ (n + 1) < μ n) :
    ∃ n, done (drive step next s n) ∧ inv (drive step next s n) ∧
      ∀ k < n, ok (drive step next s k) (next k (drive step next s k)) := by
  have hfrom : ∀ m n, μ n = m → inv (drive step next s n) →
      (∀ k < n, ok (drive step next s k) (next k (drive step next s k))) →
      ∃ n, done (drive step next s n) ∧ inv (drive step next s n) ∧
        ∀ k < n, ok (drive step next s k) (next k (drive step next s k)) := by
    -- by induction on the measure
    intro m
    induction m using WellFoundedLT.induction with
    | ind m ih =>
      intro n hm hinv hall
      by_cases hdone : done (drive step next s n)
      · exact ⟨n, hdone, hinv, hall⟩
      · obtain ⟨hok, hkeep, hless⟩ := hstep n hinv hdone
        refine ih _ (hm ▸ hless) (n + 1) rfl hkeep fun k hk => ?_
        rcases Nat.lt_succ_iff_lt_or_eq.mp hk with hk | rfl
        · exact hall k hk
        · exact hok
  exact hfrom _ 0 rfl hs fun k hk => absurd hk (Nat.not_lt_zero k)

/-- A driven run continues the run that led to its start. -/
theorem Run.drive {h : History σ ε} (hr : Run init step ok h s) (n : Nat)
    (hall : ∀ k < n, ok (drive step next s k) (next k (drive step next s k))) :
    ∃ h', Run init step ok h' (SignetBase.drive step next s n) := by
  induction n with
  | zero => exact ⟨h, hr⟩
  | succ n ih =>
    obtain ⟨h', hn⟩ := ih fun k hk => hall k (Nat.lt_succ_of_lt hk)
    exact ⟨_, .next hn (hall n (Nat.lt_succ_self n))⟩

end Drive

/-! ### Concrete runs -/

/-- The steps taken from `s` by the events `es`, put on top of the history `h`,
    and the state they lead to. -/
def replay (step : σ → ε → σ) : List ε → History σ ε × σ → History σ ε × σ
  | [], r => r
  | e :: es, (h, s) => replay step es ((s, e) :: h, step s e)

/-- Replaying events from the end of a run continues the run. -/
theorem run_replay {init : σ → Prop} {step : σ → ε → σ} (es : List ε) (r : History σ ε × σ)
    (hr : Run init step anyStep r.1 r.2) :
    Run init step anyStep (replay step es r).1 (replay step es r).2 := by
  induction es generalizing r with
  | nil => exact hr
  | cons e es ih => exact ih _ (.next hr trivial)

end SignetBase
