/-
  SignetBase/Access.lean
  ======================
  **The bytes of an object that a piece of code touches.**

  What a function reads or writes of a buffer is a list of spans.  A length that is
  computed as an `int` becomes unsigned on its way into `memcpy`, so a negative one is a
  span that is in no object.
-/
import Mathlib.Algebra.Group.Int.Defs
import Mathlib.Algebra.Group.Nat.Defs
import Mathlib.Data.Nat.Notation
import Mathlib.Tactic.Common

namespace SignetBase

/-- `(size_t) n`. -/
def sizeT (n : Int) : Nat := (n % 2 ^ 32).toNat

theorem sizeT_of_nonneg {n : Int} (h : 0 ≤ n) (h' : n < 2 ^ 32) : sizeT n = n.toNat := by
  unfold sizeT
  rw [Int.emod_eq_of_lt h h']

/-- A negative length is a very large one. -/
theorem lt_sizeT_of_neg {n : Int} (h : n < 0) (h' : -2 ^ 31 ≤ n) : 2 ^ 31 ≤ sizeT n := by
  unfold sizeT
  omega

/-- `len` bytes from offset `off` on. -/
structure Span where
  off : Nat
  len : Nat
deriving DecidableEq, Repr

namespace Span

/-- The span is in an object of `size` bytes. -/
def Within (size : Nat) (r : Span) : Prop := r.off + r.len ≤ size

instance (size : Nat) (r : Span) : Decidable (r.Within size) :=
  inferInstanceAs (Decidable (_ ≤ _))

/-- The same bytes, seen from `n` bytes in front. -/
def shift (n : Nat) (r : Span) : Span := ⟨n + r.off, r.len⟩

/-- All spans of a list are in the object. -/
def AllWithin (size : Nat) (l : List Span) : Prop := ∀ r ∈ l, r.Within size

instance (size : Nat) (l : List Span) : Decidable (AllWithin size l) :=
  inferInstanceAs (Decidable (∀ r ∈ l, _))

variable {size n : Nat} {l l' : List Span}

@[simp] theorem allWithin_nil : AllWithin size [] := by
  rintro r ⟨⟩

@[simp] theorem allWithin_cons {r : Span} :
    AllWithin size (r :: l) ↔ r.Within size ∧ AllWithin size l := List.forall_mem_cons

@[simp] theorem allWithin_append :
    AllWithin size (l ++ l') ↔ AllWithin size l ∧ AllWithin size l' := List.forall_mem_append

theorem allWithin_shift : AllWithin (n + size) (l.map (shift n)) ↔ AllWithin size l := by
  unfold AllWithin
  rw [List.forall_mem_map]
  refine forall₂_congr fun r _ => ?_
  change n + r.off + r.len ≤ n + size ↔ r.off + r.len ≤ size
  omega

theorem AllWithin.mono (h : AllWithin n l) (hle : n ≤ size) : AllWithin size l :=
  fun r hr => Nat.le_trans (h r hr) hle

end Span

end SignetBase
