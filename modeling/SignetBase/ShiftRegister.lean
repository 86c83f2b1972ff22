/-
  SignetBase/ShiftRegister.lean
  =============================
  **Linear feedback shift registers and what they remember of their input.**

  A register of `w` bits is fed a word by adding it (bit by bit, modulo 2) and shifting the
  register by a linear map.  Feeding the same word again and again is injective in that word
  as soon as the shift is injective and no register but zero returns to itself after that
  many shifts (`feed_injective`).  For the polynomial of CRC-32 and 511 words this is checked
  on the 32 unit vectors.
-/
import Mathlib.Algebra.Group.Nat.Defs
import Mathlib.Data.List.GetD
import Mathlib.Data.Nat.Basic
import Mathlib.Logic.Function.Iterate
import Mathlib.Tactic.Common

namespace SignetBase.ShiftRegister

variable {w : Nat}

/-! ### Linear maps -/

/-- A map that is linear over the field of two elements. -/
def Additive (L : BitVec w → BitVec w) : Prop := ∀ x y, L (x ^^^ y) = L x ^^^ L y

section Linear

variable {L L' : BitVec w → BitVec w}

theorem Additive.zero (h : Additive L) : L 0#w = 0#w := by
  have hzero := h 0#w 0#w
  rw [BitVec.xor_self] at hzero
  exact hzero.trans (BitVec.xor_self)

theorem Additive.comp (h : Additive L) (h' : Additive L') : Additive fun x => L (L' x) := by
  intro x y
  dsimp only
  rw [h' x y, h]

theorem Additive.xor (h : Additive L) (h' : Additive L') : Additive fun x => L x ^^^ L' x := by
  intro x y
  dsimp only
  rw [h x y, h' x y]
  ac_rfl

theorem Additive.iterate (h : Additive L) (n : Nat) : Additive L^[n] := by
  induction n with
  | zero => exact fun _ _ => rfl
  | succ n ih =>
    intro x y
    rw [Function.iterate_succ_apply', Function.iterate_succ_apply', Function.iterate_succ_apply',
      ih x y, h]

theorem xor_eq_zero {x y : BitVec w} (h : x ^^^ y = 0#w) : x = y := by
  calc x = x ^^^ y ^^^ y := by rw [BitVec.xor_assoc, BitVec.xor_self, BitVec.xor_zero]
    _ = y := by rw [h, BitVec.zero_xor]

/-- A linear map is injective when only zero is mapped to zero. -/
theorem Additive.injective (h : Additive L) (hker : ∀ x, L x = 0#w → x = 0#w) :
    Function.Injective L := by
  intro x y hxy
  refine xor_eq_zero (hker _ ?_)
  rw [h x y, hxy, BitVec.xor_self]

/-- The unit vectors. -/
def basis (w : Nat) : List (BitVec w) := (List.range w).map (BitVec.twoPow w)

/-- A linear map is determined by the unit vectors. -/
theorem Additive.ext (h : Additive L) (h' : Additive L') (heq : ∀ e ∈ basis w, L e = L' e)
    (x : BitVec w) : L x = L' x := by
  suffices hlow : ∀ n ≤ w, ∀ x : BitVec w, (∀ i, n ≤ i → x.getLsbD i = false) → L x = L' x from
    hlow w (Nat.le_refl _) x fun i hi => BitVec.getLsbD_of_ge x i hi
  intro n
  induction n with
  | zero =>
    intro _ x hx
    obtain rfl : x = 0#w := by
      apply BitVec.eq_of_getLsbD_eq
      intro i _
      rw [hx i (Nat.zero_le _), BitVec.getLsbD_zero]
    rw [h.zero, h'.zero]
  | succ n ih =>
    intro hn x hx
    by_cases hbit : x.getLsbD n = true
    · have hunit : L (BitVec.twoPow w n) = L' (BitVec.twoPow w n) :=
        heq _ (List.mem_map_of_mem (List.mem_range.mpr hn))
      have hrest : L (x ^^^ BitVec.twoPow w n) = L' (x ^^^ BitVec.twoPow w n) := by
        refine ih (by omega) _ fun i hi => ?_
        rw [BitVec.getLsbD_xor, BitVec.getLsbD_twoPow]
        rcases Nat.eq_or_lt_of_le hi with rfl | hlt
        · have hlt : n < w := hn
          simp [hbit, hlt]
        · have hne : n ≠ i := by omega
          simp [hx i hlt, hne]
      rw [h, h', hunit] at hrest
      exact (BitVec.xor_left_inj _).mp hrest
    · refine ih (by omega) x fun i hi => ?_
      rcases Nat.eq_or_lt_of_le hi with rfl | hlt
      · exact Bool.eq_false_iff.mpr hbit
      · exact hx i hlt

/-- The sum of the vectors of a table that the bits of `x` select, from bit `i` on. -/
def combine : List (BitVec w) → Nat → BitVec w → BitVec w
  | [], _, _ => 0#w
  | c :: cs, i, x => (if x.getLsbD i then c else 0#w) ^^^ combine cs (i + 1) x

theorem additive_combine (cs : List (BitVec w)) (i : Nat) : Additive (combine cs i) := by
  induction cs generalizing i with
  | nil => exact fun _ _ => (BitVec.xor_self).symm
  | cons c cs ih =>
    intro x y
    have hbit : (if (x ^^^ y).getLsbD i then c else 0#w) =
        (if x.getLsbD i then c else 0#w) ^^^ (if y.getLsbD i then c else 0#w) := by
      rw [BitVec.getLsbD_xor]
      cases x.getLsbD i <;> cases y.getLsbD i <;> simp
    unfold combine
    rw [hbit, ih]
    ac_rfl

theorem combine_twoPow (cs : List (BitVec w)) (i j : Nat) (hj : j < w) (hi : i ≤ j) :
    combine cs i (BitVec.twoPow w j) = cs.getD (j - i) 0#w := by
  induction cs generalizing i with
  | nil => rfl
  | cons c cs ih =>
    unfold combine
    rw [BitVec.getLsbD_twoPow]
    rcases Nat.eq_or_lt_of_le hi with rfl | hlt
    · have hnone : combine cs (i + 1) (BitVec.twoPow w i) = 0#w := by
        clear ih
        suffices h : ∀ (cs : List (BitVec w)) k, i < k → combine cs k (BitVec.twoPow w i) = 0#w from
          h cs _ (Nat.lt_succ_self i)
        intro cs
        induction cs with
        | nil => exact fun _ _ => rfl
        | cons c cs ih =>
          intro k hk
          have hne : i ≠ k := by omega
          unfold combine
          rw [ih _ (by omega), BitVec.getLsbD_twoPow]
          simp [hne]
      rw [hnone]
      simp [hj]
    · have hne : ¬ j = i := by omega
      rw [ih (i + 1) (by omega)]
      obtain ⟨k, rfl⟩ : ∃ k, j = i + 1 + k := ⟨j - (i + 1), by omega⟩
      have hk : i + 1 + k - i = k + 1 := by omega
      rw [hk, Nat.add_sub_cancel_left]
      simp [hne]

/-- A linear map is given by its values on the unit vectors. -/
theorem Additive.combine_basis (h : Additive L) (x : BitVec w) :
    combine ((basis w).map L) 0 x = L x := by
  refine Additive.ext (additive_combine _ _) h (fun e he => ?_) x
  obtain ⟨j, hj, rfl⟩ := List.mem_map.mp he
  rw [List.mem_range] at hj
  rw [combine_twoPow _ 0 j hj (Nat.zero_le _)]
  have hlt : j < ((basis w).map L).length := by
    unfold basis
    rw [List.length_map, List.length_map, List.length_range]
    exact hj
  rw [Nat.sub_zero, List.getD_eq_getElem _ _ hlt]
  simp [basis]

/-- The values of `L` iterated `2 ^ k` times on the unit vectors, by squaring. -/
def powerTable (L : BitVec w → BitVec w) : Nat → List (BitVec w)
  | 0 => (basis w).map L
  | k + 1 => (powerTable L k).map (combine (powerTable L k) 0)

theorem powerTable_eq (h : Additive L) (k : Nat) :
    powerTable L k = (basis w).map L^[2 ^ k] := by
  induction k with
  | zero => rfl
  | succ k ih =>
    unfold powerTable
    rw [ih, List.map_map]
    apply List.map_congr_left
    intro e _
    rw [Function.comp_apply, (h.iterate _).combine_basis, ← Function.iterate_add_apply, Nat.pow_succ,
      Nat.mul_two]

end Linear

/-! ### Feeding one word again and again -/

section Feeding

variable (M : BitVec w → BitVec w)

/-- A register that holds `r` after it was fed the word `x` `n` times. -/
def feed (n : Nat) (r x : BitVec w) : BitVec w := (fun r => M (r ^^^ x))^[n] r

/-- What feeding `x` `n` times adds to a register. -/
def drift : Nat → BitVec w → BitVec w
  | 0, _ => 0#w
  | n + 1, x => M (drift n x ^^^ x)

variable {M}

theorem feed_succ (n : Nat) (r x : BitVec w) : feed M (n + 1) r x = M (feed M n r x ^^^ x) :=
  Function.iterate_succ_apply' _ n r

/-- Registers that are fed different words differ by the drift of the difference. -/
theorem feed_xor_feed (h : Additive M) (n : Nat) (r x y : BitVec w) :
    feed M n r x ^^^ feed M n r y = drift M n (x ^^^ y) := by
  induction n with
  | zero => exact BitVec.xor_self
  | succ n ih =>
    unfold drift
    rw [feed_succ, feed_succ, ← ih, ← h]
    congr 1
    ac_rfl

/-- The sum of the drift telescopes when it is shifted. -/
theorem shift_drift (h : Additive M) (n : Nat) (x : BitVec w) :
    M (drift M n x) ^^^ drift M n x = M^[n] (M x) ^^^ M x := by
  induction n with
  | zero =>
    rw [Function.iterate_zero_apply, BitVec.xor_self]
    exact (congrArg (· ^^^ _) h.zero).trans BitVec.xor_self
  | succ n ih =>
    have hstep : drift M (n + 1) x = M (drift M n x) ^^^ M x := h _ _
    rw [hstep, h, Function.iterate_succ_apply']
    calc M (M (drift M n x)) ^^^ M (M x) ^^^ (M (drift M n x) ^^^ M x)
        = M (M (drift M n x)) ^^^ M (drift M n x) ^^^ (M (M x) ^^^ M x) := by ac_rfl
      _ = M (M^[n] (M x) ^^^ M x) ^^^ (M (M x) ^^^ M x) := by rw [← h, ih]
      _ = M (M^[n] (M x)) ^^^ (M (M x) ^^^ M (M x)) ^^^ M x := by
        rw [h]
        ac_rfl
      _ = M (M^[n] (M x)) ^^^ M x := by rw [BitVec.xor_self, BitVec.xor_zero]

/-- **Feeding a word `n` times is injective in the word** when no register but zero comes back
    after `n` shifts. -/
theorem feed_injective (h : Additive M) (hinj : Function.Injective M) {n : Nat}
    (hperiod : ∀ x, M^[n] x = x → x = 0#w) (r : BitVec w) : Function.Injective (feed M n r) := by
  intro x y hxy
  have hdrift : drift M n (x ^^^ y) = 0#w := by
    rw [← feed_xor_feed h n r, hxy, BitVec.xor_self]
  have hback := shift_drift h n (x ^^^ y)
  rw [hdrift, h.zero, BitVec.xor_self] at hback
  have hzero := hperiod _ (xor_eq_zero hback.symm)
  rw [← h.zero] at hzero
  exact xor_eq_zero (hinj hzero)

end Feeding

/-! ### CRC-32 -/

/-- One bit of a register with the feedback polynomial `poly`, highest bit first. -/
def shift (poly c : BitVec w) : BitVec w := (c <<< 1) ^^^ (if c.msb then poly else 0#w)

theorem additive_shift (poly : BitVec w) : Additive (shift poly) := by
  intro x y
  unfold shift
  rw [BitVec.shiftLeft_xor_distrib, BitVec.msb_xor]
  have hpoly : (if (x.msb ^^ y.msb) then poly else 0#w) =
      (if x.msb then poly else 0#w) ^^^ (if y.msb then poly else 0#w) := by
    cases x.msb <;> cases y.msb <;> simp
  rw [hpoly]
  ac_rfl

/-- A polynomial with a constant term loses nothing: the lowest bit of the register tells
    whether the feedback was added. -/
theorem shift_injective {poly : BitVec w} (hpoly : poly.getLsbD 0 = true) :
    Function.Injective (shift poly) := by
  refine (additive_shift poly).injective fun x hx => ?_
  have hbit : ∀ i, (shift poly x).getLsbD i = false := by
    intro i
    rw [hx, BitVec.getLsbD_zero]
  unfold shift at hbit
  have hmsb : x.msb = false := by
    have hlow := hbit 0
    rw [BitVec.getLsbD_xor, BitVec.getLsbD_shiftLeft] at hlow
    cases h : x.msb with
    | false => rfl
    | true => simp [h, hpoly] at hlow
  apply BitVec.eq_of_getLsbD_eq
  intro i hi
  rw [BitVec.getLsbD_zero]
  rcases Nat.lt_or_ge (i + 1) w with hlt | hge
  · have hnext := hbit (i + 1)
    have hnot : ¬ i + 1 < 1 := by omega
    rw [BitVec.getLsbD_xor, BitVec.getLsbD_shiftLeft, hmsb, Nat.add_sub_cancel,
      if_neg Bool.false_ne_true, BitVec.getLsbD_zero] at hnext
    simp only [hlt, hnot, decide_true, decide_false, Bool.not_false, Bool.true_and,
      Bool.xor_false] at hnext
    exact hnext
  · have hlast : i = w - 1 := by omega
    rw [hlast, ← BitVec.msb_eq_getLsbD_last]
    exact hmsb

/-- The polynomial of CRC-32. -/
def crc32Poly : BitVec 32 := 0x04c11db7

/-- A register of 32 bits shifted by a word. -/
def crc32Shift : BitVec 32 → BitVec 32 := (shift crc32Poly)^[32]

theorem additive_crc32Shift : Additive crc32Shift := (additive_shift crc32Poly).iterate 32

theorem crc32Shift_injective : Function.Injective crc32Shift :=
  Function.Injective.iterate (shift_injective (by decide)) 32

/-- The inverse of `x ^ 16384 + x ^ 32` modulo the polynomial. -/
def crc32Inverse : BitVec 32 := 0xfc15ebec

/-- What multiplication by that inverse makes of the unit vectors. -/
def crc32InverseTable : List (BitVec 32) :=
  (List.range 32).map fun i => (shift crc32Poly)^[i] crc32Inverse

/-- The table undoes `x ^ 16384 + x ^ 32` on the unit vectors. -/
theorem crc32Inverse_basis :
    (List.zipWith (· ^^^ ·) (powerTable (shift crc32Poly) 14) (powerTable (shift crc32Poly) 5)).map
      (combine crc32InverseTable 0) = basis 32 := by
  decide +kernel

/-- 511 words leave no register but zero as it was. -/
theorem crc32Shift_period (x : BitVec 32) (h : crc32Shift^[511] x = x) : x = 0#32 := by
  have hf := additive_shift crc32Poly
  have hsum : Additive fun x => (shift crc32Poly)^[2 ^ 14] x ^^^ (shift crc32Poly)^[2 ^ 5] x :=
    (hf.iterate _).xor (hf.iterate _)
  have hinv := (additive_combine crc32InverseTable 0).comp hsum
  have hid : combine crc32InverseTable 0
      ((shift crc32Poly)^[2 ^ 14] x ^^^ (shift crc32Poly)^[2 ^ 5] x) = x := by
    have hbasis := crc32Inverse_basis
    rw [powerTable_eq hf, powerTable_eq hf, List.zipWith_map, List.zipWith_self, List.map_map] at hbasis
    have hsame : Additive fun x : BitVec 32 => x := fun _ _ => rfl
    refine Additive.ext hinv hsame (fun e he => ?_) x
    exact List.map_inj_left.mp (hbasis.trans (List.map_id _).symm) e he
  have hback : (shift crc32Poly)^[2 ^ 14] x = (shift crc32Poly)^[2 ^ 5] x := by
    have hwords : (shift crc32Poly)^[32 * 511] x = x := by
      rw [Function.iterate_mul]
      exact h
    rw [show 2 ^ 14 = 2 ^ 5 + 32 * 511 from rfl, Function.iterate_add_apply, hwords]
  rw [hback, BitVec.xor_self] at hid
  rw [← hid]
  exact (additive_combine _ _).zero

end SignetBase.ShiftRegister
