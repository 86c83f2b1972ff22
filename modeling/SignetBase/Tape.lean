/-
  SignetBase/Tape.lean
  ====================
  **A tape that is read from a cursor, which may go back to a mark.**

  A tape grows at its end and is read one word after the other; reading may be repeated
  from a mark that was set before.  `Held` says that a ring of `n` cells has the part of the
  tape that may still be read: the cell of word `k` is `k % n`.  What is written keeps it
  while a cell is free, and nothing that is read ever changes.
-/
import Mathlib.Logic.Function.Basic
import Mathlib.Tactic.Common

namespace SignetBase

open Function

variable {α : Type}

/-- What was written, how far it was read, and where the mark is. -/
structure Tape (α : Type) where
  words : List α
  cursor : Nat
  mark : Option Nat

namespace Tape

variable (t : Tape α)

def write (a : α) : Tape α := { t with words := t.words ++ [a] }

/-- One word is read, if there is one. -/
def read : Tape α := if t.cursor < t.words.length then { t with cursor := t.cursor + 1 } else t

def setMark : Tape α := { t with mark := some t.cursor }

def rewind : Tape α := { t with cursor := t.mark.getD t.cursor }

def clearMark : Tape α := { t with mark := none }

/-- The first word that may still be read. -/
def low : Nat := t.mark.getD t.cursor

/-- A ring of `n` cells has the words that may still be read, and a cell is free. -/
structure Held (n : Nat) (buf : Nat → α) : Prop where
  cursor_le : t.cursor ≤ t.words.length
  low_le : t.low ≤ t.cursor
  room : t.words.length < t.low + n
  cells : ∀ k (hk : k < t.words.length), t.low ≤ k → buf (k % n) = t.words[k]

variable {t} {n : Nat} {buf : Nat → α}

/-- The cell behind the last word is the first one again just when the ring is full. -/
theorem Held.full_iff (h : t.Held n buf) :
    (t.words.length + 1) % n = t.low % n ↔ t.words.length + 1 = t.low + n := by
  have hroom := h.room
  have hle := Nat.le_trans h.low_le h.cursor_le
  constructor
  · intro heq
    have hdvd : n ∣ t.words.length + 1 - t.low :=
      Nat.dvd_of_mod_eq_zero (Nat.sub_mod_eq_zero_of_mod_eq heq)
    have hge := Nat.le_of_dvd (by omega) hdvd
    omega
  · intro heq
    rw [heq, Nat.add_mod_right]

/-- Two words that the ring has are in different cells. -/
theorem Held.cell_inj (h : t.Held n buf) {j k : Nat} (hj : t.low ≤ j) (hk : t.low ≤ k)
    (hj' : j ≤ t.words.length) (hk' : k ≤ t.words.length) (heq : j % n = k % n) : j = k := by
  have hroom := h.room
  rcases Nat.le_total j k with hle | hle
  · have hdvd : n ∣ k - j := Nat.dvd_of_mod_eq_zero (Nat.sub_mod_eq_zero_of_mod_eq heq.symm)
    have hzero := Nat.eq_zero_of_dvd_of_lt hdvd (by omega)
    omega
  · have hdvd : n ∣ j - k := Nat.dvd_of_mod_eq_zero (Nat.sub_mod_eq_zero_of_mod_eq heq)
    have hzero := Nat.eq_zero_of_dvd_of_lt hdvd (by omega)
    omega

/-- The ring is empty just when all was read. -/
theorem Held.empty_iff (h : t.Held n buf) :
    t.words.length % n = t.cursor % n ↔ t.cursor = t.words.length := by
  constructor
  · intro heq
    exact (h.cell_inj (Nat.le_trans h.low_le h.cursor_le) h.low_le (Nat.le_refl _) h.cursor_le heq).symm
  · intro heq
    rw [heq]

/-- **While a cell is free a word is written.** -/
theorem Held.write (h : t.Held n buf) (a : α) (hroom : t.words.length + 1 ≠ t.low + n) :
    (t.write a).Held n (update buf (t.words.length % n) a) := by
  have hlt := h.room
  have hlen : (t.write a).words.length = t.words.length + 1 := List.length_append
  refine ⟨?_, h.low_le, ?_, ?_⟩
  · rw [hlen]
    exact Nat.le_succ_of_le h.cursor_le
  · rw [hlen]
    change t.words.length + 1 < t.low + n
    omega
  · intro k hk hlow
    change t.low ≤ k at hlow
    rw [hlen] at hk
    by_cases hlast : k = t.words.length
    · subst hlast
      rw [update_self]
      exact (List.getElem_concat_length rfl _).symm
    · have hk' : k < t.words.length := by omega
      have hne : k % n ≠ t.words.length % n := fun heq => hlast
        (h.cell_inj hlow (Nat.le_trans h.low_le h.cursor_le) (Nat.le_of_lt hk') (Nat.le_refl _) heq)
      rw [update_of_ne hne, h.cells k hk' hlow]
      exact (List.getElem_append_left hk').symm

theorem Held.read (h : t.Held n buf) : t.read.Held n buf := by
  unfold Tape.read
  split
  · rename_i hlt
    obtain ⟨hcursor, hlow, hroom, hcells⟩ := h
    have hmono : t.low ≤ Tape.low { t with cursor := t.cursor + 1 } := by
      unfold Tape.low
      cases t.mark with
      | none => exact Nat.le_succ _
      | some m => exact Nat.le_refl _
    refine ⟨hlt, ?_, ?_, fun k hk hlow' => hcells k hk (Nat.le_trans hmono hlow')⟩
    · unfold Tape.low at hlow ⊢
      cases hmark : t.mark with
      | none => exact Nat.le_refl _
      | some m =>
        rw [hmark] at hlow
        exact Nat.le_succ_of_le hlow
    · change t.words.length < _
      omega
  · exact h

theorem Held.setMark (h : t.Held n buf) : t.setMark.Held n buf := by
  obtain ⟨hcursor, hlow, hroom, hcells⟩ := h
  refine ⟨hcursor, Nat.le_refl _, ?_, fun k hk hle => hcells k hk (Nat.le_trans hlow hle)⟩
  change t.words.length < t.cursor + n
  omega

theorem rewind_of_some {m : Nat} (h : t.mark = some m) : t.rewind = { t with cursor := m } := by
  unfold Tape.rewind
  rw [h]
  rfl

/-- Without a mark there is nothing to go back to. -/
theorem rewind_of_none (h : t.mark = none) : t.rewind = t := by
  unfold Tape.rewind
  rw [h, Option.getD_none, ← h]

theorem Held.rewind (h : t.Held n buf) : t.rewind.Held n buf := by
  obtain ⟨hcursor, hlow, hroom, hcells⟩ := h
  have hsame : t.rewind.low = t.low := by
    unfold Tape.low Tape.rewind
    cases t.mark <;> rfl
  refine ⟨Nat.le_trans hlow hcursor, ?_, ?_, ?_⟩
  · rw [hsame]
    exact Nat.le_refl _
  · rw [hsame]
    exact hroom
  · rw [hsame]
    exact hcells

theorem Held.clearMark (h : t.Held n buf) : t.clearMark.Held n buf := by
  obtain ⟨hcursor, hlow, hroom, hcells⟩ := h
  refine ⟨hcursor, Nat.le_refl _, ?_, fun k hk hle => hcells k hk (Nat.le_trans hlow hle)⟩
  change t.words.length < t.cursor + n
  omega

end Tape

end SignetBase
