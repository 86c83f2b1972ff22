/-
  SignetBase/KeyedBlocks.lean
  ===========================
  **Records with keys, spread over numbered blocks.**

  A block is a list of records; a record is dropped by moving the last one of the
  block into its place.  What an index from keys to blocks may rely on is that a
  key is *held* by one record of one block, or *absent* from all of them.  Both
  are kept by every change that concerns other keys, whatever it does to the order
  of the records.
-/
import Mathlib.Data.List.Perm.Basic
import Mathlib.Logic.Function.Basic
import Mathlib.Tactic.Common

namespace SignetBase

variable {α β ι κ : Type} [DecidableEq ι] [DecidableEq κ]

/-! ### Removal by swapping -/

/-- The list without its element at `i`, whose place the last one takes. -/
def swapRemove (l : List α) (i : Nat) : List α :=
  match l.getLast? with
  | some a => l.dropLast.set i a
  | none => []

@[simp] theorem length_swapRemove (l : List α) (i : Nat) :
    (swapRemove l i).length = l.length - 1 := by
  unfold swapRemove
  cases hl : l.getLast? with
  | none => simp [List.getLast?_eq_none_iff.mp hl]
  | some a => simp

/-- The element that was dropped and what is left make up the list. -/
theorem perm_swapRemove {l : List α} {i : Nat} (h : i < l.length) :
    (l[i] :: swapRemove l i).Perm l := by
  obtain ⟨d, a, rfl⟩ : ∃ d a, l = d ++ [a] := by
    have hne : l ≠ [] := by
      rintro rfl
      simp at h
    exact ⟨l.dropLast, l.getLast hne, (List.dropLast_append_getLast hne).symm⟩
  have hswap : swapRemove (d ++ [a]) i = d.set i a := by simp [swapRemove]
  rw [hswap]
  by_cases hi : i < d.length
  · rw [List.getElem_append_left hi]
    calc (d[i] :: d.set i a).Perm (d[i] :: a :: d.eraseIdx i) :=
          (List.set_perm_cons_eraseIdx hi a).cons _
      _ |>.Perm (a :: d[i] :: d.eraseIdx i) := List.Perm.swap _ _ _
      _ |>.Perm (a :: d) := (List.getElem_cons_eraseIdx_perm hi).cons _
      _ |>.Perm (d ++ [a]) := (List.perm_append_singleton a d).symm
  · have hlast : i = d.length := by
      simp only [List.length_append, List.length_singleton] at h
      omega
    subst hlast
    rw [List.set_eq_of_length_le (Nat.le_refl _)]
    simpa using (List.perm_append_singleton a d).symm

/-- Removal from a list given by its elements. -/
theorem swapRemove_map_range (f : Nat → α) (n i : Nat) :
    swapRemove ((List.range (n + 1)).map f) i =
      (List.range n).map fun j => if j = i then f n else f j := by
  have hlast : ((List.range (n + 1)).map f).getLast? = some (f n) := by simp [List.range_succ]
  have hdrop : ((List.range (n + 1)).map f).dropLast = (List.range n).map f := by
    simp [List.range_succ]
  unfold swapRemove
  rw [hlast]
  simp only
  rw [hdrop]
  apply List.ext_getElem (by simp)
  intro j h₁ h₂
  rw [List.getElem_set]
  simp only [List.getElem_map, List.getElem_range]
  by_cases hj : i = j
  · rw [if_pos hj, if_pos hj.symm]
  · rw [if_neg hj, if_neg fun h => hj h.symm]

/-! ### Keys that are held and keys that are absent -/

variable (key : α → κ)

/-- The records of a list with the key `k`. -/
def withKey (k : κ) (l : List α) : List α := l.filter fun r => key r = k

/-- The record `r` in block `i` is the only one with the key `k`. -/
def Holds (blocks : ι → List α) (k : κ) (i : ι) (r : α) : Prop :=
  ∀ j, withKey key k (blocks j) = if j = i then [r] else []

/-- No block has a record with the key `k`. -/
def Absent (blocks : ι → List α) (k : κ) : Prop := ∀ j, withKey key k (blocks j) = []

variable {key} {blocks : ι → List α} {k : κ} {i : ι} {r : α}

theorem Holds.mem (h : Holds key blocks k i r) : r ∈ blocks i ∧ key r = k := by
  have hi := h i
  rw [if_pos rfl] at hi
  have hr : r ∈ withKey key k (blocks i) := by simp [hi]
  simpa [withKey] using hr

/-- The records with a key are the same, up to their order. -/
theorem withKey_perm (key : α → κ) {l l' : List α} (h : l.Perm l') (k : κ) :
    (withKey key k l).Perm (withKey key k l') := h.filter _

/-- The blocks hold the same records with the key `k`, each in its block, up to their
    order. -/
def SameRecords (key : α → κ) (k : κ) (blocks blocks' : ι → List α) : Prop :=
  ∀ j, (withKey key k (blocks' j)).Perm (withKey key k (blocks j))

variable {blocks' blocks'' : ι → List α}

omit [DecidableEq ι] in
theorem SameRecords.refl (key : α → κ) (k : κ) (blocks : ι → List α) :
    SameRecords key k blocks blocks := fun _ => .refl _

omit [DecidableEq ι] in
theorem SameRecords.trans (h : SameRecords key k blocks blocks')
    (h' : SameRecords key k blocks' blocks'') : SameRecords key k blocks blocks'' :=
  fun j => (h' j).trans (h j)

/-- A block is replaced, and its records with the key `k` are the same. -/
theorem sameRecords_update {b : ι} {l : List α}
    (hp : (withKey key k l).Perm (withKey key k (blocks b))) :
    SameRecords key k blocks (Function.update blocks b l) := by
  intro j
  by_cases hj : j = b
  · subst hj
    rw [Function.update_self]
    exact hp
  · rw [Function.update_of_ne hj]

theorem Holds.of_same (h : Holds key blocks k i r) (hs : SameRecords key k blocks blocks') :
    Holds key blocks' k i r := by
  intro j
  have hp := hs j
  rw [h j] at hp
  split
  · rename_i hji
    rw [if_pos hji] at hp
    exact List.perm_singleton.mp hp
  · rename_i hji
    rw [if_neg hji] at hp
    exact List.perm_nil.mp hp

omit [DecidableEq ι] in
theorem Absent.of_same (h : Absent key blocks k) (hs : SameRecords key k blocks blocks') :
    Absent key blocks' k := by
  intro j
  have hp := hs j
  rw [h j] at hp
  exact List.perm_nil.mp hp

theorem withKey_append_of_ne {l : List α} (hr : key r ≠ k) :
    withKey key k (l ++ [r]) = withKey key k l := by
  simp [withKey, hr]

theorem withKey_append_self {l : List α} : withKey key (key r) (l ++ [r]) =
    withKey key (key r) l ++ [r] := by
  simp [withKey]

theorem withKey_swapRemove_of_ne {l : List α} {j : Nat} (h : j < l.length) (hk : key l[j] ≠ k) :
    (withKey key k (swapRemove l j)).Perm (withKey key k l) := by
  have hp := withKey_perm key (perm_swapRemove h) k
  have hcons : withKey key k (l[j] :: swapRemove l j) = withKey key k (swapRemove l j) := by
    simp [withKey, hk]
  rw [hcons] at hp
  exact hp

/-- A record with the key is dropped. -/
theorem withKey_swapRemove_self {l : List α} {j : Nat} (h : j < l.length) (hk : key l[j] = k) :
    (l[j] :: withKey key k (swapRemove l j)).Perm (withKey key k l) := by
  have hp := withKey_perm key (perm_swapRemove h) k
  have hcons : withKey key k (l[j] :: swapRemove l j) = l[j] :: withKey key k (swapRemove l j) := by
    simp [withKey, hk]
  rw [hcons] at hp
  exact hp

/-- A new record makes its key held. -/
theorem Absent.append (h : Absent key blocks (key r)) (b : ι) :
    Holds key (Function.update blocks b (blocks b ++ [r])) (key r) b r := by
  intro j
  by_cases hj : j = b
  · subst hj
    rw [Function.update_self, withKey_append_self, h j, if_pos rfl]
    rfl
  · rw [Function.update_of_ne hj, if_neg hj]
    exact h j

/-- Without its record a key is absent. -/
theorem Holds.remove (h : Holds key blocks k i r) {j : Nat} (hj : j < (blocks i).length)
    (hk : key (blocks i)[j] = k) :
    Absent key (Function.update blocks i (swapRemove (blocks i) j)) k := by
  intro b
  by_cases hb : b = i
  · subst hb
    rw [Function.update_self]
    have hp := withKey_swapRemove_self hj hk
    rw [h b, if_pos rfl] at hp
    have hlen := hp.length_eq
    simp only [List.length_cons, List.length_nil] at hlen
    exact List.eq_nil_of_length_eq_zero (by omega)
  · rw [Function.update_of_ne hb, h b, if_neg hb]

/-- The first record with the key is the one that holds it. -/
theorem Holds.getElem_eq (h : Holds key blocks k i r) {j : Nat} (hj : j < (blocks i).length)
    (hk : key (blocks i)[j] = k) : (blocks i)[j] = r := by
  have hmem : (blocks i)[j] ∈ withKey key k (blocks i) := by
    simp [withKey, hk]
  rw [h i, if_pos rfl] at hmem
  simpa using hmem

/-! ### Lists given by their elements -/

theorem withKey_map_range (f : Nat → α) (n : Nat) :
    withKey key k ((List.range n).map f) =
      ((List.range n).filter fun j => key (f j) = k).map f := by
  simp [withKey, List.filter_map, Function.comp_def]

/-- A key at one place only. -/
theorem withKey_eq_singleton {f : Nat → α} {n j : Nat} (hj : j < n) (hk : key (f j) = k)
    (huniq : ∀ j' < n, key (f j') = k → j' = j) :
    withKey key k ((List.range n).map f) = [f j] := by
  have hfilter : ((List.range n).filter fun j' => key (f j') = k).Perm [j] := by
    rw [List.perm_ext_iff_of_nodup (List.nodup_range.filter _) (by simp)]
    intro j'
    simp only [List.mem_filter, List.mem_range, decide_eq_true_eq, List.mem_singleton]
    constructor
    · rintro ⟨hlt, hk'⟩
      exact huniq j' hlt hk'
    · rintro rfl
      exact ⟨hj, hk⟩
  rw [withKey_map_range, List.perm_singleton.mp hfilter]
  rfl

/-- The places of the records with a key, in their order. -/
theorem indices_withKey (key : α → κ) (k : κ) (f : Nat → α) (n : Nat) :
    ∃ is : List Nat, is.Pairwise (· < ·) ∧ is.map f = withKey key k ((List.range n).map f) ∧
      ∀ j, j ∈ is ↔ j < n ∧ key (f j) = k := by
  refine ⟨(List.range n).filter fun j => key (f j) = k, ?_, (withKey_map_range f n).symm, ?_⟩
  · exact List.pairwise_lt_range.filter _
  · intro j
    simp

/-- A key that is held is at one place only. -/
theorem index_unique_of_withKey {f : Nat → α} {n j j' : Nat}
    (h : withKey key k ((List.range n).map f) = [r]) (hj : j < n) (hk : key (f j) = k)
    (hj' : j' < n) (hk' : key (f j') = k) : j = j' := by
  rw [withKey_map_range] at h
  have hlen := congrArg List.length h
  simp only [List.length_map, List.length_singleton] at hlen
  obtain ⟨x, hx⟩ := List.length_eq_one_iff.mp hlen
  have hmem : j ∈ (List.range n).filter fun j => key (f j) = k := by
    simp [hj, hk]
  have hmem' : j' ∈ (List.range n).filter fun j => key (f j) = k := by
    simp [hj', hk']
  rw [hx, List.mem_singleton] at hmem hmem'
  exact hmem.trans hmem'.symm

end SignetBase
