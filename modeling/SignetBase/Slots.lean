/-
  SignetBase/Slots.lean
  =====================
  **Slots that represent a finite map.**

  Numbered slots hold one entry each, a key with its value, or are vacant.  They represent a
  map when no key is in two slots.  An index that points from the keys to their slots is kept
  by the changes a store makes: a value is replaced in its slot, an entry is put into a vacant
  slot, a slot is vacated, and the slots are scanned one after the other.
-/
import Mathlib.Logic.Function.Basic
import Mathlib.Tactic.Common

namespace SignetBase

variable {ι κ ν : Type} [DecidableEq ι] [DecidableEq κ]

/-- The slots of `dom` hold the entries of `m`, each in one slot. -/
structure Represents (dom : ι → Prop) (c : ι → Option (κ × ν)) (m : κ → Option ν) : Prop where
  sound : ∀ {i k v}, dom i → c i = some (k, v) → m k = some v
  complete : ∀ {k v}, m k = some v → ∃ i, dom i ∧ c i = some (k, v)
  unique : ∀ {i j k v w}, dom i → dom j → c i = some (k, v) → c j = some (k, w) → i = j

/-- `f` points from the keys of `keys` to their slots, and to `bad` from those that have none. -/
def Points (keys : κ → Prop) (dom : ι → Prop) (c : ι → Option (κ × ν)) (bad : ι) (f : κ → ι) :
    Prop :=
  ∀ k, keys k → (dom (f k) ∧ ∃ v, c (f k) = some (k, v)) ∨
    (f k = bad ∧ ∀ i v, dom i → c i ≠ some (k, v))

variable {keys : κ → Prop} {dom : ι → Prop} {c : ι → Option (κ × ν)} {m : κ → Option ν}
  {bad i : ι} {f : κ → ι} {k : κ} {v w : ν}

/-! ### Looking up -/

omit [DecidableEq ι] [DecidableEq κ] in
theorem Represents.absent (h : Represents dom c m) (hk : m k = none) (hi : dom i) :
    c i ≠ some (k, v) := by
  intro hc
  rw [h.sound hi hc] at hk
  cases hk

omit [DecidableEq ι] [DecidableEq κ] in
/-- The index points to the entry of a key. -/
theorem Points.of_some (hf : Points keys dom c bad f) (h : Represents dom c m) (hkey : keys k)
    (hk : m k = some v) : dom (f k) ∧ c (f k) = some (k, v) := by
  obtain ⟨i, hi, hc⟩ := h.complete hk
  rcases hf k hkey with ⟨hdom, w, hw⟩ | ⟨-, hnone⟩
  · rw [h.unique hdom hi hw hc]
    exact ⟨hi, hc⟩
  · exact absurd hc (hnone i v hi)

omit [DecidableEq ι] [DecidableEq κ] in
theorem Points.of_none (hf : Points keys dom c bad f) (h : Represents dom c m) (hkey : keys k)
    (hk : m k = none) : f k = bad := by
  rcases hf k hkey with ⟨hdom, w, hw⟩ | ⟨hbad, -⟩
  · exact absurd hw (h.absent hk hdom)
  · exact hbad

omit [DecidableEq ι] [DecidableEq κ] in
/-- A key has an entry if the index does not point to `bad`. -/
theorem Points.isSome_iff (hf : Points keys dom c bad f) (h : Represents dom c m)
    (hbad : ¬ dom bad) (hkey : keys k) : (m k).isSome ↔ f k ≠ bad := by
  constructor
  · intro hk heq
    obtain ⟨v, hv⟩ := Option.isSome_iff_exists.mp hk
    exact hbad (heq ▸ (hf.of_some h hkey hv).1)
  · intro hne
    rcases hf k hkey with ⟨hdom, w, hw⟩ | ⟨heq, -⟩
    · exact Option.isSome_iff_exists.mpr ⟨w, h.sound hdom hw⟩
    · exact absurd heq hne

/-! ### Changes of one slot -/

/-- The slot `i` gets an entry with the key `k`: it was vacant and no slot had that key, or it had
    that key before. -/
theorem Represents.put (h : Represents dom c m) (hi : dom i)
    (hslot : (∃ w, c i = some (k, w)) ∨ (c i = none ∧ m k = none)) :
    Represents dom (Function.update c i (some (k, v))) (Function.update m k (some v)) := by
  -- no other slot has the key
  have hother : ∀ {j w}, dom j → c j = some (k, w) → j = i := by
    intro j w hj hc
    rcases hslot with ⟨w', hw'⟩ | ⟨-, hk⟩
    · exact h.unique hj hi hc hw'
    · exact absurd hc (h.absent hk hj)
  refine ⟨?_, ?_, ?_⟩
  · intro j k' v' hj hc
    by_cases hji : j = i
    · subst hji
      rw [Function.update_self] at hc
      cases hc
      exact Function.update_self ..
    · rw [Function.update_of_ne hji] at hc
      have hne : k' ≠ k := by
        rintro rfl
        exact hji (hother hj hc)
      rw [Function.update_of_ne hne]
      exact h.sound hj hc
  · intro k' v' hk'
    by_cases hne : k' = k
    · subst hne
      rw [Function.update_self] at hk'
      cases hk'
      exact ⟨i, hi, Function.update_self ..⟩
    · rw [Function.update_of_ne hne] at hk'
      obtain ⟨j, hj, hc⟩ := h.complete hk'
      refine ⟨j, hj, ?_⟩
      have hji : j ≠ i := by
        rintro rfl
        rcases hslot with ⟨w, hw⟩ | ⟨hnone, -⟩
        · rw [hw] at hc
          cases hc
          exact hne rfl
        · rw [hnone] at hc
          cases hc
      rw [Function.update_of_ne hji]
      exact hc
  · intro j j' k' v' w' hj hj' hc hc'
    by_cases hji : j = i
    · by_cases hji' : j' = i
      · rw [hji, hji']
      · subst hji
        rw [Function.update_self] at hc
        rw [Function.update_of_ne hji'] at hc'
        cases hc
        exact (hother hj' hc').symm
    · rw [Function.update_of_ne hji] at hc
      by_cases hji' : j' = i
      · subst hji'
        rw [Function.update_self] at hc'
        cases hc'
        exact hother hj hc
      · rw [Function.update_of_ne hji'] at hc'
        exact h.unique hj hj' hc hc'

/-- The slot `i`, which had the key `k`, is vacated. -/
theorem Represents.vacate (h : Represents dom c m) (hi : dom i) (hc : c i = some (k, v)) :
    Represents dom (Function.update c i none) (Function.update m k none) := by
  refine ⟨?_, ?_, ?_⟩
  · intro j k' v' hj hc'
    by_cases hji : j = i
    · subst hji
      rw [Function.update_self] at hc'
      cases hc'
    · rw [Function.update_of_ne hji] at hc'
      have hne : k' ≠ k := by
        rintro rfl
        exact hji (h.unique hj hi hc' hc)
      rw [Function.update_of_ne hne]
      exact h.sound hj hc'
  · intro k' v' hk'
    have hne : k' ≠ k := by
      rintro rfl
      rw [Function.update_self] at hk'
      cases hk'
    rw [Function.update_of_ne hne] at hk'
    obtain ⟨j, hj, hc'⟩ := h.complete hk'
    refine ⟨j, hj, ?_⟩
    have hji : j ≠ i := by
      rintro rfl
      rw [hc] at hc'
      cases hc'
      exact hne rfl
    rw [Function.update_of_ne hji]
    exact hc'
  · intro j j' k' v' w' hj hj' hc₁ hc₂
    have hji : j ≠ i := by
      rintro rfl
      rw [Function.update_self] at hc₁
      cases hc₁
    have hji' : j' ≠ i := by
      rintro rfl
      rw [Function.update_self] at hc₂
      cases hc₂
    rw [Function.update_of_ne hji] at hc₁
    rw [Function.update_of_ne hji'] at hc₂
    exact h.unique hj hj' hc₁ hc₂

/-- The index after an entry with the key `k` was put into the slot `i`. -/
theorem Points.put (hf : Points keys dom c bad f) (hi : dom i)
    (hslot : (∃ w, c i = some (k, w)) ∨ c i = none) :
    Points keys dom (Function.update c i (some (k, v))) bad (Function.update f k i) := by
  intro k' hkey
  by_cases hne : k' = k
  · subst hne
    refine .inl ⟨?_, v, ?_⟩
    · rw [Function.update_self]
      exact hi
    · rw [Function.update_self, Function.update_self]
  · rw [Function.update_of_ne hne]
    rcases hf k' hkey with ⟨hdom, w, hw⟩ | ⟨hbad, hnone⟩
    · have hfi : f k' ≠ i := by
        intro hfi
        rw [hfi] at hw
        rcases hslot with ⟨w', hw'⟩ | hnone
        · rw [hw'] at hw
          cases hw
          exact hne rfl
        · rw [hnone] at hw
          cases hw
      refine .inl ⟨hdom, w, ?_⟩
      rw [Function.update_of_ne hfi]
      exact hw
    · refine .inr ⟨hbad, fun j w hj => ?_⟩
      by_cases hji : j = i
      · subst hji
        rw [Function.update_self]
        rintro ⟨⟩
        exact hne rfl
      · rw [Function.update_of_ne hji]
        exact hnone j w hj

/-- The index after the slot `i`, which had the key `k`, was vacated. -/
theorem Points.vacate (hf : Points keys dom c bad f) (h : Represents dom c m) (hi : dom i)
    (hc : c i = some (k, v)) :
    Points keys dom (Function.update c i none) bad (Function.update f k bad) := by
  intro k' hkey
  by_cases hne : k' = k
  · subst hne
    refine .inr ⟨Function.update_self .., fun j w hj => ?_⟩
    by_cases hji : j = i
    · subst hji
      rw [Function.update_self]
      exact fun hnone => by cases hnone
    · rw [Function.update_of_ne hji]
      intro hc'
      exact hji (h.unique hj hi hc' hc)
  · rw [Function.update_of_ne hne]
    rcases hf k' hkey with ⟨hdom, w, hw⟩ | ⟨hbad, hnone⟩
    · have hfi : f k' ≠ i := by
        intro hfi
        rw [hfi, hc] at hw
        cases hw
        exact hne rfl
      refine .inl ⟨hdom, w, ?_⟩
      rw [Function.update_of_ne hfi]
      exact hw
    · refine .inr ⟨hbad, fun j w hj => ?_⟩
      by_cases hji : j = i
      · subst hji
        rw [Function.update_self]
        exact fun hnone => by cases hnone
      · rw [Function.update_of_ne hji]
        exact hnone j w hj

/-! ### Scanning -/

/-- The index after one more slot has been scanned. -/
def scanned (f : κ → ι) (i : ι) : Option (κ × ν) → κ → ι
  | none => f
  | some (k, _) => Function.update f k i

omit [DecidableEq ι] in
theorem Points.scan (hf : Points keys dom c bad f) :
    Points keys (fun j => dom j ∨ j = i) c bad (scanned f i (c i)) := by
  intro k' hkey
  cases hc : c i with
  | none =>
    rcases hf k' hkey with ⟨hdom, w, hw⟩ | ⟨hbad, hnone⟩
    · exact .inl ⟨.inl hdom, w, hw⟩
    · refine .inr ⟨hbad, fun j w hj => ?_⟩
      rcases hj with hj | rfl
      · exact hnone j w hj
      · rw [hc]
        exact fun hnone => by cases hnone
  | some entry =>
    obtain ⟨k, v⟩ := entry
    change (_ ∧ ∃ w, c (Function.update f k i k') = some (k', w)) ∨ _
    by_cases hne : k' = k
    · subst hne
      refine .inl ⟨.inr (Function.update_self ..), v, ?_⟩
      rw [Function.update_self]
      exact hc
    · rcases hf k' hkey with ⟨hdom, w, hw⟩ | ⟨hbad, hnone⟩
      · refine .inl ⟨?_, w, ?_⟩
        · change dom (Function.update f k i k') ∨ Function.update f k i k' = i
          rw [Function.update_of_ne hne]
          exact .inl hdom
        · rw [Function.update_of_ne hne]
          exact hw
      · refine .inr ⟨?_, fun j w hj => ?_⟩
        · change Function.update f k i k' = bad
          rw [Function.update_of_ne hne]
          exact hbad
        · rcases hj with hj | rfl
          · exact hnone j w hj
          · rw [hc]
            rintro ⟨⟩
            exact hne rfl

end SignetBase
