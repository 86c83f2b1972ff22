/-
  SignetBase/FirmwareHc/RandLevel.lean
  ====================================
  **How far `rand_avail` of Signet HC can rise.**

  A ring takes words until all slots but one hold words which may still be read.  So each
  level can rise by what is free, and `rand_avail` to the smaller of the two.  Without a
  rewind point that is 1023.
-/
import SignetBase.RandBits
import SignetBase.FirmwareHc.Rand

namespace SignetBase.FirmwareHc

/-! ### The code -/

/-- `rand_push` has stored the word, and `rand_update` runs the command that waits for it. -/
def randUpdates (s : Rand) (word : RandSrc × UInt32) : Bool :=
  ((s.source word.1).ring.head + 1) % 1024 ≠ (s.source word.1).ring.limit

def randWords : WordSource Rand (RandSrc × UInt32) where
  randAvail := Rand.randAvail
  randGet := fun s => (s.randWord, s.randGet)
  arrive := fun s word => s.randPush word.1 word.2
  updates := randUpdates

/-- The level of a ring when it has taken all the words it can. -/
def RandSrcState.maxLevel (src : RandSrcState) : Int := src.level + (1023 - src.kept)

/-- Both levels can be `sz`. -/
def Rand.Reaches (s : Rand) (sz : Nat) : Prop := ∀ src, (sz : Int) ≤ (s.source src).ring.maxLevel

variable {t : RandSource} {w : Tape UInt32} {s : Rand} {sz : Nat}

/-! ### A ring -/

theorem RandSource.Holds.kept_le (h : t.Holds w) : t.ring.kept ≤ 1023 := by
  have hroom := h.held.room
  rw [h.kept]
  omega

/-- A ring that refuses a word is full. -/
theorem RandSource.Holds.free_of_kept (h : t.Holds w) (hkept : t.ring.kept < 1023) :
    (t.ring.head + 1) % 1024 ≠ t.ring.limit := by
  intro hfull
  have hmax := h.kept_of_full hfull
  omega

/-- A word that is taken fills what is free. -/
theorem push_levels (t : RandSource) (val : UInt32) :
    (t.push val).ring.level = t.ring.level + 1 ∧
      (t.push val).ring.maxLevel = t.ring.maxLevel := by
  refine ⟨rfl, ?_⟩
  unfold RandSrcState.maxLevel RandSrcState.kept RandSource.push RandSrcState.push
  dsimp only
  split <;> omega

/-! ### Both rings -/

theorem randAvail_iff : (sz : Int) ≤ s.randAvail ↔ ∀ src, (sz : Int) ≤ (s.source src).ring.level := by
  have hboth : (∀ src, (sz : Int) ≤ (s.source src).ring.level) ↔
      (sz : Int) ≤ s.rng.ring.level ∧ (sz : Int) ≤ s.rtc.ring.level :=
    ⟨fun h => ⟨h .trng, h .rtc⟩, fun h src => by cases src with | trng => exact h.1 | rtc => exact h.2⟩
  rw [hboth]
  unfold Rand.randAvail
  split <;> omega

theorem source_push_of_free (val : UInt32) {src : RandSrc}
    (hfree : ((s.source src).ring.head + 1) % 1024 ≠ (s.source src).ring.limit) :
    (s.randPush src val).source src = (s.source src).push val ∧
      ∀ src', src' ≠ src → (s.randPush src val).source src' = s.source src' := by
  unfold Rand.randPush
  rw [if_pos hfree]
  constructor
  · cases src <;> rfl
  · intro src' hne
    cases src <;> cases src' <;> first | rfl | exact absurd rfl hne

/-- No word changes the level that a ring can reach. -/
theorem maxLevel_push (s : Rand) (word : RandSrc × UInt32) (src : RandSrc) :
    ((randWords.arrive s word).source src).ring.maxLevel = (s.source src).ring.maxLevel := by
  obtain ⟨src', val⟩ := word
  change ((s.randPush src' val).source src).ring.maxLevel = _
  by_cases hfree : ((s.source src').ring.head + 1) % 1024 ≠ (s.source src').ring.limit
  · obtain ⟨hpushed, hother⟩ := source_push_of_free val hfree
    by_cases hsrc : src = src'
    · rw [hsrc, hpushed]
      exact (push_levels _ val).2
    · rw [hother src hsrc]
  · unfold Rand.randPush
    rw [if_neg hfree]
    cases src' <;> cases src <;> rfl

theorem reaches_arrivals (es : List (RandSrc × UInt32)) :
    (es.foldl randWords.arrive s).Reaches sz ↔ s.Reaches sz := by
  induction es generalizing s with
  | nil => exact Iff.rfl
  | cons word es ih =>
    refine ih.trans (forall_congr' fun src => ?_)
    rw [maxLevel_push]

theorem reaches_of_avail (h : s.OnTapes) (havail : (sz : Int) ≤ s.randAvail) : s.Reaches sz := by
  intro src
  obtain ⟨w, hw⟩ := h.source src
  have hkept := hw.kept_le
  have hlevel := randAvail_iff.mp havail src
  unfold RandSrcState.maxLevel
  omega

theorem onTapes_arrivals (h : s.OnTapes) (es : List (RandSrc × UInt32)) :
    (es.foldl randWords.arrive s).OnTapes := by
  induction es generalizing s with
  | nil => exact h
  | cons word es ih => exact ih (h.push word.1 word.2)

/-- What is missing until the level is reached. -/
def Rand.missing (s : Rand) (sz : Nat) : Nat :=
  ((sz : Int) - s.rng.ring.level).toNat + ((sz : Int) - s.rtc.ring.level).toNat

/-- Words raise both levels as far as they can be reached. -/
theorem arrivals_reach (h : s.OnTapes) (hr : s.Reaches sz) (hlow : ¬ (sz : Int) ≤ s.randAvail) :
    ∃ (es : List (RandSrc × UInt32)) (e : RandSrc × UInt32),
      randUpdates (es.foldl randWords.arrive s) e = true ∧
        (sz : Int) ≤ (randWords.arrive (es.foldl randWords.arrive s) e).randAvail := by
  generalize hn : s.missing sz = n
  induction n using Nat.strong_induction_on generalizing s with
  | _ n ih =>
    rw [randAvail_iff] at hlow
    obtain ⟨src, hsrc⟩ := not_forall.mp hlow
    obtain ⟨w, hw⟩ := h.source src
    have hmax := hr src
    have hfree : ((s.source src).ring.head + 1) % 1024 ≠ (s.source src).ring.limit := by
      apply hw.free_of_kept
      unfold RandSrcState.maxLevel at hmax
      omega
    obtain ⟨hpushed, hother⟩ := source_push_of_free 0 hfree
    by_cases havail : (sz : Int) ≤ (s.randPush src 0).randAvail
    · exact ⟨[], (src, 0), decide_eq_true hfree, havail⟩
    · have hless : (s.randPush src 0).missing sz < n := by
        have hlevel := (push_levels (s.source src) 0).1
        rw [← hpushed] at hlevel
        rw [← hn]
        unfold Rand.missing
        cases src with
        | trng =>
          have hsame : (s.randPush .trng 0).rtc = s.rtc := hother .rtc (by rintro ⟨⟩)
          change (s.randPush .trng 0).rng.ring.level = s.rng.ring.level + 1 at hlevel
          change ¬ (sz : Int) ≤ s.rng.ring.level at hsrc
          rw [hsame]
          omega
        | rtc =>
          have hsame : (s.randPush .rtc 0).rng = s.rng := hother .trng (by rintro ⟨⟩)
          change (s.randPush .rtc 0).rtc.ring.level = s.rtc.ring.level + 1 at hlevel
          change ¬ (sz : Int) ≤ s.rtc.ring.level at hsrc
          rw [hsame]
          omega
      obtain ⟨es, e, hupdates, hlevel⟩ := ih _ hless (h.push src 0)
        ((@reaches_arrivals s sz [(src, 0)]).mpr hr) havail rfl
      exact ⟨(src, 0) :: es, e, hupdates, hlevel⟩

/-- **A level can be reached just when both rings have room for it.** -/
theorem canReach_iff (h : s.OnTapes) : CanReach randWords s sz ↔ s.Reaches sz := by
  constructor
  · rintro (havail | ⟨es, e, -, havail⟩)
    · exact reaches_of_avail h havail
    · have hend := reaches_of_avail ((onTapes_arrivals h es).push e.1 e.2) havail
      exact (reaches_arrivals es).mp ((@reaches_arrivals _ sz [e]).mp hend)
  · intro hr
    by_cases havail : (sz : Int) ≤ s.randAvail
    · exact .inl havail
    · exact .inr (arrivals_reach h hr havail)

/-- Without a rewind point all but one slot can be filled. -/
theorem maxLevel_of_no_rewind {src : RandSrcState} (h : src.rewindTail = none) :
    src.maxLevel = 1023 := by
  unfold RandSrcState.maxLevel RandSrcState.kept
  rw [h]
  change src.level + (1023 - src.level) = 1023
  omega

end SignetBase.FirmwareHc
