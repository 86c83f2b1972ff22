/-
  SignetBase/Firmware/RandLevel.lean
  ==================================
  **How far `rand_avail` of the original firmware can rise.**

  The level of the clock's ring rises without end: when the head runs into the tail, the tail
  moves to an odd slot, where the head never meets it again.  The ring of the random number
  generator is the same, but its interrupt is switched off when that happens.  So its level
  rises until then, or without end if the tail is in an odd slot already.
-/
import SignetBase.RandBits
import SignetBase.Firmware.Rand

namespace SignetBase.Firmware

open SignetBase.Firmware.Rand

/-! ### The code -/

/-- The two interrupts. -/
inductive WordArrival where
  | rtcWakeup (clk : UInt32)
  | rngHandler (drdy : Bool) (dr : UInt32)

def WordArrival.event : WordArrival → RandEvent
  | rtcWakeup clk => .rtcWakeup clk
  | rngHandler drdy dr => .rngHandler drdy dr

/-- `cmd_rand_update` is called for a word of the clock, and whenever the generator has one. -/
def WordArrival.updates (s : Rand) : WordArrival → Bool
  | rtcWakeup _ => s.rndtempI + 1 ≥ 32
  | rngHandler drdy _ => s.rngIe && drdy

def randWords : WordSource Rand WordArrival where
  randAvail := Rand.randAvail
  randGet := fun s => (s.randWord, s.randGet)
  arrive := fun s a => s.step a.event
  updates := WordArrival.updates

/-- The level of the generator's ring can be `sz`: it is, or its interrupt is on and the head does
    not run into the tail before. -/
def Rand.RngReaches (s : Rand) (sz : Nat) : Prop :=
  (sz : Int) ≤ s.rng.ring.level ∨ s.rngIe = true ∧
    ((s.rng.ring.head + s.rng.ring.tail) % 2 = 1 ∨
      (sz : Int) ≤ s.rng.ring.level +
        ((s.rng.ring.tail + 1022 - s.rng.ring.head) % 1024 / 2 : Nat))

/-- Head and tail are in the ring. -/
def RandRing.Within (r : RandRing) : Prop := r.head < 1024 ∧ r.tail < 1024

variable {r : RandRing} {s : Rand} {sz : Nat}

/-! ### Head and tail -/

theorem RandRing.Within.put (h : r.Within) (w : UInt32) : (r.put w).Within := by
  have hhead : (r.head + 1 + 1) % 1024 < 1024 := Nat.mod_lt _ (by decide)
  unfold RandRing.put
  dsimp only
  split
  · exact ⟨hhead, Nat.mod_lt _ (by decide)⟩
  · exact ⟨hhead, h.2⟩

theorem RandRing.Within.get (h : r.Within) : r.get.2.Within := by
  unfold RandRing.get
  split
  · exact h
  · exact ⟨h.1, Nat.mod_lt _ (by decide)⟩

theorem within_step (h : s.rng.ring.Within) (e : RandEvent) : (s.step e).rng.ring.Within := by
  cases e with
  | rtcWakeup clk =>
    change (s.rtcWakeup clk).rng.ring.Within
    unfold Rand.rtcWakeup
    dsimp only
    split <;> exact h
  | rngHandler drdy dr =>
    change (s.rngHandler drdy dr).rng.ring.Within
    unfold Rand.rngHandler
    split
    · exact h.put dr
    · exact h
  | randGet => exact h.get

/-- The generator's ring in a run. -/
theorem rng_within {h : History Rand RandEvent} (hr : RandRun h s) : s.rng.ring.Within := by
  refine hr.invariant (P := fun _ s => s.rng.ring.Within) ?_ ?_
  · rintro s rfl
    exact ⟨by decide, by decide⟩
  · intro h s e _ _ hs
    exact within_step hs e

/-! ### The clock -/

/-- Some wakeups make a word, and only the last of them calls `cmd_rand_update`. -/
theorem rtc_word (s : Rand) :
    ∃ (es : List WordArrival) (e : WordArrival) (w : UInt32),
      e.updates (es.foldl randWords.arrive s) = true ∧
        (randWords.arrive (es.foldl randWords.arrive s) e).rtc = s.rtc.arrive w ∧
        (randWords.arrive (es.foldl randWords.arrive s) e).rng = s.rng := by
  generalize hn : 31 - s.rndtempI = n
  induction n generalizing s with
  | zero =>
    have hfull : s.rndtempI + 1 ≥ 32 := by omega
    have hstep : randWords.arrive s (.rtcWakeup 0) = s.rtcWakeup 0 := rfl
    refine ⟨[], .rtcWakeup 0, (s.rtcWakeup 0).rndtemp, decide_eq_true hfull, ?_⟩
    change (randWords.arrive s _).rtc = _ ∧ (randWords.arrive s _).rng = _
    rw [hstep]
    unfold Rand.rtcWakeup
    dsimp only
    rw [if_pos hfull]
    exact ⟨rfl, rfl⟩
  | succ n ih =>
    have hmore : ¬ s.rndtempI + 1 ≥ 32 := by omega
    have hstep : (randWords.arrive s (.rtcWakeup 0)).rtc = s.rtc ∧
        (randWords.arrive s (.rtcWakeup 0)).rng = s.rng ∧
        (randWords.arrive s (.rtcWakeup 0)).rndtempI = s.rndtempI + 1 := by
      change (s.rtcWakeup 0).rtc = _ ∧ (s.rtcWakeup 0).rng = _ ∧ (s.rtcWakeup 0).rndtempI = _
      unfold Rand.rtcWakeup
      dsimp only
      rw [if_neg hmore]
      exact ⟨rfl, rfl, rfl⟩
    obtain ⟨es, e, w, hupdates, hrtc, hrng⟩ := ih (randWords.arrive s (.rtcWakeup 0)) (by omega)
    rw [hstep.1] at hrtc
    rw [hstep.2.1] at hrng
    exact ⟨.rtcWakeup 0 :: es, e, w, hupdates, hrtc, hrng⟩

/-- One or two words raise the level by one. -/
theorem rtc_rises (s : Rand) :
    ∃ (es : List WordArrival) (e : WordArrival), e.updates (es.foldl randWords.arrive s) = true ∧
      s.rtc.ring.level + 1 ≤ (randWords.arrive (es.foldl randWords.arrive s) e).rtc.ring.level ∧
      (randWords.arrive (es.foldl randWords.arrive s) e).rng = s.rng := by
  obtain ⟨es, e, w, hupdates, hrtc, hrng⟩ := rtc_word s
  by_cases hhit : (s.rtc.ring.head + 2) % 1024 = s.rtc.ring.tail
  · -- the tail has moved on, and the next word does not reach it
    obtain ⟨es', e', w', hupdates', hrtc', hrng'⟩ :=
      rtc_word (randWords.arrive (es.foldl randWords.arrive s) e)
    have hmoved : (s.rtc.arrive w).ring.head = s.rtc.ring.tail ∧
        (s.rtc.arrive w).ring.tail = (s.rtc.ring.tail + 1) % 1024 := by
      unfold RandSource.arrive RandRing.put
      dsimp only
      rw [if_pos hhit]
      exact ⟨hhit, rfl⟩
    have hfree : ((s.rtc.arrive w).ring.head + 2) % 1024 ≠ (s.rtc.arrive w).ring.tail := by omega
    have hlevel := level_arrive_of_eq w hhit
    obtain ⟨-, -, hlevel'⟩ := arrive_of_ne w' hfree
    refine ⟨es ++ e :: es', e', ?_, ?_, ?_⟩
    · rw [List.foldl_append]
      exact hupdates'
    · rw [List.foldl_append]
      change _ ≤ (randWords.arrive (es'.foldl randWords.arrive _) e').rtc.ring.level
      rw [hrtc', hrtc]
      omega
    · rw [List.foldl_append]
      exact hrng'.trans hrng
  · obtain ⟨-, -, hlevel⟩ := arrive_of_ne w hhit
    refine ⟨es, e, hupdates, ?_, hrng⟩
    rw [hrtc]
    exact Int.le_of_eq hlevel.symm

/-- The clock's level rises without end. -/
theorem rtc_reaches (s : Rand) (n : Nat) :
    ∃ (es : List WordArrival) (e : WordArrival), e.updates (es.foldl randWords.arrive s) = true ∧
      s.rtc.ring.level + n < (randWords.arrive (es.foldl randWords.arrive s) e).rtc.ring.level ∧
      (randWords.arrive (es.foldl randWords.arrive s) e).rng = s.rng := by
  induction n generalizing s with
  | zero =>
    obtain ⟨es, e, hupdates, hlevel, hrng⟩ := rtc_rises s
    exact ⟨es, e, hupdates, by omega, hrng⟩
  | succ n ih =>
    obtain ⟨es, e, -, hlevel, hrng⟩ := rtc_rises s
    obtain ⟨es', e', hupdates', hlevel', hrng'⟩ :=
      ih (randWords.arrive (es.foldl randWords.arrive s) e)
    refine ⟨es ++ e :: es', e', ?_, ?_, ?_⟩
    · rw [List.foldl_append]
      exact hupdates'
    · rw [List.foldl_append]
      change _ < (randWords.arrive (es'.foldl randWords.arrive _) e').rtc.ring.level
      omega
    · rw [List.foldl_append]
      exact hrng'.trans hrng

/-! ### The generator -/

/-- A word of the generator runs into the tail and switches the interrupt off, or raises the
    level. -/
theorem rngHandler_cases (s : Rand) (dr : UInt32) (hie : s.rngIe = true) :
    (s.rngHandler true dr).rtc = s.rtc ∧
      ((s.rng.ring.head + 2) % 1024 = s.rng.ring.tail ∧ (s.rngHandler true dr).rngIe = false ∧
          (s.rngHandler true dr).rng.ring.level = s.rng.ring.level ∨
        (s.rng.ring.head + 2) % 1024 ≠ s.rng.ring.tail ∧ (s.rngHandler true dr).rngIe = true ∧
          (s.rngHandler true dr).rng = s.rng.arrive dr) := by
  have hhead : (s.rng.ring.put dr).head = (s.rng.ring.head + 2) % 1024 := by
    unfold RandRing.put
    dsimp only
    split <;> rfl
  unfold Rand.rngHandler
  rw [if_pos ⟨hie, rfl⟩, hhead]
  refine ⟨rfl, ?_⟩
  by_cases hhit : (s.rng.ring.head + 2) % 1024 = s.rng.ring.tail
  · exact .inl ⟨hhit, decide_eq_false (not_not_intro hhit), level_arrive_of_eq dr hhit⟩
  · exact .inr ⟨hhit, decide_eq_true hhit, rfl⟩

theorem rngHandler_off (s : Rand) {drdy : Bool} (dr : UInt32)
    (hoff : ¬ (s.rngIe = true ∧ drdy = true)) : s.rngHandler drdy dr = s :=
  if_neg hoff

/-- The generator's words raise its level as far as it can be reached. -/
theorem rng_reaches (hr : s.RngReaches sz) (hin : s.rng.ring.Within) :
    ∃ es : List WordArrival, (sz : Int) ≤ (es.foldl randWords.arrive s).rng.ring.level := by
  generalize hn : ((sz : Int) - s.rng.ring.level).toNat = n
  induction n generalizing s with
  | zero => exact ⟨[], by change (sz : Int) ≤ s.rng.ring.level; omega⟩
  | succ n ih =>
    rcases hr with hlevel | ⟨hie, hroom⟩
    · omega
    · obtain ⟨hhead, htail⟩ := hin
      have hfree : (s.rng.ring.head + 2) % 1024 ≠ s.rng.ring.tail := by omega
      obtain ⟨-, ⟨hhit, -⟩ | ⟨-, hie', hrng⟩⟩ := rngHandler_cases s 0 hie
      · exact absurd hhit hfree
      · obtain ⟨hhead', htail', hlevel'⟩ := @arrive_of_ne s.rng 0 hfree
        rw [← hrng] at hhead' htail' hlevel'
        have hin' : (s.rngHandler true 0).rng.ring.Within := ⟨by omega, by omega⟩
        have hr' : (s.rngHandler true 0).RngReaches sz := by
          refine .inr ⟨hie', ?_⟩
          rw [hhead', htail', hlevel']
          omega
        obtain ⟨es, hes⟩ := ih hr' hin' (by omega)
        exact ⟨.rngHandler true 0 :: es, hes⟩

/-- No arrival makes more levels possible. -/
theorem rngReaches_of_arrive (hin : s.rng.ring.Within) (e : WordArrival)
    (h : (randWords.arrive s e).RngReaches sz) : s.RngReaches sz := by
  cases e with
  | rtcWakeup clk =>
    have hsame : (s.rtcWakeup clk).rng = s.rng ∧ (s.rtcWakeup clk).rngIe = s.rngIe := by
      unfold Rand.rtcWakeup
      dsimp only
      split <;> exact ⟨rfl, rfl⟩
    change (s.rtcWakeup clk).RngReaches sz at h
    unfold Rand.RngReaches at h ⊢
    rwa [hsame.1, hsame.2] at h
  | rngHandler drdy dr =>
    change (s.rngHandler drdy dr).RngReaches sz at h
    by_cases hon : s.rngIe = true ∧ drdy = true
    · obtain ⟨hie, rfl⟩ := hon
      obtain ⟨hhead, htail⟩ := hin
      unfold Rand.RngReaches at h ⊢
      obtain ⟨-, ⟨-, hie', hlevel⟩ | ⟨hfree, -, hrng⟩⟩ := rngHandler_cases s dr hie
      · rw [hie', hlevel] at h
        rcases h with h | ⟨hfalse, -⟩
        · exact .inl h
        · cases hfalse
      · obtain ⟨hhead', htail', hlevel'⟩ := arrive_of_ne dr hfree
        rw [hrng, hhead', htail', hlevel'] at h
        refine .inr ⟨hie, ?_⟩
        rcases h with h | ⟨-, h⟩
        · omega
        · omega
    · rwa [rngHandler_off s dr hon] at h

theorem rngReaches_of_arrivals (hin : s.rng.ring.Within) (es : List WordArrival)
    (h : (es.foldl randWords.arrive s).RngReaches sz) : s.RngReaches sz := by
  induction es generalizing s with
  | nil => exact h
  | cons e es ih => exact rngReaches_of_arrive hin e (ih (within_step hin e.event) h)

/-- **Just the generator's ring decides which levels can be reached.** -/
theorem canReach_iff (hin : s.rng.ring.Within) : CanReach randWords s sz ↔ s.RngReaches sz := by
  have hle : ∀ t : Rand, t.randAvail ≤ t.rng.ring.level := by
    intro t
    unfold Rand.randAvail
    split <;> omega
  constructor
  · rintro (havail | ⟨es, e, -, havail⟩)
    · exact .inl (Int.le_trans havail (hle s))
    · have hend : (randWords.arrive (es.foldl randWords.arrive s) e).RngReaches sz :=
        .inl (Int.le_trans havail (hle _))
      have hwhole : randWords.arrive (es.foldl randWords.arrive s) e =
          (es ++ [e]).foldl randWords.arrive s := by
        rw [List.foldl_append]
        rfl
      rw [hwhole] at hend
      exact rngReaches_of_arrivals hin _ hend
  · intro hr
    obtain ⟨es, hrng⟩ := rng_reaches hr hin
    obtain ⟨es', e, hupdates, hrtc, hsame⟩ := rtc_reaches (es.foldl randWords.arrive s)
      ((sz : Int) - (es.foldl randWords.arrive s).rtc.ring.level).toNat
    refine .inr ⟨es ++ es', e, ?_, ?_⟩
    · rw [List.foldl_append]
      exact hupdates
    · rw [List.foldl_append]
      change (sz : Int) ≤ Rand.randAvail _
      unfold Rand.randAvail
      rw [hsame]
      split <;> omega

end SignetBase.Firmware
