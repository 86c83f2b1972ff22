/-
  SignetBase/Firmware/Rand.lean
  =============================
  **The random words of the original firmware (`rtc_rand.c`, `rng_driver.c`, `rand_get`).**

  Two interrupts fill a ring of 1024 words each, and `rand_get` takes a word from both.
  `level` is meant to be the number of slots that hold a word nobody has read.  A word
  that arrives moves `head` twice: `head++` and `(head + 1) % 1024`.  So only the even
  slots are ever filled, while the tail goes through all of them: the second word that is
  read comes from a slot that was never filled (`rand_get_stale`).  The rings are those of
  `Dev`; here each comes with a record of what has arrived and what was read.

  `freshWords_iff` says for which runs all words are fresh all the same.
-/
import Mathlib.Data.Nat.Count
import SignetBase.Run
import SignetBase.Firmware.State

namespace SignetBase.Firmware

open Function

/-! ### Counting slots -/

section Count

variable {f : Nat → Bool} {i n : Nat}

theorem count_update_of_le (h : n ≤ i) (b : Bool) :
    Nat.count (fun j => update f i b j = true) n = Nat.count (fun j => f j = true) n := by
  induction n with
  | zero => rfl
  | succ n ih =>
    rw [Nat.count_succ, Nat.count_succ, ih (Nat.le_of_succ_le h), update_of_ne (by omega)]

/-- One slot more. -/
theorem count_update_true (hi : i < n) (hf : f i = false) :
    Nat.count (fun j => update f i true j = true) n = Nat.count (fun j => f j = true) n + 1 := by
  induction n with
  | zero => exact absurd hi (Nat.not_lt_zero i)
  | succ n ih =>
    rw [Nat.count_succ, Nat.count_succ]
    by_cases h : i = n
    · subst h
      rw [count_update_of_le (Nat.le_refl i), update_self, hf]
      simp
    · rw [ih (by omega), update_of_ne (Ne.symm h)]
      omega

/-- One slot less. -/
theorem count_update_false (hi : i < n) (hf : f i = true) :
    Nat.count (fun j => update f i false j = true) n + 1 = Nat.count (fun j => f j = true) n := by
  have h := count_update_true (f := update f i false) hi (update_self i false f)
  have hback : update (update f i false) i true = f := by
    rw [update_idem, ← hf, update_eq_self]
  rw [hback] at h
  exact h.symm

end Count

/-! ### The sources -/

/-- A source with its history: which slots have received a word since they were last read,
    the arrival that filled each slot last, and the number of arrivals. -/
structure RandSource where
  ring : RandRing
  unread : Nat → Bool
  latest : Nat → Option Nat
  arrivals : Nat

namespace RandSource

variable (t : RandSource)

def arrive (w : UInt32) : RandSource where
  ring := t.ring.put w
  unread := update t.unread t.ring.head true
  latest := update t.latest t.ring.head (some t.arrivals)
  arrivals := t.arrivals + 1

def get : RandSource :=
  { t with
    ring := t.ring.get.2
    unread := if t.ring.head = t.ring.tail then t.unread else update t.unread t.ring.tail false }

/-- The number of slots with a word that nobody has read. -/
def unreadSlots : Nat := Nat.count (fun j => t.unread j = true) 1024

end RandSource

/-! ### The device -/

/-- The two sources, the bits gathered by `rtc_wakeup`, the interrupt enable of the RNG, and
    the arrivals whose words were read while `rand_avail` was positive. -/
structure Rand where
  rtc : RandSource
  rng : RandSource
  rndtemp : UInt32
  rndtempI : Nat
  rngIe : Bool
  served : List (Option Nat × Option Nat)

namespace Rand

variable (s : Rand)

/-- `rtc_wakeup`: the parity of five bits of the clock. -/
def rtcWakeup (clk : UInt32) : Rand :=
  let rnd := (clk ^^^ clk >>> 1 ^^^ clk >>> 2 ^^^ clk >>> 3 ^^^ clk >>> 4) &&& 1
  let s := { s with rndtemp := s.rndtemp <<< 1 ||| rnd, rndtempI := s.rndtempI + 1 }
  if s.rndtempI ≥ 32 then { s with rndtempI := 0, rtc := s.rtc.arrive s.rndtemp } else s

/-- `rng_handler`, while the interrupt is enabled. -/
def rngHandler (drdy : Bool) (dr : UInt32) : Rand :=
  if s.rngIe ∧ drdy then
    { s with
      rng := s.rng.arrive dr
      rngIe := (s.rng.ring.put dr).head ≠ s.rng.ring.tail }
  else s

/-- `rand_avail`. -/
def randAvail : Int :=
  if s.rtc.ring.level > s.rng.ring.level then s.rng.ring.level else s.rtc.ring.level

/-- The word `rand_get` returns. -/
def randWord : UInt32 := s.rtc.ring.get.1 ^^^ s.rng.ring.get.1

/-- `rand_get`. -/
def randGet : Rand :=
  { s with
    rtc := s.rtc.get
    rng := s.rng.get
    rngIe := if s.rng.ring.head = s.rng.ring.tail then s.rngIe else true
    served := if 0 < s.randAvail then
        (s.rtc.latest s.rtc.ring.tail, s.rng.latest s.rng.ring.tail) :: s.served
      else s.served }

inductive RandEvent where
  | rtcWakeup (clk : UInt32)
  | rngHandler (drdy : Bool) (dr : UInt32)
  | randGet

def step (s : Rand) : RandEvent → Rand
  | .rtcWakeup clk => s.rtcWakeup clk
  | .rngHandler drdy dr => s.rngHandler drdy dr
  | .randGet => s.randGet

/-- A ring before the first word. -/
def ringInit : RandSource where
  ring := ⟨fun _ => 0, 0, 0, 0⟩
  unread := fun _ => false
  latest := fun _ => none
  arrivals := 0

def init : Rand where
  rtc := ringInit
  rng := ringInit
  rndtemp := 0
  rndtempI := 0
  rngIe := true
  served := []

end Rand

open SignetBase.Firmware.Rand

/-- All runs. -/
abbrev RandRun := Run (· = Rand.init) Rand.step anyStep

/-! ### What is expected of them -/

/-- The level is the number of slots with a word that nobody has read. -/
def RandSource.LevelRight (t : RandSource) : Prop :=
  t.ring.level = t.unreadSlots ∧ t.ring.level ≤ 1023

def Rand.LevelsRight (s : Rand) : Prop := s.rtc.LevelRight ∧ s.rng.LevelRight

/-- `rand_get` takes words that nobody has read, if `rand_avail` says that there are some. -/
def Rand.Serves (s : Rand) (e : RandEvent) : Prop :=
  e = .randGet → 0 < s.randAvail →
    s.randWord = s.rtc.ring.buf s.rtc.ring.tail ^^^ s.rng.ring.buf s.rng.ring.tail ∧
      s.rtc.unread s.rtc.ring.tail = true ∧ s.rng.unread s.rng.ring.tail = true

/-- Along a run the levels are right, the words fresh, and none is read twice. -/
structure FreshWords (h : History Rand RandEvent) (s : Rand) : Prop where
  levels : s.LevelsRight
  levelsBefore : ∀ x ∈ h, x.1.LevelsRight
  serves : ∀ x ∈ h, x.1.Serves x.2
  rtcOnce : (s.served.map Prod.fst).Nodup
  rngOnce : (s.served.map Prod.snd).Nodup

/-! ### When they do it -/

/-- A word arrives when less than 512 are in the ring, and the head does not run into the tail. -/
def RandRing.ArrivesWell (r : RandRing) : Prop := r.level < 512 ∧ (r.head + 2) % 1024 ≠ r.tail

/-- The ring is empty, or the tail is where a word may be. -/
def RandRing.ReadsWell (r : RandRing) : Prop := r.head = r.tail ∨ r.tail % 2 = 0

def Rand.StepsWell (s : Rand) : RandEvent → Prop
  | .rtcWakeup _ => s.rndtempI + 1 ≥ 32 → s.rtc.ring.ArrivesWell
  | .rngHandler drdy _ => s.rngIe ∧ drdy → s.rng.ring.ArrivesWell
  | .randGet => s.rtc.ring.ReadsWell ∧ s.rng.ring.ReadsWell

/-- How a source looks in a run that goes well: nobody has read, or one word was read. -/
inductive RandSource.Phase (t : RandSource) : Prop where
  | untouched (n : Nat) : n ≤ 511 → t.ring.tail = 0 → t.ring.head = 2 * n → t.ring.level = n →
      (∀ j < 1024, t.unread j = decide (j % 2 = 0 ∧ j < 2 * n)) → Phase t
  | readOnce (n : Nat) : 1 ≤ n → n ≤ 513 → t.ring.tail = 1 → t.ring.head = 2 * n % 1024 →
      t.ring.level = (n : Int) - 1 →
      (∀ j < 1024, t.unread j = decide (j % 2 = 0 ∧ j < 2 * n ∧ (j = 0 → n = 513))) → Phase t

structure RandSource.Well (t : RandSource) : Prop where
  phase : t.Phase
  level : t.ring.level = t.unreadSlots

variable {t : RandSource} {s : Rand}

theorem well_init : Rand.ringInit.Well := by
  refine ⟨.untouched 0 (by decide) rfl rfl rfl fun j _ => ?_, ?_⟩
  · change false = _
    simp
  · change (0 : Int) = (Nat.count (fun _ => false = true) 1024 : Nat)
    simp

theorem RandSource.Well.levelRight (h : t.Well) : t.LevelRight := by
  refine ⟨h.level, ?_⟩
  cases h.phase with
  | untouched n hn _ _ hlevel _ => omega
  | readOnce n _ hn _ _ hlevel _ => omega

/-- A word in a free slot is one more. -/
theorem unreadSlots_arrive (w : UInt32) (hslot : t.ring.head < 1024)
    (hfree : t.unread t.ring.head = false) : (t.arrive w).unreadSlots = t.unreadSlots + 1 :=
  count_update_true hslot hfree

/-- A word in a slot that has one already. -/
theorem unreadSlots_arrive_again (w : UInt32) (hfull : t.unread t.ring.head = true) :
    (t.arrive w).unreadSlots = t.unreadSlots := by
  have hsame : update t.unread t.ring.head true = t.unread := by
    rw [← hfull, update_eq_self]
  unfold RandSource.unreadSlots RandSource.arrive
  rw [hsame]

theorem arrive_of_ne (w : UInt32) (h : (t.ring.head + 2) % 1024 ≠ t.ring.tail) :
    (t.arrive w).ring.head = (t.ring.head + 2) % 1024 ∧ (t.arrive w).ring.tail = t.ring.tail ∧
      (t.arrive w).ring.level = t.ring.level + 1 := by
  unfold RandSource.arrive RandRing.put
  dsimp only
  rw [if_neg h]
  exact ⟨rfl, rfl, rfl⟩

/-- The ring runs into its tail. -/
theorem level_arrive_of_eq (w : UInt32) (h : (t.ring.head + 2) % 1024 = t.ring.tail) :
    (t.arrive w).ring.level = t.ring.level := by
  unfold RandSource.arrive RandRing.put
  dsimp only
  rw [if_pos h]

theorem unread_arrive (w : UInt32) (j : Nat) :
    (t.arrive w).unread j = if j = t.ring.head then true else t.unread j :=
  update_apply t.unread t.ring.head true j

/-- **A word arrives well, or the level is wrong afterwards.** -/
theorem RandSource.Well.arrive (h : t.Well) (w : UInt32) :
    (t.ring.ArrivesWell → (t.arrive w).Well) ∧
      ((t.arrive w).LevelRight → t.ring.ArrivesWell) := by
  have hcount := h.level
  unfold RandRing.ArrivesWell
  cases h.phase with
  | untouched n hn htail hhead hlevel hunread =>
    have hslot : t.ring.head < 1024 := by omega
    have hfree : t.unread t.ring.head = false := by
      rw [hunread _ hslot, hhead]
      simp
    have hone := unreadSlots_arrive w hslot hfree
    constructor
    · rintro ⟨-, hroom⟩
      obtain ⟨hhead', htail', hlevel'⟩ := arrive_of_ne w hroom
      refine ⟨.untouched (n + 1) (by omega) (htail'.trans htail) (by omega) (by omega)
        fun j hj => ?_, by omega⟩
      rw [unread_arrive, hunread j hj, hhead]
      by_cases hj' : j = 2 * n
      · subst hj'
        simp
      · rw [if_neg hj', decide_eq_decide]
        omega
    · rintro ⟨hright, -⟩
      refine ⟨by omega, fun hfull => ?_⟩
      have hlevel' := level_arrive_of_eq w hfull
      omega
  | readOnce n hpos hn htail hhead hlevel hunread =>
    have hslot : t.ring.head < 1024 := by omega
    have hroom : (t.ring.head + 2) % 1024 ≠ t.ring.tail := by omega
    obtain ⟨hhead', htail', hlevel'⟩ := arrive_of_ne w hroom
    constructor
    · rintro ⟨hless, -⟩
      have hfree : t.unread t.ring.head = false := by
        rw [hunread _ hslot, decide_eq_false_iff_not]
        omega
      have hone := unreadSlots_arrive w hslot hfree
      refine ⟨.readOnce (n + 1) (by omega) (by omega) (htail'.trans htail) (by omega) (by omega)
        fun j hj => ?_, by omega⟩
      rw [unread_arrive, hunread j hj, hhead]
      by_cases hj' : j = 2 * n % 1024
      · rw [if_pos hj', eq_comm, decide_eq_true_iff]
        omega
      · rw [if_neg hj', decide_eq_decide]
        omega
    · rintro ⟨hright, -⟩
      refine ⟨?_, hroom⟩
      -- with 512 words every even slot has one
      by_contra hfull
      have hagain : t.unread t.ring.head = true := by
        rw [hunread _ hslot, decide_eq_true_iff]
        omega
      have hsame := unreadSlots_arrive_again w hagain
      omega

theorem get_of_ne (h : t.ring.head ≠ t.ring.tail) :
    t.get.ring.head = t.ring.head ∧ t.get.ring.tail = (t.ring.tail + 1) % 1024 ∧
      t.get.ring.level = t.ring.level - 1 ∧ t.get.unread = update t.unread t.ring.tail false := by
  unfold RandSource.get RandRing.get
  dsimp only
  rw [if_neg h, if_neg h]
  exact ⟨rfl, rfl, rfl, rfl⟩

theorem get_of_eq (h : t.ring.head = t.ring.tail) : t.get = t := by
  unfold RandSource.get RandRing.get
  rw [if_pos h, if_pos h]

/-- **A word is read well, or the level is wrong afterwards.** -/
theorem RandSource.Well.get (h : t.Well) :
    (t.ring.ReadsWell → t.get.Well) ∧ (t.get.LevelRight → t.ring.ReadsWell) := by
  have hcount := h.level
  unfold RandRing.ReadsWell
  cases h.phase with
  | untouched n hn htail hhead hlevel hunread =>
    refine ⟨fun _ => ?_, fun _ => .inr (by omega)⟩
    by_cases hempty : t.ring.head = t.ring.tail
    · rw [get_of_eq hempty]
      exact h
    · obtain ⟨hhead', htail', hlevel', hunread'⟩ := get_of_ne hempty
      have hfull : t.unread t.ring.tail = true := by
        rw [hunread _ (by omega), decide_eq_true_iff]
        omega
      have hless : t.get.unreadSlots + 1 = t.unreadSlots := by
        unfold RandSource.unreadSlots
        rw [hunread']
        exact count_update_false (by omega) hfull
      refine ⟨.readOnce n (by omega) (by omega) (by omega) (by omega) (by omega)
        fun j hj => ?_, by omega⟩
      rw [hunread', update_apply, hunread j hj, htail]
      by_cases hj' : j = 0
      · rw [if_pos hj', eq_comm, decide_eq_false_iff_not]
        omega
      · rw [if_neg hj', decide_eq_decide]
        omega
  | readOnce n hpos hn htail hhead hlevel hunread =>
    have hne : t.ring.head ≠ t.ring.tail := by omega
    constructor
    · rintro (heq | heven)
      · exact absurd heq hne
      · omega
    · -- an odd slot is never filled
      rintro ⟨hright, -⟩
      obtain ⟨-, -, hlevel', hunread'⟩ := get_of_ne hne
      have hstale : t.unread t.ring.tail = false := by
        rw [hunread _ (by omega), decide_eq_false_iff_not]
        omega
      have hsame : t.get.unreadSlots = t.unreadSlots := by
        unfold RandSource.unreadSlots
        rw [hunread', ← hstale, update_eq_self]
      omega

/-- A word that is read well is one that nobody has read. -/
theorem RandSource.Well.fresh (h : t.Well) (hread : t.ring.ReadsWell) (hpos : 0 < t.ring.level) :
    t.ring.head ≠ t.ring.tail ∧ t.unread t.ring.tail = true := by
  cases h.phase with
  | untouched n hn htail hhead hlevel hunread =>
    refine ⟨by omega, ?_⟩
    rw [hunread _ (by omega), decide_eq_true_iff]
    omega
  | readOnce n hone hn htail hhead hlevel hunread =>
    rcases hread with heq | heven
    · omega
    · omega

/-! ### Runs -/

/-- The invariant of the runs that go well. -/
structure Rand.Well (s : Rand) : Prop where
  rtc : s.rtc.Well
  rng : s.rng.Well
  served : s.served = [] ∨ s.rtc.ring.tail = 1 ∧ ∃ x, s.served = [x]

theorem Rand.Well.levelsRight (h : s.Well) : s.LevelsRight :=
  ⟨h.rtc.levelRight, h.rng.levelRight⟩

/-- A positive `rand_avail` means that both sources have a word. -/
theorem levels_of_avail (h : 0 < s.randAvail) : 0 < s.rtc.ring.level ∧ 0 < s.rng.ring.level := by
  unfold Rand.randAvail at h
  split at h <;> omega

theorem Rand.Well.serves (h : s.Well) {e : RandEvent} (he : s.StepsWell e) : s.Serves e := by
  rintro rfl havail
  obtain ⟨hrtc, hrng⟩ := levels_of_avail havail
  obtain ⟨hne, hfresh⟩ := h.rtc.fresh he.1 hrtc
  obtain ⟨hne', hfresh'⟩ := h.rng.fresh he.2 hrng
  refine ⟨?_, hfresh, hfresh'⟩
  unfold Rand.randWord RandRing.get
  rw [if_neg hne, if_neg hne']

/-- **A step that goes well keeps the invariant.** -/
theorem Rand.Well.step (h : s.Well) {e : RandEvent} (he : s.StepsWell e) : (s.step e).Well := by
  cases e with
  | rtcWakeup clk =>
    change (s.rtcWakeup clk).Well
    unfold Rand.rtcWakeup
    dsimp only
    split
    · rename_i hfull
      have hwell := he hfull
      refine ⟨(h.rtc.arrive _).1 hwell, h.rng, ?_⟩
      rcases h.served with hnone | ⟨htail, hone⟩
      · exact .inl hnone
      · exact .inr ⟨(arrive_of_ne _ hwell.2).2.1.trans htail, hone⟩
    · exact ⟨h.rtc, h.rng, h.served⟩
  | rngHandler drdy dr =>
    change (s.rngHandler drdy dr).Well
    unfold Rand.rngHandler
    split
    · rename_i hready
      exact ⟨h.rtc, (h.rng.arrive dr).1 (he hready), h.served⟩
    · exact h
  | randGet =>
    refine ⟨h.rtc.get.1 he.1, h.rng.get.1 he.2, ?_⟩
    change (if 0 < s.randAvail then _ else s.served) = [] ∨ _
    split
    · rename_i havail
      have hlevel := (levels_of_avail havail).1
      have hne := (h.rtc.fresh he.1 hlevel).1
      have htail : s.rtc.ring.tail = 0 := by
        cases h.rtc.phase with
        | untouched n _ htail _ _ _ => exact htail
        | readOnce n _ _ htail _ _ _ =>
          rcases he.1 with heq | heven
          · exact absurd heq hne
          · omega
      have hnone : s.served = [] := by
        rcases h.served with hnone | ⟨hone, -⟩
        · exact hnone
        · omega
      obtain ⟨-, htail', -, -⟩ := get_of_ne hne
      refine .inr ⟨?_, (s.rtc.latest s.rtc.ring.tail, s.rng.latest s.rng.ring.tail), ?_⟩
      · change s.rtc.get.ring.tail = 1
        omega
      · change (if 0 < s.randAvail then _ else _) = _
        rw [if_pos havail, hnone]
    · rcases h.served with hnone | ⟨hone, -⟩
      · exact .inl hnone
      · -- a second read would not go well
        exfalso
        cases h.rtc.phase with
        | untouched n _ htail _ _ _ => omega
        | readOnce n _ _ htail hhead _ _ =>
          rcases he.1 with heq | heven
          · omega
          · omega

/-- A step of a run that went well so far keeps the levels right only if it goes well. -/
theorem Rand.Well.stepsWell (h : s.Well) {e : RandEvent} (hright : (s.step e).LevelsRight) :
    s.StepsWell e := by
  cases e with
  | rtcWakeup clk =>
    intro hfull
    change (s.rtcWakeup clk).LevelsRight at hright
    unfold Rand.rtcWakeup at hright
    dsimp only at hright
    rw [if_pos hfull] at hright
    exact (h.rtc.arrive _).2 hright.1
  | rngHandler drdy dr =>
    intro hready
    change (s.rngHandler drdy dr).LevelsRight at hright
    unfold Rand.rngHandler at hright
    rw [if_pos hready] at hright
    exact (h.rng.arrive dr).2 hright.2
  | randGet => exact ⟨h.rtc.get.2 hright.1, h.rng.get.2 hright.2⟩

theorem freshWords_of_well {h : History Rand RandEvent} (hr : RandRun h s)
    (hwell : ∀ x ∈ h, x.1.StepsWell x.2) : s.Well ∧ FreshWords h s := by
  have hrun : Run (· = Rand.init) Rand.step Rand.StepsWell h s := hr.restrict hwell
  refine Run.invariant (P := fun h s => s.Well ∧ FreshWords h s) ?_ ?_ hrun
  · rintro _ rfl
    have hinit : Rand.init.Well := ⟨well_init, well_init, .inl rfl⟩
    exact ⟨hinit, hinit.levelsRight, by simp, by simp, List.nodup_nil, List.nodup_nil⟩
  · intro h s e _ he ⟨hs, hfresh⟩
    have hnext := hs.step he
    refine ⟨hnext, hnext.levelsRight, ?_, ?_, ?_, ?_⟩
    · intro x hx
      rcases List.mem_cons.mp hx with rfl | hx
      · exact hfresh.levels
      · exact hfresh.levelsBefore x hx
    · intro x hx
      rcases List.mem_cons.mp hx with rfl | hx
      · exact hs.serves he
      · exact hfresh.serves x hx
    · rcases hnext.served with hnone | ⟨-, x, hone⟩
      · rw [hnone]
        exact List.nodup_nil
      · rw [hone]
        exact List.nodup_singleton _
    · rcases hnext.served with hnone | ⟨-, x, hone⟩
      · rw [hnone]
        exact List.nodup_nil
      · rw [hone]
        exact List.nodup_singleton _

/-- What was read before a step is still in the list. -/
theorem served_suffix (s : Rand) (e : RandEvent) : s.served <:+ (s.step e).served := by
  cases e with
  | rtcWakeup clk =>
    change _ <:+ (s.rtcWakeup clk).served
    unfold Rand.rtcWakeup
    dsimp only
    split <;> exact List.suffix_rfl
  | rngHandler drdy dr =>
    change _ <:+ (s.rngHandler drdy dr).served
    unfold Rand.rngHandler
    split <;> exact List.suffix_rfl
  | randGet =>
    change _ <:+ (if 0 < s.randAvail then _ else s.served)
    split
    · exact List.suffix_cons _ _
    · exact List.suffix_rfl

/-- **All words of a run are fresh just when every step goes well**: a word is only read from
    an even slot or an empty ring, and only arrives in a ring with less than 512 words whose
    head does not run into its tail. -/
theorem freshWords_iff {h : History Rand RandEvent} (hr : RandRun h s) :
    FreshWords h s ↔ ∀ x ∈ h, x.1.StepsWell x.2 := by
  refine ⟨fun hfresh => ?_, fun hwell => (freshWords_of_well hr hwell).2⟩
  induction hr with
  | start _ => simp
  | next hr _ ih =>
    rename_i h s e _
    have hsuffix := (served_suffix s e).sublist
    have hbefore : FreshWords h s :=
      ⟨hfresh.levelsBefore _ List.mem_cons_self,
        fun x hx => hfresh.levelsBefore x (List.mem_cons_of_mem _ hx),
        fun x hx => hfresh.serves x (List.mem_cons_of_mem _ hx),
        hfresh.rtcOnce.sublist (hsuffix.map _), hfresh.rngOnce.sublist (hsuffix.map _)⟩
    have hwell := ih hbefore
    intro x hx
    rcases List.mem_cons.mp hx with rfl | hx
    · exact (freshWords_of_well hr hwell).1.stepsWell hfresh.levels
    · exact hwell x hx

/-- Two words from each source, and one read. -/
def twoWords : List RandEvent :=
  List.replicate 64 (.rtcWakeup 1) ++ [.rngHandler true 5, .rngHandler true 6, .randGet]

/-- The second of two words is read from a slot that was never filled. -/
theorem rand_get_stale : ¬∀ h s, RandRun h s → FreshWords h s := by
  intro hall
  have hrun : RandRun (replay Rand.step twoWords ([], Rand.init)).1
      (replay Rand.step twoWords ([], Rand.init)).2 :=
    run_replay twoWords ([], Rand.init) (.start rfl)
  have hfresh := hall _ _ (.next (e := .randGet) hrun trivial)
  obtain ⟨-, hunread, -⟩ := hfresh.serves _ List.mem_cons_self rfl (by decide +kernel)
  have hstale : (replay Rand.step twoWords ([], Rand.init)).2.rtc.unread
      (replay Rand.step twoWords ([], Rand.init)).2.rtc.ring.tail = false := by decide +kernel
  rw [hstale] at hunread
  cases hunread

instance (s : Rand) (e : RandEvent) : Decidable (s.StepsWell e) := by
  unfold Rand.StepsWell RandRing.ArrivesWell RandRing.ReadsWell
  cases e <;> infer_instance

/-- One word from each source, and one read. -/
def oneWord : List RandEvent :=
  List.replicate 32 (.rtcWakeup 1) ++ [.rngHandler true 5, .randGet]

/-- The first word is fresh. -/
theorem freshWords_one : FreshWords (replay Rand.step oneWord ([], Rand.init)).1
    (replay Rand.step oneWord ([], Rand.init)).2 := by
  have hrun : RandRun (replay Rand.step oneWord ([], Rand.init)).1
      (replay Rand.step oneWord ([], Rand.init)).2 :=
    run_replay oneWord ([], Rand.init) (.start rfl)
  exact (freshWords_iff hrun).mpr (by decide +kernel)

end SignetBase.Firmware
