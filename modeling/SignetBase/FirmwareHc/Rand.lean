/-
  SignetBase/FirmwareHc/Rand.lean
  ===============================
  **The random words of the Signet HC (`rand.c`), which may be read again.**

  Each of two interrupts pushes words into a ring of 1024, and `rand_get` takes a word from
  both.  A consumer that may fail and be retried sets a rewind point first; `rand_rewind`
  puts the tails back there, and no push goes past it as long as it is set.  So a ring is
  a tape that is read from a cursor which may go back to a mark.

  A source comes with a record of what nobody has read: reads that are undone by a rewind
  do not count.  The device keeps the words that `rand_get` returned since the rewind point
  was set, up to the first call that found a source empty and returned half a word.

  `rewindable` says that the words are replayed, that no slot is served twice and that a
  push is refused only by a full ring.
-/
import SignetBase.Run
import SignetBase.Tape

namespace SignetBase.FirmwareHc

open Function

/-! ### The sources -/

/-- `enum rand_src`. -/
inductive RandSrc where
  | trng
  | rtc

/-- `struct rand_src_state`; no rewind point is `rewind_tail = -1`. -/
structure RandSrcState where
  buf : Nat → UInt32
  head : Nat
  level : Int
  tail : Nat
  rewindLevel : Int
  rewindTail : Option Nat

namespace RandSrcState

variable (src : RandSrcState)

/-- `rand_src_rewind`. -/
def rewind : RandSrcState :=
  match src.rewindTail with
  | some tail => { src with level := src.rewindLevel, tail }
  | none => src

/-- `rand_src_get`. -/
def get : UInt32 × RandSrcState :=
  if src.head = src.tail then (0, src)
  else (src.buf src.tail, { src with tail := (src.tail + 1) % 1024, level := src.level - 1 })

/-- `rand_src_rewind_point`. -/
def rewindPoint : RandSrcState :=
  { src with rewindTail := some src.tail, rewindLevel := src.level }

/-- The tail that a push must not reach. -/
def limit : Nat := src.rewindTail.getD src.tail

/-- The part of `rand_push` that stores the word. -/
def push (val : UInt32) : RandSrcState :=
  { src with
    buf := update src.buf src.head (src.buf src.head ^^^ val)
    level := src.level + 1
    head := (src.head + 1) % 1024
    rewindLevel := if src.rewindTail.isSome then src.rewindLevel + 1 else src.rewindLevel }

end RandSrcState

/-- A source with the slots that nobody has read since they were filled, and those that were
    read since the rewind point was set. -/
structure RandSource where
  ring : RandSrcState
  unread : Nat → Bool
  readSince : Nat → Bool

namespace RandSource

variable (t : RandSource)

def rewind : RandSource :=
  match t.ring.rewindTail with
  | some _ =>
    { ring := t.ring.rewind
      unread := fun j => t.unread j || t.readSince j
      readSince := fun _ => false }
  | none => { t with ring := t.ring.rewind }

def get : RandSource :=
  if t.ring.head = t.ring.tail then { t with ring := t.ring.get.2 }
  else
    { ring := t.ring.get.2
      unread := update t.unread t.ring.tail false
      readSince := update t.readSince t.ring.tail true }

def rewindPoint : RandSource :=
  { t with ring := t.ring.rewindPoint, readSince := fun _ => false }

def clearRewindPoint : RandSource := { t with ring := { t.ring with rewindTail := none } }

def push (val : UInt32) : RandSource :=
  { t with ring := t.ring.push val, unread := update t.unread t.ring.head true }

end RandSource

/-! ### The device -/

/-- The words returned since the rewind point was set, the place of the next one among them,
    and whether a source was found empty. -/
structure Replay where
  returned : List UInt32
  place : Nat
  dry : Bool

/-- A word is returned: again, or for the first time, or after a source was found empty. -/
def Replay.note (r : Replay) (avail : Int) (word : UInt32) : Replay :=
  if r.place < r.returned.length then { r with place := r.place + 1 }
  else if avail ≤ 0 ∨ r.dry then { r with dry := true }
  else { r with returned := r.returned ++ [word], place := r.place + 1 }

/-- Both sources with their interrupt enables, and what was returned if a rewind point is set. -/
structure Rand where
  rng : RandSource
  rtc : RandSource
  rngIrq : Bool
  rtcIrq : Bool
  since : Option Replay

namespace Rand

variable (s : Rand)

/-- `rand_avail`. -/
def randAvail : Int :=
  if s.rtc.ring.level > s.rng.ring.level then s.rng.ring.level else s.rtc.ring.level

/-- The word `rand_get` returns. -/
def randWord : UInt32 := s.rtc.ring.get.1 ^^^ s.rng.ring.get.1

/-- `rand_get`. -/
def randGet : Rand where
  rtc := s.rtc.get
  rng := s.rng.get
  rngIrq := true
  rtcIrq := true
  since := s.since.map fun r => r.note s.randAvail s.randWord

/-- `rand_set_rewind_point`. -/
def randSetRewindPoint : Rand :=
  { s with rtc := s.rtc.rewindPoint, rng := s.rng.rewindPoint, since := some ⟨[], 0, false⟩ }

/-- `rand_rewind`. -/
def randRewind : Rand :=
  { s with
    rng := s.rng.rewind
    rtc := s.rtc.rewind
    since := s.since.map fun r => { r with place := 0 } }

/-- `rand_clear_rewind_point`. -/
def randClearRewindPoint : Rand where
  rtc := s.rtc.clearRewindPoint
  rng := s.rng.clearRewindPoint
  rngIrq := true
  rtcIrq := true
  since := none

def source : RandSrc → RandSource
  | .trng => s.rng
  | .rtc => s.rtc

/-- `rand_push`. -/
def randPush (src : RandSrc) (val : UInt32) : Rand :=
  if ((s.source src).ring.head + 1) % 1024 ≠ (s.source src).ring.limit then
    match src with
    | .trng => { s with rng := s.rng.push val }
    | .rtc => { s with rtc := s.rtc.push val }
  else
    match src with
    | .trng => { s with rngIrq := false }
    | .rtc => { s with rtcIrq := false }

inductive RandEvent where
  | push (src : RandSrc) (val : UInt32)
  | get
  | setRewindPoint
  | rewind
  | clearRewindPoint

def step (s : Rand) : RandEvent → Rand
  | .push src val => s.randPush src val
  | .get => s.randGet
  | .setRewindPoint => s.randSetRewindPoint
  | .rewind => s.randRewind
  | .clearRewindPoint => s.randClearRewindPoint

def sourceInit : RandSource where
  ring := ⟨fun _ => 0, 0, 0, 0, 0, none⟩
  unread := fun _ => false
  readSince := fun _ => false

/-- After `rand_init`. -/
def init : Rand := ⟨sourceInit, sourceInit, false, false, none⟩

end Rand

open SignetBase.FirmwareHc.Rand

/-- All runs. -/
abbrev RandRun := Run (· = Rand.init) Rand.step anyStep

/-! ### What is expected of them -/

/-- The levels count the slots from the tails to the head. -/
def RandSrcState.LevelsRight (src : RandSrcState) : Prop :=
  src.level = ((src.head : Int) - src.tail) % 1024 ∧
    ∀ tail, src.rewindTail = some tail → src.rewindLevel = ((src.head : Int) - tail) % 1024

/-- The number of slots that hold a word which may still be read. -/
def RandSrcState.kept (src : RandSrcState) : Int :=
  if src.rewindTail.isSome then src.rewindLevel else src.level

/-- A word that was returned since the rewind point was set is returned again. -/
def Rand.Replays (s : Rand) (e : RandEvent) : Prop :=
  e = .get → ∀ r, s.since = some r → ∀ h : r.place < r.returned.length,
    s.randWord = r.returned[r.place]

/-- A word is taken from a slot that nobody has read since it was filled. -/
def Rand.Serves (s : Rand) (e : RandEvent) : Prop :=
  e = .get → ∀ src, (s.source src).ring.head ≠ (s.source src).ring.tail →
    (s.source src).unread (s.source src).ring.tail = true

/-- A word that is pushed is stored in the slot at the head, unless all slots but one hold
    words which may still be read. -/
def Rand.Stores (s : Rand) (e : RandEvent) : Prop :=
  ∀ src val, e = .push src val →
    (s.step e).source src = (s.source src).push val ∨
      (s.step e).source src = s.source src ∧ (s.source src).ring.kept = 1023

/-- Along a run the levels are right, the words are replayed, none is read twice and none is
    refused that there is room for. -/
structure Rewindable (h : History Rand RandEvent) (s : Rand) : Prop where
  levels : ∀ src, (s.source src).ring.LevelsRight
  replays : ∀ x ∈ h, x.1.Replays x.2
  serves : ∀ x ∈ h, x.1.Serves x.2
  stores : ∀ x ∈ h, x.1.Stores x.2

/-! ### A source holds a tape -/

/-- The source `t` holds the part of `w` that may still be read. -/
structure RandSource.Holds (t : RandSource) (w : Tape UInt32) : Prop where
  held : w.Held 1024 t.ring.buf
  head : t.ring.head = w.words.length % 1024
  tail : t.ring.tail = w.cursor % 1024
  level : t.ring.level = (w.words.length : Int) - w.cursor
  rewindTail : t.ring.rewindTail = w.mark.map (· % 1024)
  rewindLevel : ∀ m, w.mark = some m → t.ring.rewindLevel = (w.words.length : Int) - m
  unread : ∀ k, w.cursor ≤ k → k < w.words.length → t.unread (k % 1024) = true
  readSince : ∀ m, w.mark = some m → ∀ k, m ≤ k → k < w.cursor → t.readSince (k % 1024) = true

variable {t : RandSource} {w rng rtc : Tape UInt32} {s : Rand}

theorem holds_init : sourceInit.Holds ⟨[], 0, none⟩ where
  held := ⟨Nat.le_refl 0, Nat.le_refl 0, by decide, fun _ hk => absurd hk (Nat.not_lt_zero _)⟩
  head := rfl
  tail := rfl
  level := rfl
  rewindTail := rfl
  rewindLevel := by rintro _ ⟨⟩
  unread := fun _ _ hk => absurd hk (Nat.not_lt_zero _)
  readSince := by rintro _ ⟨⟩

theorem RandSource.Holds.limit (h : t.Holds w) : t.ring.limit = w.low % 1024 := by
  unfold RandSrcState.limit Tape.low
  rw [h.rewindTail, h.tail]
  cases w.mark <;> rfl

theorem RandSource.Holds.kept (h : t.Holds w) :
    t.ring.kept = (w.words.length : Int) - w.low := by
  unfold RandSrcState.kept Tape.low
  rw [h.rewindTail]
  cases hmark : w.mark with
  | none => exact h.level
  | some m => exact h.rewindLevel m hmark

theorem RandSource.Holds.levelsRight (h : t.Holds w) : t.ring.LevelsRight := by
  have hroom := h.held.room
  have hlow := h.held.low_le
  have hcursor := h.held.cursor_le
  have hhead := h.head
  have htail := h.tail
  have hlevel := h.level
  constructor
  · omega
  · intro tail hrewind
    rw [h.rewindTail] at hrewind
    cases hmark : w.mark with
    | none =>
      rw [hmark] at hrewind
      cases hrewind
    | some m =>
      have hrewindLevel := h.rewindLevel m hmark
      rw [hmark] at hrewind
      injection hrewind with hrewind
      have hm : w.low = m := by
        unfold Tape.low
        rw [hmark]
        rfl
      dsimp only at hrewind
      omega

/-- The ring is full up to the limit when a push is refused. -/
theorem RandSource.Holds.kept_of_full (h : t.Holds w)
    (hfull : (t.ring.head + 1) % 1024 = t.ring.limit) : t.ring.kept = 1023 := by
  rw [h.head, h.limit, Nat.mod_add_mod] at hfull
  have hlen := h.held.full_iff.mp hfull
  rw [h.kept]
  omega

theorem RandSource.Holds.word (h : t.Holds w) (hlt : w.cursor < w.words.length) :
    t.ring.get.1 = w.words[w.cursor] := by
  have hne : t.ring.head ≠ t.ring.tail := by
    rw [h.head, h.tail]
    exact fun heq => absurd (h.held.empty_iff.mp heq) (Nat.ne_of_lt hlt)
  unfold RandSrcState.get
  rw [if_neg hne, h.tail]
  exact h.held.cells _ hlt h.held.low_le

theorem RandSource.Holds.ring_ne_iff (h : t.Holds w) :
    t.ring.head ≠ t.ring.tail ↔ w.cursor < w.words.length := by
  have hle := h.held.cursor_le
  rw [h.head, h.tail, Ne, h.held.empty_iff]
  omega

/-- **A word is pushed.** -/
theorem RandSource.Holds.push (h : t.Holds w) (val : UInt32)
    (hroom : (t.ring.head + 1) % 1024 ≠ t.ring.limit) :
    (t.push val).Holds (w.write (t.ring.buf t.ring.head ^^^ val)) := by
  have hlen : (w.write (t.ring.buf t.ring.head ^^^ val)).words.length = w.words.length + 1 :=
    List.length_append
  have hroom' : w.words.length + 1 ≠ w.low + 1024 := by
    rw [h.head, h.limit, Nat.mod_add_mod] at hroom
    exact fun heq => hroom (h.held.full_iff.mpr heq)
  have hlevel := h.level
  refine ⟨?_, ?_, h.tail, ?_, h.rewindTail, ?_, ?_, h.readSince⟩
  · have hheld := h.held.write (t.ring.buf t.ring.head ^^^ val) hroom'
    rw [← h.head] at hheld
    exact hheld
  · change (t.ring.head + 1) % 1024 = _
    rw [hlen, h.head, Nat.mod_add_mod]
  · change t.ring.level + 1 = (_ : Int) - w.cursor
    omega
  · intro m hmark
    change w.mark = some m at hmark
    have hrewind := h.rewindLevel m hmark
    change (if t.ring.rewindTail.isSome then _ else _) = _
    rw [h.rewindTail, hmark]
    change t.ring.rewindLevel + 1 = _
    omega
  · intro k hcursor hk
    change w.cursor ≤ k at hcursor
    change update t.unread t.ring.head true (k % 1024) = true
    by_cases hslot : k % 1024 = t.ring.head
    · rw [hslot, update_self]
    · have hne : k ≠ w.words.length := fun heq => hslot (by rw [heq, h.head])
      rw [update_of_ne hslot]
      exact h.unread k hcursor (by omega)

/-- **A word is read.** -/
theorem RandSource.Holds.get (h : t.Holds w) : t.get.Holds w.read := by
  have hheld := h.held.read
  by_cases hlt : w.cursor < w.words.length
  · have hne := h.ring_ne_iff.mpr hlt
    have hring : t.ring.get.2 =
        { t.ring with tail := (t.ring.tail + 1) % 1024, level := t.ring.level - 1 } := by
      unfold RandSrcState.get
      rw [if_neg hne]
    have hread : w.read = { w with cursor := w.cursor + 1 } := if_pos hlt
    have hlevel := h.level
    rw [hread] at hheld ⊢
    unfold RandSource.get
    rw [if_neg hne, hring]
    refine ⟨hheld, h.head, ?_, ?_, h.rewindTail, h.rewindLevel, ?_, ?_⟩
    · change (t.ring.tail + 1) % 1024 = (w.cursor + 1) % 1024
      rw [h.tail, Nat.mod_add_mod]
    · change t.ring.level - 1 = (w.words.length : Int) - (w.cursor + 1 : Nat)
      omega
    · intro k hcursor hk
      change w.cursor + 1 ≤ k at hcursor
      change k < w.words.length at hk
      have hlow := h.held.low_le
      have hslot : k % 1024 ≠ t.ring.tail := by
        rw [h.tail]
        intro heq
        have := h.held.cell_inj (by omega) hlow (Nat.le_of_lt hk) (Nat.le_of_lt hlt) heq
        omega
      change update t.unread t.ring.tail false (k % 1024) = true
      rw [update_of_ne hslot]
      exact h.unread k (by omega) hk
    · intro m hmark k hm hk
      change k < w.cursor + 1 at hk
      change update t.readSince t.ring.tail true (k % 1024) = true
      by_cases hslot : k % 1024 = t.ring.tail
      · rw [hslot, update_self]
      · have hne' : k ≠ w.cursor := fun heq => hslot (by rw [heq, h.tail])
        rw [update_of_ne hslot]
        exact h.readSince m hmark k hm (by omega)
  · have heq : t.ring.head = t.ring.tail := by
      by_contra hne
      exact hlt (h.ring_ne_iff.mp hne)
    have hread : w.read = w := if_neg hlt
    have hget : t.get = t := by
      unfold RandSource.get RandSrcState.get
      rw [if_pos heq, if_pos heq]
    rw [hread, hget]
    exact h

theorem RandSource.Holds.rewindPoint (h : t.Holds w) : t.rewindPoint.Holds w.setMark where
  held := h.held.setMark
  head := h.head
  tail := h.tail
  level := h.level
  rewindTail := congrArg some h.tail
  rewindLevel := by
    rintro _ ⟨⟩
    exact h.level
  unread := h.unread
  readSince := by
    rintro _ ⟨⟩ k hm hk
    exact absurd hm (Nat.not_le_of_lt hk)

theorem RandSource.Holds.clearRewindPoint (h : t.Holds w) :
    t.clearRewindPoint.Holds w.clearMark where
  held := h.held.clearMark
  head := h.head
  tail := h.tail
  level := h.level
  rewindTail := rfl
  rewindLevel := by rintro _ ⟨⟩
  unread := h.unread
  readSince := by rintro _ ⟨⟩

/-- **The reads are undone.** -/
theorem RandSource.Holds.rewind (h : t.Holds w) : t.rewind.Holds w.rewind := by
  have hheld := h.held.rewind
  cases hmark : w.mark with
  | none =>
    have htail : t.ring.rewindTail = none := by rw [h.rewindTail, hmark]; rfl
    have hsame : t.rewind = t := by
      unfold RandSource.rewind RandSrcState.rewind
      rw [htail]
    rw [Tape.rewind_of_none hmark, hsame]
    exact h
  | some m =>
    have htail : t.ring.rewindTail = some (m % 1024) := by rw [h.rewindTail, hmark]; rfl
    have hrewind : t.rewind =
        { ring := { t.ring with level := t.ring.rewindLevel, tail := m % 1024 }
          unread := fun j => t.unread j || t.readSince j
          readSince := fun _ => false } := by
      unfold RandSource.rewind RandSrcState.rewind
      split
      · rename_i tail hsome
        rw [htail] at hsome
        cases hsome
        rfl
      · rename_i hnone
        rw [htail] at hnone
        cases hnone
    rw [Tape.rewind_of_some hmark] at hheld ⊢
    rw [hrewind]
    refine ⟨hheld, h.head, rfl, h.rewindLevel m hmark, h.rewindTail, h.rewindLevel, ?_, ?_⟩
    · intro k hm hk
      change (t.unread (k % 1024) || t.readSince (k % 1024)) = true
      rcases Nat.lt_or_ge k w.cursor with hlt | hge
      · rw [h.readSince m hmark k hm hlt, Bool.or_true]
      · rw [h.unread k hge hk, Bool.true_or]
    · intro m' hm' k hle hk
      change w.mark = some m' at hm'
      change k < m at hk
      rw [hmark] at hm'
      injection hm' with hm'
      omega

/-! ### What was returned is on the tapes -/

/-- The words returned since the rewind point was set are those behind the marks, and the next
    one is at the cursors unless a source was found empty. -/
structure Replay.On (r : Replay) (rng rtc : Tape UInt32) (m n : Nat) : Prop where
  rngMark : rng.mark = some m
  rtcMark : rtc.mark = some n
  place_le : r.place ≤ r.returned.length
  cursors : r.place < r.returned.length ∨ r.dry = false →
    rng.cursor = m + r.place ∧ rtc.cursor = n + r.place
  words : ∀ i word, r.returned[i]? = some word →
    ∃ a b, rng.words[m + i]? = some a ∧ rtc.words[n + i]? = some b ∧ word = b ^^^ a

theorem Tape.read_mark : w.read.mark = w.mark := by
  unfold Tape.read
  split <;> rfl

theorem Tape.read_words : w.read.words = w.words := by
  unfold Tape.read
  split <;> rfl

theorem Tape.read_cursor (h : w.cursor < w.words.length) : w.read.cursor = w.cursor + 1 :=
  congrArg Tape.cursor (if_pos h)

variable {r : Replay} {m n : Nat}

/-- A word that is there stays where it is when more is written. -/
theorem getElem?_of_prefix {l l' : List UInt32} (h : l <+: l') {i : Nat} {a : UInt32}
    (ha : l[i]? = some a) : l'[i]? = some a := by
  obtain ⟨hi, rfl⟩ := List.getElem?_eq_some_iff.mp ha
  exact List.prefix_iff_getElem?.mp h i hi

/-- What is written does not change what is there. -/
theorem Replay.On.mono (h : r.On rng rtc m n) {rng' rtc' : Tape UInt32}
    (hmark : rng'.mark = rng.mark) (hmark' : rtc'.mark = rtc.mark)
    (hcursor : rng'.cursor = rng.cursor) (hcursor' : rtc'.cursor = rtc.cursor)
    (hwords : rng.words <+: rng'.words) (hwords' : rtc.words <+: rtc'.words) :
    r.On rng' rtc' m n where
  rngMark := hmark.trans h.rngMark
  rtcMark := hmark'.trans h.rtcMark
  place_le := h.place_le
  cursors := fun hr => ⟨hcursor.trans (h.cursors hr).1, hcursor'.trans (h.cursors hr).2⟩
  words := by
    intro i word hi
    obtain ⟨a, b, ha, hb, hab⟩ := h.words i word hi
    exact ⟨a, b, getElem?_of_prefix hwords ha, getElem?_of_prefix hwords' hb, hab⟩

/-- Where a word is to be replayed both sources have it. -/
theorem Replay.On.replay (h : r.On rng rtc m n) (hlt : r.place < r.returned.length) :
    ∃ (ha : rng.cursor < rng.words.length) (hb : rtc.cursor < rtc.words.length),
      r.returned[r.place] = rtc.words[rtc.cursor] ^^^ rng.words[rng.cursor] := by
  obtain ⟨hrng, hrtc⟩ := h.cursors (.inl hlt)
  obtain ⟨a, b, ha, hb, hab⟩ := h.words r.place _ (List.getElem?_eq_getElem hlt)
  rw [← hrng, List.getElem?_eq_some_iff] at ha
  rw [← hrtc, List.getElem?_eq_some_iff] at hb
  obtain ⟨ha, rfl⟩ := ha
  obtain ⟨hb, rfl⟩ := hb
  exact ⟨ha, hb, hab⟩

/-- **A word is returned.** -/
theorem Replay.On.note (h : r.On rng rtc m n) (avail : Int) (word : UInt32)
    (havail : 0 < avail → ∃ (ha : rng.cursor < rng.words.length)
      (hb : rtc.cursor < rtc.words.length),
      word = rtc.words[rtc.cursor] ^^^ rng.words[rng.cursor]) :
    (r.note avail word).On rng.read rtc.read m n := by
  have hle := h.place_le
  have hwords : ∀ i word, r.returned[i]? = some word → ∃ a b,
      rng.read.words[m + i]? = some a ∧ rtc.read.words[n + i]? = some b ∧ word = b ^^^ a := by
    rw [Tape.read_words, Tape.read_words]
    exact h.words
  have hmark := Tape.read_mark.trans h.rngMark
  have hmark' := Tape.read_mark.trans h.rtcMark
  unfold Replay.note
  split
  · rename_i hlt
    obtain ⟨ha, hb, -⟩ := h.replay hlt
    obtain ⟨hrng, hrtc⟩ := h.cursors (.inl hlt)
    refine ⟨hmark, hmark', hlt, fun _ => ?_, hwords⟩
    rw [Tape.read_cursor ha, Tape.read_cursor hb, hrng, hrtc]
    exact ⟨rfl, rfl⟩
  · rename_i hge
    split
    · refine ⟨hmark, hmark', hle, ?_, hwords⟩
      rintro (hlt | hdry)
      · exact absurd hlt hge
      · cases hdry
    · rename_i hnew
      rw [not_or, Bool.not_eq_true] at hnew
      obtain ⟨ha, hb, hword⟩ := havail (by omega)
      obtain ⟨hrng, hrtc⟩ := h.cursors (.inr hnew.2)
      have hplace : r.place = r.returned.length := by omega
      refine ⟨hmark, hmark', ?_, fun _ => ?_, ?_⟩
      · change r.place + 1 ≤ (r.returned ++ [word]).length
        rw [List.length_append, hplace]
        exact Nat.le_refl _
      · rw [Tape.read_cursor ha, Tape.read_cursor hb, hrng, hrtc]
        exact ⟨rfl, rfl⟩
      · intro i x hx
        change (r.returned ++ [word])[i]? = some x at hx
        by_cases hi : i < r.returned.length
        · rw [List.getElem?_append_left hi] at hx
          exact hwords i x hx
        · -- the new word
          obtain ⟨hi', -⟩ := List.getElem?_eq_some_iff.mp hx
          rw [List.length_append] at hi'
          have hi : i = r.place := by
            change i < r.returned.length + 1 at hi'
            omega
          subst hi
          rw [hplace, List.getElem?_concat_length] at hx
          cases hx
          refine ⟨rng.words[rng.cursor], rtc.words[rtc.cursor], ?_, ?_, hword⟩
          · rw [Tape.read_words, ← hrng, List.getElem?_eq_getElem]
          · rw [Tape.read_words, ← hrtc, List.getElem?_eq_getElem]

/-! ### Runs -/

/-- The invariant: each source holds a tape, and what was returned is on them. -/
def Rand.OnTapes (s : Rand) : Prop :=
  ∃ rng rtc : Tape UInt32, s.rng.Holds rng ∧ s.rtc.Holds rtc ∧
    ∀ r, s.since = some r → ∃ m n, r.On rng rtc m n

/-- A positive `rand_avail` means that both sources have a word. -/
theorem word_of_avail (hrng : s.rng.Holds rng) (hrtc : s.rtc.Holds rtc)
    (h : 0 < s.randAvail) : ∃ (ha : rng.cursor < rng.words.length)
      (hb : rtc.cursor < rtc.words.length),
      s.randWord = rtc.words[rtc.cursor] ^^^ rng.words[rng.cursor] := by
  have hlevel := hrng.level
  have hlevel' := hrtc.level
  have hpos : 0 < s.rng.ring.level ∧ 0 < s.rtc.ring.level := by
    unfold Rand.randAvail at h
    split at h <;> omega
  have ha : rng.cursor < rng.words.length := by omega
  have hb : rtc.cursor < rtc.words.length := by omega
  refine ⟨ha, hb, ?_⟩
  unfold Rand.randWord
  rw [hrng.word ha, hrtc.word hb]

theorem onTapes_init : Rand.init.OnTapes :=
  ⟨_, _, holds_init, holds_init, by rintro _ ⟨⟩⟩

theorem Rand.OnTapes.push (h : s.OnTapes) (src : RandSrc) (val : UInt32) :
    (s.randPush src val).OnTapes := by
  obtain ⟨rng, rtc, hrng, hrtc, hsince⟩ := h
  unfold Rand.randPush
  split
  · rename_i hroom
    cases src with
    | trng =>
      refine ⟨_, rtc, hrng.push val hroom, hrtc, fun r hr => ?_⟩
      obtain ⟨m, n, hon⟩ := hsince r hr
      exact ⟨m, n, hon.mono rfl rfl rfl rfl (List.prefix_append _ _) (List.prefix_refl _)⟩
    | rtc =>
      refine ⟨rng, _, hrng, hrtc.push val hroom, fun r hr => ?_⟩
      obtain ⟨m, n, hon⟩ := hsince r hr
      exact ⟨m, n, hon.mono rfl rfl rfl rfl (List.prefix_refl _) (List.prefix_append _ _)⟩
  · cases src <;> exact ⟨rng, rtc, hrng, hrtc, hsince⟩

theorem Rand.OnTapes.get (h : s.OnTapes) : s.randGet.OnTapes := by
  obtain ⟨rng, rtc, hrng, hrtc, hsince⟩ := h
  refine ⟨rng.read, rtc.read, hrng.get, hrtc.get, fun r' hr' => ?_⟩
  obtain ⟨r, hr, rfl⟩ := Option.map_eq_some_iff.mp hr'
  obtain ⟨m, n, hon⟩ := hsince r hr
  exact ⟨m, n, hon.note _ _ (word_of_avail hrng hrtc)⟩

theorem Rand.OnTapes.rewind (h : s.OnTapes) : s.randRewind.OnTapes := by
  obtain ⟨rng, rtc, hrng, hrtc, hsince⟩ := h
  refine ⟨rng.rewind, rtc.rewind, hrng.rewind, hrtc.rewind, fun r' hr' => ?_⟩
  obtain ⟨r, hr, rfl⟩ := Option.map_eq_some_iff.mp hr'
  obtain ⟨m, n, hon⟩ := hsince r hr
  rw [Tape.rewind_of_some hon.rngMark, Tape.rewind_of_some hon.rtcMark]
  exact ⟨m, n, hon.rngMark, hon.rtcMark, Nat.zero_le _, fun _ => ⟨rfl, rfl⟩, hon.words⟩

/-- **Every operation keeps the tapes.** -/
theorem Rand.OnTapes.step (h : s.OnTapes) (e : RandEvent) : (s.step e).OnTapes := by
  cases e with
  | push src val => exact h.push src val
  | get => exact h.get
  | setRewindPoint =>
    obtain ⟨rng, rtc, hrng, hrtc, -⟩ := h
    refine ⟨rng.setMark, rtc.setMark, hrng.rewindPoint, hrtc.rewindPoint, ?_⟩
    rintro r ⟨⟩
    exact ⟨rng.cursor, rtc.cursor, rfl, rfl, Nat.le_refl 0, fun _ => ⟨rfl, rfl⟩, by simp⟩
  | rewind => exact h.rewind
  | clearRewindPoint =>
    obtain ⟨rng, rtc, hrng, hrtc, -⟩ := h
    exact ⟨rng.clearMark, rtc.clearMark, hrng.clearRewindPoint, hrtc.clearRewindPoint,
      by rintro r ⟨⟩⟩

theorem Rand.OnTapes.source (h : s.OnTapes) (src : RandSrc) : ∃ w, (s.source src).Holds w := by
  obtain ⟨rng, rtc, hrng, hrtc, -⟩ := h
  cases src with
  | trng => exact ⟨rng, hrng⟩
  | rtc => exact ⟨rtc, hrtc⟩

theorem Rand.OnTapes.replays (h : s.OnTapes) (e : RandEvent) : s.Replays e := by
  rintro rfl r hr hlt
  obtain ⟨rng, rtc, hrng, hrtc, hsince⟩ := h
  obtain ⟨m, n, hon⟩ := hsince r hr
  obtain ⟨ha, hb, hword⟩ := hon.replay hlt
  unfold Rand.randWord
  rw [hword, hrng.word ha, hrtc.word hb]

theorem Rand.OnTapes.serves (h : s.OnTapes) (e : RandEvent) : s.Serves e := by
  rintro rfl src hne
  obtain ⟨w, hw⟩ := h.source src
  rw [hw.tail]
  exact hw.unread _ (Nat.le_refl _) (hw.ring_ne_iff.mp hne)

theorem Rand.OnTapes.stores (h : s.OnTapes) (e : RandEvent) : s.Stores e := by
  rintro src val rfl
  obtain ⟨w, hw⟩ := h.source src
  change (s.randPush src val).source src = _ ∨ (s.randPush src val).source src = _ ∧ _
  unfold Rand.randPush
  split
  · cases src <;> exact .inl rfl
  · rename_i hfull
    have hkept := hw.kept_of_full (not_not.mp hfull)
    cases src <;> exact .inr ⟨rfl, hkept⟩

theorem onTapes_of_run {h : History Rand RandEvent} (hr : RandRun h s) : s.OnTapes := by
  refine hr.invariant (P := fun _ s => s.OnTapes) ?_ ?_
  · rintro s rfl
    exact onTapes_init
  · intro h s e _ _ hs
    exact hs.step e

theorem onTapes_of_mem {h : History Rand RandEvent} (hr : RandRun h s) :
    ∀ x ∈ h, x.1.OnTapes := by
  intro x hx
  obtain ⟨h', hr'⟩ := hr.of_mem x hx
  exact onTapes_of_run hr'

/-- **The words can be read again, whatever is pushed in between.** -/
theorem rewindable {h : History Rand RandEvent} (hr : RandRun h s) : Rewindable h s where
  levels := fun src => by
    obtain ⟨w, hw⟩ := (onTapes_of_run hr).source src
    exact hw.levelsRight
  replays := fun x hx => (onTapes_of_mem hr x hx).replays x.2
  serves := fun x hx => (onTapes_of_mem hr x hx).serves x.2
  stores := fun x hx => (onTapes_of_mem hr x hx).stores x.2

/-- A run in which a word is read, undone and read again. -/
theorem rewindable_once : ∃ h s, RandRun h s ∧ Rewindable h s := by
  refine ⟨_, _, run_replay [.push .trng 5, .push .rtc 3, .setRewindPoint, .get, .push .trng 9,
    .rewind, .get] ([], Rand.init) (.start rfl), rewindable (run_replay _ _ (.start rfl))⟩

/-- A word returned while one source was empty is only half of the one that is returned after
    a rewind, and a slot that was read is served again when the read was undone. -/
theorem rewind_counterexample :
    let s := (Rand.init.randPush .trng 5).randSetRewindPoint
    s.randWord ≠ (s.randGet.randPush .rtc 3).randRewind.randWord ∧
      (s.randGet.randRewind.randClearRewindPoint).rng.ring.tail = s.rng.ring.tail ∧
      s.randGet.rng.unread s.rng.ring.tail = false := by
  decide

end SignetBase.FirmwareHc
