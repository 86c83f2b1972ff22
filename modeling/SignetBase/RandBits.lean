/-
  SignetBase/RandBits.lean
  ========================
  **GET_RAND_BITS, as both firmwares have it (`commands.c`).**

  The command asks for a number of bytes, waits until `rand_avail` is at least this number
  of words, and combines a quarter as many words with what `cmd_data` holds.  `memset` has
  cleared only a quarter of the bytes before, so the others are combined with what an
  earlier command has left there.

  The functions are the same in both firmwares; what differs is the size of a block and
  the random words, which are a `WordSource` here.  `answers_iff` says for which requests
  an answer comes and consists of the words that were drawn for it.
-/
import Mathlib.Data.List.Induction
import SignetBase.Memory
import SignetBase.Common

namespace SignetBase

/-! ### Exclusive or on words -/

namespace Mem

theorem bytes16_xor (x y : Nat) :
    bytes16 (x ^^^ y) = List.zipWith (· ^^^ ·) (bytes16 x) (bytes16 y) := by
  have hhigh : (x ^^^ y) / 256 = x / 256 ^^^ y / 256 := by
    have hshift := Nat.shiftRight_xor_distrib (a := x) (b := y) (i := 8)
    rwa [Nat.shiftRight_eq_div_pow, Nat.shiftRight_eq_div_pow, Nat.shiftRight_eq_div_pow] at hshift
  unfold bytes16
  rw [hhigh, UInt8.ofNat_xor, UInt8.ofNat_xor]
  rfl

theorem bytes32_xor (x y : Nat) :
    bytes32 (x ^^^ y) = List.zipWith (· ^^^ ·) (bytes32 x) (bytes32 y) := by
  have hhigh : (x ^^^ y) / 65536 = x / 65536 ^^^ y / 65536 := by
    have hshift := Nat.shiftRight_xor_distrib (a := x) (b := y) (i := 16)
    rwa [Nat.shiftRight_eq_div_pow, Nat.shiftRight_eq_div_pow, Nat.shiftRight_eq_div_pow] at hshift
  unfold bytes32
  rw [hhigh, bytes16_xor, bytes16_xor]
  rfl

theorem bytes16_get16 (m : Mem) (off : Nat) : bytes16 (m.get16 off) = m.read off 2 := by
  have hlow : UInt8.ofNat (m.get16 off) = m off := by
    apply UInt8.toNat_inj.mp
    have := (m off).toNat_lt
    change ((m off).toNat + 256 * (m (off + 1)).toNat) % 256 = _
    omega
  have hhigh : UInt8.ofNat (m.get16 off / 256) = m (off + 1) := by
    apply UInt8.toNat_inj.mp
    have := (m off).toNat_lt
    have := (m (off + 1)).toNat_lt
    change ((m off).toNat + 256 * (m (off + 1)).toNat) / 256 % 256 = _
    omega
  unfold bytes16
  rw [hlow, hhigh]
  rfl

theorem bytes32_get32 (m : Mem) (off : Nat) : bytes32 (m.get32 off) = m.read off 4 := by
  have hlt := m.get16_lt off
  have hlow : bytes16 (m.get32 off) = bytes16 (m.get16 off) := by
    have hmod : m.get32 off % 256 = m.get16 off % 256 := by
      unfold get32
      omega
    have hdiv : m.get32 off / 256 % 256 = m.get16 off / 256 % 256 := by
      unfold get32
      omega
    have hbyte : ∀ {a b : Nat}, a % 256 = b % 256 → UInt8.ofNat a = UInt8.ofNat b :=
      fun h => UInt8.toNat_inj.mp h
    unfold bytes16
    rw [hbyte hmod, hbyte hdiv]
  have hhigh : m.get32 off / 65536 = m.get16 (off + 2) := by
    unfold get32
    omega
  unfold bytes32
  rw [hlow, hhigh, bytes16_get16, bytes16_get16]
  exact (m.read_add off 2 2).symm

end Mem

/-! ### The code -/

/-- The random words of a firmware: what may arrive, and which arrivals end in
    `cmd_rand_update`. -/
structure WordSource (σ ε : Type) where
  randAvail : σ → Int
  randGet : σ → UInt32 × σ
  arrive : σ → ε → σ
  updates : σ → ε → Bool

/-- The random words, `cmd_data`, whether GET_RAND_BITS is the active command, the words that
    were drawn for it, and what it was answered. -/
structure RandBits (σ : Type) where
  source : σ
  cmdData : Mem
  active : Bool
  drawn : List UInt32
  answers : List (CommandResponse × Bytes)

/-- `sz` and `block` of `get_rand_bits` in `cmd_data`. -/
def randBitsSz : Nat := 0

def randBitsBlock : Nat := 2

section Code

variable {σ ε : Type} (W : WordSource σ ε)

namespace RandBits

/-- `finish_command`. -/
def finishCommand (resp : CommandResponse) (payload : Bytes) (s : RandBits σ) : RandBits σ :=
  { s with active := false, answers := s.answers ++ [(resp, payload)] }

/-- `rand_get` into `n` consecutive words of `cmd_data` from offset `off`, each combined with
    what is there. -/
def fill (off : Nat) : Nat → RandBits σ → RandBits σ
  | 0, s => s
  | n + 1, s =>
    fill (off + 4) n
      { s with
        source := (W.randGet s.source).2
        cmdData := s.cmdData.put32 off (s.cmdData.get32 off ^^^ (W.randGet s.source).1.toNat)
        drawn := s.drawn ++ [(W.randGet s.source).1] }

/-- `get_rand_bits_cmd_check`. -/
def getRandBitsCmdCheck (s : RandBits σ) : RandBits σ :=
  let sz := s.cmdData.get16 randBitsSz
  if W.randAvail s.source ≥ sz then
    let s := fill W randBitsBlock ((sz + 3) / 4) s
    finishCommand .okay (s.cmdData.read randBitsBlock (s.cmdData.get16 randBitsSz)) s
  else s

/-- `get_rand_bits_cmd`. -/
def getRandBitsCmd (blkSize : Nat) (data : Mem) (dataLen : Int) (s : RandBits σ) : RandBits σ :=
  if dataLen < 2 then finishCommand .invalidInput [] s
  else
    let sz := data.get16 0
    let s := { s with cmdData := s.cmdData.put16 randBitsSz sz }
    if sz ≥ blkSize then finishCommand .invalidInput [] s
    else
      getRandBitsCmdCheck W { s with cmdData := s.cmdData.fill randBitsBlock ((sz + 3) / 4) 0 }

/-- A word arrives, with `cmd_rand_update` at its end. -/
def arrival (s : RandBits σ) (e : ε) : RandBits σ :=
  let t := { s with source := W.arrive s.source e }
  if s.active ∧ W.updates s.source e then getRandBitsCmdCheck W t else t

def arrivals (s : RandBits σ) (es : List ε) : RandBits σ := es.foldl (arrival W) s

/-- The command begins. -/
def start (source : σ) (cmdData : Mem) : RandBits σ := ⟨source, cmdData, true, [], []⟩

end RandBits

/-! ### What is expected -/

/-- The bytes of the words. -/
def wordBytes (ws : List UInt32) : Bytes := ws.flatMap fun w => Mem.bytes32 w.toNat

open RandBits in
/-- After some arrivals the command is answered OKAY, and whenever it is, the answer has the
    bytes of the words that were drawn for it, as many as were asked for. -/
def Answers (blkSize : Nat) (source : σ) (cmdData data : Mem) (dataLen : Int) : Prop :=
  let s := getRandBitsCmd W blkSize data dataLen (start source cmdData)
  (∃ es payload, (CommandResponse.okay, payload) ∈ (arrivals W s es).answers) ∧
    ∀ es, ∀ answer ∈ (arrivals W s es).answers,
      answer.1 = .okay ∧ answer.2.length = data.get16 0 ∧
        answer.2 = (wordBytes (arrivals W s es).drawn).take (data.get16 0)

/-- `rand_avail` is `sz` when the command comes, or after an arrival that is noticed. -/
def CanReach (source : σ) (sz : Nat) : Prop :=
  (sz : Int) ≤ W.randAvail source ∨
    ∃ (es : List ε) (e : ε), W.updates (es.foldl W.arrive source) e = true ∧
      (sz : Int) ≤ W.randAvail (W.arrive (es.foldl W.arrive source) e)

variable {W}

/-! ### The words in `cmd_data` -/

theorem length_wordBytes (ws : List UInt32) : (wordBytes ws).length = 4 * ws.length := by
  induction ws with
  | nil => rfl
  | cons w ws ih =>
    change (Mem.bytes32 w.toNat ++ wordBytes ws).length = _
    rw [List.length_append, ih, Mem.length_bytes32, List.length_cons]
    omega

/-- What `fill` leaves behind. -/
structure RandBits.Filled (off n : Nat) (s t : RandBits σ) (ws : List UInt32) : Prop where
  length : ws.length = n
  drawn : t.drawn = s.drawn ++ ws
  active : t.active = s.active
  answers : t.answers = s.answers
  block : t.cmdData.read off (4 * n) =
    List.zipWith (· ^^^ ·) (s.cmdData.read off (4 * n)) (wordBytes ws)
  before : ∀ a < off, t.cmdData a = s.cmdData a

theorem filled (off n : Nat) (s : RandBits σ) :
    ∃ ws, RandBits.Filled off n s (RandBits.fill W off n s) ws := by
  induction n generalizing off s with
  | zero => exact ⟨[], rfl, (List.append_nil _).symm, rfl, rfl, rfl, fun _ _ => rfl⟩
  | succ n ih =>
    let w := (W.randGet s.source).1
    let s' : RandBits σ := { s with
      source := (W.randGet s.source).2
      cmdData := s.cmdData.put32 off (s.cmdData.get32 off ^^^ w.toNat)
      drawn := s.drawn ++ [w] }
    obtain ⟨ws, h⟩ := ih (off + 4) s'
    refine ⟨w :: ws, ?_, ?_, h.active, h.answers, ?_, ?_⟩
    · rw [List.length_cons, h.length]
    · exact h.drawn.trans (List.append_assoc _ _ _)
    · change (RandBits.fill W (off + 4) n s').cmdData.read off _ = _
      have hword : (RandBits.fill W (off + 4) n s').cmdData.read off 4 =
          List.zipWith (· ^^^ ·) (s.cmdData.read off 4) (Mem.bytes32 w.toNat) := by
        rw [Mem.read_congr fun i hi => h.before (off + i) (by omega),
          ← Mem.bytes32_get32 s.cmdData, ← Mem.bytes32_xor]
        exact Mem.read_write _ _ _ _ rfl
      have hrest : s'.cmdData.read (off + 4) (4 * n) = s.cmdData.read (off + 4) (4 * n) :=
        Mem.read_write_disjoint _ (.inr (Nat.le_refl _))
      have hsplit : 4 * (n + 1) = 4 + 4 * n := by omega
      rw [hsplit, Mem.read_add, Mem.read_add, hword, h.block, hrest]
      exact (List.zipWith_append (by rw [Mem.length_read, Mem.length_bytes32])).symm
    · intro a ha
      exact (h.before a (by omega)).trans (Mem.put32_apply_of_notMem _ _ (.inl ha))

/-! ### The answer -/

/-- The command was answered: `m` is what `cmd_data` held. -/
structure RandBits.Answered (m : Mem) (sz : Nat) (t : RandBits σ) : Prop where
  active : t.active = false
  length : t.drawn.length = (sz + 3) / 4
  answers : t.answers = [(.okay,
    List.zipWith (· ^^^ ·) (m.read randBitsBlock sz) ((wordBytes t.drawn).take sz))]

variable {m : Mem} {sz : Nat} {src : σ}

theorem read_take (m : Mem) (off : Nat) {n k : Nat} (h : k ≤ n) :
    (m.read off n).take k = m.read off k := by
  obtain ⟨d, rfl⟩ := Nat.exists_eq_add_of_le h
  rw [Mem.read_add, List.take_append_of_le_length (by rw [Mem.length_read]),
    List.take_of_length_le (by rw [Mem.length_read])]

/-- The check answers when the words are there. -/
theorem answered_of_avail (hsz : m.get16 randBitsSz = sz) (h : (sz : Int) ≤ W.randAvail src) :
    RandBits.Answered m sz (RandBits.getRandBitsCmdCheck W (.start src m)) := by
  have hsz₀ : (RandBits.start src m).cmdData.get16 randBitsSz = sz := hsz
  have havail : W.randAvail (RandBits.start src m).source ≥ sz := h
  unfold RandBits.getRandBitsCmdCheck
  dsimp only
  rw [hsz₀, if_pos havail]
  obtain ⟨ws, hfill⟩ := @filled σ ε W randBitsBlock ((sz + 3) / 4) (RandBits.start src m)
  generalize RandBits.fill W randBitsBlock ((sz + 3) / 4) (RandBits.start src m) = t at hfill
  have hdrawn : t.drawn = ws := hfill.drawn
  have hsz' : t.cmdData.get16 randBitsSz = sz := by
    rw [← hsz]
    refine Mem.get16_congr fun i hi => hfill.before (randBitsSz + i) ?_
    rw [randBitsSz, Nat.zero_add]
    exact hi
  refine ⟨rfl, ?_, ?_⟩
  · change t.drawn.length = _
    rw [hdrawn, hfill.length]
  · change t.answers ++ [(_, _)] = _
    rw [hfill.answers, hsz']
    change [(_, t.cmdData.read randBitsBlock sz)] = [(_, _)]
    have hle : sz ≤ 4 * ((sz + 3) / 4) := by omega
    rw [← read_take t.cmdData _ hle, hfill.block, List.take_zipWith, read_take _ _ hle]
    change _ = [(_, List.zipWith _ _ ((wordBytes t.drawn).take sz))]
    rw [hdrawn]
    rfl

/-- Nothing is answered before. -/
theorem waits_of_not_avail (hsz : m.get16 randBitsSz = sz) (h : ¬ (sz : Int) ≤ W.randAvail src) :
    RandBits.getRandBitsCmdCheck W (.start src m) = .start src m := by
  have hsz₀ : (RandBits.start src m).cmdData.get16 randBitsSz = sz := hsz
  have havail : ¬ W.randAvail (RandBits.start src m).source ≥ sz := h
  unfold RandBits.getRandBitsCmdCheck
  dsimp only
  rw [hsz₀, if_neg havail]

/-! ### Arrivals -/

theorem RandBits.arrivals_concat (s : RandBits σ) (es : List ε) (e : ε) :
    arrivals W s (es ++ [e]) = arrival W (arrivals W s es) e := by
  unfold arrivals
  rw [List.foldl_append]
  rfl

/-- What arrives later does not matter. -/
theorem RandBits.Answered.arrivals {s : RandBits σ} (h : RandBits.Answered m sz s) (es : List ε) :
    RandBits.Answered m sz (RandBits.arrivals W s es) := by
  induction es using List.reverseRecOn with
  | nil => exact h
  | append_singleton es e ih =>
    have hinactive : ¬ ((RandBits.arrivals W s es).active = true ∧
        W.updates (RandBits.arrivals W s es).source e = true) := by
      rw [ih.active]
      exact fun hand => Bool.false_ne_true hand.1
    rw [RandBits.arrivals_concat]
    unfold RandBits.arrival
    dsimp only
    rw [if_neg hinactive]
    exact ⟨ih.active, ih.length, ih.answers⟩

/-- A word arrives while the command waits. -/
theorem arrival_start (hsz : m.get16 randBitsSz = sz) (src : σ) (e : ε) :
    (W.updates src e = true ∧ (sz : Int) ≤ W.randAvail (W.arrive src e) ∧
        RandBits.Answered m sz (RandBits.arrival W (.start src m) e)) ∨
      ¬ (W.updates src e = true ∧ (sz : Int) ≤ W.randAvail (W.arrive src e)) ∧
        RandBits.arrival W (.start src m) e = .start (W.arrive src e) m := by
  have hwhole : RandBits.arrival W (.start src m) e =
      if true = true ∧ W.updates src e = true then
        RandBits.getRandBitsCmdCheck W (.start (W.arrive src e) m)
      else .start (W.arrive src e) m := rfl
  rw [hwhole]
  by_cases hupdates : W.updates src e = true
  · rw [if_pos ⟨rfl, hupdates⟩]
    by_cases havail : (sz : Int) ≤ W.randAvail (W.arrive src e)
    · exact .inl ⟨hupdates, havail, answered_of_avail hsz havail⟩
    · exact .inr ⟨fun hand => havail hand.2, waits_of_not_avail hsz havail⟩
  · rw [if_neg fun hand => hupdates hand.2]
    exact .inr ⟨fun hand => hupdates hand.1, rfl⟩

/-- **The command waits until the level is reached, and then it is answered.** -/
theorem arrivals_start (hsz : m.get16 randBitsSz = sz) (src : σ) (es : List ε) :
    RandBits.arrivals W (.start src m) es = .start (es.foldl W.arrive src) m ∨
      CanReach W src sz ∧ RandBits.Answered m sz (RandBits.arrivals W (.start src m) es) := by
  induction es using List.reverseRecOn with
  | nil => exact .inl rfl
  | append_singleton es e ih =>
    rw [RandBits.arrivals_concat, List.foldl_append]
    rcases ih with hwaits | ⟨hreach, hanswered⟩
    · rw [hwaits]
      rcases arrival_start hsz (es.foldl W.arrive src) e with ⟨hupdates, havail, h⟩ | ⟨-, h⟩
      · exact .inr ⟨.inr ⟨es, e, hupdates, havail⟩, h⟩
      · exact .inl h
    · have hlater : RandBits.arrival W (RandBits.arrivals W (.start src m) es) e =
          RandBits.arrivals W (RandBits.arrivals W (.start src m) es) [e] := rfl
      rw [hlater]
      exact .inr ⟨hreach, hanswered.arrivals [e]⟩

/-- From the check that the command begins with. -/
theorem arrivals_check (hsz : m.get16 randBitsSz = sz) (src : σ) (es : List ε) :
    (RandBits.arrivals W (RandBits.getRandBitsCmdCheck W (.start src m)) es).answers = [] ∨
      CanReach W src sz ∧
        RandBits.Answered m sz (RandBits.arrivals W (RandBits.getRandBitsCmdCheck W (.start src m)) es) := by
  by_cases havail : (sz : Int) ≤ W.randAvail src
  · exact .inr ⟨.inl havail, (answered_of_avail hsz havail).arrivals es⟩
  · rw [waits_of_not_avail hsz havail]
    rcases arrivals_start hsz src es with hwaits | hanswered
    · rw [hwaits]
      exact .inl rfl
    · exact .inr hanswered

/-- The level that is waited for is reached if it can be. -/
theorem answered_of_canReach (hsz : m.get16 randBitsSz = sz) (h : CanReach W src sz) :
    ∃ es, RandBits.Answered m sz
      (RandBits.arrivals W (RandBits.getRandBitsCmdCheck W (.start src m)) es) := by
  by_cases havail : (sz : Int) ≤ W.randAvail src
  · exact ⟨[], answered_of_avail hsz havail⟩
  · rcases h with havail' | ⟨es, e, hupdates, hlevel⟩
    · exact absurd havail' havail
    · rw [waits_of_not_avail hsz havail]
      rcases @arrivals_start σ ε W m sz hsz src es with hwaits | ⟨-, hanswered⟩
      · refine ⟨es ++ [e], ?_⟩
        rw [RandBits.arrivals_concat, hwaits]
        rcases @arrival_start σ ε W m sz hsz (es.foldl W.arrive src) e with ⟨-, -, h⟩ | ⟨hnot, -⟩
        · exact h
        · exact absurd ⟨hupdates, hlevel⟩ hnot
      · exact ⟨es, hanswered⟩

/-! ### When the command is answered as expected -/

theorem xor_eq_right_iff (x y : UInt8) : x ^^^ y = y ↔ x = 0 := by
  constructor
  · intro h
    have hcancel : x ^^^ y ^^^ y = y ^^^ y := by rw [h]
    rwa [UInt8.xor_assoc, UInt8.xor_self, UInt8.xor_zero] at hcancel
  · rintro rfl
    exact UInt8.zero_xor

theorem zipWith_xor_eq_right_iff {as bs : Bytes} (h : as.length = bs.length) :
    List.zipWith (· ^^^ ·) as bs = bs ↔ ∀ a ∈ as, a = 0 := by
  induction as generalizing bs with
  | nil =>
    rw [List.length_nil] at h
    rw [List.eq_nil_of_length_eq_zero h.symm]
    simp
  | cons a as ih =>
    cases bs with
    | nil => cases h
    | cons b bs =>
      rw [List.zipWith_cons_cons, List.cons.injEq, xor_eq_right_iff, ih (Nat.succ.inj h),
        List.forall_mem_cons]

/-- The bytes that `memset` has not cleared. -/
def Stale (sz k : Nat) : Prop := (sz + 3) / 4 ≤ k ∧ k < sz

/-- What is combined with the words is zero if the bytes that are not cleared are. -/
theorem read_cleared_iff (m : Mem) (sz : Nat) :
    (∀ a ∈ (((m.put16 randBitsSz sz).fill randBitsBlock ((sz + 3) / 4) 0).read randBitsBlock sz),
        a = 0) ↔
      ∀ k, Stale sz k → m (randBitsBlock + k) = 0 := by
  have hcell : ∀ k, ((m.put16 randBitsSz sz).fill randBitsBlock ((sz + 3) / 4) 0)
      (randBitsBlock + k) = if k < (sz + 3) / 4 then 0 else m (randBitsBlock + k) := by
    intro k
    unfold Mem.fill
    by_cases hk : k < (sz + 3) / 4
    · rw [if_pos hk, if_pos ⟨Nat.le_add_right _ _, Nat.add_lt_add_left hk _⟩]
    · rw [if_neg hk, if_neg fun hand => hk (Nat.lt_of_add_lt_add_left hand.2)]
      exact Mem.put16_apply_of_notMem _ _ (.inr (Nat.le_add_right _ _))
  unfold Mem.read
  constructor
  · intro h k hk
    have hzero := h _ (List.mem_map_of_mem (List.mem_range.mpr hk.2))
    rwa [hcell, if_neg (Nat.not_lt_of_le hk.1)] at hzero
  · intro h a ha
    obtain ⟨k, hk, rfl⟩ := List.mem_map.mp ha
    rw [hcell]
    split
    · rfl
    · rename_i hge
      exact h k ⟨Nat.le_of_not_lt hge, List.mem_range.mp hk⟩

/-- **A request is answered as expected exactly if the level can be reached and the bytes that are
    not cleared are zero.** -/
theorem answers_iff {blkSize : Nat} {cmdData data : Mem} {dataLen : Int} (hlen : 2 ≤ dataLen)
    (hblk : data.get16 0 < blkSize) :
    Answers W blkSize src cmdData data dataLen ↔
      CanReach W src (data.get16 0) ∧
        ∀ k, Stale (data.get16 0) k → cmdData (randBitsBlock + k) = 0 := by
  have hlt := data.get16_lt 0
  unfold Answers RandBits.getRandBitsCmd
  generalize data.get16 0 = sz at hblk hlt ⊢
  dsimp only
  rw [if_neg (Int.not_lt.mpr hlen), if_neg (Nat.not_le_of_lt hblk)]
  change (∃ es payload, _ ∈ (RandBits.arrivals W (RandBits.getRandBitsCmdCheck W
    (.start src ((cmdData.put16 randBitsSz sz).fill randBitsBlock ((sz + 3) / 4) 0))) es).answers) ∧
    (∀ es, ∀ answer ∈ (RandBits.arrivals W (RandBits.getRandBitsCmdCheck W
      (.start src ((cmdData.put16 randBitsSz sz).fill randBitsBlock ((sz + 3) / 4) 0))) es).answers,
      answer.1 = .okay ∧ answer.2.length = sz ∧ answer.2 = (wordBytes (RandBits.arrivals W
        (RandBits.getRandBitsCmdCheck W (.start src
          ((cmdData.put16 randBitsSz sz).fill randBitsBlock ((sz + 3) / 4) 0))) es).drawn).take sz) ↔ _
  rw [← read_cleared_iff cmdData]
  have hsz : ((cmdData.put16 randBitsSz sz).fill randBitsBlock ((sz + 3) / 4) 0).get16 randBitsSz =
      sz := by
    have hfill : ((cmdData.put16 randBitsSz sz).fill randBitsBlock ((sz + 3) / 4) 0).get16
        randBitsSz = (cmdData.put16 randBitsSz sz).get16 randBitsSz := by
      refine Mem.get16_congr fun i hi => if_neg fun hand => ?_
      rw [randBitsSz, randBitsBlock] at hand
      omega
    rw [hfill, Mem.get16_put16, Nat.mod_eq_of_lt hlt]
  generalize (cmdData.put16 randBitsSz sz).fill randBitsBlock ((sz + 3) / 4) 0 = m at hsz ⊢
  have hbytes : ∀ {t : RandBits σ}, RandBits.Answered m sz t →
      (m.read randBitsBlock sz).length = ((wordBytes t.drawn).take sz).length := by
    intro t ht
    rw [Mem.length_read, List.length_take, length_wordBytes, ht.length]
    omega
  constructor
  · rintro ⟨⟨es, payload, hmem⟩, hall⟩
    rcases @arrivals_check σ ε W m sz hsz src es with hnone | ⟨hreach, hanswered⟩
    · rw [hnone] at hmem
      cases hmem
    · refine ⟨hreach, ?_⟩
      have hword := (hall es _ (hanswered.answers ▸ List.mem_singleton_self _)).2.2
      exact (zipWith_xor_eq_right_iff (hbytes hanswered)).mp hword
  · rintro ⟨hreach, hzero⟩
    constructor
    · obtain ⟨es, hanswered⟩ := answered_of_canReach hsz hreach
      exact ⟨es, _, hanswered.answers ▸ List.mem_singleton_self _⟩
    · intro es answer hmem
      rcases @arrivals_check σ ε W m sz hsz src es with hnone | ⟨-, hanswered⟩
      · rw [hnone] at hmem
        cases hmem
      · rw [hanswered.answers, List.mem_singleton] at hmem
        have hword := (zipWith_xor_eq_right_iff (hbytes hanswered)).mpr hzero
        subst hmem
        refine ⟨rfl, ?_, hword⟩
        rw [hword, ← hbytes hanswered, Mem.length_read]

end Code

end SignetBase
