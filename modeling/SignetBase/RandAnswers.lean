/-
  SignetBase/RandAnswers.lean
  ===========================
  **Which GET_RAND_BITS requests are answered.**

  The command waits for as many words as bytes are asked for, although it takes only a
  quarter of them: sizes above what the rings can hold are accepted and never answered.
  And only a quarter of the bytes is cleared before the words are combined with them.
-/
import SignetBase.Firmware.Commands
import SignetBase.Firmware.RandLevel
import SignetBase.FirmwareHc.PacketReads
import SignetBase.FirmwareHc.RandLevel

namespace SignetBase

/-! ### The handler in the model of the device -/

namespace Firmware

/-- The device has the words and `cmd_data` of `t`. -/
structure Dev.Agrees (d : Dev) (t : RandBits Rand) : Prop where
  cmdData : d.cmdData = t.cmdData
  rtc : d.rtcRand = t.source.rtc.ring
  rng : d.rngRand = t.source.rng.ring

variable {d : Dev} {t : RandBits Rand}

theorem Dev.Agrees.fill (h : d.Agrees t) (off n : Nat) :
    (randFill Nat.xor off n d).Agrees (RandBits.fill randWords off n t) ∧
      (randFill Nat.xor off n d).outputs = d.outputs := by
  induction n generalizing d t off with
  | zero => exact ⟨h, rfl⟩
  | succ n ih =>
    have hword : (randGet d).1 = (randWords.randGet t.source).1 := by
      change d.rtcRand.get.1 ^^^ d.rngRand.get.1 = t.source.randWord
      rw [h.rtc, h.rng]
      rfl
    refine ih ⟨?_, ?_, ?_⟩ (off + 4)
    · change d.cmdData.put32 off (Nat.xor (d.cmdData.get32 off) (randGet d).1.toNat) = _
      rw [hword, h.cmdData]
      rfl
    · change d.rtcRand.get.2 = t.source.rtc.ring.get.2
      rw [h.rtc]
    · change d.rngRand.get.2 = t.source.rng.ring.get.2
      rw [h.rng]

/-- From `d` to `d'` the device answers what the command answers from `t` to `t'`, if
    anything. -/
structure Dev.AnswersAs (d d' : Dev) (t t' : RandBits Rand) : Prop where
  agrees : d'.Agrees t'
  answers : d'.outputs = d.outputs ∧ t'.answers = t.answers ∨
    ∃ r : Response, d'.outputs = .response r :: d.outputs ∧
      t'.answers = t.answers ++ [(r.resp, r.payload)]

theorem Dev.Agrees.check (h : d.Agrees t) :
    d.AnswersAs (getRandBitsCmdCheck d) t (RandBits.getRandBitsCmdCheck randWords t) := by
  have havail : randAvail d = randWords.randAvail t.source := by
    unfold randAvail
    rw [h.rtc, h.rng]
    rfl
  have hsz : d.cmdData.get16 CmdData.getRandBitsSz = t.cmdData.get16 randBitsSz :=
    congrArg (Mem.get16 · randBitsSz) h.cmdData
  unfold getRandBitsCmdCheck RandBits.getRandBitsCmdCheck
  dsimp only
  rw [havail, hsz]
  split
  · obtain ⟨hfill, houtputs⟩ := h.fill randBitsBlock ((t.cmdData.get16 randBitsSz + 3) / 4)
    obtain ⟨ws, hfilled⟩ := @filled _ _ randWords randBitsBlock
      ((t.cmdData.get16 randBitsSz + 3) / 4) t
    have hblock : CmdData.getRandBitsBlock = randBitsBlock := rfl
    have hanswers := hfilled.answers
    rw [hblock]
    generalize randFill Nat.xor randBitsBlock ((t.cmdData.get16 randBitsSz + 3) / 4) d
      = d' at hfill houtputs
    generalize RandBits.fill randWords randBitsBlock ((t.cmdData.get16 randBitsSz + 3) / 4) t
      = t' at hfill hanswers
    refine ⟨⟨hfill.cmdData, hfill.rtc, hfill.rng⟩,
      .inr ⟨_, congrArg (List.cons _) houtputs, ?_⟩⟩
    change t'.answers ++ [(_, _)] = t.answers ++ [(_, _)]
    rw [← hfill.cmdData, hanswers]
    refine congrArg (fun payload => t.answers ++ [(.okay, payload)]) ?_
    exact (Mem.read_write _ _ _ _ rfl).symm
  · exact ⟨h, .inl ⟨rfl, rfl⟩⟩

theorem Dev.Agrees.finishCommandResp (h : d.Agrees t) (resp : CommandResponse) :
    d.AnswersAs (finishCommandResp resp d) t (RandBits.finishCommand resp [] t) :=
  ⟨⟨h.cmdData, h.rtc, h.rng⟩, .inr ⟨_, rfl, rfl⟩⟩

/-- **The device answers GET_RAND_BITS as the command does.** -/
theorem Dev.Agrees.command (h : d.Agrees t) (data : Mem) (dataLen : Int) :
    d.AnswersAs (getRandBitsCmd data dataLen d) t
      (RandBits.getRandBitsCmd randWords BLK_SIZE data dataLen t) := by
  have hsz : d.cmdData.put16 CmdData.getRandBitsSz (data.get16 0) =
      t.cmdData.put16 randBitsSz (data.get16 0) := by
    rw [h.cmdData]
    rfl
  unfold getRandBitsCmd RandBits.getRandBitsCmd
  dsimp only
  split
  · exact h.finishCommandResp _
  · split
    · have hagrees : ({ d with cmdData := d.cmdData.put16 CmdData.getRandBitsSz (data.get16 0) } :
          Dev).Agrees { t with cmdData := t.cmdData.put16 randBitsSz (data.get16 0) } :=
        ⟨hsz, h.rtc, h.rng⟩
      exact ⟨(hagrees.finishCommandResp _).agrees, (hagrees.finishCommandResp _).answers⟩
    · have hagrees : ({ d with cmdData := (d.cmdData.put16 CmdData.getRandBitsSz
            (data.get16 0)).fill CmdData.getRandBitsBlock ((data.get16 0 + 3) / 4) 0 } : Dev).Agrees
          { t with cmdData := (t.cmdData.put16 randBitsSz
            (data.get16 0)).fill randBitsBlock ((data.get16 0 + 3) / 4) 0 } :=
        ⟨congrArg (Mem.fill · randBitsBlock ((data.get16 0 + 3) / 4) 0) hsz, h.rtc, h.rng⟩
      exact ⟨hagrees.check.agrees, hagrees.check.answers⟩

end Firmware

/-! ### Both firmwares -/

/-- **Which requests are answered with random words.**  In the original firmware the generator's
    ring must get to the level before it is full, in Signet HC both rings; and what is not
    cleared of the answer must be zero. -/
theorem rand_bits_iff {h : History Firmware.Rand Firmware.Rand.RandEvent} {s : Firmware.Rand}
    {h' : History FirmwareHc.Rand FirmwareHc.Rand.RandEvent} {s' : FirmwareHc.Rand}
    (hr : Firmware.RandRun h s) (hr' : FirmwareHc.RandRun h' s') (cmdData data : Mem)
    {dataLen : Int} (hlen : 2 ≤ dataLen) :
    (data.get16 0 < Firmware.BLK_SIZE →
      (Answers Firmware.randWords Firmware.BLK_SIZE s cmdData data dataLen ↔
        s.RngReaches (data.get16 0) ∧
          ∀ k, Stale (data.get16 0) k → cmdData (randBitsBlock + k) = 0)) ∧
      (data.get16 0 < FirmwareHc.BLK_SIZE →
        (Answers FirmwareHc.randWords FirmwareHc.BLK_SIZE s' cmdData data dataLen ↔
          s'.Reaches (data.get16 0) ∧
            ∀ k, Stale (data.get16 0) k → cmdData (randBitsBlock + k) = 0)) := by
  constructor
  · intro hblk
    rw [answers_iff hlen hblk, Firmware.canReach_iff (Firmware.rng_within hr)]
  · intro hblk
    rw [answers_iff hlen hblk, FirmwareHc.canReach_iff (FirmwareHc.onTapes_of_run hr')]

/-- `cmd_data` with zeros where six bytes of an answer are not cleared. -/
def sixCleared : Mem := fun a => if randBitsBlock + 2 ≤ a ∧ a < randBitsBlock + 6 then 0 else 7

theorem stale_sixCleared : ∀ k, Stale 6 k → sixCleared (randBitsBlock + k) = 0 :=
  fun _ hk => if_pos ⟨Nat.add_le_add_left hk.1 _, Nat.add_lt_add_left hk.2 _⟩

theorem rand_bits_six :
    Answers Firmware.randWords Firmware.BLK_SIZE Firmware.Rand.init sixCleared
        (Mem.put16 (fun _ => 0) 0 6) 2 ∧
      Answers FirmwareHc.randWords FirmwareHc.BLK_SIZE FirmwareHc.Rand.init sixCleared
        (Mem.put16 (fun _ => 0) 0 6) 2 := by
  have hsz : (Mem.put16 (fun _ => 0) 0 6).get16 0 = 6 := by decide
  have hanswers := rand_bits_iff (.start rfl) (.start rfl) sixCleared (Mem.put16 (fun _ => 0) 0 6)
    (Int.le_refl 2)
  constructor
  · refine (hanswers.1 (by decide)).mpr ?_
    rw [hsz]
    exact ⟨.inr ⟨rfl, .inr (by decide)⟩, stale_sixCleared⟩
  · refine (hanswers.2 (by decide)).mpr ?_
    rw [hsz]
    refine ⟨fun src => ?_, stale_sixCleared⟩
    cases src <;> decide

/-- Sizes of 512 and 1024 are accepted and never answered, and of two bytes the second comes
    with what `cmd_data` held before. -/
theorem rand_bits_unanswered :
    ¬ Answers Firmware.randWords Firmware.BLK_SIZE Firmware.Rand.init (fun _ => 0)
        (Mem.put16 (fun _ => 0) 0 512) 2 ∧
      ¬ Answers FirmwareHc.randWords FirmwareHc.BLK_SIZE FirmwareHc.Rand.init (fun _ => 0)
        (Mem.put16 (fun _ => 0) 0 1024) 2 ∧
      ¬ Answers Firmware.randWords Firmware.BLK_SIZE Firmware.Rand.init (fun _ => 7)
        (Mem.put16 (fun _ => 0) 0 2) 2 ∧
      ¬ Answers FirmwareHc.randWords FirmwareHc.BLK_SIZE FirmwareHc.Rand.init (fun _ => 7)
        (Mem.put16 (fun _ => 0) 0 2) 2 := by
  have hlong : (Mem.put16 (fun _ => 0) 0 512).get16 0 = 512 := by decide
  have hlonger : (Mem.put16 (fun _ => 0) 0 1024).get16 0 = 1024 := by decide
  have htwo : (Mem.put16 (fun _ => 0) 0 2).get16 0 = 2 := by decide
  have hstale : ¬ ∀ k, Stale 2 k → (7 : UInt8) = 0 :=
    fun h => absurd (h 1 ⟨by decide, by decide⟩) (by decide)
  refine ⟨?_, ?_, ?_, ?_⟩
  · rw [answers_iff (Int.le_refl 2) (by decide), Firmware.canReach_iff ⟨by decide, by decide⟩,
      hlong]
    rintro ⟨hlevel | ⟨-, hodd | hroom⟩, -⟩
    · exact absurd hlevel (by decide)
    · exact absurd hodd (by decide)
    · exact absurd hroom (by decide)
  · rw [answers_iff (Int.le_refl 2) (by decide),
      FirmwareHc.canReach_iff FirmwareHc.onTapes_init, hlonger]
    rintro ⟨hreach, -⟩
    exact absurd (hreach .trng) (by decide)
  · rw [answers_iff (Int.le_refl 2) (by decide), htwo]
    exact fun h => hstale h.2
  · rw [answers_iff (Int.le_refl 2) (by decide), htwo]
    exact fun h => hstale h.2

end SignetBase
