/-
  SignetBase/FirmwareHc/RecordEvents.lean
  =======================================
  **What happens to the record database of Signet HC.**

  A read or a write completes, a response has been sent, the button is pressed or the wait for it
  is given up, power is lost.  Each of these leaves the database standing for the map, and each
  completion that was to come brings the job nearer to its end.
-/
import SignetBase.FirmwareHc.RecordPackets

namespace SignetBase.FirmwareHc

/-- The completion that is to come. -/
def RecordStore.completion (s : RecordStore) : Option StoreEvent :=
  match s.request with
  | some (.write _) => some .writeComplete
  | some _ => some .readComplete
  | none => if s.sending then some .packetSent else none

section Events

variable {P : RootPlatform} {K : RecordKey} {s : RecordStore} {a : RecordMap} {n : Nat}

theorem StandsFor.goes_self (h : StandsFor P K s a n) : Goes P K s s a n :=
  ⟨[], a, n, (List.append_nil _).symm, .waits, h, Nat.le_refl n⟩

variable (hK : BlockInverse K.enc K.dec)

include hK in
/-- A read has completed. -/
theorem readComplete_goes (h : StandsFor P K s a n) : ∃ m, Goes P K s (s.readComplete P K) a m ∧
    m ≤ n ∧ (s.completion = some .readComplete → m < n) := by
  have hnone : s.request = none ∨ (∃ i, s.request = some (.write i)) →
      ∃ m, Goes P K s (s.readComplete P K) a m ∧ m ≤ n ∧
        (s.completion = some .readComplete → m < n) := by
    intro hrequest
    have hself : s.readComplete P K = s := by
      unfold RecordStore.readComplete
      rcases hrequest with hr | ⟨i, hr⟩ <;> rw [hr]
    rw [hself]
    refine ⟨n, h.goes_self, Nat.le_refl n, fun hc => ?_⟩
    unfold RecordStore.completion at hc
    rcases hrequest with hr | ⟨i, hr⟩
    · rw [hr] at hc
      dsimp only at hc
      split at hc <;> cases hc
    · rw [hr] at hc
      cases hc
  obtain ⟨c, ha, hphase⟩ := h
  generalize hjob : a.job = job at hphase
  have ha' : ∀ i, Holds P K (s.arrived i) c a := fun i =>
    ⟨ha.card, ha.records, ha.state, ha.invalid⟩
  cases hphase with
  | idle hq _ _ => exact hnone (.inl hq.request)
  | @updateLoads uid i x hu hf hneeded hl hT =>
    rw [readComplete_update hl (hu.cmd.imp And.left And.left)]
    refine ⟨2, ?_, by decide, fun _ => by decide⟩
    refine updateUidCmdIter_goes hK (s := s.arrived i) (ha' i) hjob
      ⟨hu.toConcerns, hu.writeCount, hu.cmd, hu.sending⟩ ⟨hf.removed, hf.room⟩ hl.quiet
      ⟨hT.slot, hT.points⟩ (Nat.le_refl 2) ?_
    intro j hj hne
    have hij : i = j := Option.some.inj (hneeded.symm.trans hj)
    exact absurd (hij ▸ hl.cacheIdx) hne
  | updateWaits _ _ hq _ _ => exact hnone (.inl hq.request)
  | updateWrites _ hw _ _ _ => exact hnone (.inr ⟨_, hw.request⟩)
  | @getLoads uid masked hg hl hT =>
    rw [readComplete_get hl hg.cmd]
    refine ⟨1, ?_, by decide, fun _ => by decide⟩
    exact readUidCmdIter_goes hK (s := s.arrived (s.tables.uidMap uid)) (ha' _) hjob
      ⟨hg.cmd, hg.dataUid, hg.maskedEq, hg.range, hg.iv, hg.sending⟩ hl.quiet
      ⟨hT.slot, hT.points⟩ (Nat.le_refl 1)
      fun hne => absurd hl.cacheIdx hne
  | getWaits _ hq _ _ _ _ _ => exact hnone (.inl hq.request)
  | getAllWaits _ hq _ _ => exact hnone (.inl hq.request)
  | @getAllLoads masked left hg hhead hl hsending hT =>
    rw [readComplete_getAll hl hg.cmd]
    have hpos : 0 < left.length := by
      refine List.length_pos_of_ne_nil ?_
      rintro rfl
      cases hhead
    refine ⟨2 * left.length - 1, ?_, by omega, fun _ => by omega⟩
    refine readAllUidsCmdIter_goes hK (s := s.arrived _) (ha' _) hjob
      ⟨hg.cmd, hg.messagesRemaining, hg.maskedEq, hg.expectedRemaining, hg.left⟩ hl.quiet hsending
      ⟨hT.slot, hT.points⟩ (by omega) (Nat.le_refl _) ?_
    intro u hu hne
    have heq : s.readAllUidsData.uid = u := Option.some.inj (hhead.symm.trans hu)
    exact absurd (heq ▸ hl.cacheIdx) hne
  | getAllSends _ _ hq _ _ => exact hnone (.inl hq.request)
  | @scans k hs =>
    have hmax := (mem_dataBlocks.mp hs.mem).2
    exact ⟨_, scan_goes ha hjob hs, by omega, fun _ => by omega⟩

/-- A write has completed. -/
theorem writeComplete_stored (h : StandsFor P K s a n) : ∃ m, Goes P K s (s.writeComplete P) a m ∧
    m ≤ n ∧ (s.completion = some .writeComplete → m < n) := by
  have hnone : (∀ i, s.request ≠ some (.write i)) →
      ∃ m, Goes P K s (s.writeComplete P) a m ∧ m ≤ n ∧
        (s.completion = some .writeComplete → m < n) := by
    intro hrequest
    have hself : s.writeComplete P = s := by
      unfold RecordStore.writeComplete
      split
      · rename_i hr
        exact absurd hr (hrequest _)
      · rfl
    rw [hself]
    refine ⟨n, h.goes_self, Nat.le_refl n, fun hc => ?_⟩
    unfold RecordStore.completion at hc
    split at hc
    · rename_i hr
      exact absurd hr (hrequest _)
    · cases hc
    · split at hc <;> cases hc
  have hquiet : ∀ {short long}, Quiet s short long → ∀ i, s.request ≠ some (.write i) := by
    intro short long hq i hr
    rw [hq.request] at hr
    cases hr
  have hloads : ∀ {j}, Loads s j → ∀ i, s.request ≠ some (.write i) := by
    intro j hl i hr
    rw [hl.request] at hr
    cases hr
  obtain ⟨c, ha, hphase⟩ := h
  generalize hjob : a.job = job at hphase
  cases hphase with
  | idle hq _ _ => exact hnone (hquiet hq)
  | updateLoads _ _ _ hl _ => exact hnone (hloads hl)
  | updateWaits _ _ hq _ _ => exact hnone (hquiet hq)
  | updateWrites hu hw hp hslot hT =>
    obtain ⟨hsent, hstands⟩ := writeComplete_makes ha hu hw hp hslot hT
    exact ⟨1, ⟨_, _, 1, hsent, .updated hjob, hstands, Nat.le_refl 1⟩, by decide,
      fun _ => by decide⟩
  | getLoads _ hl _ => exact hnone (hloads hl)
  | getWaits _ hq _ _ _ _ _ => exact hnone (hquiet hq)
  | getAllWaits _ hq _ _ => exact hnone (hquiet hq)
  | getAllLoads _ _ hl _ _ => exact hnone (hloads hl)
  | getAllSends _ _ hq _ _ => exact hnone (hquiet hq)
  | scans hs =>
    refine hnone fun i hr => ?_
    rw [hs.request] at hr
    cases hr

include hK in
/-- A response has been sent. -/
theorem cmdPacketSent_goes (h : StandsFor P K s a n) : ∃ m, Goes P K s (s.cmdPacketSent K) a m ∧
    m ≤ n ∧ (s.completion = some .packetSent → m < n) := by
  have hnone : s.sending = false → ∃ m, Goes P K s (s.cmdPacketSent K) a m ∧
      m ≤ n ∧ (s.completion = some .packetSent → m < n) := by
    intro hsending
    have hself : s.cmdPacketSent K = s := by
      unfold RecordStore.cmdPacketSent
      rw [hsending]
      rfl
    rw [hself]
    refine ⟨n, h.goes_self, Nat.le_refl n, fun hc => ?_⟩
    unfold RecordStore.completion at hc
    split at hc
    · cases hc
    · cases hc
    · rw [hsending] at hc
      cases hc
  obtain ⟨c, ha, hphase⟩ := h
  generalize hjob : a.job = job at hphase
  cases hphase with
  | idle hq hcmd hT =>
    by_cases hsending : s.sending = true
    · have hsent : s.cmdPacketSent K = { s with sending := false } := by
        unfold RecordStore.cmdPacketSent
        rw [if_pos hsending]
        exact if_neg hcmd
      rw [hsent, if_pos hsending]
      refine ⟨0, .waits rfl ⟨ha.card, ha.records, ha.state, ha.invalid⟩ ?_ (Nat.le_refl 0),
        by decide, fun _ => by decide⟩
      rw [hjob]
      exact .idle ⟨hq.request, hq.updating, hq.shortEq, hq.longEq, hq.cache⟩ hcmd hT
    · exact hnone (Bool.eq_false_iff.mpr hsending)
  | updateLoads hu _ _ _ _ => exact hnone hu.sending
  | updateWaits hu _ _ _ _ => exact hnone hu.sending
  | updateWrites hu _ _ _ _ => exact hnone hu.sending
  | getLoads hg _ _ => exact hnone hg.sending
  | getWaits hg _ _ _ _ _ _ => exact hnone hg.sending
  | getAllWaits _ _ hsending _ => exact hnone hsending
  | getAllLoads _ _ _ hsending _ => exact hnone hsending
  | @getAllSends masked left hg hne hq hsending hT =>
    have hnext : s.cmdPacketSent K = RecordStore.readAllUidsCmdIter K
        { s with
          sending := false
          readAllUidsData := { s.readAllUidsData with uid := s.readAllUidsData.uid + 1 } } := by
      unfold RecordStore.cmdPacketSent
      rw [if_pos hsending]
      exact if_pos hg.cmd
    have hpos : 0 < left.length := List.length_pos_of_ne_nil hne
    rw [hnext]
    refine ⟨2 * left.length, ?_, Nat.le_succ _, fun _ => Nat.lt_succ_self _⟩
    exact readAllUidsCmdIter_goes hK
      (s := { s with
        sending := false
        readAllUidsData := { s.readAllUidsData with uid := s.readAllUidsData.uid + 1 } })
      ⟨ha.card, ha.records, ha.state, ha.invalid⟩ hjob
      ⟨hg.cmd, hg.messagesRemaining, hg.maskedEq, hg.expectedRemaining, hg.left⟩
      ⟨hq.request, hq.updating, hq.shortEq, hq.longEq, hq.cache⟩ rfl hT (by omega) (Nat.sub_le _ _)
      fun _ _ _ => Nat.le_refl _
  | scans hs => exact hnone hs.sending

/-! ### The button -/

/-- The press of the button that is waited for. -/
def RecordStore.press (s : RecordStore) : StoreEvent :=
  if s.waitingForLongButtonPress then .longButtonPress else .buttonPress

/-- **The block of an update is written when the button is pressed.** -/
theorem update_pressed {c : Nat → Option (Nat × Record)} {uid : Nat} {x : Option Record}
    {long : Bool} (ha : Holds P K s c a) (hjob : a.job = some (.update uid x))
    (hu : Updates K s uid x) (hlong : long = true ↔ s.activeCmd = some .updateUids)
    (hq : Quiet s (!long) long)
    (hp : Prepared P K a.records c uid x s.updateUidData.prevBlockNum s.updateUidData.blockNum
      s.updateUidData.scratch) (hT : TablesOk P K s.blocks c s.tables) :
    StandsFor P K (s.step P K s.press) a 2 ∧ (s.step P K s.press).sent = s.sent := by
  cases long with
  | false =>
    have hcmd : s.activeCmd = some .updateUid := by
      rcases hu.cmd with ⟨hcmd, -⟩ | ⟨hcmd, -⟩
      · exact hcmd
      · exact absurd (hlong.mpr hcmd) Bool.false_ne_true
    have hpressed : s.step P K s.press = s.endButtonPressWait.updateUidCmdComplete P := by
      simp only [RecordStore.press, hq.longEq, Bool.false_eq_true, RecordStore.step,
        RecordStore.buttonPress, hq.shortEq, Bool.not_false, ↓reduceIte,
        RecordStore.endButtonPressWait, hcmd]
    rw [hpressed]
    exact ⟨updateUidCmdComplete_writes (s := s.endButtonPressWait)
      ⟨ha.card, ha.records, ha.state, ha.invalid⟩ hjob
      ⟨hu.toConcerns, hu.writeCount, hu.cmd, hu.sending⟩
      ⟨hq.request, hq.updating, rfl, hq.longEq, hq.cache⟩ hp hT, rfl⟩
  | true =>
    have hcmd := hlong.mp rfl
    have hpressed : s.step P K s.press = s.endLongButtonPressWait.updateUidCmdComplete P := by
      simp only [RecordStore.press, RecordStore.step, RecordStore.longButtonPress, hq.longEq,
        ↓reduceIte, RecordStore.endLongButtonPressWait, hcmd]
    rw [hpressed]
    exact ⟨updateUidCmdComplete_writes (s := s.endLongButtonPressWait)
      ⟨ha.card, ha.records, ha.state, ha.invalid⟩ hjob
      ⟨hu.toConcerns, hu.writeCount, hu.cmd, hu.sending⟩
      ⟨hq.request, hq.updating, hq.shortEq, rfl, hq.cache⟩ hp hT, rfl⟩

include hK in
/-- **The record is shown when the button is pressed.** -/
theorem get_pressed {c : Nat → Option (Nat × Record)} {uid : Nat} {r : Record}
    (ha : Holds P K s c a) (hg : Gets K s uid false) (hq : Quiet s true false)
    (hmem : s.readUidData.blockNum ∈ dataBlocks) (hindex : s.readUidData.index = 0)
    (hcache : s.tables.cacheIdx = some s.readUidData.blockNum)
    (hc : c s.readUidData.blockNum = some (uid, r)) (hT : TablesOk P K s.blocks c s.tables) :
    (s.step P K s.press).sent =
        s.sent ++ [⟨.okay, 0, Mem.bytes16 r.sz ++ r.shown false⟩] ∧
      StandsFor P K (s.step P K s.press) a.done 1 := by
  have hpressed : s.step P K s.press = s.endButtonPressWait.readUidCmdComplete K := by
    simp only [RecordStore.press, hq.longEq, Bool.false_eq_true, RecordStore.step,
      RecordStore.buttonPress, hq.shortEq, ↓reduceIte, RecordStore.endButtonPressWait, hg.cmd]
  rw [hpressed]
  exact readUidCmdComplete_shows hK (s := s.endButtonPressWait)
    ⟨ha.card, ha.records, ha.state, ha.invalid⟩
    ⟨hg.cmd, hg.dataUid, hg.maskedEq, hg.range, hg.iv, hg.sending⟩
    ⟨hq.request, hq.updating, rfl, hq.longEq, hq.cache⟩ hmem hindex hcache hc hT

include hK in
/-- The button is pressed. -/
theorem buttonPress_goes (h : StandsFor P K s a n) : ∃ m, Goes P K s (s.buttonPress P K) a m := by
  have hnone : s.waitingForButtonPress = false → ∃ m, Goes P K s (s.buttonPress P K) a m := by
    intro hshort
    have hself : s.buttonPress P K = s := by
      unfold RecordStore.buttonPress
      rw [hshort]
      rfl
    rw [hself]
    exact ⟨n, h.goes_self⟩
  obtain ⟨c, ha, hphase⟩ := h
  generalize hjob : a.job = job at hphase
  cases hphase with
  | idle hq _ _ => exact hnone hq.shortEq
  | updateLoads _ _ _ hl _ => exact hnone hl.short
  | @updateWaits uid x long hu hlong hq hp hT =>
    cases long with
    | true => exact hnone hq.shortEq
    | false =>
      obtain ⟨hstands, hsent⟩ := update_pressed ha hjob hu hlong hq hp hT
      have hpress : s.press = .buttonPress := by
        simp only [RecordStore.press, hq.longEq, Bool.false_eq_true, ↓reduceIte]
      rw [hpress] at hstands hsent
      exact ⟨2, hstands.goes hsent⟩
  | updateWrites _ hw _ _ _ => exact hnone hw.short
  | getLoads _ hl _ => exact hnone hl.short
  | @getWaits uid r hg hq hmem hindex hcache hc hT =>
    obtain ⟨hsent, hstands⟩ := get_pressed hK ha hg hq hmem hindex hcache hc hT
    have hpress : s.press = .buttonPress := by
      simp only [RecordStore.press, hq.longEq, Bool.false_eq_true, ↓reduceIte]
    rw [hpress] at hsent hstands
    exact ⟨1, [_], a.done, 1, hsent, .got hjob (ha.records.sound hmem hc), hstands, Nat.le_refl 1⟩
  | getAllWaits _ hq _ _ => exact hnone hq.shortEq
  | getAllLoads _ _ hl _ _ => exact hnone hl.short
  | getAllSends _ _ hq _ _ => exact hnone hq.shortEq
  | scans hs => exact hnone hs.short

include hK in
/-- The button is pressed for long. -/
theorem longButtonPress_goes (h : StandsFor P K s a n) :
    ∃ m, Goes P K s (s.longButtonPress P K) a m := by
  have hnone : s.waitingForLongButtonPress = false →
      ∃ m, Goes P K s (s.longButtonPress P K) a m := by
    intro hlong
    have hself : s.longButtonPress P K = s := by
      unfold RecordStore.longButtonPress
      rw [hlong]
      rfl
    rw [hself]
    exact ⟨n, h.goes_self⟩
  obtain ⟨c, ha, hphase⟩ := h
  generalize hjob : a.job = job at hphase
  cases hphase with
  | idle hq _ _ => exact hnone hq.longEq
  | updateLoads _ _ _ hl _ => exact hnone hl.long
  | @updateWaits uid x long hu hlong hq hp hT =>
    cases long with
    | false => exact hnone hq.longEq
    | true =>
      obtain ⟨hstands, hsent⟩ := update_pressed ha hjob hu hlong hq hp hT
      have hpress : s.press = .longButtonPress := by
        simp only [RecordStore.press, hq.longEq, ↓reduceIte]
      rw [hpress] at hstands hsent
      exact ⟨2, hstands.goes hsent⟩
  | updateWrites _ hw _ _ _ => exact hnone hw.long
  | getLoads _ hl _ => exact hnone hl.long
  | getWaits _ hq _ _ _ _ _ => exact hnone hq.longEq
  | @getAllWaits masked left hg hq hsending hT =>
    have hpressed : s.longButtonPress P K = s.endLongButtonPressWait.readAllUidsCmdIter K := by
      simp only [RecordStore.longButtonPress, hq.longEq, ↓reduceIte,
        RecordStore.endLongButtonPressWait, hg.cmd]
    rw [hpressed]
    exact ⟨2 * left.length + 1, readAllUidsCmdIter_goes hK (s := s.endLongButtonPressWait)
      ⟨ha.card, ha.records, ha.state, ha.invalid⟩ hjob
      ⟨hg.cmd, hg.messagesRemaining, hg.maskedEq, hg.expectedRemaining, hg.left⟩
      ⟨hq.request, hq.updating, hq.shortEq, rfl, hq.cache⟩ hsending hT (by omega) (by omega)
      fun _ _ _ => Nat.le_succ _⟩
  | getAllLoads _ _ hl _ _ => exact hnone hl.long
  | getAllSends _ _ hq _ _ => exact hnone hq.longEq
  | scans hs => exact hnone hs.long

/-- A wait for the button is given up. -/
theorem StandsFor.giveUp (h : StandsFor P K s a n)
    (hwaits : s.waitingForButtonPress = true ∨ s.waitingForLongButtonPress = true) :
    a.job.isSome ∧ ∀ rc, StandsFor P K
      (s.endButtonPressWait.endLongButtonPressWait.finishCommandResp rc) a.done 1 := by
  have hnone : s.waitingForButtonPress = false → s.waitingForLongButtonPress = false → False := by
    intro hshort hlong
    rw [hshort, hlong] at hwaits
    exact hwaits.elim Bool.false_ne_true Bool.false_ne_true
  obtain ⟨c, ha, hphase⟩ := h
  have hfinish : ∀ {short long}, Quiet s short long → TablesOk P K s.blocks c s.tables →
      (s.activeCmd ≠ some .readAllUids ∨ s.cmdMessagesRemaining = 0) → ∀ rc, StandsFor P K
        (s.endButtonPressWait.endLongButtonPressWait.finishCommandResp rc) a.done 1 := by
    intro short long hq hT hcmd rc
    exact Holds.finish (s := s.endButtonPressWait.endLongButtonPressWait) (a := a.done)
      ⟨ha.card, ha.records, ha.state, ha.invalid⟩ ⟨hq.request, hq.updating, rfl, rfl, hq.cache⟩
      (fun _ => hT) hcmd rfl rc []
  generalize hjob : a.job = job at hphase
  cases hphase with
  | idle hq _ _ => exact absurd hq.longEq (hnone hq.shortEq)
  | updateLoads _ _ _ hl _ => exact absurd hl.long (hnone hl.short)
  | updateWaits hu _ hq _ hT =>
    refine ⟨rfl, hfinish hq hT (.inl ?_)⟩
    rcases hu.cmd with ⟨hcmd, -⟩ | ⟨hcmd, -⟩ <;>
      · rw [hcmd]
        exact fun h => by cases h
  | updateWrites _ hw _ _ _ => exact absurd hw.long (hnone hw.short)
  | getLoads _ hl _ => exact absurd hl.long (hnone hl.short)
  | getWaits hg hq _ _ _ _ hT =>
    refine ⟨rfl, hfinish hq hT (.inl ?_)⟩
    rw [hg.cmd]
    exact fun h => by cases h
  | getAllWaits hg hq _ hT => exact ⟨rfl, hfinish hq hT (.inr hg.messagesRemaining)⟩
  | getAllLoads _ _ hl _ _ => exact absurd hl.long (hnone hl.short)
  | getAllSends _ _ hq _ _ => exact absurd hq.longEq (hnone hq.shortEq)
  | scans hs => exact absurd hs.long (hnone hs.short)

/-! ### Power -/

/-- The device after power-on. -/
theorem powerOn_holds {c : Nat → Option (Nat × Record)} {records : Nat → Option Record}
    {stored : Nat → Bool} (hcard : OnCard P K (s.powerOn stored).blocks c)
    (hR : Represents (· ∈ dataBlocks) c records) :
    StandsFor P K (s.powerOn stored) ⟨records, .disconnected, none⟩ 0 := by
  refine ⟨c, ⟨hcard, hR, rfl, rfl⟩, ?_⟩
  exact .idle ⟨rfl, rfl, rfl, rfl, fun _ h => by cases h⟩ (fun h => by cases h)
    fun h => absurd rfl h

/-- **Losing power ends the job**: a change it was about is made or is not. -/
theorem StandsFor.powerOn (h : StandsFor P K s a n) {stored : Nat → Bool}
    (hwhole : ∀ i, s.request = some (.write i) →
      RecordStore.AllSectors stored ∨ RecordStore.NoSector stored) :
    ∃ a', RecordMap.Step K.startupResp a (.powerOn stored) [] a' ∧
      StandsFor P K (s.powerOn stored) a' 0 := by
  obtain ⟨c, ha, hphase⟩ := h
  have hkept : (s.powerOn stored).blocks = s.blocks →
      ∃ a', RecordMap.Step K.startupResp a (.powerOn stored) [] a' ∧
        StandsFor P K (s.powerOn stored) a' 0 := fun hblocks =>
    ⟨_, .losesPower, powerOn_holds (by rw [hblocks]; exact ha.card) ha.records⟩
  by_cases hwrite : ∃ i, s.request = some (.write i)
  · obtain ⟨i, hr⟩ := hwrite
    rcases hwhole i hr with hall | hnosector
    · generalize hjob : a.job = job at hphase
      have hnone : ∀ {r}, s.request = r → (∀ i, r ≠ some (.write i)) → False := by
        intro r hr' hne
        exact hne i (hr'.symm.trans hr)
      have hquiet : ∀ {short long}, ¬ Quiet s short long := fun hq =>
        hnone hq.request fun _ h => by cases h
      have hloads : ∀ {j}, ¬ Loads s j := fun hl => hnone hl.request fun _ h => by cases h
      cases hphase with
      | idle hq _ _ => exact absurd hq hquiet
      | updateLoads _ _ _ hl _ => exact absurd hl hloads
      | updateWaits _ _ hq _ _ => exact absurd hq hquiet
      | @updateWrites uid x _ hw hp hslot _ =>
        refine ⟨_, .losesPowerAfter hjob, powerOn_holds ?_ (hp.represents ha.records)⟩
        unfold RecordStore.powerOn
        dsimp only
        rw [hw.request]
        dsimp only
        rw [s.tearBlock_all hall]
        exact OnCard.stored hslot ha.card
      | getLoads _ hl _ => exact absurd hl hloads
      | getWaits _ hq _ _ _ _ _ => exact absurd hq hquiet
      | getAllWaits _ hq _ _ => exact absurd hq hquiet
      | getAllLoads _ _ hl _ _ => exact absurd hl hloads
      | getAllSends _ _ hq _ _ => exact absurd hq hquiet
      | scans hs =>
        refine absurd hs.request fun hr' => ?_
        rw [hr] at hr'
        cases hr'
    · apply hkept
      unfold RecordStore.powerOn
      dsimp only
      rw [hr]
      exact s.tearBlock_none hnosector i
  · apply hkept
    unfold RecordStore.powerOn
    dsimp only
    split
    · rename_i hr
      exact absurd ⟨_, hr⟩ hwrite
    · rfl

end Events

end SignetBase.FirmwareHc
