/-
  SignetBase/FirmwareHc/RecordPackets.lean
  ========================================
  **How the record database of Signet HC receives command packets.**

  A packet that comes when nothing else is under way is refused, or it becomes the job
  (`cmdPacketRecv_received`).
-/
import SignetBase.FirmwareHc.RecordPhases

namespace SignetBase.FirmwareHc

/-! ### Packets at their time -/

/-- Something is under way: a request, a wait for the button, or a response. -/
def RecordStore.Busy (s : RecordStore) : Prop :=
  s.request.isSome ∨ s.waitingForButtonPress ∨ s.waitingForLongButtonPress ∨ s.sending

/-- A record that a partition holds and for which there is a place, or one to be removed. -/
structure UpdateOk (db : DbTables) (uid sz : Nat) : Prop where
  size : sizeToSubBlkCount sz ≤ MAX_PART_SIZE
  present : sz = 0 → db.uidMap uid ≠ INVALID_BLOCK
  room : sz ≠ 0 → db.uidMap uid = INVALID_BLOCK → HasRoom db

/-- A command packet that comes when nothing is under way. -/
structure PacketOk (s : RecordStore) (p : StorePacket) : Prop where
  free : ¬ s.Busy
  single : p.cmd = .readAllUids → p.messagesRemaining = 0
  update : s.deviceState = .loggedIn → p.cmd = .updateUid ∨ p.cmd = .updateUids →
    ∀ uid sz data, acceptUpdateUid p.data p.dataLen = some (uid, sz, data) →
      UpdateOk s.tables uid sz

/-- The command of a packet is about to be executed. -/
structure Begins (P : RootPlatform) (K : RecordKey) (s : RecordStore)
    (c : Nat → Option (Nat × Record)) (a : RecordMap) (p : StorePacket) : Prop where
  holds : Holds P K s c a
  quiet : Quiet s false false
  tables : s.deviceState ≠ .disconnected → TablesOk P K s.blocks c s.tables
  sending : s.sending = false
  cmd : s.activeCmd = some p.cmd
  messagesRemaining : s.cmdMessagesRemaining = p.messagesRemaining
  job : a.job = none

/-- What is sent for the packet may be sent, and the states are related again. -/
def Received (P : RootPlatform) (K : RecordKey) (s s' : RecordStore) (a : RecordMap)
    (p : StorePacket) : Prop :=
  ∃ out a' n, s'.sent = s.sent ++ out ∧
    (∀ t, RecordMap.Step K.startupResp a (.packet p t) out a') ∧ StandsFor P K s' a' n

section Packets

variable {P : RootPlatform} {K : RecordKey} {s : RecordStore} {c : Nat → Option (Nat × Record)}
  {a : RecordMap} {p : StorePacket}

theorem Received.of_goes {s' : RecordStore} {job : Job} {m : Nat} (hjob : a.job = none)
    (hasked : a.asked p = .ok job) (h : Goes P K s s' { a with job := some job } m) :
    Received P K s s' a p := by
  obtain ⟨out, a', n, hsent, hworks, hstands, -⟩ := h
  exact ⟨out, a', n, hsent, fun _ => .accepts hjob hasked hworks, hstands⟩

/-- `cmd_iter_count` matters to the next packet alone. -/
theorem Phase.congr {records : Nat → Option Record} {job : Option Job} {n : Nat}
    (h : Phase P K s c records job n) (count : Nat) :
    Phase P K { s with cmdIterCount := count } c records job n := by
  cases h with
  | idle hq hcmd hT =>
    exact .idle ⟨hq.request, hq.updating, hq.shortEq, hq.longEq, hq.cache⟩ hcmd hT
  | updateLoads hu hf hneeded hl hT =>
    exact .updateLoads ⟨hu.toConcerns, hu.writeCount, hu.cmd, hu.sending⟩ hf hneeded
      ⟨hl.mem, hl.request, hl.updating, hl.short, hl.long, hl.cacheIdx⟩ hT
  | updateWaits hu hlong hq hp hT =>
    exact .updateWaits ⟨hu.toConcerns, hu.writeCount, hu.cmd, hu.sending⟩ hlong
      ⟨hq.request, hq.updating, hq.shortEq, hq.longEq, hq.cache⟩ hp hT
  | updateWrites hu hw hp hslot hT =>
    exact .updateWrites ⟨hu.toConcerns, hu.writeCount, hu.cmd, hu.sending⟩
      ⟨hw.request, hw.updating, hw.short, hw.long, hw.cacheIdx, hw.cache⟩ hp hslot hT
  | getLoads hg hl hT =>
    exact .getLoads ⟨hg.cmd, hg.dataUid, hg.maskedEq, hg.range, hg.iv, hg.sending⟩
      ⟨hl.mem, hl.request, hl.updating, hl.short, hl.long, hl.cacheIdx⟩ hT
  | getWaits hg hq hmem hindex hcache hc hT =>
    exact .getWaits ⟨hg.cmd, hg.dataUid, hg.maskedEq, hg.range, hg.iv, hg.sending⟩
      ⟨hq.request, hq.updating, hq.shortEq, hq.longEq, hq.cache⟩ hmem hindex hcache hc hT
  | getAllWaits hg hq hsending hT =>
    exact .getAllWaits ⟨hg.cmd, hg.messagesRemaining, hg.maskedEq, hg.expectedRemaining, hg.left⟩
      ⟨hq.request, hq.updating, hq.shortEq, hq.longEq, hq.cache⟩ hsending hT
  | getAllLoads hg hhead hl hsending hT =>
    exact .getAllLoads ⟨hg.cmd, hg.messagesRemaining, hg.maskedEq, hg.expectedRemaining, hg.left⟩
      hhead ⟨hl.mem, hl.request, hl.updating, hl.short, hl.long, hl.cacheIdx⟩ hsending hT
  | getAllSends hg hne hq hsending hT =>
    exact .getAllSends ⟨hg.cmd, hg.messagesRemaining, hg.maskedEq, hg.expectedRemaining, hg.left⟩
      hne ⟨hq.request, hq.updating, hq.shortEq, hq.longEq, hq.cache⟩ hsending hT
  | scans hs =>
    exact .scans ⟨hs.mem, hs.cmd, hs.request, hs.updating, hs.short, hs.long, hs.cache, hs.blkNum,
      hs.sending, hs.slot, hs.points⟩

/-! ### Refusals -/

theorem Begins.notReadAll (hb : Begins P K s c a p)
    (hsingle : p.cmd = .readAllUids → p.messagesRemaining = 0) :
    s.activeCmd ≠ some .readAllUids ∨ s.cmdMessagesRemaining = 0 := by
  by_cases hcmd : p.cmd = .readAllUids
  · exact .inr (hb.messagesRemaining.trans (hsingle hcmd))
  · refine .inl ?_
    rw [hb.cmd]
    exact fun h => hcmd (Option.some.inj h)

/-- A packet that is refused leaves everything as it is. -/
theorem Begins.refuse (hb : Begins P K s c a p)
    (hsingle : p.cmd = .readAllUids → p.messagesRemaining = 0)
    (hcancel : p.cmd ≠ .cancelButtonPress)
    {rc : CommandResponse} (hasked : a.asked p = .error rc) (hlogout : ¬ a.LogsOut p) :
    Received P K s (s.finishCommandResp rc) a p :=
  ⟨[_], a, 1, rfl, fun _ => .refuses hb.job hcancel hlogout hasked,
    hb.holds.finish hb.quiet hb.tables (hb.notReadAll hsingle) hb.job rc []⟩

theorem asked_session (hstate : a.state = .loggedIn) (hstartup : p.cmd ≠ .startup)
    (hlen : ¬ p.dataLen > hcLink.cmdPacketPayloadSize) : a.asked p = a.askedInSession p := by
  unfold RecordMap.asked
  rw [if_neg hstartup, if_neg hlen, if_neg (not_not_intro hstate)]

/-! ### Commands -/

variable (hK : BlockInverse K.enc K.dec)

include hK in
theorem readUid_received (hb : Begins P K s c a p) (hcmd : p.cmd = .readUid)
    (hstate : s.deviceState = .loggedIn) (hasked : a.asked p = a.askedInSession p) (t : Scratch) :
    Received P K s (s.loggedInState P K p t) a p := by
  have hT : TablesOk P K s.blocks c s.tables := hb.tables (by
    rw [hstate]
    exact fun h => by cases h)
  unfold RecordMap.askedInSession at hasked
  unfold RecordStore.loggedInState
  rw [hcmd] at hasked ⊢
  dsimp only at hasked ⊢
  by_cases hinvalid : p.dataLen < 3 ∨ p.data.get16 0 < MIN_UID ∨ p.data.get16 0 > MAX_UID
  · rw [if_pos hinvalid] at hasked ⊢
    refine hb.refuse (fun h => ?_) ?_ hasked fun h => ?_
    · rw [hcmd] at h
      cases h
    · rw [hcmd]
      exact fun h => by cases h
    · have hlogout := h.cmd
      rw [hcmd] at hlogout
      cases hlogout
  · rw [if_neg hinvalid] at hasked ⊢
    obtain ⟨-, hmin, hmax⟩ := not_or.mp hinvalid |>.imp_right not_or.mp
    refine .of_goes (m := 2) hb.job hasked ?_
    exact readUidCmdIter_goes hK (s := { s with readUidData := { s.readUidData with
        iv := K.deriveIv (p.data.get16 0), uid := p.data.get16 0, masked := p.data 2 ≠ 0 } })
      ⟨hb.holds.card, hb.holds.records, hb.holds.state, hb.holds.invalid⟩ rfl
      ⟨hb.cmd.trans (congrArg some hcmd), rfl, rfl, ⟨Nat.not_lt.mp hmin, Nat.not_lt.mp hmax⟩, rfl,
        hb.sending⟩
      ⟨hb.quiet.request, hb.quiet.updating, hb.quiet.shortEq, hb.quiet.longEq, hb.quiet.cache⟩ hT
      (by decide) fun _ => Nat.le_refl 2

theorem acceptUpdateUid_range {packet : Mem} {dataLen : Int} {uid sz : Nat} {data : Bytes}
    (h : acceptUpdateUid packet dataLen = some (uid, sz, data)) :
    MIN_UID ≤ uid ∧ uid ≤ MAX_UID := by
  unfold acceptUpdateUid at h
  dsimp only at h
  split at h
  · cases h
  · split at h
    · cases h
    · rename_i hrange
      obtain ⟨hmin, hmax, -⟩ := not_or.mp hrange |>.imp_right not_or.mp
      cases h
      exact ⟨Nat.not_lt.mp hmin, Nat.not_lt.mp hmax⟩

/-- The record that an update asks for. -/
theorem updateJob_eq (uid : Nat) {sz : Nat} {data : Bytes}
    (hsize : sizeToSubBlkCount sz ≤ MAX_PART_SIZE)
    (hlen : data.length = sizeToSubBlkCount sz * SUB_BLK_SIZE) :
    ∃ x : Option Record, RecordMap.updateJob uid sz data = .ok (.update uid x) ∧
      sz = x.elim 0 Record.sz ∧ ∀ r, x = some r → data = r.data := by
  unfold RecordMap.updateJob
  by_cases hzero : sz = 0
  · rw [dif_pos hzero]
    exact ⟨none, rfl, hzero, fun r h => by cases h⟩
  · rw [dif_neg hzero, dif_pos ⟨hsize, hlen⟩]
    exact ⟨some _, rfl, rfl, fun r h => by cases h; rfl⟩

/-- There is something to be removed or a place for what is put. -/
theorem UpdateOk.feasible {uid sz : Nat} {x : Option Record} (hok : UpdateOk s.tables uid sz)
    (ha : Holds P K s c a) (hT : TablesOk P K s.blocks c s.tables) (huid : uid ≤ MAX_UID)
    (hsz : sz = x.elim 0 Record.sz) : Feasible s.tables a.records uid x where
  removed := by
    rintro rfl hnone
    exact hok.present hsz (hT.points.of_none ha.records huid hnone)
  room := by
    intro hne hnone
    obtain ⟨r, rfl⟩ := Option.ne_none_iff_exists'.mp hne
    refine hok.room ?_ (hT.points.of_none ha.records huid hnone)
    rw [hsz]
    exact r.pos

include hK in
theorem updateUid_received (hb : Begins P K s c a p)
    (hcmd : p.cmd = .updateUid ∨ p.cmd = .updateUids)
    (hstate : s.deviceState = .loggedIn) (hasked : a.asked p = a.askedInSession p)
    (hok : ∀ uid sz data, acceptUpdateUid p.data p.dataLen = some (uid, sz, data) →
      UpdateOk s.tables uid sz) (t : Scratch) :
    Received P K s (s.loggedInState P K p t) a p := by
  have hT : TablesOk P K s.blocks c s.tables := hb.tables (by
    rw [hstate]
    exact fun h => by cases h)
  cases haccept : acceptUpdateUid p.data p.dataLen with
  | none =>
    have hresult : s.loggedInState P K p t = s.finishCommandResp .invalidInput ∧
        a.askedInSession p = .error .invalidInput := by
      unfold RecordStore.loggedInState RecordMap.askedInSession
      rcases hcmd with hcmd | hcmd <;>
        · rw [hcmd, haccept]
          exact ⟨rfl, rfl⟩
    rw [hresult.1]
    refine hb.refuse (fun h => ?_) ?_ (hasked.trans hresult.2) fun h => ?_
    · rcases hcmd with hcmd | hcmd <;>
        · rw [hcmd] at h
          cases h
    · rcases hcmd with hcmd | hcmd <;>
        · rw [hcmd]
          exact fun h => by cases h
    · have hlogout := h.cmd
      rcases hcmd with hcmd | hcmd <;>
        · rw [hcmd] at hlogout
          cases hlogout
  | some accepted =>
    obtain ⟨uid, sz, data⟩ := accepted
    have hupdate := hok uid sz data haccept
    have hrange := acceptUpdateUid_range haccept
    obtain ⟨-, -, hlen⟩ := acceptUpdateUid_spec haccept
    obtain ⟨x, hjob, hsz, hdata⟩ := updateJob_eq uid hupdate.size hlen
    have hpress : ∃ press, s.loggedInState P K p t = s.updateUidCmd P K uid data sz press t ∧
        a.askedInSession p = RecordMap.updateJob uid sz data ∧
        (s.activeCmd = some .updateUid ∧ press = 1 ∨
          s.activeCmd = some .updateUids ∧ press ≠ 1) := by
      unfold RecordStore.loggedInState RecordMap.askedInSession
      rw [hb.cmd]
      rcases hcmd with hcmd | hcmd
      · rw [hcmd, haccept]
        exact ⟨1, rfl, rfl, .inl ⟨rfl, rfl⟩⟩
      · rw [hcmd, haccept]
        refine ⟨if s.cmdIterCount = 0 then 2 else 0, rfl, rfl, .inr ⟨rfl, ?_⟩⟩
        split <;> decide
    obtain ⟨press, hstep, hasks, hcmds⟩ := hpress
    have hfeasible := hupdate.feasible hb.holds hT hrange.2 hsz
    rw [hstep]
    refine .of_goes (m := 3) hb.job ((hasked.trans hasks).trans hjob) ?_
    exact updateUidCmdIter_goes hK (s := { s with updateUidData :=
        { iv := K.deriveIv uid, uid, sz, writeCount := 0, blockNum := s.updateUidData.blockNum
          prevBlockNum := INVALID_BLOCK, pressType := press, entry := data, scratch := t } })
      ⟨hb.holds.card, hb.holds.records, hb.holds.state, hb.holds.invalid⟩ rfl
      ⟨⟨rfl, hrange, rfl, hsz, hdata⟩, rfl, hcmds, hb.sending⟩ hfeasible
      ⟨hb.quiet.request, hb.quiet.updating, hb.quiet.shortEq, hb.quiet.longEq, hb.quiet.cache⟩ hT
      (by decide) fun _ _ _ => Nat.le_refl 3

theorem stored_eq (ha : Holds P K s c a) : a.stored = storedFrom a.records 0 := by
  have hzero : (a.records 0).isSome = false := by
    cases hrec : a.records 0 with
    | none => rfl
    | some r =>
      obtain ⟨i, hmem, hc⟩ := ha.records.complete hrec
      obtain ⟨info, hslot⟩ := ha.card i hmem
      rw [hc] at hslot
      exact absurd hslot.range.1 (by decide)
  have hsucc : MAX_UID + 1 - 0 = MAX_UID + 1 := rfl
  unfold storedFrom
  rw [hsucc, List.range'_succ, List.filter_cons_of_neg (p := fun u => (a.records u).isSome)
    (by rw [hzero]; exact Bool.false_ne_true)]
  rfl

include hK in
/-- The uids that are stored are counted and reported, after a long press if the data is not
    masked. -/
theorem readAllUidsCmd_goes (hb : Begins P K s c a p) (hcmd : p.cmd = .readAllUids)
    (hT : TablesOk P K s.blocks c s.tables) (hsingle : p.messagesRemaining = 0) (masked : Bool) :
    Goes P K s (s.readAllUidsCmd K masked) { a with job := some (.getAll masked a.stored) }
      (2 * a.stored.length + 1) := by
  have hcount : ((List.range' MIN_UID MAX_UID).countP fun u =>
      s.tables.uidMap u ≠ INVALID_BLOCK) = a.stored.length := by
    rw [List.countP_eq_length_filter]
    refine congrArg List.length (List.filter_congr fun u hu => ?_)
    have hle : u ≤ MAX_UID := by
      have hrange := (List.mem_range'_1.mp hu).2
      have hone : MIN_UID = 1 := rfl
      omega
    rw [Bool.eq_iff_iff, decide_eq_true_iff]
    exact (hT.points.isSome_iff hb.holds.records invalid_notMem hle).symm
  have hg : GetsAll { s with readAllUidsData := ⟨0, a.stored.length, masked⟩ } a.records masked
      a.stored 0 :=
    ⟨hb.cmd.trans (congrArg some hcmd), hb.messagesRemaining.trans hsingle, rfl, rfl,
      stored_eq hb.holds⟩
  unfold RecordStore.readAllUidsCmd
  rw [hcount]
  cases masked with
  | true =>
    exact readAllUidsCmdIter_goes hK
      (s := { s with readAllUidsData := ⟨0, a.stored.length, true⟩ })
      ⟨hb.holds.card, hb.holds.records, hb.holds.state, hb.holds.invalid⟩ rfl hg
      ⟨hb.quiet.request, hb.quiet.updating, hb.quiet.shortEq, hb.quiet.longEq, hb.quiet.cache⟩
      hb.sending hT (by omega) (by omega) fun _ _ _ => Nat.le_succ _
  | false =>
    exact .waits rfl ⟨hb.holds.card, hb.holds.records, hb.holds.state, hb.holds.invalid⟩
      (.getAllWaits ⟨hg.cmd, hg.messagesRemaining, hg.maskedEq, hg.expectedRemaining, hg.left⟩
        ⟨hb.quiet.request, hb.quiet.updating, hb.quiet.shortEq, rfl, hb.quiet.cache⟩ hb.sending hT)
      (Nat.zero_le _)

include hK in
theorem readAllUids_received (hb : Begins P K s c a p) (hcmd : p.cmd = .readAllUids)
    (hstate : s.deviceState = .loggedIn) (hasked : a.asked p = a.askedInSession p)
    (hsingle : p.messagesRemaining = 0) (t : Scratch) :
    Received P K s (s.loggedInState P K p t) a p := by
  have hT : TablesOk P K s.blocks c s.tables := hb.tables (by
    rw [hstate]
    exact fun h => by cases h)
  unfold RecordMap.askedInSession at hasked
  unfold RecordStore.loggedInState
  rw [hcmd] at hasked ⊢
  dsimp only at hasked ⊢
  by_cases hshort : p.dataLen < 1
  · rw [if_pos hshort] at hasked ⊢
    refine hb.refuse (fun _ => hsingle) ?_ hasked fun h => ?_
    · rw [hcmd]
      exact fun h => by cases h
    · have hlogout := h.cmd
      rw [hcmd] at hlogout
      cases hlogout
  · rw [if_neg hshort] at hasked ⊢
    exact .of_goes hb.job hasked (readAllUidsCmd_goes hK hb hcmd hT hsingle _)

theorem logout_received (hb : Begins P K s c a p) (hcmd : p.cmd = .logout)
    (hstate : s.deviceState = .loggedIn) (hlen : ¬ p.dataLen > hcLink.cmdPacketPayloadSize)
    (t : Scratch) : Received P K s (s.loggedInState P K p t) a p := by
  have hT : TablesOk P K s.blocks c s.tables := hb.tables (by
    rw [hstate]
    exact fun h => by cases h)
  unfold RecordStore.loggedInState
  rw [hcmd]
  refine ⟨[_], { a with state := .loggedOut }, 1, rfl,
    fun _ => .logsOut hb.job ⟨hcmd, hb.holds.state.trans hstate, Int.not_lt.mp hlen⟩, ?_⟩
  refine Holds.finish (s := s.enterState .loggedOut) (a := { a with state := .loggedOut })
    ⟨hb.holds.card, hb.holds.records, rfl, hb.holds.invalid⟩
    ⟨hb.quiet.request, hb.quiet.updating, hb.quiet.shortEq, hb.quiet.longEq, hb.quiet.cache⟩
    (fun _ => hT) (hb.notReadAll fun h => ?_) hb.job _ _
  rw [hcmd] at h
  cases h

theorem startup_received (hb : Begins P K s c a p) (hcmd : p.cmd = .startup) :
    Received P K s s.startupCmd a p := by
  have hasked : a.asked p = .ok .scan := by
    unfold RecordMap.asked
    rw [if_pos hcmd]
  refine .of_goes (m := MAX_DATA_BLOCK + 2 - MIN_DATA_BLOCK) hb.job hasked ?_
  unfold RecordStore.startupCmd
  dsimp only
  split
  · exact db3StartupScan_goes (s := s.endButtonPressWait.endLongButtonPressWait)
      ⟨hb.holds.card, hb.holds.records, hb.holds.state, hb.holds.invalid⟩ rfl
      ⟨hb.quiet.request, hb.quiet.updating, rfl, rfl, hb.quiet.cache⟩ hb.sending
      (hb.cmd.trans (congrArg some hcmd))
  · exact db3StartupScan_goes ⟨hb.holds.card, hb.holds.records, hb.holds.state, hb.holds.invalid⟩
      rfl hb.quiet hb.sending (hb.cmd.trans (congrArg some hcmd))

/-- The packets of a command are counted. -/
theorem Received.counted {s' : RecordStore} (h : Received P K s s' a p) :
    Received P K s (if p.messagesRemaining ≠ 0 then
      { s' with cmdIterCount := s'.cmdIterCount + 1 } else s') a p := by
  split
  · obtain ⟨out, a', n, hsent, hstep, c', ha, hphase⟩ := h
    exact ⟨out, a', n, hsent, hstep, c', ⟨ha.card, ha.records, ha.state, ha.invalid⟩,
      hphase.congr _⟩
  · exact h

include hK in
/-- **A command packet that comes when nothing is under way is refused, ends the session or
    becomes the job.** -/
theorem restartSignetCommand_received (hb : Begins P K s c a p)
    (hcancel : p.cmd ≠ .cancelButtonPress)
    (hsingle : p.cmd = .readAllUids → p.messagesRemaining = 0)
    (hupdate : s.deviceState = .loggedIn → p.cmd = .updateUid ∨ p.cmd = .updateUids →
      ∀ uid sz data, acceptUpdateUid p.data p.dataLen = some (uid, sz, data) →
        UpdateOk s.tables uid sz) (t : Scratch) :
    Received P K s (s.restartSignetCommand P K p t) a p := by
  have hself : { s with cmdMessagesRemaining := p.messagesRemaining } = s := by
    rw [← hb.messagesRemaining]
  unfold RecordStore.restartSignetCommand
  rw [hself]
  dsimp only
  by_cases hstartup : p.cmd = .startup
  · rw [if_pos (hb.cmd.trans (congrArg some hstartup))]
    exact startup_received hb hstartup
  · rw [if_neg fun h => hstartup (Option.some.inj (hb.cmd.symm.trans h))]
    by_cases hlen : p.dataLen > hcLink.cmdPacketPayloadSize
    · rw [if_pos hlen]
      refine hb.refuse hsingle hcancel ?_ fun h => absurd hlen (Int.not_lt.mpr h.len)
      unfold RecordMap.asked
      rw [if_neg hstartup, if_pos hlen]
    · rw [if_neg hlen]
      by_cases hstate : s.deviceState = .loggedIn
      · rw [if_pos hstate]
        have hasked := asked_session (a := a) (hb.holds.state.trans hstate) hstartup hlen
        refine Received.counted ?_
        cases hcmd : p.cmd with
        | startup => exact absurd hcmd hstartup
        | cancelButtonPress => exact absurd hcmd hcancel
        | logout => exact logout_received hb hcmd hstate hlen t
        | readUid => exact readUid_received hK hb hcmd hstate hasked t
        | readAllUids => exact readAllUids_received hK hb hcmd hstate hasked (hsingle hcmd) t
        | updateUid =>
          exact updateUid_received hK hb (.inl hcmd) hstate hasked (hupdate hstate (.inl hcmd)) t
        | updateUids =>
          exact updateUid_received hK hb (.inr hcmd) hstate hasked (hupdate hstate (.inr hcmd)) t
      · rw [if_neg hstate]
        have hnot : a.state ≠ .loggedIn := fun h => hstate (hb.holds.state.symm.trans h)
        refine Received.counted (hb.refuse hsingle hcancel ?_ fun h => hnot h.state)
        unfold RecordMap.asked
        rw [if_neg hstartup, if_neg hlen, if_pos hnot]

/-- Nothing is under way when a packet may come. -/
theorem Phase.idle_of_free {records : Nat → Option Record} {job : Option Job} {n : Nat}
    (h : Phase P K s c records job n) (hfree : ¬ s.Busy) :
    job = none ∧ Quiet s false false ∧
      (s.deviceState ≠ .disconnected → TablesOk P K s.blocks c s.tables) ∧ s.sending = false := by
  have hsending : s.sending = false := by
    refine Bool.eq_false_iff.mpr fun hsends => hfree ?_
    exact .inr (.inr (.inr hsends))
  have hload : ∀ {i}, ¬ Loads s i := by
    intro i hl
    refine hfree (.inl ?_)
    rw [hl.request]
    rfl
  cases h with
  | idle hq _ hT => exact ⟨rfl, hq, hT, hsending⟩
  | updateLoads _ _ _ hl _ => exact absurd hl hload
  | @updateWaits _ _ long _ _ hq _ _ =>
    cases long with
    | true => exact absurd (.inr (.inr (.inl hq.longEq))) hfree
    | false => exact absurd (.inr (.inl hq.shortEq)) hfree
  | updateWrites _ hw _ _ _ =>
    refine absurd (.inl ?_) hfree
    rw [hw.request]
    rfl
  | getLoads _ hl _ => exact absurd hl hload
  | getWaits _ hq _ _ _ _ _ => exact absurd (.inr (.inl hq.shortEq)) hfree
  | getAllWaits _ hq _ _ => exact absurd (.inr (.inr (.inl hq.longEq))) hfree
  | getAllLoads _ _ hl _ _ => exact absurd hl hload
  | getAllSends _ _ _ hsends _ =>
    rw [hsending] at hsends
    cases hsends
  | scans hs =>
    refine absurd (.inl ?_) hfree
    rw [hs.request]
    rfl

include hK in
/-- **A command packet and the job it becomes.** -/
theorem cmdPacketRecv_received {n : Nat} (h : StandsFor P K s a n)
    (hcancel : p.cmd ≠ .cancelButtonPress) (hp : PacketOk s p) (t : Scratch) :
    Received P K s (s.cmdPacketRecv P K p t) a p := by
  obtain ⟨c, ha, hphase⟩ := h
  obtain ⟨hjob, hq, hT, hsending⟩ := hphase.idle_of_free hp.free
  have hbegins : ∀ count, Begins P K { s with
      cmdIterCount := count, activeCmd := some p.cmd, cmdMessagesRemaining := p.messagesRemaining }
      c a p :=
    fun count => ⟨⟨ha.card, ha.records, ha.state, ha.invalid⟩,
      ⟨hq.request, hq.updating, hq.shortEq, hq.longEq, hq.cache⟩, hT, hsending, rfl, rfl, hjob⟩
  unfold RecordStore.cmdPacketRecv
  dsimp only
  rw [if_neg hcancel]
  split
  · exact restartSignetCommand_received hK (hbegins 0) hcancel hp.single hp.update t
  · exact restartSignetCommand_received hK (hbegins s.cmdIterCount) hcancel hp.single hp.update t

end Packets

end SignetBase.FirmwareHc
