/-
  SignetBase/FirmwareHc/RecordRuns.lean
  =====================================
  **The record database of Signet HC is a map that outlives power cycles.**

  In every run in which the host sends a command when the last one is over, what the device sends
  is what the map may send, and its blocks hold the records of the map (`store_refines`).  A job
  that is under way is over, or waits for the button, after a number of completions that depends on
  the size of the database alone (`store_settles`).  READ_ALL_UIDS reports every record once
  (`readAllUids_reports`).
-/
import SignetBase.FirmwareHc.RecordProgress

namespace SignetBase.FirmwareHc

/-! ### Enumeration -/

/-- The report of READ_ALL_UIDS for a uid, with the number of those that follow. -/
def report (records : Nat → Option Record) (masked : Bool) (uid following : Nat) :
    List StoreAnswer :=
  match records uid with
  | none => []
  | some r =>
    [⟨.okay, following, Mem.bytes16 uid ++ Mem.bytes16 r.sz ++ r.shown masked⟩]

/-- What READ_ALL_UIDS sends for the uids that are left. -/
def reports (records : Nat → Option Record) (masked : Bool) : List Nat → List StoreAnswer
  | [] => []
  | uid :: left => report records masked uid left.length ++ reports records masked left

/-- What READ_ALL_UIDS sends. -/
def enumeration (records : Nat → Option Record) (masked : Bool) (left : List Nat) :
    List StoreAnswer :=
  if left = [] then [⟨.idInvalid, 0, Mem.bytes16 (MAX_UID + 1)⟩] else reports records masked left

section Enumerations

variable {P : RootPlatform} {K : RecordKey} {s : RecordStore} {a : RecordMap} {n : Nat}
  {records : Nat → Option Record}

/-- READ_ALL_UIDS has sent its reports, but for those of the uids that are left; `all` is what it
    sends, behind what was sent before. -/
def Reports (all : List StoreAnswer) (records : Nat → Option Record) (masked : Bool)
    (s : RecordStore) (a : RecordMap) : Prop :=
  a.records = records ∧
    ((∃ left, a.job = some (.getAll masked left) ∧
        s.sent ++ enumeration records masked left = all) ∨
      a.job = none ∧ s.sent = all)

/-- What the map may do for READ_ALL_UIDS. -/
theorem Reports.works {all out : List StoreAnswer} {masked : Bool} {s' : RecordStore}
    {a' : RecordMap} {resp : Bytes} (h : Reports all records masked s a)
    (hworks : RecordMap.Works resp a out a') (hsent : s'.sent = s.sent ++ out) :
    Reports all records masked s' a' := by
  obtain ⟨hrecords, hjob⟩ := h
  have hnone : ∀ {job}, a.job = some job → (∀ left, job ≠ .getAll masked left) → False := by
    intro job heq hne
    rcases hjob with ⟨left, hleft, -⟩ | ⟨hnone, -⟩
    · exact hne left (Option.some.inj (heq.symm.trans hleft))
    · rw [heq] at hnone
      cases hnone
  cases hworks with
  | waits =>
    rw [List.append_nil] at hsent
    refine ⟨hrecords, ?_⟩
    rw [hsent]
    exact hjob
  | updated heq => exact (hnone heq fun _ h => by cases h).elim
  | got heq _ => exact (hnone heq fun _ h => by cases h).elim
  | missing heq _ => exact (hnone heq fun _ h => by cases h).elim
  | scanned heq => exact (hnone heq fun _ h => by cases h).elim
  | @next uid masked' left r heq hrec =>
    rcases hjob with ⟨left', hleft, hall⟩ | ⟨hnone, -⟩
    · cases heq.symm.trans hleft
      have hreport : report records masked uid left.length =
          [⟨.okay, left.length, Mem.bytes16 uid ++ Mem.bytes16 r.sz ++ r.shown masked⟩] := by
        unfold report
        rw [← hrecords, hrec]
      have hcons : enumeration records masked (uid :: left) =
          report records masked uid left.length ++ reports records masked left :=
        if_neg (List.cons_ne_nil _ _)
      rw [hcons, hreport, ← List.append_assoc, ← hsent] at hall
      refine ⟨hrecords, ?_⟩
      by_cases hempty : left = []
      · refine .inr ⟨if_pos hempty, ?_⟩
        rw [hempty] at hall
        exact (List.append_nil _).symm.trans hall
      · refine .inl ⟨left, if_neg hempty, ?_⟩
        have hrest : enumeration records masked left = reports records masked left := if_neg hempty
        rw [hrest]
        exact hall
    · rw [heq] at hnone
      cases hnone
  | @empty masked' heq =>
    rcases hjob with ⟨left', hleft, hall⟩ | ⟨hnone, -⟩
    · cases heq.symm.trans hleft
      exact ⟨hrecords, .inr ⟨rfl, hsent.trans hall⟩⟩
    · rw [heq] at hnone
      cases hnone

theorem reports_goOn (hK : BlockInverse K.enc K.dec) {all : List StoreAnswer} {masked : Bool}
    {es : List StoreEvent} (hes : ∀ e ∈ es, e.GoesOn) (hs : StandsFor P K s a n)
    (h : Reports all records masked s a) :
    ∃ a' n', StandsFor P K (es.foldl (RecordStore.step P K) s) a' n' ∧
      Reports all records masked (es.foldl (RecordStore.step P K) s) a' := by
  induction es generalizing s a n with
  | nil => exact ⟨a, n, hs, h⟩
  | cons e es ih =>
    obtain ⟨m, out, a', n', hsent, hworks, hstands, -⟩ :=
      goesOn_goes hK (hes e List.mem_cons_self) hs
    rw [List.foldl_cons]
    exact ih (fun e' he' => hes e' (List.mem_cons_of_mem _ he')) hstands (h.works hworks hsent)

end Enumerations

/-! ### A device without records -/

/-- A key for a cipher that leaves its input. -/
def plainRecordKey : RecordKey where
  aes := plainAes
  encryptKey := []
  deviceId := []
  dbFormat := .current
  startupResp := []

/-- A device whose blocks are all free, just after power-on. -/
def emptyStore : RecordStore :=
  RecordStore.powerOn
    { blocks := fun _ _ => 0xff
      tables := freeDb.toDbTables
      blockReadCacheUpdating := false
      request := none
      deviceState := .disconnected
      activeCmd := none
      cmdIterCount := 0
      cmdMessagesRemaining := 0
      waitingForButtonPress := false
      waitingForLongButtonPress := false
      updateUidData := ⟨[], 0, 0, 0, 0, 0, 0, [], emptyScratch⟩
      readUidData := ⟨[], 0, 0, 0, false⟩
      readAllUidsData := ⟨0, 0, false⟩
      scanBlkNum := 0
      startupBlock := fun _ => 0
      sending := false
      sent := [] } fun _ => false

/-- A packet with one byte of data, which is 1. -/
def onePacket (cmd : StoreCommand) : StorePacket := ⟨cmd, 0, 1, fun _ => 1⟩

/-- It has been sent STARTUP and has scanned its blocks, and the user has logged in. -/
def sessionStore : RecordStore :=
  ((emptyStore.step sumPlatform plainRecordKey (.packet (onePacket .startup) emptyScratch)).settled
    sumPlatform plainRecordKey).step sumPlatform plainRecordKey .login

/-- An UPDATE_UID packet with a record of three bytes in one sub-block. -/
def recordPacket (uid : Nat) : StorePacket :=
  ⟨.updateUid, 0, 20, Mem.put16 (Mem.put16 (fun a => UInt8.ofNat a) 0 uid) 2 3⟩

/-- The record in such a packet. -/
def packetRecord (uid : Nat) : Record :=
  ⟨3, (recordPacket uid).data.read 4 16, by decide, by decide, rfl⟩

/-- Two records have been put into the database. -/
def twoRecordsStore : RecordStore :=
  ((sessionStore.made sumPlatform plainRecordKey (recordPacket 1) emptyScratch).made sumPlatform
    plainRecordKey (recordPacket 2) emptyScratch)

/-- A READ_UID packet for the record of uid 1, which is not to be masked. -/
def readPacket : StorePacket := ⟨.readUid, 0, 3, Mem.put16 (fun _ => 0) 0 1⟩

/-- Two records have been put into the database, and one has been read. -/
def readBackStore : RecordStore :=
  twoRecordsStore.shown sumPlatform plainRecordKey readPacket emptyScratch

theorem blockInverse_plainRecordKey : BlockInverse plainRecordKey.enc plainRecordKey.dec :=
  blockInverse_plainAes []

theorem headerPartSize_free : headerPartSize (fun _ => 0xff) = INVALID_PART_SIZE := by decide

theorem emptyStore_init : StoreInit sumPlatform plainRecordKey (fun _ => none) emptyStore where
  card := by
    refine ⟨fun _ => none, fun i _ => ⟨⟨1, 0, 0, 0, 0, 0⟩, ?_⟩, ⟨?_, ?_, ?_⟩⟩
    · exact .free Nat.one_ne_zero rfl headerPartSize_free
    · exact fun _ h => by cases h
    · exact fun h => by cases h
    · exact fun _ _ h => by cases h
  on := ⟨_, _, rfl⟩

/-- A session of a device without records. -/
theorem sessionStore_rests : Rests sumPlatform plainRecordKey (fun _ => none) sessionStore
    ⟨fun _ => none, .loggedIn, none⟩ :=
  (emptyStore_init.startsUp blockInverse_plainRecordKey rfl emptyScratch).login rfl

/-- The packet may be sent to a device with at most one record. -/
theorem recordPacket_ok {P : RootPlatform} {K : RecordKey} {records : Nat → Option Record}
    {s : RecordStore} {a : RecordMap} (h : Rests P K records s a) (hstate : a.state = .loggedIn)
    (hone : ∀ u v, a.records u ≠ none → a.records v ≠ none → u = v) (uid : Nat) :
    PacketOk s (recordPacket uid) where
  free := h.free
  single := fun h => by cases h
  update := by
    intro _ _ uid' sz data haccept
    have hsz : sz = 3 := by
      unfold acceptUpdateUid at haccept
      dsimp only at haccept
      split at haccept
      · cases haccept
      · split at haccept
        · cases haccept
        · cases haccept
          exact Mem.get16_put16 _ _ _
    rw [hsz]
    exact ⟨by decide, fun hzero => absurd hzero (by decide), fun _ _ => h.hasRoom hstate hone⟩

/-- The records after two updates. -/
def twoRecords : Nat → Option Record :=
  Function.update (Function.update (fun _ => none) 1 (some (packetRecord 1))) 2
    (some (packetRecord 2))

/-- Two records are put into the database. -/
theorem twoRecordsStore_rests : Rests sumPlatform plainRecordKey (fun _ => none) twoRecordsStore
      ⟨twoRecords, .loggedIn, none⟩ ∧
    twoRecordsStore.sent = sessionStore.sent ++ [⟨.okay, 0, []⟩, ⟨.okay, 0, []⟩] := by
  have hasked : (⟨fun _ => none, .loggedIn, none⟩ : RecordMap).asked (recordPacket 1) =
      .ok (.update 1 (some (packetRecord 1))) := rfl
  obtain ⟨hfirst, hsent⟩ := sessionStore_rests.makes blockInverse_plainRecordKey
    (fun h => by cases h) (recordPacket_ok sessionStore_rests rfl (fun _ _ h => absurd rfl h) 1)
    hasked emptyScratch
  have hkey : ∀ u, (Function.update (fun _ => none) 1 (some (packetRecord 1)) :
      Nat → Option Record) u ≠ none → u = 1 := by
    intro u hu
    by_contra hne
    exact hu (Function.update_of_ne hne _ _)
  have hone : ∀ u v, (Function.update (fun _ => none) 1 (some (packetRecord 1)) :
      Nat → Option Record) u ≠ none → (Function.update (fun _ => none) 1 (some (packetRecord 1)) :
        Nat → Option Record) v ≠ none → u = v :=
    fun u v hu hv => (hkey u hu).trans (hkey v hv).symm
  have hasked' : RecordMap.asked
      (⟨Function.update (fun _ => none) 1 (some (packetRecord 1)), .loggedIn, none⟩ : RecordMap)
      (recordPacket 2) = .ok (.update 2 (some (packetRecord 2))) := rfl
  obtain ⟨hsecond, hsent'⟩ := hfirst.makes blockInverse_plainRecordKey (fun h => by cases h)
    (recordPacket_ok hfirst rfl hone 2) hasked' emptyScratch
  refine ⟨hsecond, hsent'.trans ?_⟩
  rw [hsent, List.append_assoc]
  rfl

/-- One of them is read. -/
theorem readBackStore_rests : Rests sumPlatform plainRecordKey (fun _ => none) readBackStore
      ⟨twoRecords, .loggedIn, none⟩ ∧
    readBackStore.sent = twoRecordsStore.sent ++
      [⟨.okay, 0, Mem.bytes16 3 ++ (packetRecord 1).data⟩] := by
  have hrests := twoRecordsStore_rests.1
  have hok : PacketOk twoRecordsStore readPacket :=
    ⟨hrests.free, (fun h => by cases h),
      fun _ hcmd => hcmd.elim (fun h => by cases h) fun h => by cases h⟩
  have hasked : (⟨twoRecords, .loggedIn, none⟩ : RecordMap).asked readPacket =
      .ok (.get 1 false) := rfl
  have hrec : twoRecords 1 = some (packetRecord 1) := rfl
  exact hrests.shows blockInverse_plainRecordKey (fun h => by cases h) hok hasked hrec emptyScratch

/-! ### The results -/

section Results

variable {P : RootPlatform} {K : RecordKey} {s : RecordStore}
  {records : Nat → Option Record} {h : History RecordStore StoreEvent}

/-- **What the record database sends is what a map of records may send**, over any number of power
    cycles; its blocks hold the records of the map, and a job that is not over is under way. -/
theorem store_refines (hK : BlockInverse K.enc K.dec)
    (hr : Run (StoreInit P K records) (RecordStore.step P K) StoreOk h s) :
    ∃ a, Behaves (fun a => a = ⟨records, .disconnected, none⟩) (RecordMap.Step K.startupResp)
        (observed (RecordStore.answers P K) h) a ∧
      (∃ c, OnCard P K s.blocks c ∧ Represents (· ∈ dataBlocks) c a.records) ∧
      a.state = s.deviceState ∧ (¬ s.Busy → a.job = none) := by
  obtain ⟨a, hb, n, c, ha, hphase⟩ := (simulates hK records).behaves hr
  exact ⟨a, hb, ⟨c, ha.card, ha.records⟩, ha.state, fun hfree => (hphase.idle_of_free hfree).1⟩

/-- Two records are written and one of them is read. -/
theorem store_refines_readBack :
    (∃ h a, Behaves (fun a => a = ⟨fun _ => none, .disconnected, none⟩)
        (RecordMap.Step plainRecordKey.startupResp)
        (observed (RecordStore.answers sumPlatform plainRecordKey) h) a ∧
      (∃ c, OnCard sumPlatform plainRecordKey readBackStore.blocks c ∧
        Represents (· ∈ dataBlocks) c a.records) ∧
      a.state = readBackStore.deviceState ∧ (¬ readBackStore.Busy → a.job = none)) ∧
    readBackStore.sent = sessionStore.sent ++
      [⟨.okay, 0, []⟩, ⟨.okay, 0, []⟩, ⟨.okay, 0, Mem.bytes16 3 ++ (packetRecord 1).data⟩] := by
  obtain ⟨hrests, hsent⟩ := readBackStore_rests
  obtain ⟨h, hr⟩ := hrests.run
  refine ⟨⟨h, store_refines blockInverse_plainRecordKey hr⟩, ?_⟩
  rw [hsent, twoRecordsStore_rests.2, List.append_assoc]
  rfl

/-- **No job hangs**: when the eMMC and the host keep up with it, the device comes to a state in
    which nothing is under way, or the button is waited for. -/
theorem store_settles (hK : BlockInverse K.enc K.dec)
    (hr : Run (StoreInit P K records) (RecordStore.step P K) StoreOk h s) :
    ∃ h' s', s' = s.settle P K (2 * MAX_UID + 3) ∧
      Run (StoreInit P K records) (RecordStore.step P K) StoreOk (h' ++ h) s' ∧
      (∀ x ∈ h', x.1.completion = some x.2) ∧ s'.request = none ∧ s'.sending = false := by
  obtain ⟨a, -, n, hs⟩ := (simulates hK records).behaves hr
  obtain ⟨c, ha, hphase⟩ := id hs
  obtain ⟨hnone, -, h', hr', hall⟩ :=
    settle_run hK (Q := fun _ _ => True) (fun _ _ _ _ _ _ => trivial) (2 * MAX_UID + 3) trivial hs
      hphase.le hr
  exact ⟨h', _, rfl, hr', hall, completion_eq_none hnone⟩

/-- READ_ALL_UIDS may be sent to a device at rest. -/
theorem onePacket_ok {a : RecordMap} (h : Rests P K records s a) :
    PacketOk s (onePacket .readAllUids) where
  free := h.free
  single := fun _ => rfl
  update := fun _ hcmd => hcmd.elim (fun h => by cases h) fun h => by cases h

/-- A device with two records comes to the end of READ_ALL_UIDS. -/
theorem store_settles_reading :
    let s := twoRecordsStore.step sumPlatform plainRecordKey
      (.packet (onePacket .readAllUids) emptyScratch)
    ∃ h h' s', s' = s.settle sumPlatform plainRecordKey (2 * MAX_UID + 3) ∧
      Run (StoreInit sumPlatform plainRecordKey fun _ => none)
        (RecordStore.step sumPlatform plainRecordKey) StoreOk (h' ++ h) s' ∧
      (∀ x ∈ h', x.1.completion = some x.2) ∧ s'.request = none ∧ s'.sending = false := by
  have hrests := twoRecordsStore_rests.1
  obtain ⟨h, hr⟩ := hrests.run
  have hok : StoreOk twoRecordsStore (.packet (onePacket .readAllUids) emptyScratch) :=
    onePacket_ok hrests
  exact ⟨_, store_settles blockInverse_plainRecordKey (hr.next hok)⟩

/-- **READ_ALL_UIDS reports every record once, in the order of their uids**, however the reads, the
    responses and the presses of the button come; without records it says so. -/
theorem readAllUids_reports (hK : BlockInverse K.enc K.dec)
    (hr : Run (StoreInit P K records) (RecordStore.step P K) StoreOk h s) {p : StorePacket}
    {t : Scratch} {es : List StoreEvent} (hcmd : p.cmd = .readAllUids)
    (hpacket : StoreOk s (.packet p t)) (hstate : s.deviceState = .loggedIn)
    (hlen : 1 ≤ p.dataLen ∧ p.dataLen ≤ hcLink.cmdPacketPayloadSize)
    (hes : ∀ e ∈ es, e.GoesOn) :
    ∃ a, Behaves (fun a => a = ⟨records, .disconnected, none⟩) (RecordMap.Step K.startupResp)
        (observed (RecordStore.answers P K) h) a ∧
      (∃ c, OnCard P K s.blocks c ∧ Represents (· ∈ dataBlocks) c a.records) ∧
      let s' := es.foldl (RecordStore.step P K) (s.step P K (.packet p t))
      let all := s.sent ++ enumeration a.records (p.data 0 ≠ 0) a.stored
      s'.sent <+: all ∧ (¬ s'.Busy → s'.sent = all) := by
  obtain ⟨a, hb, n, hs⟩ := (simulates hK records).behaves hr
  obtain ⟨c, ha, hphase⟩ := id hs
  refine ⟨a, hb, ⟨c, ha.card, ha.records⟩, ?_⟩
  have hcancel : p.cmd ≠ .cancelButtonPress := by
    rw [hcmd]
    exact fun h => by cases h
  have hok : PacketOk s p := by
    unfold StoreOk at hpacket
    dsimp only at hpacket
    rw [if_neg hcancel] at hpacket
    exact hpacket
  have hstartup : p.cmd ≠ .startup := by
    rw [hcmd]
    exact fun h => by cases h
  have hasked : a.asked p = .ok (.getAll (p.data 0 ≠ 0) a.stored) := by
    rw [asked_session (ha.state.trans hstate) hstartup (Int.not_lt.mpr hlen.2)]
    unfold RecordMap.askedInSession
    rw [hcmd]
    exact if_neg (Int.not_lt.mpr hlen.1)
  obtain ⟨out, a', n', hsent, hstep, hstands⟩ := cmdPacketRecv_received hK hs hcancel hok t
  have hbegun : Reports (s.sent ++ enumeration a.records (p.data 0 ≠ 0) a.stored) a.records
      (p.data 0 ≠ 0) (s.step P K (.packet p t)) a' := by
    cases hstep t with
    | refuses _ _ _ herror =>
      rw [hasked] at herror
      cases herror
    | accepts _ hjob hworks =>
      cases hasked.symm.trans hjob
      have hreports : Reports (s.sent ++ enumeration a.records (p.data 0 ≠ 0) a.stored) a.records
          (p.data 0 ≠ 0) s { a with job := some (.getAll (p.data 0 ≠ 0) a.stored) } :=
        ⟨rfl, .inl ⟨a.stored, rfl, rfl⟩⟩
      exact hreports.works hworks hsent
    | logsOut _ hlogout =>
      have hlogoutCmd := hlogout.cmd
      rw [hcmd] at hlogoutCmd
      cases hlogoutCmd
    | cancels hcancel' _ => exact absurd hcancel' hcancel
    | ignores hcancel' => exact absurd hcancel' hcancel
    | works hpacket' _ _ => exact absurd rfl (hpacket' p t)
  obtain ⟨a₂, n₂, ⟨c₂, -, hphase₂⟩, -, hend⟩ := reports_goOn hK hes hstands hbegun
  rcases hend with ⟨left, hleft, hall⟩ | ⟨-, hall⟩
  · refine ⟨⟨_, hall⟩, fun hover => ?_⟩
    have hnone := (hphase₂.idle_of_free hover).1
    rw [hnone] at hleft
    cases hleft
  · exact ⟨hall ▸ List.prefix_rfl, fun _ => hall⟩

/-- Two records are reported, each when its block has been read. -/
theorem readAllUids_reports_two :
    ∃ h a, Behaves (fun a => a = ⟨fun _ => none, .disconnected, none⟩)
        (RecordMap.Step plainRecordKey.startupResp)
        (observed (RecordStore.answers sumPlatform plainRecordKey) h) a ∧
      (∃ c, OnCard sumPlatform plainRecordKey twoRecordsStore.blocks c ∧
        Represents (· ∈ dataBlocks) c a.records) ∧
      let s' := [StoreEvent.readComplete, .packetSent, .readComplete, .packetSent].foldl
        (RecordStore.step sumPlatform plainRecordKey)
        (twoRecordsStore.step sumPlatform plainRecordKey
          (.packet (onePacket .readAllUids) emptyScratch))
      let all := twoRecordsStore.sent ++
        enumeration a.records ((onePacket .readAllUids).data 0 ≠ 0) a.stored
      s'.sent <+: all ∧ (¬ s'.Busy → s'.sent = all) := by
  have hrests := twoRecordsStore_rests.1
  obtain ⟨h, hr⟩ := hrests.run
  have hok : StoreOk twoRecordsStore (.packet (onePacket .readAllUids) emptyScratch) :=
    onePacket_ok hrests
  refine ⟨h, readAllUids_reports blockInverse_plainRecordKey hr rfl hok
    hrests.deviceState.symm (by decide) ?_⟩
  intro e he
  simp only [List.mem_cons, List.not_mem_nil, or_false] at he
  rcases he with rfl | rfl | rfl | rfl
  · exact .inr (.inr (.inl rfl))
  · exact .inr (.inr (.inr (.inr rfl)))
  · exact .inr (.inr (.inl rfl))
  · exact .inr (.inr (.inr (.inr rfl)))

end Results

end SignetBase.FirmwareHc
