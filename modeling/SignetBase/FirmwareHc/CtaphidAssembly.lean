/-
  SignetBase/FirmwareHc/CtaphidAssembly.lean
  ==========================================
  **CTAPHID messages: what is executed was sent, and what is sent is executed.**

  Along every run the buffer is what the packets of one channel carry since the last first
  packet of a message on it, their sequence numbers counting up from 0; so a request that is
  executed is a message that was sent, whatever other packets came in between.  The other way
  round, the frames of a message are put together whatever other channels send meanwhile, as
  long as none of them sends CTAPHID_INIT, and the echo of a PING repeats them byte for byte.
-/
import SignetBase.FirmwareHc.CtaphidRuns

namespace SignetBase.FirmwareHc

namespace Ctaphid

variable {m : Mem} {s s' : Ctaphid} {p q : Packet} {env : Services} {ps : List Packet}

/-! ### Packets as memory -/

theorem read_mem {off n : Nat} (h : off + n ≤ HID_MESSAGE_SIZE) :
    p.mem.read off n = (p.1.drop off).take n := by
  have hlen := p.2
  apply List.ext_getElem
  · rw [Mem.length_read, List.length_take, List.length_drop]
    omega
  · intro i hi hi'
    rw [Mem.length_read] at hi
    rw [Mem.getElem_read, List.getElem_take, List.getElem_drop]
    unfold Packet.mem
    rw [List.getD_eq_getElem?_getD, List.getElem?_eq_getElem (by omega), Option.getD_some]

/-- What a packet adds at the end of what the buffer holds. -/
theorem read_copy_end (b src : Mem) (off srcOff n : Nat) :
    (b.copy off src srcOff n).read 0 (off + n) = b.read 0 off ++ src.read srcOff n := by
  rw [Mem.read_add, Nat.zero_add, Mem.read_copy, Mem.read_copy_disjoint _ _ (.inl (by omega))]

/-! ### What is executed was sent -/

/-- The packets that came in during the steps, oldest first. -/
def arrived : History Ctaphid HidEvent → List Packet
  | [] => []
  | (_, .packet p _) :: h => arrived h ++ [p]
  | (_, .idle _) :: h => arrived h

/-- The continuation packets of a channel. -/
def contsOf (cid : Nat) (ps : List Packet) : List Packet :=
  ps.filter fun q => q.cid = cid ∧ q.IsContPkt

theorem contsOf_skip {cid : Nat} (h : ¬ (q.cid = cid ∧ q.IsContPkt)) :
    contsOf cid (ps ++ [q]) = contsOf cid ps := by
  unfold contsOf
  rw [List.filter_append, List.filter_singleton, decide_eq_false h]
  exact List.append_nil _

theorem contsOf_take {cid : Nat} (h : q.cid = cid ∧ q.IsContPkt) :
    contsOf cid (ps ++ [q]) = contsOf cid ps ++ [q] := by
  unfold contsOf
  rw [List.filter_append, List.filter_singleton, decide_eq_true h]
  rfl

/-- The message in the buffer was begun by `first`, and `rest` has come since. -/
structure Assembly (ps : List Packet) (s : Ctaphid) (first : Packet) (rest : List Packet) :
    Prop where
  arrived : ∃ before, ps = before ++ first :: rest
  starts : Starts first
  channel : first.cid = s.bufferCid
  cmd : first.cmd = s.bufferCmd
  len : first.ctaphidPacketLen = s.bufferBcnt
  order : (contsOf s.bufferCid rest).map Packet.cmd =
    List.range (contsOf s.bufferCid rest).length
  seq : s.packetSeq + 1 = (contsOf s.bufferCid rest).length
  offset : s.bufferOffset = min s.bufferBcnt (CTAPHID_INIT_PAYLOAD_SIZE +
    CTAPHID_CONT_PAYLOAD_SIZE * (contsOf s.bufferCid rest).length)
  content : (s.processingPacket = true → s.bufferCmd = CTAPHID_GETRNG → s.randNeeded = 0) →
    s.ctapBuffer.read 0 s.bufferOffset =
      (carried (first :: contsOf s.bufferCid rest)).take s.bufferOffset

/-- What holds of a buffer that is not empty. -/
structure Buffered (ps : List Packet) (s : Ctaphid) : Prop where
  known : CidExists s.bufferCid s.cids
  channel : s.bufferCid ≠ CTAPHID_BROADCAST_CID
  assembly : ∃ first rest, Assembly ps s first rest

/-- A packet that is not for the buffer. -/
theorem Assembly.skip {first : Packet} {rest : List Packet} (h : Assembly ps s first rest)
    (hskip : ¬ (q.cid = s.bufferCid ∧ q.IsContPkt)) :
    Assembly (ps ++ [q]) s first (rest ++ [q]) := by
  obtain ⟨before, hbefore⟩ := h.arrived
  have hconts : contsOf s.bufferCid (rest ++ [q]) = contsOf s.bufferCid rest := contsOf_skip hskip
  exact {
    arrived := ⟨before, by rw [hbefore, List.append_assoc, List.cons_append]⟩
    starts := h.starts
    channel := h.channel
    cmd := h.cmd
    len := h.len
    order := by rw [hconts]; exact h.order
    seq := by rw [hconts]; exact h.seq
    offset := by rw [hconts]; exact h.offset
    content := by rw [hconts]; exact h.content }

theorem length_carried (first : Packet) (conts : List Packet) :
    (carried (first :: conts)).length =
      CTAPHID_INIT_PAYLOAD_SIZE + CTAPHID_CONT_PAYLOAD_SIZE * conts.length := by
  rw [carried, List.length_append, List.length_drop, first.2]
  congr 1
  induction conts with
  | nil => rfl
  | cons q conts ih =>
    rw [List.flatMap_cons, List.length_append, List.length_drop, q.2, ih, List.length_cons]
    simp only [CTAPHID_CONT_PAYLOAD_SIZE, HID_MESSAGE_SIZE]
    omega

theorem carried_append (first : Packet) (conts : List Packet) :
    carried (first :: (conts ++ [q])) = carried (first :: conts) ++ q.1.drop 5 := by
  rw [carried, carried, List.flatMap_append, List.flatMap_singleton, List.append_assoc]

/-- The first packet of a message. -/
theorem Assembly.started (hstarts : Starts q) (cids : List Channel) :
    Assembly (ps ++ [q]) { s.started q with cids } q [] := by
  have hle : min q.ctaphidPacketLen CTAPHID_INIT_PAYLOAD_SIZE ≤ CTAPHID_INIT_PAYLOAD_SIZE :=
    Nat.min_le_right _ _
  exact {
    arrived := ⟨ps, rfl⟩
    starts := hstarts
    channel := rfl
    cmd := rfl
    len := rfl
    order := rfl
    seq := rfl
    offset := rfl
    content := fun _ => by
      change (s.ctapBuffer.copy 0 q.mem 7 _).read 0 (min q.ctaphidPacketLen _) =
        (q.1.drop 7 ++ []).take (min q.ctaphidPacketLen _)
      rw [Mem.read_copy, List.append_nil, read_mem]
      simp only [CTAPHID_INIT_PAYLOAD_SIZE, HID_MESSAGE_SIZE] at hle ⊢
      omega }

/-- A further packet of the message: it comes next, and what it carries goes to the end. -/
theorem Assembly.continued {first : Packet} {rest : List Packet} (h : Assembly ps s first rest)
    (harmed : s.processingPacket = false) (hown : q.cid = s.bufferCid) (hcont : q.IsContPkt)
    (hseq : s.packetSeq + 1 = q.cmd) (cids : List Channel) :
    Assembly (ps ++ [q]) { s.continued q with cids } first (rest ++ [q]) := by
  obtain ⟨before, hbefore⟩ := h.arrived
  have hconts : contsOf s.bufferCid (rest ++ [q]) = contsOf s.bufferCid rest ++ [q] :=
    contsOf_take ⟨hown, hcont⟩
  have hcount : (contsOf s.bufferCid (rest ++ [q])).length =
      (contsOf s.bufferCid rest).length + 1 := by
    rw [hconts, List.length_append, List.length_singleton]
  have hcmd : Packet.cmd q = (contsOf s.bufferCid rest).length := by
    have hnext := h.seq
    omega
  have hoffset := h.offset
  have hlen := length_carried first (contsOf s.bufferCid rest)
  have hcontent := h.content fun hprocessing => by
    rw [harmed] at hprocessing
    cases hprocessing
  exact {
    arrived := ⟨before, by rw [hbefore, List.append_assoc, List.cons_append]⟩
    starts := h.starts
    channel := h.channel
    cmd := h.cmd
    len := h.len
    order := by
      change (contsOf s.bufferCid _).map Packet.cmd = List.range (contsOf s.bufferCid _).length
      rw [hcount, hconts, List.map_append, h.order, List.range_succ, List.map_singleton, hcmd]
    seq := by
      change s.packetSeq + 1 + 1 = ((contsOf s.bufferCid _).length : Int)
      rw [hcount, hseq, hcmd]
      rfl
    offset := by
      change s.bufferOffset + min (s.bufferBcnt - s.bufferOffset) CTAPHID_CONT_PAYLOAD_SIZE =
        min s.bufferBcnt (_ + _ * (contsOf s.bufferCid _).length)
      rw [hcount, hoffset]
      simp only [CTAPHID_CONT_PAYLOAD_SIZE, CTAPHID_INIT_PAYLOAD_SIZE, HID_MESSAGE_SIZE]
      omega
    content := fun _ => by
      change (s.ctapBuffer.copy s.bufferOffset q.mem 5 _).read 0 (s.bufferOffset + _) =
        (carried (first :: contsOf s.bufferCid _)).take (s.bufferOffset + _)
      have hmin := Nat.min_le_right (s.bufferBcnt - s.bufferOffset) CTAPHID_CONT_PAYLOAD_SIZE
      rw [read_copy_end, hconts, carried_append, hcontent, read_mem (by
        simp only [CTAPHID_CONT_PAYLOAD_SIZE, HID_MESSAGE_SIZE] at hmin ⊢
        omega)]
      by_cases hfull : s.bufferBcnt ≤ (carried (first :: contsOf s.bufferCid rest)).length
      · -- the message was complete, nothing is added
        have heq : s.bufferOffset = s.bufferBcnt := by omega
        rw [heq, Nat.sub_self, Nat.zero_min, List.take_zero, List.append_nil, Nat.add_zero,
          List.take_append_of_le_length hfull]
      · have heq : s.bufferOffset = (carried (first :: contsOf s.bufferCid rest)).length := by
          omega
        rw [heq, List.take_length, List.take_length_add_append] }

theorem Assembly.taken {first : Packet} {rest : List Packet} (h : Assembly ps s first rest)
    (harmed : s.processingPacket = false) : Assembly ps s.taken first rest := by
  unfold Ctaphid.taken
  split
  · exact h
  · exact { h with
      content := fun _ => h.content fun hprocessing => by
        rw [harmed] at hprocessing
        cases hprocessing }

/-- The buffer is in use. -/
def Active (s : Ctaphid) : Prop := s.bufferBcnt ≠ 0 ∨ s.processingPacket = true

theorem not_empty_of_bcnt (h : s.bufferBcnt ≠ 0) : s.bufferStatus ≠ .EMPTY := by
  unfold bufferStatus
  rw [if_neg h]
  split <;> decide

theorem init_not_cont (hinit : p.IsInitPkt) : ¬ p.IsContPkt := by
  unfold Packet.IsContPkt
  rw [show Packet.cmd p = CTAPHID_INIT from hinit]
  decide

/-- **What a packet does to the message in the buffer.** -/
theorem Buffered.received (h : s.Active → Buffered ps s) (harmed : s.processingPacket = false)
    (hr : Received s q s') : s'.Active → Buffered (ps ++ [q]) s' := by
  intro hactive
  have hbcnt : s'.processingPacket = false → s'.bufferBcnt ≠ 0 := fun hfalse =>
    hactive.resolve_right fun htrue => by
      rw [hfalse] at htrue
      cases htrue
  cases hr with
  | ignored hcont hforeign =>
    have hne := hbcnt harmed
    obtain ⟨hknown, hchannel, first, rest, hassembly⟩ := h (.inl hne)
    refine ⟨hknown, hchannel, first, rest ++ [q], hassembly.skip fun hown => ?_⟩
    rcases hforeign with hempty | hother | hunknown
    · exact not_empty_of_bcnt hne hempty
    · exact hother hown.1
    · rw [hown.1] at hunknown
      exact hunknown hknown
  | rejected hbad =>
    have hne : s.bufferBcnt ≠ 0 := hbcnt harmed
    obtain ⟨hknown, hchannel, first, rest, hassembly⟩ := h (.inl hne)
    have hskip : ¬ (q.cid = s.bufferCid ∧ q.IsContPkt) := by
      rintro ⟨hown, hcont⟩
      by_cases hinit : q.IsInitPkt
      · exact init_not_cont hinit hcont
      · exact hchannel (hown.symm.trans (hbad.2 hinit))
    have hassembly' := hassembly.skip hskip
    exact ⟨((entrySet_del q.cid s.cids).exists_iff _).mpr hknown, hchannel, first, rest ++ [q],
      { hassembly' with }⟩
  | noRoom =>
    exact absurd (initRefused_idle s q).1 (hbcnt ((initRefused_idle s q).2.trans harmed))
  | greeted =>
    exact absurd (initRefused_idle s q).1 (hbcnt ((initRefused_idle s q).2.trans harmed))
  | refused hstarts =>
    have hne : (s.openChannel q).bufferBcnt ≠ 0 := hbcnt (openChannel_processing harmed)
    have hopen : s.openChannel q = s := openChannel_eq_self (.inl fun hempty => by
      rw [← openChannel_bufferStatus (p := q)] at hempty
      exact not_empty_of_bcnt hne hempty)
    rw [hopen] at hne ⊢
    obtain ⟨hknown, hchannel, first, rest, hassembly⟩ := h (.inl hne)
    have hassembly' := hassembly.skip fun hboth => hstarts.2 hboth.2
    exact ⟨((entrySet_del q.cid s.cids).exists_iff _).mpr hknown, hchannel, first, rest ++ [q],
      { hassembly' with }⟩
  | broken => exact absurd rfl (hbcnt harmed)
  | @started cids hstarts hcid hidle hlen hknown =>
    have hexists : CidExists q.cid cids :=
      ((entrySet_refresh hknown).exists_iff _).mpr
        (cidExists_iff_refresh.mpr (Option.isSome_of_eq_some hknown))
    have hassembly : Assembly (ps ++ [q]) { (s.openChannel q).started q with cids } q [] :=
      .started hstarts cids
    refine ⟨?_, ?_, q, [], hassembly.taken (openChannel_processing harmed)⟩
    · rw [taken_cids.1, taken_cids.2]
      exact hexists
    · rw [taken_cids.2]
      exact hcid
  | @continued cids hcont hown hnonempty hseq hknown =>
    have hne : s.bufferBcnt ≠ 0 := fun hzero => hnonempty (bufferStatus_of_bcnt_zero hzero)
    obtain ⟨hexists, hchannel, first, rest, hassembly⟩ := h (.inl hne)
    refine ⟨?_, ?_, first, rest ++ [q],
      (hassembly.continued harmed hown hcont hseq cids).taken harmed⟩
    · rw [taken_cids.1, taken_cids.2]
      exact ((entrySet_refresh hknown).exists_iff _).mpr hexists
    · rw [taken_cids.2]
      exact hchannel

/-- **An execution leaves the message in the buffer until it is answered.** -/
theorem Buffered.executed (h : s.Active → Buffered ps s) (hinv : HidInv m s)
    (hprocessing : s.processingPacket = true) (he : Executed s env s') :
    s'.Active → Buffered ps s' := by
  intro hactive
  obtain ⟨hknown, hchannel, first, rest, hassembly⟩ := h (.inr hprocessing)
  cases he with
  | stopped hwrong =>
    rcases hwrong with hwrong | hwrong
    · exact absurd hwrong (hinv.request hprocessing)
    · exact absurd hwrong hinv.cmd
  | @pending buffer n rs hbehind hkept hneeded =>
    refine ⟨hknown, hchannel, first, rest, { hassembly with content := fun hcmd => ?_ }⟩
    have hcmd' : s.bufferCmd ≠ CTAPHID_GETRNG := fun hrng =>
      absurd (hcmd hprocessing hrng) (Nat.ne_of_gt (hneeded hrng))
    have hbuffer := hkept hcmd'
    dsimp only
    rw [hbuffer]
    exact hassembly.content fun _ hrng => absurd hrng hcmd'
  | ended hearly =>
    have hcmd : s.bufferCmd ≠ CTAPHID_GETRNG := by
      rcases hearly with ⟨hcmd | hcmd, -⟩ | ⟨hcmd, -⟩
      · rw [hcmd]
        decide
      · rw [hcmd]
        decide
      · rw [hcmd]
        decide
    exact ⟨hknown, hchannel, first, rest,
      { hassembly with content := fun _ => hassembly.content fun _ hrng => absurd hrng hcmd }⟩
  | answered =>
    rcases hactive with hne | hfalse
    · exact absurd rfl hne
    · cases hfalse

theorem buffered_step {h : History Ctaphid HidEvent} (hb : s.Active → Buffered (arrived h) s)
    (hinv : HidInv m s) {e : HidEvent} (harmed : s.Armed e) :
    (s.step e).Active → Buffered (arrived ((s, e) :: h)) (s.step e) := by
  cases e with
  | packet p granted =>
    have hreceived := Buffered.received hb harmed (received s p)
    have hinv' := hinv.received harmed (received s p)
    exact step_packet (P := fun s' => s'.Active → Buffered (arrived h ++ [p]) s') hreceived
      fun env _ hprocessing =>
        Buffered.executed hreceived hinv' hprocessing (executed hinv'.idle)
  | idle env =>
    change (s.ctaphidIdle env).Active → Buffered (arrived h) (s.ctaphidIdle env)
    unfold ctaphidIdle
    split
    · rename_i hprocessing
      exact Buffered.executed hb hinv hprocessing (executed hinv.idle)
    · exact hb

theorem buffered_run {h : History Ctaphid HidEvent} (hr : HidRun m h s) :
    s.Active → Buffered (arrived h) s := by
  refine hr.invariant (P := fun h s => s.Active → Buffered (arrived h) s) (fun s hs => ?_)
    fun h s e hr harmed ih => buffered_step ih (hidInv_run hr) harmed
  rw [hs]
  rintro (hne | hfalse)
  · exact absurd rfl hne
  · cases hfalse

/-- The packets are the message `payload` of a channel: a first packet that announces its length,
    then continuation packets numbered from 0, which carry it. -/
structure IsMessage (cid cmd : Nat) (payload : Bytes) (first : Packet) (conts : List Packet) :
    Prop where
  starts : Starts first
  channel : ∀ p ∈ first :: conts, p.cid = cid
  cmd : first.cmd = cmd
  len : first.ctaphidPacketLen = payload.length
  numbered : conts.map Packet.cmd = List.range conts.length
  payload : (carried (first :: conts)).take payload.length = payload

/-- **What is executed was sent: the bytes of every request that is being executed are those of a
    message whose packets arrived on its channel, in order and without a gap, since the first of
    them.  A GETRNG that has to wait has cleared its bytes (`randNeeded`).** -/
theorem request_was_sent {h : History Ctaphid HidEvent} (hr : HidRun m h s)
    (hprocessing : s.processingPacket = true)
    (hcmd : s.bufferCmd = CTAPHID_GETRNG → s.randNeeded = 0) :
    ∃ before first rest, arrived h = before ++ first :: rest ∧
      IsMessage s.bufferCid s.bufferCmd s.message first (contsOf s.bufferCid rest) := by
  have hinv := hidInv_run hr
  obtain ⟨hknown, hchannel, first, rest, hassembly⟩ := buffered_run hr (.inr hprocessing)
  obtain ⟨before, hbefore⟩ := hassembly.arrived
  have hcomplete : s.bufferOffset = s.bufferBcnt := by
    rcases status_of_not_buffering (hinv.request hprocessing) with hstatus | hstatus
    · unfold bufferStatus at hstatus
      split at hstatus
      · cases hstatus
      · split at hstatus
        · assumption
        · cases hstatus
    · have hoffset := hinv.offset
      unfold bufferStatus at hstatus
      split at hstatus
      · omega
      · split at hstatus
        · cases hstatus
        · cases hstatus
  have hlen : s.message.length = s.bufferBcnt := Mem.length_read _ _ _
  have hcontent := hassembly.content fun _ => hcmd
  rw [hcomplete] at hcontent
  refine ⟨before, first, rest, hbefore, hassembly.starts, ?_, hassembly.cmd, ?_,
    hassembly.order, ?_⟩
  · intro p hp
    rcases List.mem_cons.mp hp with rfl | hp
    · exact hassembly.channel
    · exact (of_decide_eq_true (List.mem_filter.mp hp).2).1
  · rw [hassembly.len, hlen]
  · rw [hlen]
    exact hcontent.symm

/-- A hundred bytes for channel 1, in two packets. -/
def hundred : Bytes := (List.range 100).map UInt8.ofNat

def hundredFirst : Packet := padded ([1, 0, 0, 0, 0x81, 0, 100] ++ hundred.take 57)

def hundredCont : Packet := padded ([1, 0, 0, 0, 0] ++ hundred.drop 57)

/-- Three bytes for channel 2 in a single packet. -/
def threeBytes : Packet := padded [2, 0, 0, 0, 0x81, 0, 3, 10, 20, 30]

/-- The packets of channel 1 with that of channel 2 between them. -/
def hundredPackets : List Packet := [hundredFirst, threeBytes, hundredCont]

def hundredRun : History Ctaphid HidEvent × Ctaphid :=
  replay step (hundredPackets.map fun p => .packet p none) ([], powerOn fun _ => 0)

theorem request_was_sent_hundred :
    ∃ before first rest, hundredPackets = before ++ first :: rest ∧
      IsMessage 1 CTAPHID_PING hundred first (contsOf 1 rest) := by
  have hr : HidRun (fun _ => 0) hundredRun.1 hundredRun.2 :=
    .next (.next (.next (.start rfl) rfl) (show processingPacket _ = false by decide +kernel))
      (show processingPacket _ = false by decide +kernel)
  have hprocessing : hundredRun.2.processingPacket = true := by decide +kernel
  have hcmd : hundredRun.2.bufferCmd = CTAPHID_PING := by decide +kernel
  have hcid : hundredRun.2.bufferCid = 1 := by decide +kernel
  have hmessage : hundredRun.2.message = hundred := by decide +kernel
  have hsent := request_was_sent hr hprocessing fun h => absurd (hcmd.symm.trans h) (by decide)
  rw [hcmd, hcid, hmessage] at hsent
  exact hsent

/-! ### What is sent is executed -/

/-- Packets that come in one after the other, none of them executed yet. -/
def deliver (s : Ctaphid) (ps : List Packet) : Ctaphid :=
  ps.foldl (fun s p => s.ctaphidHandlePacket p none) s

/-- A message that is not complete yet. -/
structure Collecting (ps : List Packet) (s : Ctaphid) (first : Packet) (rest : List Packet) :
    Prop where
  armed : s.processingPacket = false
  buffering : s.bufferStatus = .BUFFERING
  known : CidExists s.bufferCid s.cids
  channel : s.bufferCid ≠ CTAPHID_BROADCAST_CID
  assembly : Assembly ps s first rest

/-- The responses that are added are errors on other channels than `cid`. -/
def ErrorsElsewhere (cid : Nat) (s s' : Ctaphid) : Prop :=
  ∃ rs, s'.sent = s.sent ++ rs ∧ ∀ r ∈ rs, r.cid ≠ cid

theorem ErrorsElsewhere.refl (cid : Nat) (s : Ctaphid) : ErrorsElsewhere cid s s :=
  ⟨[], (List.append_nil _).symm, fun _ h => absurd h List.not_mem_nil⟩

theorem ErrorsElsewhere.trans {cid : Nat} {s'' : Ctaphid} (h : ErrorsElsewhere cid s s')
    (h' : ErrorsElsewhere cid s' s'') : ErrorsElsewhere cid s s'' := by
  obtain ⟨rs, hrs, hall⟩ := h
  obtain ⟨rs', hrs', hall'⟩ := h'
  refine ⟨rs ++ rs', by rw [hrs', hrs, List.append_assoc], fun r hr => ?_⟩
  rcases List.mem_append.mp hr with hr | hr
  · exact hall r hr
  · exact hall' r hr

/-- **A packet of another channel does not disturb the message**, unless it is CTAPHID_INIT. -/
theorem Collecting.foreign {first : Packet} {rest : List Packet}
    (h : Collecting ps s first rest) (hforeign : q.cid ≠ s.bufferCid) (hinit : ¬ q.IsInitPkt)
    (hr : Received s q s') : Collecting (ps ++ [q]) s' first (rest ++ [q]) ∧
      s'.bufferCid = s.bufferCid ∧ s'.bufferBcnt = s.bufferBcnt ∧
      ErrorsElsewhere s.bufferCid s s' := by
  have hskip := h.assembly.skip fun hown => hforeign hown.1
  have hdel := ((entrySet_del q.cid s.cids).exists_iff s.bufferCid).mpr h.known
  have herror : ∀ e, ErrorsElsewhere s.bufferCid s ((s.del q.cid).ctaphidSendError q.cid e) :=
    fun e => ⟨_, rfl, fun r hr => by rwa [List.mem_singleton.mp hr]⟩
  cases hr with
  | ignored => exact ⟨{ h with assembly := hskip }, rfl, rfl, .refl _ _⟩
  | rejected =>
    exact ⟨{ h with known := hdel, assembly := { hskip with } }, rfl, rfl, herror _⟩
  | noRoom hyes => exact absurd hyes hinit
  | greeted hyes => exact absurd hyes hinit
  | refused =>
    have hopen : s.openChannel q = s :=
      openChannel_eq_self (.inl (by rw [h.buffering]; decide))
    rw [hopen]
    exact ⟨{ h with known := hdel, assembly := { hskip with } }, rfl, rfl, herror _⟩
  | broken _ hown => exact absurd hown hforeign
  | started _ _ hidle => exact absurd h.buffering hidle
  | continued _ hown => exact absurd hown hforeign

/-- **The next packet of the message goes into the buffer.** -/
theorem Collecting.own {first : Packet} {rest : List Packet} (h : Collecting ps s first rest)
    (hown : q.cid = s.bufferCid) (hcont : q.IsContPkt)
    (hseq : Packet.cmd q = (contsOf s.bufferCid rest).length) (hr : Received s q s') :
    ∃ cids, s' = { s.continued q with cids }.taken ∧ CidExists s.bufferCid cids ∧
      Assembly (ps ++ [q]) { s.continued q with cids } first (rest ++ [q]) := by
  have hne : s.bufferBcnt ≠ 0 := fun hzero => by
    have hstatus := h.buffering
    rw [bufferStatus_of_bcnt_zero hzero] at hstatus
    cases hstatus
  have hnext : s.packetSeq + 1 = Packet.cmd q := by
    rw [h.assembly.seq, hseq]
  cases hr with
  | ignored _ hforeign =>
    rcases hforeign with hempty | hother | hunknown
    · exact absurd hempty (not_empty_of_bcnt hne)
    · exact absurd hown hother
    · rw [hown] at hunknown
      exact absurd h.known hunknown
  | rejected hbad =>
    have hbroadcast := hbad.2 fun hinit => init_not_cont hinit hcont
    exact absurd (hown.symm.trans hbroadcast) h.channel
  | noRoom hinit => exact absurd hcont (init_not_cont hinit)
  | greeted hinit => exact absurd hcont (init_not_cont hinit)
  | refused hstarts => exact absurd hcont hstarts.2
  | broken _ _ _ hwhy =>
    rcases hwhy with hwhy | hwhy
    · exact absurd hcont hwhy.2
    · exact absurd hnext hwhy.2
  | started hstarts => exact absurd hcont hstarts.2
  | @continued cids _ _ _ _ hknown =>
    exact ⟨cids, rfl, ((entrySet_refresh hknown).exists_iff _).mpr h.known,
      h.assembly.continued h.armed hown hcont hnext cids⟩

/-- A message in `n` further packets: they are enough for its length, and all are needed. -/
def Needs (bcnt n : Nat) : Prop :=
  bcnt ≤ CTAPHID_INIT_PAYLOAD_SIZE + CTAPHID_CONT_PAYLOAD_SIZE * n ∧
    (0 < n → CTAPHID_INIT_PAYLOAD_SIZE + CTAPHID_CONT_PAYLOAD_SIZE * (n - 1) < bcnt)

/-- What comes behind the first packet: the further packets of the message, and packets of other
    channels in between that are not CTAPHID_INIT. -/
structure Follows (cid bcnt : Nat) (rest todo : List Packet) : Prop where
  conts : ∀ q ∈ todo, q.cid = cid → q.IsContPkt
  foreign : ∀ q ∈ todo, q.cid ≠ cid → ¬ q.IsInitPkt
  numbered : (contsOf cid (rest ++ todo)).map Packet.cmd =
    List.range (contsOf cid (rest ++ todo)).length
  needs : Needs bcnt (contsOf cid (rest ++ todo)).length
  last : ∀ q ∈ todo.getLast?, q.cid = cid

theorem contsOf_cons {cid : Nat} (h : q.cid = cid ∧ q.IsContPkt) :
    contsOf cid (q :: ps) = q :: contsOf cid ps := by
  unfold contsOf
  rw [List.filter_cons, if_pos (decide_eq_true h)]

theorem contsOf_append (cid : Nat) (ps qs : List Packet) :
    contsOf cid (ps ++ qs) = contsOf cid ps ++ contsOf cid qs := List.filter_append ..

/-- Some packet of the message is still to come. -/
theorem Follows.pending {cid bcnt : Nat} {rest todo : List Packet}
    (h : Follows cid bcnt rest todo) (hne : todo ≠ []) : contsOf cid todo ≠ [] := by
  have hlast := h.last _ (List.getLast?_eq_some_getLast hne)
  have hmem := List.getLast_mem hne
  have hcont := h.conts _ hmem hlast
  exact List.ne_nil_of_mem (List.mem_filter.mpr ⟨hmem, decide_eq_true ⟨hlast, hcont⟩⟩)

theorem Follows.tail {cid bcnt : Nat} {rest todo : List Packet}
    (h : Follows cid bcnt rest (q :: todo)) : Follows cid bcnt (rest ++ [q]) todo := by
  have happend : rest ++ [q] ++ todo = rest ++ q :: todo := by
    rw [List.append_assoc, List.singleton_append]
  refine ⟨fun r hr => h.conts r (List.mem_cons_of_mem _ hr),
    fun r hr => h.foreign r (List.mem_cons_of_mem _ hr), ?_, ?_, fun r hr => ?_⟩
  · rw [happend]
    exact h.numbered
  · rw [happend]
    exact h.needs
  · refine h.last r ?_
    rw [List.getLast?_cons]
    cases htodo : todo.getLast? with
    | none =>
      rw [htodo] at hr
      cases hr
    | some r' =>
      rw [htodo] at hr
      exact hr

/-- The number of the next packet of the message. -/
theorem Follows.cmd_eq {cid bcnt : Nat} {rest todo : List Packet}
    (h : Follows cid bcnt rest (q :: todo)) (hown : q.cid = cid) :
    Packet.cmd q = (contsOf cid rest).length := by
  have hcont := h.conts q List.mem_cons_self hown
  have hconts : contsOf cid (rest ++ q :: todo) =
      contsOf cid rest ++ q :: contsOf cid todo := by
    rw [contsOf_append, contsOf_cons ⟨hown, hcont⟩]
  have hnumbered := h.numbered
  rw [hconts] at hnumbered
  have hget := congrArg (fun l => l[(contsOf cid rest).length]?) hnumbered
  rw [List.getElem?_map, List.getElem?_append_right (Nat.le_refl _), Nat.sub_self,
    List.getElem?_cons_zero, List.getElem?_range (by
      rw [List.length_append, List.length_cons]
      omega)] at hget
  exact Option.some.inj hget

/-- The message is complete when its packets carry enough. -/
theorem Assembly.buffering_iff {first : Packet} {rest : List Packet}
    (h : Assembly ps s first rest) : s.bufferStatus = .BUFFERING ↔
      CTAPHID_INIT_PAYLOAD_SIZE +
        CTAPHID_CONT_PAYLOAD_SIZE * (contsOf s.bufferCid rest).length < s.bufferBcnt := by
  have hoffset := h.offset
  have hpos : 0 < CTAPHID_INIT_PAYLOAD_SIZE := by decide
  unfold bufferStatus
  constructor
  · intro hstatus
    split at hstatus
    · cases hstatus
    · split at hstatus
      · cases hstatus
      · omega
  · intro hlt
    rw [if_neg (by omega), if_neg (by omega)]

theorem deliver_nil (s : Ctaphid) : s.deliver [] = s := rfl

theorem taken_of_not_buffering (h : s.bufferStatus ≠ .BUFFERING) :
    s.taken = { s with randNeeded := 0, processingPacket := true } := if_neg h

theorem taken_of_buffering (h : s.bufferStatus = .BUFFERING) : s.taken = s := if_pos h

/-- What is reached when the message is complete. -/
structure Complete (ps : List Packet) (s s' : Ctaphid) (first : Packet) (rest : List Packet) :
    Prop where
  request : s'.processingPacket = true
  fresh : s'.randNeeded = 0
  channel : s'.bufferCid = s.bufferCid
  assembly : Assembly ps s' first rest
  responses : ErrorsElsewhere s.bufferCid s s'

/-- The packets are all taken in: nothing is executed before the last of them. -/
def TakenIn (s : Ctaphid) (ps : List Packet) : Prop :=
  ∀ k < ps.length, (s.deliver (ps.take k)).processingPacket = false

theorem TakenIn.cons (harmed : s.processingPacket = false)
    (h : TakenIn (s.ctaphidHandlePacket q none) ps) : TakenIn s (q :: ps) := by
  intro k hk
  cases k with
  | zero => exact harmed
  | succ k => exact h k (Nat.lt_of_succ_lt_succ hk)

/-- **The packets that are still missing complete the message, whatever comes in between.** -/
theorem Collecting.deliver {first : Packet} {rest todo : List Packet}
    (h : Collecting ps s first rest) (hfollows : Follows s.bufferCid s.bufferBcnt rest todo)
    (hne : todo ≠ []) :
    Complete (ps ++ todo) s (s.deliver todo) first (rest ++ todo) ∧ TakenIn s todo := by
  induction todo generalizing ps rest s with
  | nil => exact absurd rfl hne
  | cons q todo ih =>
    have hdeliver : s.deliver (q :: todo) = (s.ctaphidHandlePacket q none).deliver todo := rfl
    have hps : ps ++ q :: todo = ps ++ [q] ++ todo := by
      rw [List.append_assoc, List.singleton_append]
    have hrest : rest ++ q :: todo = rest ++ [q] ++ todo := by
      rw [List.append_assoc, List.singleton_append]
    rw [hdeliver, hps, hrest]
    by_cases hown : q.cid = s.bufferCid
    · obtain ⟨cids, hstep, hknown, hassembly⟩ :=
        h.own hown (hfollows.conts q List.mem_cons_self hown) (hfollows.cmd_eq hown) (received s q)
      rw [hstep]
      by_cases htodo : todo = []
      · -- the last packet
        subst htodo
        have hfull : ({ s.continued q with cids } : Ctaphid).bufferStatus ≠ .BUFFERING := by
          intro hbuffering
          have hlt := hassembly.buffering_iff.mp hbuffering
          have hneeds := hfollows.needs.1
          change _ < s.bufferBcnt at hlt
          change _ + _ * (contsOf s.bufferCid (rest ++ [q])).length < _ at hlt
          omega
        rw [List.append_nil, List.append_nil]
        refine ⟨⟨?_, ?_, taken_cids.2, hassembly.taken h.armed, ?_⟩,
          .cons h.armed fun k hk => absurd hk (Nat.not_lt_zero k)⟩
        · rw [deliver_nil, taken_of_not_buffering hfull]
        · rw [deliver_nil, taken_of_not_buffering hfull]
        · rw [deliver_nil, taken_of_not_buffering hfull]
          exact .refl _ s
      · have hlt : CTAPHID_INIT_PAYLOAD_SIZE + CTAPHID_CONT_PAYLOAD_SIZE *
            (contsOf s.bufferCid (rest ++ [q])).length < s.bufferBcnt := by
          have htail := hfollows.tail
          have hpending := List.length_pos_of_ne_nil (htail.pending htodo)
          have hneeds := htail.needs.2
          rw [contsOf_append, List.length_append] at hneeds
          refine Nat.lt_of_le_of_lt ?_ (hneeds (by omega))
          exact Nat.add_le_add_left (Nat.mul_le_mul_left _ (by omega)) _
        have hbuffering := hassembly.buffering_iff.mpr hlt
        rw [taken_of_buffering hbuffering] at hstep ⊢
        have hcollecting : Collecting (ps ++ [q]) { s.continued q with cids } first
            (rest ++ [q]) := ⟨h.armed, hbuffering, hknown, h.channel, hassembly⟩
        obtain ⟨hcomplete, htaken⟩ := ih hcollecting hfollows.tail htodo
        refine ⟨⟨hcomplete.request, hcomplete.fresh, hcomplete.channel, hcomplete.assembly,
          hcomplete.responses⟩, .cons h.armed ?_⟩
        rw [hstep]
        exact htaken
    · obtain ⟨hcollecting, hcid, hbcnt, herrors⟩ :=
        h.foreign hown (hfollows.foreign q List.mem_cons_self hown) (received s q)
      have htodo : todo ≠ [] := by
        rintro rfl
        exact hown (hfollows.last q rfl)
      rw [← hcid, ← hbcnt] at hfollows
      obtain ⟨hcomplete, htaken⟩ := ih hcollecting hfollows.tail htodo
      exact ⟨⟨hcomplete.request, hcomplete.fresh, hcomplete.channel.trans hcid,
        hcomplete.assembly, herrors.trans (by rw [← hcid]; exact hcomplete.responses)⟩,
        .cons h.armed htaken⟩

/-- A message can be begun on the channel: nothing is being put together or executed, and the
    channel has an entry or can be given one. -/
structure Ready (s : Ctaphid) (cid : Nat) : Prop where
  armed : s.processingPacket = false
  idle : s.bufferStatus ≠ .BUFFERING
  channel : cid ≠ CTAPHID_BROADCAST_CID
  room : CidExists cid s.cids ∨ s.bufferStatus = .EMPTY ∧ busyChannels s.cids < CID_MAX - 1

theorem Ready.known {first : Packet} (h : Ready s first.cid) (hinv : HidInv m s)
    (hstarts : Starts first) : CidExists first.cid (s.openChannel first).cids := by
  unfold openChannel
  split
  · rename_i hopen
    rcases h.room with hknown | ⟨-, hfree⟩
    · exact absurd hknown hopen.1
    · obtain ⟨cids, hadd⟩ : ∃ cids, addCid first.cid s.cids = some cids :=
        addCid_isSome (Nat.le_of_eq hinv.table.symm) hfree
      rw [hadd]
      exact (entryAdded hadd).known
  · rename_i hopen
    rcases h.room with hknown | ⟨hempty, -⟩
    · exact hknown
    · by_contra hunknown
      exact hopen ⟨hunknown, hstarts.2, hempty⟩

/-- **The first packet of a message is taken.** -/
theorem Ready.first {first : Packet} (h : Ready s first.cid) (hinv : HidInv m s)
    (hstarts : Starts first) (hlen : first.ctaphidPacketLen ≤ CTAPHID_BUFFER_SIZE)
    (hr : Received s first s') :
    ∃ cids, s' = { (s.openChannel first).started first with cids }.taken ∧
      CidExists first.cid cids := by
  cases hr with
  | ignored hcont => exact absurd hcont hstarts.2
  | rejected hbad => exact absurd (hbad.2 hstarts.1) h.channel
  | noRoom hinit => exact absurd hinit hstarts.1
  | greeted hinit => exact absurd hinit hstarts.1
  | refused _ hwhy =>
    rcases hwhy with hbuffering | hlong | hunknown
    · exact absurd hbuffering h.idle
    · exact absurd hlen (Nat.not_le_of_lt hlong)
    · exact absurd (h.known hinv hstarts) hunknown
  | broken _ _ _ hwhy =>
    rcases hwhy with hwhy | hwhy
    · exact absurd hwhy.1 h.idle
    · exact absurd hwhy.1 hstarts.2
  | @started cids _ _ _ _ hknown =>
    exact ⟨cids, rfl, ((entrySet_refresh hknown).exists_iff _).mpr (h.known hinv hstarts)⟩
  | continued hcont => exact absurd hcont hstarts.2

theorem openChannel_sent : (s.openChannel p).sent = s.sent := by
  unfold openChannel
  split <;> rfl

/-- A message and the packets of other channels that come before its last one. -/
structure Stream (cid cmd : Nat) (payload : Bytes) (first : Packet) (rest : List Packet) :
    Prop where
  message : IsMessage cid cmd payload first (rest.filter fun q => q.cid = cid)
  needs : Needs payload.length (rest.filter fun q => q.cid = cid).length
  fits : payload.length ≤ CTAPHID_BUFFER_SIZE
  foreign : ∀ q ∈ rest, q.cid ≠ cid → ¬ q.IsInitPkt
  last : ∀ q ∈ rest.getLast?, q.cid = cid

/-- As many packets as a message that fits can need have numbers below 128. -/
theorem Stream.conts {cid cmd : Nat} {payload : Bytes} {first : Packet} {rest : List Packet}
    (h : Stream cid cmd payload first rest) : ∀ q ∈ rest, q.cid = cid → q.IsContPkt := by
  intro q hq hown
  have hmem : Packet.cmd q ∈ (rest.filter fun q => q.cid = cid).map Packet.cmd :=
    List.mem_map_of_mem (List.mem_filter.mpr ⟨hq, decide_eq_true hown⟩)
  rw [h.message.numbered, List.mem_range] at hmem
  have hneeds := h.needs.2
  have hfits := h.fits
  unfold Packet.IsContPkt
  simp only [CTAPHID_INIT_PAYLOAD_SIZE, CTAPHID_CONT_PAYLOAD_SIZE, HID_MESSAGE_SIZE,
    CTAPHID_BUFFER_SIZE, TYPE_INIT] at hneeds hfits ⊢
  omega

theorem Stream.contsOf_eq {cid cmd : Nat} {payload : Bytes} {first : Packet} {rest : List Packet}
    (h : Stream cid cmd payload first rest) :
    contsOf cid rest = rest.filter fun q => q.cid = cid := by
  refine List.filter_congr fun q hq => ?_
  rw [decide_eq_decide]
  exact ⟨fun hboth => hboth.1, fun hown => ⟨hown, h.conts q hq hown⟩⟩

theorem Stream.follows {cid cmd : Nat} {payload : Bytes} {first : Packet} {rest : List Packet}
    (h : Stream cid cmd payload first rest) : Follows cid payload.length [] rest := by
  refine ⟨h.conts, h.foreign, ?_, ?_, h.last⟩
  · rw [List.nil_append, h.contsOf_eq]
    exact h.message.numbered
  · rw [List.nil_append, h.contsOf_eq]
    exact h.needs

/-- The whole message is taken in. -/
theorem Stream.complete {cid cmd : Nat} {payload : Bytes} {first : Packet} {rest : List Packet}
    (h : Stream cid cmd payload first rest) (hinv : HidInv m s) (hready : Ready s cid) :
    (∃ t : Ctaphid, t.bufferCid = cid ∧ t.sent = s.sent ∧
      Complete (first :: rest) t (s.deliver (first :: rest)) first rest) ∧
      TakenIn s (first :: rest) := by
  obtain rfl : first.cid = cid := h.message.channel first List.mem_cons_self
  have hlen : first.ctaphidPacketLen ≤ CTAPHID_BUFFER_SIZE := by
    rw [h.message.len]
    exact h.fits
  obtain ⟨cids, hstep, hknown⟩ :=
    hready.first hinv h.message.starts hlen (received s first)
  have harmed := openChannel_processing (p := first) hready.armed
  have hassembly : Assembly [first] { (s.openChannel first).started first with cids } first [] :=
    @Assembly.started (s.openChannel first) first [] h.message.starts cids
  have hdeliver : s.deliver (first :: rest) =
      { (s.openChannel first).started first with cids }.taken.deliver rest := by
    rw [← hstep]
    rfl
  have hneeds := h.follows.needs
  rw [List.nil_append, ← h.message.len] at hneeds
  by_cases hrest : rest = []
  · subst hrest
    have hfull : ({ (s.openChannel first).started first with cids } : Ctaphid).bufferStatus ≠
        .BUFFERING := fun hbuffering =>
      absurd hneeds.1 (Nat.not_le_of_lt (hassembly.buffering_iff.mp hbuffering))
    rw [hdeliver]
    refine ⟨⟨{ (s.openChannel first).started first with cids }, rfl, openChannel_sent, ?_⟩,
      .cons hready.armed fun k hk => absurd hk (Nat.not_lt_zero k)⟩
    refine ⟨?_, ?_, taken_cids.2, hassembly.taken harmed, ?_⟩
    · rw [deliver_nil, taken_of_not_buffering hfull]
    · rw [deliver_nil, taken_of_not_buffering hfull]
    · rw [deliver_nil, taken_of_not_buffering hfull]
      exact .refl _ _
  · have hpending := List.length_pos_of_ne_nil (h.follows.pending hrest)
    have hbuffering : ({ (s.openChannel first).started first with cids } : Ctaphid).bufferStatus =
        .BUFFERING := by
      refine hassembly.buffering_iff.mpr (Nat.lt_of_le_of_lt ?_ (hneeds.2 hpending))
      exact Nat.add_le_add_left (Nat.mul_le_mul_left _ (Nat.zero_le _)) _
    have hcollecting : Collecting [first] { (s.openChannel first).started first with cids } first
        [] := ⟨harmed, hbuffering, hknown, hready.channel, hassembly⟩
    have hfollows := h.follows
    rw [← h.message.len] at hfollows
    rw [taken_of_buffering hbuffering] at hstep hdeliver
    obtain ⟨hcomplete, htaken⟩ := hcollecting.deliver hfollows hrest
    rw [hdeliver]
    refine ⟨⟨{ (s.openChannel first).started first with cids }, rfl, openChannel_sent, hcomplete⟩,
      .cons hready.armed ?_⟩
    rw [hstep]
    exact htaken

/-- What the layer has when it has taken in a message: the request, and for the other channels
    errors of their own. -/
structure Executes (s s' : Ctaphid) (cid cmd : Nat) (payload : Bytes) : Prop where
  request : s'.processingPacket = true
  status : s'.bufferStatus ≠ .BUFFERING
  channel : s'.bufferCid = cid
  cmd : s'.bufferCmd = cmd
  payload : s'.message = payload
  responses : ErrorsElsewhere cid s s'

theorem Stream.executes {cid cmd : Nat} {payload : Bytes} {first : Packet} {rest : List Packet}
    (h : Stream cid cmd payload first rest) (hinv : HidInv m s) (hready : Ready s cid) :
    TakenIn s (first :: rest) ∧
      Executes s (s.deliver (first :: rest)) cid cmd payload := by
  obtain ⟨⟨t, hcid, hsent, hcomplete⟩, htaken⟩ := h.complete hinv hready
  refine ⟨htaken, ?_⟩
  generalize s.deliver (first :: rest) = s' at hcomplete ⊢
  have hassembly := hcomplete.assembly
  have hchannel := hcomplete.channel.trans hcid
  have hbcnt : s'.bufferBcnt = payload.length := hassembly.len.symm.trans h.message.len
  have hneeds := h.follows.needs.1
  rw [List.nil_append] at hneeds
  have hoffset : s'.bufferOffset = payload.length := by
    rw [hassembly.offset, hchannel, hbcnt, Nat.min_eq_left hneeds]
  have hcontent := hassembly.content fun _ _ => hcomplete.fresh
  rw [hoffset, hchannel, h.contsOf_eq, h.message.payload] at hcontent
  have herrors := hcomplete.responses
  unfold ErrorsElsewhere at herrors
  rw [hcid, hsent] at herrors
  refine ⟨hcomplete.request, fun hbuffering => ?_, hchannel,
    hassembly.cmd.symm.trans h.message.cmd, ?_, herrors⟩
  · have hlt := hassembly.buffering_iff.mp hbuffering
    rw [hchannel, hbcnt] at hlt
    exact absurd hneeds (Nat.not_le_of_lt hlt)
  · unfold Ctaphid.message
    rw [hbcnt]
    exact hcontent

end Ctaphid

end SignetBase.FirmwareHc
