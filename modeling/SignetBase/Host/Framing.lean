/-
  SignetBase/Host/Framing.lean
  ============================
  **A command on its way to the device: the host's `signetdev_priv_prepare_message_state`
  and `signetdev_priv_advance_message_state`, the device's `usb_raw_hid_rx`.**

  The host cuts a message into packets that carry their number in seven bits, the
  device puts each where its number says.  The host's limits are those of the larger
  device, the device's buffer is made for its own blocks: `command_framed` says which
  messages arrive.
-/
import SignetBase.Host.Responses

namespace SignetBase

variable (d : Device)

/-! ### The host -/

/-- The byte a command is sent as. -/
def Command.code : Command → UInt8
  | .unknown code => code
  | c => UInt8.ofNat c.ctorIdx

/-- `struct tx_message_state`. -/
structure TxMessageState where
  msgBuf : Mem
  packetBuf : Mem
  msgSize : Nat
  msgPacketSeq : Nat
  msgPacketCount : Nat
  message : Option SendMessageReq

/-- The bytes of the header that the host writes; the sixth it leaves as it is. -/
def messageHeader (msgSize : Nat) (devCmd : Command) (messagesRemaining : Nat) : Bytes :=
  Mem.bytes16 msgSize ++ [devCmd.code] ++ Mem.bytes16 messagesRemaining

/-- `signetdev_priv_prepare_message_state`. -/
def prepareMessageState (devCmd : Command) (messagesRemaining : Nat) (payload : Bytes)
    (msg : TxMessageState) : TxMessageState :=
  let msgSize := payload.length + CMD_PACKET_HEADER_SIZE
  { msg with
    msgSize
    msgBuf := (msg.msgBuf.write 0 (messageHeader msgSize devCmd messagesRemaining)).write
      CMD_PACKET_HEADER_SIZE payload
    msgPacketSeq := 0
    msgPacketCount := (msgSize + d.hidLink.rawHidPayloadSize - 1) / d.hidLink.rawHidPayloadSize }

/-- `signetdev_priv_advance_message_state`.  The first byte of `packet_buf` is the number
    of the report. -/
def advanceMessageState (msg : TxMessageState) : TxMessageState :=
  { msg with
    packetBuf := (msg.packetBuf.write 0 [0, txHeader msg.msgPacketSeq msg.msgPacketCount]).copy
      (1 + RAW_HID_HEADER_SIZE) msg.msgBuf (d.hidLink.rawHidPayloadSize * msg.msgPacketSeq)
      d.hidLink.rawHidPayloadSize
    msgPacketSeq := msg.msgPacketSeq + 1 }

/-- The message state after `k` packets. -/
def advanced (msg : TxMessageState) (k : Nat) : TxMessageState := (advanceMessageState d)^[k] msg

/-- The packets of a message, without the number of the report. -/
def messagePackets (msg : TxMessageState) : List Mem :=
  (List.range msg.msgPacketCount).map fun k => (advanced d msg (k + 1)).packetBuf.window 1

/-- `signetdev_write_flash`: the payload, or nothing for `SIGNET_ERROR_OVERFLOW`. -/
def signetdevWriteFlash (addr : Nat) (data : Bytes) : Option (Command × Nat × Bytes) :=
  if 4 + data.length ≥ MAX_CMD_PACKET_PAYLOAD_SIZE then none
  else some (.writeFlash, 0, Mem.bytes32 addr ++ data)

/-! ### The device -/

/-- `cmd_packet_buf`, its contents at each call of `cmd_packet_recv`, and the number of
    packets that were found to exceed it. -/
structure RawHidRx where
  cmdPacketBuf : Mem
  received : List Mem
  rejected : Nat

/-- `usb_raw_hid_rx`.  Signet HC takes in a packet that exceeds the buffer all the same. -/
def usbRawHidRx (r : RawHidRx) (data : Mem) : RawHidRx :=
  let index := packetSeq data * d.hidLink.rawHidPayloadSize
  let exceeds := index + d.hidLink.rawHidPayloadSize > d.hidLink.cmdPacketBufSize
  let rejected := if exceeds then r.rejected + 1 else r.rejected
  if exceeds ∧ d = .signet then { r with rejected }
  else
    let buf := r.cmdPacketBuf.copy index data RAW_HID_HEADER_SIZE d.hidLink.rawHidPayloadSize
    { cmdPacketBuf := buf
      received := if packetLast data then r.received ++ [buf] else r.received
      rejected }

/-- The device after the packets. -/
def rawHidRxAll (r : RawHidRx) (packets : List Mem) : RawHidRx := packets.foldl (usbRawHidRx d) r

/-! ### Framing -/

/-- A buffer starts with the header and the payload of a message. -/
structure StartsWith (buf : Mem) (devCmd : Command) (messagesRemaining : Nat) (payload : Bytes) :
    Prop where
  header : buf.read 0 5 =
    messageHeader (payload.length + CMD_PACKET_HEADER_SIZE) devCmd messagesRemaining
  payload : buf.read CMD_PACKET_HEADER_SIZE payload.length = payload

/-- The packets of a message arrive as this message, whatever the buffers held before. -/
structure Framed (devCmd : Command) (messagesRemaining : Nat) (payload : Bytes)
    (msg : TxMessageState) (r : RawHidRx) (packets : List Mem) : Prop where
  number : ∀ (k : Nat) (hk : k < packets.length), packetSeq packets[k] = k
  accepted : (rawHidRxAll d r packets).rejected = r.rejected
  before : ∀ k < packets.length, (rawHidRxAll d r (packets.take k)).received = r.received
  once : (rawHidRxAll d r packets).received = r.received ++ [(rawHidRxAll d r packets).cmdPacketBuf]
  message : StartsWith (rawHidRxAll d r packets).cmdPacketBuf devCmd messagesRemaining payload

/-- A message arrives, whatever was sent and received before. -/
def Arrives (devCmd : Command) (messagesRemaining : Nat) (payload : Bytes) : Prop :=
  ∀ (msg : TxMessageState) (r : RawHidRx), Framed d devCmd messagesRemaining payload msg r
    (messagePackets d (prepareMessageState d devCmd messagesRemaining payload msg))

/-- The packets that the device has room for. -/
def MAX_MESSAGE_PACKETS : Nat := 33

variable {d} {msg : TxMessageState} {r : RawHidRx}

/-- The number and the mark of the last packet do not get in each other's way. -/
theorem txHeader_toNat : ∀ k < 128, ∀ last : Bool,
    (UInt8.ofNat ((if last = true then 128 else 0) ||| k)).toNat % 128 = k ∧
      (UInt8.ofNat ((if last = true then 128 else 0) ||| k)).toNat / 128 = last.toNat := by
  decide

theorem packetSeq_of_header {pkt : Mem} {k n : Nat} (hk : k < 128) (h : pkt 0 = txHeader k n) :
    packetSeq pkt = k := by
  have hbits := (txHeader_toNat k hk (decide (k + 1 = n))).1
  unfold packetSeq
  rw [h]
  unfold txHeader
  simpa using hbits

theorem packetLast_of_header {pkt : Mem} {k n : Nat} (hk : k < 128) (h : pkt 0 = txHeader k n) :
    packetLast pkt = decide (k + 1 = n) := by
  have hbits := (txHeader_toNat k hk (decide (k + 1 = n))).2
  unfold packetLast
  rw [h]
  unfold txHeader
  by_cases hn : k + 1 = n
  · simp [hn] at hbits ⊢
    exact hbits
  · simp [hn] at hbits ⊢
    omega

/-! ### The packets of a message -/

theorem advanced_frame (msg : TxMessageState) (k : Nat) :
    (advanced d msg k).msgBuf = msg.msgBuf ∧
      (advanced d msg k).msgPacketSeq = msg.msgPacketSeq + k ∧
      (advanced d msg k).msgPacketCount = msg.msgPacketCount := by
  induction k with
  | zero => exact ⟨rfl, rfl, rfl⟩
  | succ k ih =>
    obtain ⟨hbuf, hseq, hcount⟩ := ih
    unfold advanced at hbuf hseq hcount ⊢
    rw [Function.iterate_succ_apply']
    exact ⟨hbuf, congrArg (· + 1) hseq, hcount⟩

theorem rawHidPacketSize_eq : d.hidLink.rawHidPayloadSize + 1 = d.hidLink.rawHidPacketSize := by
  cases d <;> rfl

/-- Packet `k` is its number and a slice of the message. -/
theorem messagePacket_apply (msg : TxMessageState) (hseq : msg.msgPacketSeq = 0) (k : Nat) :
    (advanced d msg (k + 1)).packetBuf.window 1 0 = txHeader k msg.msgPacketCount ∧
      ∀ i < d.hidLink.rawHidPayloadSize,
        (advanced d msg (k + 1)).packetBuf.window 1 (RAW_HID_HEADER_SIZE + i) =
          msg.msgBuf (d.hidLink.rawHidPayloadSize * k + i) := by
  obtain ⟨hbuf, hk, hcount⟩ := advanced_frame (d := d) msg k
  rw [hseq, Nat.zero_add] at hk
  have hstep : advanced d msg (k + 1) = advanceMessageState d (advanced d msg k) := by
    unfold advanced
    rw [Function.iterate_succ_apply']
  rw [hstep]
  unfold advanceMessageState
  simp only [Mem.window_apply, hbuf, hk, hcount]
  refine ⟨?_, ?_⟩
  · rw [Mem.copy_apply_of_notMem _ _ (.inl (by decide)),
      Mem.write_apply_of_mem _ (by decide) (by simp)]
    rfl
  · intro i hi
    unfold RAW_HID_HEADER_SIZE
    rw [Mem.copy_apply_of_mem _ _ (by omega) (by omega)]
    congr 1
    omega

theorem length_messagePackets (msg : TxMessageState) :
    (messagePackets d msg).length = msg.msgPacketCount := by
  unfold messagePackets
  rw [List.length_map, List.length_range]

theorem getElem_messagePackets (msg : TxMessageState) {k : Nat}
    (hk : k < (messagePackets d msg).length) :
    (messagePackets d msg)[k] = (advanced d msg (k + 1)).packetBuf.window 1 := by
  simp [messagePackets]

theorem take_messagePackets (msg : TxMessageState) {k : Nat} (hk : k < msg.msgPacketCount) :
    (messagePackets d msg).take (k + 1) =
      (messagePackets d msg).take k ++ [(advanced d msg (k + 1)).packetBuf.window 1] := by
  have hlen : k < (messagePackets d msg).length := by
    rw [length_messagePackets]
    exact hk
  rw [List.take_succ_eq_append_getElem hlen, getElem_messagePackets]

/-! ### The device takes them in -/

theorem fits_iff {k : Nat} :
    k * d.hidLink.rawHidPayloadSize + d.hidLink.rawHidPayloadSize ≤ d.hidLink.cmdPacketBufSize ↔
      k < MAX_MESSAGE_PACKETS := by
  cases d
  · change k * 63 + 63 ≤ 2123 ↔ k < 33
    omega
  · change k * 511 + 511 ≤ 16907 ↔ k < 33
    omega

/-- A packet that fits is put in its place. -/
theorem usbRawHidRx_fits (r : RawHidRx) {pkt : Mem} (h : packetSeq pkt < MAX_MESSAGE_PACKETS) :
    usbRawHidRx d r pkt =
      { cmdPacketBuf := r.cmdPacketBuf.copy (packetSeq pkt * d.hidLink.rawHidPayloadSize) pkt
          RAW_HID_HEADER_SIZE d.hidLink.rawHidPayloadSize
        received := if packetLast pkt then r.received ++ [r.cmdPacketBuf.copy
          (packetSeq pkt * d.hidLink.rawHidPayloadSize) pkt RAW_HID_HEADER_SIZE
          d.hidLink.rawHidPayloadSize] else r.received
        rejected := r.rejected } := by
  have hnot : ¬ packetSeq pkt * d.hidLink.rawHidPayloadSize + d.hidLink.rawHidPayloadSize >
      d.hidLink.cmdPacketBufSize := Nat.not_lt.mpr (fits_iff.mpr h)
  unfold usbRawHidRx
  dsimp only
  rw [if_neg (fun h => hnot h.1), if_neg hnot]

/-- The device after `k` packets: what they carry is in the buffer, and nothing was
    received unless `k` is all of them. -/
structure TakenIn (msg : TxMessageState) (r : RawHidRx) (k : Nat) (r' : RawHidRx) : Prop where
  buf : ∀ a < k * d.hidLink.rawHidPayloadSize, r'.cmdPacketBuf a = msg.msgBuf a
  rejected : r'.rejected = r.rejected
  received : r'.received =
    if k = msg.msgPacketCount ∧ 0 < k then r.received ++ [r'.cmdPacketBuf] else r.received

theorem takenIn (msg : TxMessageState) (hseq : msg.msgPacketSeq = 0)
    (hfits : msg.msgPacketCount ≤ MAX_MESSAGE_PACKETS) (r : RawHidRx) {k : Nat}
    (hk : k ≤ msg.msgPacketCount) :
    TakenIn (d := d) msg r k (rawHidRxAll d r ((messagePackets d msg).take k)) := by
  induction k with
  | zero =>
    refine ⟨?_, rfl, ?_⟩
    · intro a ha
      rw [Nat.zero_mul] at ha
      exact absurd ha (Nat.not_lt_zero a)
    · rw [if_neg (fun h => Nat.lt_irrefl 0 h.2)]
      rfl
  | succ k ih =>
    obtain ⟨hbuf, hrej, hrec⟩ := ih (Nat.le_of_succ_le hk)
    obtain ⟨hhead, hbody⟩ := messagePacket_apply (d := d) msg hseq k
    have hsmall : k < 128 := Nat.lt_of_lt_of_le hk (Nat.le_trans hfits (by decide))
    have hnum := packetSeq_of_header hsmall hhead
    have hlast := packetLast_of_header hsmall hhead
    have hrun : rawHidRxAll d r ((messagePackets d msg).take (k + 1)) =
        usbRawHidRx d (rawHidRxAll d r ((messagePackets d msg).take k))
          ((advanced d msg (k + 1)).packetBuf.window 1) := by
      unfold rawHidRxAll
      rw [take_messagePackets msg hk, List.foldl_append]
      rfl
    rw [hrun, usbRawHidRx_fits _ (by rw [hnum]; exact Nat.lt_of_lt_of_le hk hfits), hnum, hlast]
    refine ⟨?_, hrej, ?_⟩
    · intro a ha
      rw [Nat.succ_mul] at ha
      by_cases hmem : k * d.hidLink.rawHidPayloadSize ≤ a
      · dsimp only
        rw [Mem.copy_apply_of_mem _ _ hmem (by omega), hbody _ (by omega)]
        congr 1
        rw [Nat.mul_comm]
        omega
      · dsimp only
        rw [Mem.copy_apply_of_notMem _ _ (.inl (by omega))]
        exact hbuf a (by omega)
    · have hnot : ¬ (k = msg.msgPacketCount ∧ 0 < k) := by omega
      rw [if_neg hnot] at hrec
      dsimp only
      rw [hrec]
      by_cases hall : k + 1 = msg.msgPacketCount
      · rw [if_pos (decide_eq_true hall), if_pos ⟨hall, Nat.succ_pos k⟩]
      · rw [if_neg (by simpa using hall), if_neg (fun h => hall h.1)]

/-! ### Which messages arrive -/

/-- The packets that a message of `n` bytes takes. -/
theorem packetCount_le_iff (n : Nat) :
    (n + d.hidLink.rawHidPayloadSize - 1) / d.hidLink.rawHidPayloadSize ≤ MAX_MESSAGE_PACKETS ↔
      n ≤ MAX_MESSAGE_PACKETS * d.hidLink.rawHidPayloadSize := by
  cases d
  · change (n + 63 - 1) / 63 ≤ 33 ↔ n ≤ 33 * 63
    omega
  · change (n + 511 - 1) / 511 ≤ 33 ↔ n ≤ 33 * 511
    omega

theorem packetCount_pos {n : Nat} (hn : 0 < n) :
    0 < (n + d.hidLink.rawHidPayloadSize - 1) / d.hidLink.rawHidPayloadSize := by
  have hpos := d.hidLink.header_lt
  exact Nat.div_pos (by omega) (by omega)

theorem le_packetCount_mul (n : Nat) :
    n ≤ (n + d.hidLink.rawHidPayloadSize - 1) / d.hidLink.rawHidPayloadSize *
      d.hidLink.rawHidPayloadSize := by
  cases d
  · change n ≤ (n + 63 - 1) / 63 * 63
    omega
  · change n ≤ (n + 511 - 1) / 511 * 511
    omega

/-- The buffer of the host starts with the message. -/
theorem startsWith_prepared (devCmd : Command) (messagesRemaining : Nat) (payload : Bytes)
    (msg : TxMessageState) :
    StartsWith (prepareMessageState d devCmd messagesRemaining payload msg).msgBuf devCmd
      messagesRemaining payload := by
  refine ⟨?_, ?_⟩
  · change ((msg.msgBuf.write 0 _).write CMD_PACKET_HEADER_SIZE payload).read 0 5 = _
    rw [Mem.read_write_disjoint _ (.inl (by decide))]
    exact Mem.read_write _ _ _ _ rfl
  · exact Mem.read_write _ _ _ _ rfl

theorem StartsWith.congr {buf buf' : Mem} {devCmd : Command} {messagesRemaining : Nat}
    {payload : Bytes} (h : StartsWith buf devCmd messagesRemaining payload)
    (heq : ∀ a < payload.length + CMD_PACKET_HEADER_SIZE, buf' a = buf a) :
    StartsWith buf' devCmd messagesRemaining payload := by
  refine ⟨Eq.trans ?_ h.header, Eq.trans ?_ h.payload⟩
  · apply Mem.read_congr
    intro i hi
    apply heq
    unfold CMD_PACKET_HEADER_SIZE
    omega
  · apply Mem.read_congr
    intro i hi
    apply heq
    omega

/-- A message of few enough packets arrives. -/
theorem arrives_of_le {devCmd : Command} {messagesRemaining : Nat} {payload : Bytes}
    (hle : payload.length + CMD_PACKET_HEADER_SIZE ≤
      MAX_MESSAGE_PACKETS * d.hidLink.rawHidPayloadSize) :
    Arrives d devCmd messagesRemaining payload := by
  intro msg r
  have hstart := startsWith_prepared (d := d) devCmd messagesRemaining payload msg
  have hcount : (prepareMessageState d devCmd messagesRemaining payload msg).msgPacketCount =
      (payload.length + CMD_PACKET_HEADER_SIZE + d.hidLink.rawHidPayloadSize - 1) /
        d.hidLink.rawHidPayloadSize := rfl
  have hseq : (prepareMessageState d devCmd messagesRemaining payload msg).msgPacketSeq = 0 := rfl
  generalize prepareMessageState d devCmd messagesRemaining payload msg = m at hstart hcount hseq ⊢
  have hfits : m.msgPacketCount ≤ MAX_MESSAGE_PACKETS := by
    rw [hcount]
    exact (packetCount_le_iff _).mpr hle
  have hpos : 0 < m.msgPacketCount := by
    rw [hcount]
    exact packetCount_pos (Nat.add_pos_right _ (by decide))
  have hlen := length_messagePackets (d := d) m
  obtain ⟨hbuf, hrej, hrec⟩ := takenIn (d := d) m hseq hfits r (Nat.le_refl _)
  rw [List.take_of_length_le (Nat.le_of_eq hlen)] at hbuf hrej hrec
  rw [if_pos ⟨rfl, hpos⟩] at hrec
  refine ⟨?_, hrej, ?_, hrec, hstart.congr ?_⟩
  · intro k hk
    rw [getElem_messagePackets]
    rw [hlen] at hk
    exact packetSeq_of_header (Nat.lt_of_lt_of_le hk (Nat.le_trans hfits (by decide)))
      (messagePacket_apply m hseq k).1
  · intro k hk
    rw [hlen] at hk
    have hbefore := (takenIn (d := d) m hseq hfits r (Nat.le_of_lt hk)).received
    rw [if_neg (fun h => Nat.ne_of_lt hk h.1)] at hbefore
    exact hbefore
  · intro a ha
    refine hbuf a (Nat.lt_of_lt_of_le ha ?_)
    rw [hcount]
    exact le_packetCount_mul _

theorem rejected_usbRawHidRx (r : RawHidRx) (pkt : Mem) :
    (usbRawHidRx d r pkt).rejected =
      if packetSeq pkt < MAX_MESSAGE_PACKETS then r.rejected else r.rejected + 1 := by
  have hfits := fits_iff (d := d) (k := packetSeq pkt)
  unfold usbRawHidRx
  dsimp only
  by_cases h : packetSeq pkt < MAX_MESSAGE_PACKETS
  · have hnot := Nat.not_lt.mpr (hfits.mpr h)
    rw [if_pos h, if_neg (fun h => hnot h.1), if_neg hnot]
  · have hexceeds := Nat.lt_of_not_le fun hle => h (hfits.mp hle)
    rw [if_neg h, if_pos hexceeds]
    split <;> rfl

/-- A packet that was rejected stays counted. -/
theorem rejected_mono (r : RawHidRx) (packets : List Mem) :
    r.rejected ≤ (rawHidRxAll d r packets).rejected := by
  induction packets generalizing r with
  | nil => exact Nat.le_refl _
  | cons pkt packets ih =>
    refine Nat.le_trans ?_ (ih (usbRawHidRx d r pkt))
    rw [rejected_usbRawHidRx]
    split
    · exact Nat.le_refl _
    · exact Nat.le_succ _

theorem rejected_of_exceeds (r : RawHidRx) {pkt : Mem} (h : MAX_MESSAGE_PACKETS ≤ packetSeq pkt) :
    (usbRawHidRx d r pkt).rejected = r.rejected + 1 := by
  rw [rejected_usbRawHidRx, if_neg (Nat.not_lt.mpr h)]

/-- A message of more packets does not: the first one too many is rejected. -/
theorem not_arrives {devCmd : Command} {messagesRemaining : Nat} {payload : Bytes}
    (hgt : MAX_MESSAGE_PACKETS * d.hidLink.rawHidPayloadSize <
      payload.length + CMD_PACKET_HEADER_SIZE) :
    ¬ Arrives d devCmd messagesRemaining payload := by
  intro h
  obtain ⟨hnumber, haccepted, -, -, -⟩ := h ⟨fun _ => 0, fun _ => 0, 0, 0, 0, none⟩ ⟨fun _ => 0, [], 0⟩
  generalize hm : prepareMessageState d devCmd messagesRemaining payload _ = m at hnumber haccepted
  have hcount : MAX_MESSAGE_PACKETS < (messagePackets d m).length := by
    rw [length_messagePackets, ← hm]
    exact Nat.lt_of_not_le fun hle =>
      Nat.lt_irrefl _ (Nat.lt_of_lt_of_le hgt ((packetCount_le_iff _).mp hle))
  have hseq := hnumber _ hcount
  have hsplit := List.take_append_drop MAX_MESSAGE_PACKETS (messagePackets d m)
  rw [List.drop_eq_getElem_cons hcount] at hsplit
  rw [← hsplit] at haccepted
  unfold rawHidRxAll at haccepted
  rw [List.foldl_append, List.foldl_cons] at haccepted
  have hbefore := rejected_mono (d := d) ⟨fun _ => 0, [], 0⟩
    ((messagePackets d m).take MAX_MESSAGE_PACKETS)
  have hafter := rejected_mono (d := d) (usbRawHidRx d (rawHidRxAll d ⟨fun _ => 0, [], 0⟩
    ((messagePackets d m).take MAX_MESSAGE_PACKETS)) (messagePackets d m)[MAX_MESSAGE_PACKETS])
    ((messagePackets d m).drop (MAX_MESSAGE_PACKETS + 1))
  rw [rejected_of_exceeds _ (Nat.le_of_eq hseq.symm)] at hafter
  unfold rawHidRxAll at hbefore hafter
  omega

/-- `signetdev_write_flash` accepts more data than the original device has room for. -/
theorem long_write_rejected :
    signetdevWriteFlash 0 (List.replicate 2070 0) =
        some (.writeFlash, 0, Mem.bytes32 0 ++ List.replicate 2070 0) ∧
      ¬ Arrives .signet .writeFlash 0 (Mem.bytes32 0 ++ List.replicate 2070 0) := by
  have hlen : (Mem.bytes32 0 ++ List.replicate 2070 (0 : UInt8)).length = 2074 := by
    rw [List.length_append, List.length_replicate]
    rfl
  refine ⟨?_, not_arrives ?_⟩
  · unfold signetdevWriteFlash
    rw [List.length_replicate, if_neg (by decide)]
  · rw [hlen]
    decide

/-- **A message arrives exactly when it takes no more than thirty-three packets**: for
    every command and every payload, whatever the buffers held before. -/
theorem command_framed (d : Device) (devCmd : Command) (messagesRemaining : Nat) (payload : Bytes) :
    Arrives d devCmd messagesRemaining payload ↔
      payload.length + CMD_PACKET_HEADER_SIZE ≤
        MAX_MESSAGE_PACKETS * d.hidLink.rawHidPayloadSize := by
  constructor
  · intro h
    by_contra hgt
    exact not_arrives (Nat.lt_of_not_le hgt) h
  · exact arrives_of_le

end SignetBase
