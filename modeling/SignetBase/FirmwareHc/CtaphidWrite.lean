/-
  SignetBase/FirmwareHc/CtaphidWrite.lean
  =======================================
  **How CTAPHID responses are cut into packets (`ctaphid_write`).**

  `ctaphid_write` is a byte-by-byte writer that opens a packet when it has a byte for it and
  writes the packet out when it is full; a call without data writes out what is left.  The
  packets of a response do not depend on how its bytes were handed over: they are the frames
  of the payload (`frames`), which carry it whole and count their sequence numbers up.
-/
import SignetBase.FirmwareHc.TxRing

namespace SignetBase.FirmwareHc

/-! ### The code -/

def CTAPHID_BUFFER_SIZE : Nat := 7609
def CTAP_RESPONSE_BUFFER_SIZE : Nat := 4096
def CTAPHID_INIT_PAYLOAD_SIZE : Nat := HID_MESSAGE_SIZE - 7
def CTAPHID_CONT_PAYLOAD_SIZE : Nat := HID_MESSAGE_SIZE - 5
def TYPE_INIT : Nat := 0x80
def CTAPHID_PING : Nat := TYPE_INIT + 0x01

/-- `CTAPHID_WRITE_BUFFER`. -/
structure WriteBuffer where
  buf : Mem
  cmd : Nat
  cid : Nat
  bcnt : Nat
  offset : Nat
  bytesWritten : Nat
  seq : UInt8

namespace WriteBuffer

/-- The buffer after `ctaphid_write_buffer_init` and the stores of the caller. -/
def init (cid cmd bcnt : Nat) : WriteBuffer :=
  { buf := fun _ => 0, cmd, cid, bcnt, offset := 0, bytesWritten := 0, seq := 0 }

/-- The channel and, in the first packet, command and length, else the sequence number. -/
def openInit (wb : WriteBuffer) : WriteBuffer :=
  let buf := wb.buf.write 0 (Mem.bytes32 wb.cid)
  let buf := buf.write 4 [UInt8.ofNat wb.cmd]
  let buf := buf.write 5 [UInt8.ofNat (wb.bcnt / 256)]
  let buf := buf.write 6 [UInt8.ofNat wb.bcnt]
  { wb with buf, offset := wb.offset + 4 + 3 }

def openCont (wb : WriteBuffer) : WriteBuffer :=
  let buf := wb.buf.write 0 (Mem.bytes32 wb.cid)
  let buf := buf.write 4 [wb.seq]
  { wb with buf, seq := wb.seq + 1, offset := wb.offset + 4 + 1 }

/-- One round of the loop: the buffer and the packets that are written out. -/
def writeByte (wb : WriteBuffer) (b : UInt8) : WriteBuffer × List Packet :=
  let wb :=
    if wb.offset = 0 then
      if wb.bytesWritten = 0 then wb.openInit else wb.openCont
    else wb
  let wb := { wb with
    buf := wb.buf.write wb.offset [b]
    offset := wb.offset + 1
    bytesWritten := wb.bytesWritten + 1 }
  if wb.offset = HID_MESSAGE_SIZE then ({ wb with offset := 0 }, [packetAt wb.buf 0])
  else (wb, [])

/-- `ctaphid_write` with data. -/
def ctaphidWrite (wb : WriteBuffer) : Bytes → WriteBuffer × List Packet
  | [] => (wb, [])
  | b :: data =>
    let first := wb.writeByte b
    let rest := ctaphidWrite first.1 data
    (rest.1, first.2 ++ rest.2)

/-- `ctaphid_write` without data: what is left is filled up and written out. -/
def ctaphidFlush (wb : WriteBuffer) : List Packet :=
  let wb := if wb.offset = 0 ∧ wb.bytesWritten = 0 then wb.openInit else wb
  if wb.offset > 0 then
    [packetAt (wb.buf.fill wb.offset (HID_MESSAGE_SIZE - wb.offset) 0) 0]
  else []

/-- A response handed over in pieces. -/
def respond (wb : WriteBuffer) : List Bytes → List Packet
  | [] => wb.ctaphidFlush
  | data :: pieces =>
    let written := wb.ctaphidWrite data
    written.2 ++ respond written.1 pieces

end WriteBuffer

/-- A response of the CTAPHID layer: the channel, the command, the length it announces and the
    pieces that are written. -/
structure HidResponse where
  cid : Nat
  cmd : Nat
  bcnt : Nat
  pieces : List Bytes

namespace HidResponse

def packets (r : HidResponse) : List Packet :=
  (WriteBuffer.init r.cid r.cmd r.bcnt).respond r.pieces

/-- The echo of a PING. -/
def ping (cid : Nat) (data : Bytes) : HidResponse := ⟨cid, CTAPHID_PING, data.length, [data]⟩

def payload (r : HidResponse) : Bytes := r.pieces.flatten

end HidResponse

/-! ### Frames -/

/-- A packet with the bytes, filled up with zeros. -/
def padded (b : Bytes) : Packet :=
  ⟨(b ++ List.replicate HID_MESSAGE_SIZE 0).take HID_MESSAGE_SIZE, by
    rw [List.length_take, List.length_append, List.length_replicate]
    omega⟩

/-- What stands before the payload of the first packet and of a later one. -/
def initHeader (cid cmd bcnt : Nat) : Bytes :=
  Mem.bytes32 cid ++ [UInt8.ofNat cmd, UInt8.ofNat (bcnt / 256), UInt8.ofNat bcnt]

def contHeader (cid : Nat) (seq : UInt8) : Bytes := Mem.bytes32 cid ++ [seq]

/-- The packets for the payload behind the first packet. -/
def contFrames (cid : Nat) (seq : UInt8) (payload : Bytes) : List Packet :=
  if payload = [] then []
  else
    padded (contHeader cid seq ++ payload.take CTAPHID_CONT_PAYLOAD_SIZE) ::
      contFrames cid (seq + 1) (payload.drop CTAPHID_CONT_PAYLOAD_SIZE)
termination_by payload.length
decreasing_by
  rename_i h
  have hpos := List.length_pos_of_ne_nil h
  rw [List.length_drop]
  simp only [CTAPHID_CONT_PAYLOAD_SIZE, HID_MESSAGE_SIZE]
  omega

/-- The packets for a payload. -/
def frames (cid cmd bcnt : Nat) (payload : Bytes) : List Packet :=
  padded (initHeader cid cmd bcnt ++ payload.take CTAPHID_INIT_PAYLOAD_SIZE) ::
    contFrames cid 0 (payload.drop CTAPHID_INIT_PAYLOAD_SIZE)

/-! ### The writer makes the frames -/

namespace WriteBuffer

variable {wb : WriteBuffer}

/-- The first `offset` bytes of the buffer. -/
def filled (wb : WriteBuffer) : Bytes := wb.buf.read 0 wb.offset

theorem read_write_end (m : Mem) (n : Nat) (b : UInt8) :
    (m.write n [b]).read 0 (n + 1) = m.read 0 n ++ [b] := by
  rw [Mem.read_add, Nat.zero_add, Mem.read_write_disjoint _ (.inl (by omega)),
    Mem.read_write m n [b] 1 rfl]

theorem ctaphidWrite_append (wb : WriteBuffer) (data data' : Bytes) :
    wb.ctaphidWrite (data ++ data') =
      (((wb.ctaphidWrite data).1.ctaphidWrite data').1,
        (wb.ctaphidWrite data).2 ++ ((wb.ctaphidWrite data).1.ctaphidWrite data').2) := by
  induction data generalizing wb with
  | nil => rfl
  | cons b data ih =>
    rw [List.cons_append, ctaphidWrite, ctaphidWrite, ih]
    simp only [List.append_assoc]

/-- The pieces of a response are written as one. -/
theorem respond_eq (wb : WriteBuffer) (pieces : List Bytes) :
    wb.respond pieces =
      (wb.ctaphidWrite pieces.flatten).2 ++ (wb.ctaphidWrite pieces.flatten).1.ctaphidFlush := by
  induction pieces generalizing wb with
  | nil => rfl
  | cons data pieces ih =>
    rw [respond, List.flatten_cons, ctaphidWrite_append, ih, List.append_assoc]

/-- An open packet takes bytes as long as it has room. -/
theorem ctaphidWrite_of_lt {data : Bytes} (hopen : 0 < wb.offset)
    (hlt : wb.offset + data.length < HID_MESSAGE_SIZE) :
    ∃ buf, wb.ctaphidWrite data = ({ wb with
        buf
        offset := wb.offset + data.length
        bytesWritten := wb.bytesWritten + data.length }, []) ∧
      buf.read 0 (wb.offset + data.length) = wb.filled ++ data := by
  induction data generalizing wb with
  | nil => exact ⟨wb.buf, rfl, (List.append_nil _).symm⟩
  | cons b data ih =>
    rw [List.length_cons] at hlt
    have hbyte : wb.writeByte b = ({ wb with
        buf := wb.buf.write wb.offset [b]
        offset := wb.offset + 1
        bytesWritten := wb.bytesWritten + 1 }, []) := by
      unfold writeByte
      rw [if_neg (Nat.ne_of_gt hopen)]
      exact if_neg (by dsimp only; omega)
    obtain ⟨buf, hwrite, hread⟩ := @ih { wb with
        buf := wb.buf.write wb.offset [b]
        offset := wb.offset + 1
        bytesWritten := wb.bytesWritten + 1 } (Nat.succ_pos _) (by dsimp only; omega)
    have hfilled : filled { wb with
        buf := wb.buf.write wb.offset [b]
        offset := wb.offset + 1
        bytesWritten := wb.bytesWritten + 1 } = wb.filled ++ [b] := read_write_end _ _ _
    rw [hfilled] at hread
    refine ⟨buf, ?_, ?_⟩
    · rw [ctaphidWrite, hbyte]
      dsimp only at hwrite ⊢
      rw [hwrite, List.length_cons, Nat.add_assoc, Nat.add_assoc, Nat.add_comm 1]
      rfl
    · dsimp only at hread
      rw [List.length_cons, Nat.add_comm data.length, ← Nat.add_assoc, hread, List.append_assoc]
      rfl

/-- Bytes up to the end of an open packet write it out. -/
theorem ctaphidWrite_of_eq {data : Bytes} (hopen : 0 < wb.offset) (hne : data ≠ [])
    (heq : wb.offset + data.length = HID_MESSAGE_SIZE) :
    ∃ buf, wb.ctaphidWrite data = ({ wb with
        buf
        offset := 0
        bytesWritten := wb.bytesWritten + data.length }, [packetAt buf 0]) ∧
      buf.read 0 HID_MESSAGE_SIZE = wb.filled ++ data := by
  obtain ⟨data, b, rfl⟩ := List.eq_nil_or_concat' data |>.resolve_left hne
  rw [List.length_append, List.length_singleton] at heq ⊢
  obtain ⟨buf, hwrite, hread⟩ := ctaphidWrite_of_lt hopen
    (show wb.offset + data.length < HID_MESSAGE_SIZE by omega)
  refine ⟨buf.write (wb.offset + data.length) [b], ?_, ?_⟩
  · have hbyte : ∀ wb' : WriteBuffer, 0 < wb'.offset → wb'.offset + 1 = HID_MESSAGE_SIZE →
        wb'.ctaphidWrite [b] = ({ wb' with
          buf := wb'.buf.write wb'.offset [b]
          offset := 0
          bytesWritten := wb'.bytesWritten + 1 },
            [packetAt (wb'.buf.write wb'.offset [b]) 0]) := by
      intro wb' hopen' heq'
      have hround : wb'.writeByte b = ({ wb' with
          buf := wb'.buf.write wb'.offset [b]
          offset := 0
          bytesWritten := wb'.bytesWritten + 1 },
            [packetAt (wb'.buf.write wb'.offset [b]) 0]) := by
        unfold writeByte
        rw [if_neg (Nat.ne_of_gt hopen')]
        exact if_pos heq'
      rw [ctaphidWrite, hround]
      rfl
    rw [ctaphidWrite_append, hwrite, hbyte _ (Nat.lt_of_lt_of_le hopen (Nat.le_add_right _ _))
      (by dsimp only; omega)]
    rfl
  · rw [← heq, ← Nat.add_assoc, read_write_end, hread, List.append_assoc]

/-- The first byte opens the packet. -/
theorem ctaphidWrite_open {data : Bytes} (hclosed : wb.offset = 0) (hne : data ≠ []) :
    wb.ctaphidWrite data =
      (if wb.bytesWritten = 0 then wb.openInit else wb.openCont).ctaphidWrite data := by
  cases data with
  | nil => exact absurd rfl hne
  | cons b data =>
    have hopen : (if wb.bytesWritten = 0 then wb.openInit else wb.openCont).offset ≠ 0 := by
      split
      · exact Nat.succ_ne_zero _
      · exact Nat.succ_ne_zero _
    have hbyte : wb.writeByte b =
        (if wb.bytesWritten = 0 then wb.openInit else wb.openCont).writeByte b := by
      unfold writeByte
      rw [if_pos hclosed, if_neg hopen]
    rw [ctaphidWrite, ctaphidWrite, hbyte]

theorem filled_openCont (hclosed : wb.offset = 0) :
    wb.openCont.filled = contHeader wb.cid wb.seq := by
  unfold filled openCont contHeader
  dsimp only
  rw [hclosed, read_write_end, Mem.read_write wb.buf 0 (Mem.bytes32 wb.cid) 4 rfl]

theorem filled_openInit (hclosed : wb.offset = 0) :
    wb.openInit.filled = initHeader wb.cid wb.cmd wb.bcnt := by
  unfold filled openInit initHeader
  dsimp only
  rw [hclosed]
  change Mem.read _ 0 (6 + 1) = _
  rw [read_write_end, read_write_end, read_write_end,
    Mem.read_write wb.buf 0 (Mem.bytes32 wb.cid) 4 rfl]
  rfl

/-- A packet that is full holds its bytes. -/
theorem packetAt_eq_padded {m : Mem} {b : Bytes} (h : m.read 0 HID_MESSAGE_SIZE = b) :
    packetAt m 0 = padded b := by
  apply Subtype.ext
  subst h
  exact (List.take_left' (Mem.length_read _ _ _)).symm

/-- The last packet is filled up with zeros. -/
theorem packetAt_fill {m : Mem} {b : Bytes} {n : Nat} (hn : n ≤ HID_MESSAGE_SIZE)
    (h : m.read 0 n = b) : packetAt (m.fill n (HID_MESSAGE_SIZE - n) 0) 0 = padded b := by
  have hlen : b.length = n := by rw [← h, Mem.length_read]
  have hbytes : (m.fill n (HID_MESSAGE_SIZE - n) 0).read 0 HID_MESSAGE_SIZE =
      (b ++ List.replicate HID_MESSAGE_SIZE 0).take HID_MESSAGE_SIZE := by
    apply List.ext_getElem
    · rw [Mem.length_read, List.length_take, List.length_append, List.length_replicate]
      omega
    · intro i hi hi'
      rw [Mem.length_read] at hi
      rw [Mem.getElem_read, List.getElem_take, Nat.zero_add]
      by_cases hin : i < n
      · have hbyte : m i = b[i] := by
          subst h
          rw [Mem.getElem_read, Nat.zero_add]
        rw [List.getElem_append_left (by omega), ← hbyte]
        exact if_neg (by omega)
      · rw [List.getElem_append_right (by omega), List.getElem_replicate]
        exact if_pos ⟨by omega, by omega⟩
  exact Subtype.ext hbytes

/-- Nothing is left behind a packet that was written out. -/
theorem ctaphidFlush_closed (hclosed : wb.offset = 0) (hwritten : 0 < wb.bytesWritten) :
    wb.ctaphidFlush = [] := by
  have hnot : ¬ (wb.offset = 0 ∧ wb.bytesWritten = 0) := fun h => Nat.ne_of_gt hwritten h.2
  unfold ctaphidFlush
  simp only [if_neg hnot]
  exact if_neg (by omega)

theorem ctaphidFlush_open (hopen : 0 < wb.offset) (hle : wb.offset ≤ HID_MESSAGE_SIZE) :
    wb.ctaphidFlush = [padded wb.filled] := by
  have hnot : ¬ (wb.offset = 0 ∧ wb.bytesWritten = 0) := fun h => Nat.ne_of_gt hopen h.1
  unfold ctaphidFlush
  simp only [if_neg hnot]
  rw [if_pos hopen, packetAt_fill hle rfl]
  rfl

/-- Behind the first packet the writer makes the frames of what is left. -/
theorem contFrames_eq (data : Bytes) (hclosed : wb.offset = 0) (hwritten : 0 < wb.bytesWritten) :
    (wb.ctaphidWrite data).2 ++ (wb.ctaphidWrite data).1.ctaphidFlush =
      contFrames wb.cid wb.seq data := by
  induction hn : data.length using Nat.strong_induction_on generalizing wb data with
  | _ n ih =>
    by_cases hne : data = []
    · subst hne
      rw [contFrames, if_pos rfl]
      exact ctaphidFlush_closed hclosed hwritten
    · have hopen : wb.openCont.offset = 5 := by
        change wb.offset + 4 + 1 = 5
        rw [hclosed]
      rw [contFrames, if_neg hne, ctaphidWrite_open hclosed hne, if_neg (Nat.ne_of_gt hwritten),
        ← filled_openCont hclosed]
      by_cases hlt : data.length < CTAPHID_CONT_PAYLOAD_SIZE
      · -- the last packet
        obtain ⟨buf, hwrite, hread⟩ := @ctaphidWrite_of_lt wb.openCont data (by omega)
          (by simp only [CTAPHID_CONT_PAYLOAD_SIZE, HID_MESSAGE_SIZE] at hlt ⊢; omega)
        have hle : wb.openCont.offset + data.length ≤ HID_MESSAGE_SIZE := by
          simp only [CTAPHID_CONT_PAYLOAD_SIZE, HID_MESSAGE_SIZE] at hlt ⊢
          omega
        have hpos : 0 < wb.openCont.offset + data.length := by omega
        rw [hwrite, List.take_of_length_le (Nat.le_of_lt hlt),
          List.drop_of_length_le (Nat.le_of_lt hlt), contFrames, if_pos rfl, List.nil_append,
          ← hread]
        exact ctaphidFlush_open hpos hle
      · have hge : CTAPHID_CONT_PAYLOAD_SIZE ≤ data.length := Nat.le_of_not_lt hlt
        have htake : (data.take CTAPHID_CONT_PAYLOAD_SIZE).length = CTAPHID_CONT_PAYLOAD_SIZE := by
          rw [List.length_take, Nat.min_eq_left hge]
        obtain ⟨buf, hwrite, hread⟩ := @ctaphidWrite_of_eq wb.openCont
          (data.take CTAPHID_CONT_PAYLOAD_SIZE) (by omega)
          (List.ne_nil_of_length_pos (by rw [htake]; decide)) (by rw [htake, hopen]; decide)
        have hdrop : (data.drop CTAPHID_CONT_PAYLOAD_SIZE).length < n := by
          rw [List.length_drop]
          simp only [CTAPHID_CONT_PAYLOAD_SIZE, HID_MESSAGE_SIZE] at hge ⊢
          omega
        have hsplit := ctaphidWrite_append wb.openCont (data.take CTAPHID_CONT_PAYLOAD_SIZE)
          (data.drop CTAPHID_CONT_PAYLOAD_SIZE)
        rw [List.take_append_drop] at hsplit
        rw [hsplit, hwrite, List.append_assoc, packetAt_eq_padded hread]
        refine congrArg (_ :: ·) ?_
        have hrest := @ih _ hdrop { wb.openCont with
          buf
          offset := 0
          bytesWritten := wb.openCont.bytesWritten +
            (data.take CTAPHID_CONT_PAYLOAD_SIZE).length }
          (data.drop CTAPHID_CONT_PAYLOAD_SIZE) rfl
          (Nat.lt_of_lt_of_le hwritten (Nat.le_add_right _ _)) rfl
        exact hrest

/-- A response without payload is its header. -/
theorem ctaphidFlush_fresh (hclosed : wb.offset = 0) (hfresh : wb.bytesWritten = 0) :
    wb.ctaphidFlush = [padded (initHeader wb.cid wb.cmd wb.bcnt)] := by
  have hopen : wb.openInit.offset = 7 := by
    change wb.offset + 4 + 3 = 7
    rw [hclosed]
  have hflush : wb.ctaphidFlush = wb.openInit.ctaphidFlush := by
    have hnot : ¬ (wb.openInit.offset = 0 ∧ wb.openInit.bytesWritten = 0) := by
      rw [hopen]
      exact fun h => absurd h.1 (by decide)
    unfold ctaphidFlush
    simp only [if_pos (show wb.offset = 0 ∧ wb.bytesWritten = 0 from ⟨hclosed, hfresh⟩),
      if_neg hnot]
  rw [hflush, ctaphidFlush_open (by omega) (by rw [hopen]; decide), filled_openInit hclosed]

/-- **The packets of a response are the frames of its payload.** -/
theorem frames_eq (data : Bytes) (hclosed : wb.offset = 0) (hfresh : wb.bytesWritten = 0)
    (hseq : wb.seq = 0) :
    (wb.ctaphidWrite data).2 ++ (wb.ctaphidWrite data).1.ctaphidFlush =
      frames wb.cid wb.cmd wb.bcnt data := by
  have hopen : wb.openInit.offset = 7 := by
    change wb.offset + 4 + 3 = 7
    rw [hclosed]
  unfold frames
  by_cases hne : data = []
  · subst hne
    rw [List.take_nil, List.drop_nil, contFrames, if_pos rfl, List.append_nil]
    exact ctaphidFlush_fresh hclosed hfresh
  · rw [ctaphidWrite_open hclosed hne, if_pos hfresh, ← filled_openInit hclosed]
    by_cases hlt : data.length < CTAPHID_INIT_PAYLOAD_SIZE
    · obtain ⟨buf, hwrite, hread⟩ := @ctaphidWrite_of_lt wb.openInit data (by omega)
        (by simp only [CTAPHID_INIT_PAYLOAD_SIZE, HID_MESSAGE_SIZE] at hlt ⊢; omega)
      have hle : wb.openInit.offset + data.length ≤ HID_MESSAGE_SIZE := by
        simp only [CTAPHID_INIT_PAYLOAD_SIZE, HID_MESSAGE_SIZE] at hlt ⊢
        omega
      have hpos : 0 < wb.openInit.offset + data.length := by omega
      rw [hwrite, List.take_of_length_le (Nat.le_of_lt hlt),
        List.drop_of_length_le (Nat.le_of_lt hlt), contFrames, if_pos rfl, List.nil_append,
        ← hread]
      exact ctaphidFlush_open hpos hle
    · have hge : CTAPHID_INIT_PAYLOAD_SIZE ≤ data.length := Nat.le_of_not_lt hlt
      have htake : (data.take CTAPHID_INIT_PAYLOAD_SIZE).length = CTAPHID_INIT_PAYLOAD_SIZE := by
        rw [List.length_take, Nat.min_eq_left hge]
      obtain ⟨buf, hwrite, hread⟩ := @ctaphidWrite_of_eq wb.openInit
        (data.take CTAPHID_INIT_PAYLOAD_SIZE) (by omega)
        (List.ne_nil_of_length_pos (by rw [htake]; decide)) (by rw [htake, hopen]; decide)
      have hsplit := ctaphidWrite_append wb.openInit (data.take CTAPHID_INIT_PAYLOAD_SIZE)
        (data.drop CTAPHID_INIT_PAYLOAD_SIZE)
      rw [List.take_append_drop] at hsplit
      rw [hsplit, hwrite, List.append_assoc, packetAt_eq_padded hread]
      refine congrArg (_ :: ·) ?_
      have hwritten : 0 < wb.openInit.bytesWritten +
          (data.take CTAPHID_INIT_PAYLOAD_SIZE).length := by
        rw [htake]
        exact Nat.lt_of_lt_of_le (by decide) (Nat.le_add_left _ _)
      have hrest := @contFrames_eq { wb.openInit with
        buf
        offset := 0
        bytesWritten := wb.openInit.bytesWritten +
          (data.take CTAPHID_INIT_PAYLOAD_SIZE).length }
        (data.drop CTAPHID_INIT_PAYLOAD_SIZE) rfl hwritten
      rw [← hseq]
      exact hrest

end WriteBuffer

theorem HidResponse.packets_eq (r : HidResponse) :
    r.packets = frames r.cid r.cmd r.bcnt r.payload := by
  unfold HidResponse.packets
  rw [WriteBuffer.respond_eq]
  exact WriteBuffer.frames_eq _ rfl rfl rfl

/-! ### What frames carry -/

/-- The payload bytes of packets, the zeros at the end included. -/
def carried : List Packet → Bytes
  | [] => []
  | p :: ps => p.1.drop 7 ++ ps.flatMap fun q => q.1.drop 5

/-- The bytes behind the header of a packet that is full or the last. -/
theorem drop_padded {header b : Bytes} (h : header.length + b.length ≤ HID_MESSAGE_SIZE) :
    (padded (header ++ b)).1.drop header.length =
      b ++ List.replicate (HID_MESSAGE_SIZE - header.length - b.length) 0 := by
  unfold padded
  dsimp only
  rw [List.append_assoc, List.take_append, List.take_of_length_le (by omega),
    List.drop_left, List.take_append, List.take_of_length_le (by omega), List.take_replicate,
    Nat.min_eq_left (by omega)]

theorem take_padded {header b : Bytes} (h : header.length ≤ HID_MESSAGE_SIZE) :
    (padded (header ++ b)).1.take header.length = header := by
  unfold padded
  dsimp only
  rw [List.append_assoc, List.take_take, Nat.min_eq_left h, List.take_left]

/-- The frames behind the first packet: how many there are, their headers, and the payload. -/
theorem contFrames_spec (cid : Nat) (seq : UInt8) (payload : Bytes) :
    (contFrames cid seq payload).length =
        (payload.length + (CTAPHID_CONT_PAYLOAD_SIZE - 1)) / CTAPHID_CONT_PAYLOAD_SIZE ∧
      (∀ i (hi : i < (contFrames cid seq payload).length),
        (contFrames cid seq payload)[i].1.take 5 = contHeader cid (seq + UInt8.ofNat i)) ∧
      ((contFrames cid seq payload).flatMap fun q => q.1.drop 5).take payload.length =
        payload := by
  induction hn : payload.length using Nat.strong_induction_on generalizing seq payload with
  | _ n ih =>
    subst hn
    rw [contFrames]
    by_cases hne : payload = []
    · subst hne
      refine ⟨rfl, ?_, rfl⟩
      intro i hi
      cases hi
    · rw [if_neg hne]
      have hpos := List.length_pos_of_ne_nil hne
      have hheader : (contHeader cid seq).length = 5 := rfl
      have hdrop : (payload.drop CTAPHID_CONT_PAYLOAD_SIZE).length < payload.length := by
        rw [List.length_drop]
        simp only [CTAPHID_CONT_PAYLOAD_SIZE, HID_MESSAGE_SIZE]
        omega
      obtain ⟨hcount, hheaders, hpayload⟩ := ih _ hdrop (seq + 1) _ rfl
      have htake : (payload.take CTAPHID_CONT_PAYLOAD_SIZE).length ≤ CTAPHID_CONT_PAYLOAD_SIZE :=
        List.length_take_le _ _
      refine ⟨?_, ?_, ?_⟩
      · rw [List.length_cons, hcount, List.length_drop]
        simp only [CTAPHID_CONT_PAYLOAD_SIZE, HID_MESSAGE_SIZE]
        omega
      · intro i hi
        cases i with
        | zero =>
          rw [List.getElem_cons_zero]
          refine (take_padded (by rw [hheader]; decide)).trans ?_
          have hzero : UInt8.ofNat 0 = 0 := rfl
          rw [hzero, UInt8.add_zero]
        | succ i =>
          rw [List.getElem_cons_succ, hheaders]
          congr 1
          rw [UInt8.ofNat_add, UInt8.add_assoc, UInt8.add_comm 1]
          rfl
      · have hbody := @drop_padded (contHeader cid seq) (payload.take CTAPHID_CONT_PAYLOAD_SIZE)
          (by rw [hheader]; exact Nat.add_le_add_left htake 5)
        rw [hheader] at hbody
        rw [List.flatMap_cons, hbody]
        by_cases hge : CTAPHID_CONT_PAYLOAD_SIZE ≤ payload.length
        · have hlen : (payload.take CTAPHID_CONT_PAYLOAD_SIZE).length =
              CTAPHID_CONT_PAYLOAD_SIZE := by
            rw [List.length_take, Nat.min_eq_left hge]
          rw [hlen, show HID_MESSAGE_SIZE - 5 - CTAPHID_CONT_PAYLOAD_SIZE = 0 from rfl,
            List.replicate_zero, List.append_nil, List.take_append,
            List.take_of_length_le (by rw [hlen]; exact hge), hlen, ← List.length_drop, hpayload,
            List.take_append_drop]
        · have hshort : payload.take CTAPHID_CONT_PAYLOAD_SIZE = payload :=
            List.take_of_length_le (Nat.le_of_not_le hge)
          rw [hshort, List.append_assoc, List.take_left]

/-- The packets carry the whole payload: the first one names channel, command and length, the
    others the channel and consecutive sequence numbers. -/
structure Carries (r : HidResponse) (ps : List Packet) : Prop where
  nonempty : 0 < ps.length
  first : ps[0].1.take 7 = initHeader r.cid r.cmd r.bcnt
  channel : ∀ i (hi : i + 1 < ps.length), ps[i + 1].1.take 4 = Mem.bytes32 r.cid
  seq : ∀ i (hi : i + 1 < ps.length), (ps[i + 1].1.getD 4 0).toNat = i
  payload : (carried ps).take r.payload.length = r.payload

/-- The number of packets of a response. -/
theorem length_packets (r : HidResponse) :
    r.packets.length = 1 + (r.payload.length - CTAPHID_INIT_PAYLOAD_SIZE +
      (CTAPHID_CONT_PAYLOAD_SIZE - 1)) / CTAPHID_CONT_PAYLOAD_SIZE := by
  rw [r.packets_eq, frames, List.length_cons, (contFrames_spec _ _ _).1, List.length_drop,
    Nat.add_comm]

theorem carries_packets {r : HidResponse} (hlen : r.payload.length ≤ CTAPHID_BUFFER_SIZE) :
    Carries r r.packets := by
  have hcount := length_packets r
  rw [r.packets_eq] at hcount ⊢
  have hheader : (initHeader r.cid r.cmd r.bcnt).length = 7 := rfl
  obtain ⟨-, hheaders, hpayload⟩ :=
    contFrames_spec r.cid 0 (r.payload.drop CTAPHID_INIT_PAYLOAD_SIZE)
  have htake : (r.payload.take CTAPHID_INIT_PAYLOAD_SIZE).length ≤ CTAPHID_INIT_PAYLOAD_SIZE :=
    List.length_take_le _ _
  have hbody := @drop_padded (initHeader r.cid r.cmd r.bcnt)
    (r.payload.take CTAPHID_INIT_PAYLOAD_SIZE) (by rw [hheader]; exact Nat.add_le_add_left htake 7)
  have hcont : ∀ i (hi : i + 1 < (frames r.cid r.cmd r.bcnt r.payload).length),
      (frames r.cid r.cmd r.bcnt r.payload)[i + 1].1.take 5 =
        contHeader r.cid (UInt8.ofNat i) := by
    intro i hi
    have hi' := hheaders i (Nat.lt_of_succ_lt_succ hi)
    rw [UInt8.zero_add] at hi'
    exact hi'
  have hfirst := @take_padded (initHeader r.cid r.cmd r.bcnt)
    (r.payload.take CTAPHID_INIT_PAYLOAD_SIZE) (by rw [hheader]; decide)
  rw [hheader] at hfirst
  refine ⟨Nat.succ_pos _, hfirst, ?_, ?_, ?_⟩
  · intro i hi
    have hfour : ((frames r.cid r.cmd r.bcnt r.payload)[i + 1].1.take 5).take 4 =
        Mem.bytes32 r.cid := by
      rw [hcont i hi]
      rfl
    rw [List.take_take] at hfour
    exact hfour
  · intro i hi
    have hseq : ((frames r.cid r.cmd r.bcnt r.payload)[i + 1].1.take 5).getD 4 0 =
        UInt8.ofNat i := by
      rw [hcont i hi]
      rfl
    have hlt : i < 256 := by
      rw [hcount] at hi
      simp only [CTAPHID_BUFFER_SIZE] at hlen
      simp only [CTAPHID_INIT_PAYLOAD_SIZE, CTAPHID_CONT_PAYLOAD_SIZE, HID_MESSAGE_SIZE] at hi
      omega
    have hget : ∀ l : Bytes, (l.take 5).getD 4 0 = l.getD 4 0 := by
      intro l
      rw [List.getD_eq_getElem?_getD, List.getD_eq_getElem?_getD,
        List.getElem?_take_of_lt (by decide)]
    rw [← hget, hseq, UInt8.toNat_ofNat', Nat.mod_eq_of_lt hlt]
  · rw [hheader] at hbody
    rw [frames, carried, hbody]
    by_cases hge : CTAPHID_INIT_PAYLOAD_SIZE ≤ r.payload.length
    · have hfull : (r.payload.take CTAPHID_INIT_PAYLOAD_SIZE).length =
          CTAPHID_INIT_PAYLOAD_SIZE := by
        rw [List.length_take, Nat.min_eq_left hge]
      rw [hfull, show HID_MESSAGE_SIZE - 7 - CTAPHID_INIT_PAYLOAD_SIZE = 0 from rfl,
        List.replicate_zero, List.append_nil, List.take_append,
        List.take_of_length_le (by rw [hfull]; exact hge), hfull, ← List.length_drop, hpayload,
        List.take_append_drop]
    · have hshort : r.payload.take CTAPHID_INIT_PAYLOAD_SIZE = r.payload :=
        List.take_of_length_le (Nat.le_of_not_le hge)
      rw [hshort, List.append_assoc, List.take_left]

/-! ### Responses through the ring -/

/-- The packets that are written in a run. -/
def writtenPackets (es : List TxEvent) : List Packet :=
  es.flatMap fun e => match e with
    | .write data => [data]
    | .dataIn => []

theorem words_tapeRun (es : List TxEvent) : (tapeRun es).words = writtenPackets es := by
  induction es using List.reverseRecOn with
  | nil => rfl
  | append_singleton es e ih =>
    unfold writtenPackets at ih ⊢
    rw [tapeRun_append, List.flatMap_append, ← ih]
    cases e with
    | write data => rfl
    | dataIn =>
      have hread : (tapeRun es).read.words = (tapeRun es).words := by
        unfold Tape.read
        split <;> rfl
      exact hread.trans (List.append_nil _).symm

/-- **The ring hands over every packet that is written, once, in order and unchanged, exactly when
    at no time more than 31 packets wait; the packets of every response carry its payload.** -/
theorem fido_tx_iff (buffer : Mem) (es : List TxEvent) (r : HidResponse) :
    (Delivers ⟨writtenPackets es, (tapeRun es).cursor, none⟩ (TxRing.run buffer es) ↔
      NeverFull es) ∧
    (r.payload.length ≤ CTAPHID_BUFFER_SIZE → Carries r r.packets) := by
  refine ⟨?_, fun hlen => carries_packets hlen⟩
  constructor
  · intro hdelivers
    rcases delivers_or_failed buffer es with ⟨hnever, -⟩ | ⟨-, hfailed⟩
    · exact hnever
    · rw [hdelivers.failed] at hfailed
      cases hfailed
  · intro hnever
    rcases delivers_or_failed buffer es with ⟨-, hdelivers⟩ | ⟨hfull, -⟩
    · rw [← words_tapeRun, ← hdelivers.mark]
      exact hdelivers
    · exact absurd hnever hfull

/-- The echo of a PING of 200 bytes. -/
def longPing : HidResponse := .ping 1 ((List.range 200).map UInt8.ofNat)

/-- Its packets are written, and the endpoint sends one after the second and the others later. -/
def longPingEvents : List TxEvent :=
  (longPing.packets.take 2).map .write ++ [.dataIn] ++ (longPing.packets.drop 2).map .write ++
    [.dataIn, .dataIn, .dataIn]

theorem fido_tx_ping :
    Delivers ⟨longPing.packets, 4, none⟩ (TxRing.run (fun _ => 0) longPingEvents) ∧
      Carries longPing longPing.packets := by
  have hwaiting : ∀ n ≤ longPingEvents.length,
      waiting (tapeRun (longPingEvents.take n)) < TX_SLOTS := by decide +kernel
  have hnever : NeverFull longPingEvents := by
    intro pre post heq
    have hpre := hwaiting pre.length (by rw [heq, List.length_append]; exact Nat.le_add_right _ _)
    rwa [heq, List.take_left] at hpre
  have hpackets : writtenPackets longPingEvents = longPing.packets := by decide +kernel
  have hcursor : (tapeRun longPingEvents).cursor = 4 := by decide +kernel
  obtain ⟨hdelivers, hcarries⟩ := fido_tx_iff (fun _ => 0) longPingEvents longPing
  rw [hpackets, hcursor] at hdelivers
  exact ⟨hdelivers.mpr hnever, hcarries (by decide +kernel)⟩

theorem tapeRun_writes (ps : List Packet) : tapeRun (ps.map .write) = ⟨ps, 0, none⟩ := by
  induction ps using List.reverseRecOn with
  | nil => rfl
  | append_singleton ps p ih =>
    rw [List.map_append, List.map_singleton, tapeRun_append, ih]
    rfl

/-- The echo of a PING of 1828 bytes fires the assertion when the host takes no packet meanwhile. -/
theorem ping_overruns :
    ¬ ∀ (buffer : Mem) (data : Bytes), data.length ≤ CTAPHID_BUFFER_SIZE →
      (TxRing.run buffer ((HidResponse.ping 1 data).packets.map .write)).failed = false := by
  intro h
  have hdata : (List.replicate 1828 (0 : UInt8)).length = 1828 := List.length_replicate
  have hgo := h (fun _ => 0) (List.replicate 1828 0) (by rw [hdata]; decide)
  have hcount : (HidResponse.ping 1 (List.replicate 1828 0)).packets.length = 32 := by
    rw [length_packets]
    unfold HidResponse.payload HidResponse.ping
    rw [List.flatten_singleton, hdata]
    rfl
  rcases delivers_or_failed (fun _ => 0)
      ((HidResponse.ping 1 (List.replicate 1828 0)).packets.map .write) with
    ⟨hnever, -⟩ | ⟨-, hfailed⟩
  · have hlt := hnever _ [] (List.append_nil _).symm
    rw [tapeRun_writes] at hlt
    unfold waiting at hlt
    dsimp only at hlt
    rw [hcount] at hlt
    exact absurd hlt (by decide)
  · rw [hgo] at hfailed
    cases hfailed

end SignetBase.FirmwareHc
