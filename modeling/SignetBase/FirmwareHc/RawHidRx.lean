/-
  SignetBase/FirmwareHc/RawHidRx.lean
  ===================================
  **The receiving path of the Signet HC: `usb_raw_hid_rx`.**

  A packet says with its first byte where in `cmd_packet_buf` its payload goes and whether
  it is the last one.  The firmware compares the place with the size of the buffer, asks
  for the next packet when the payload does not fit, and goes on: the payload is stored
  behind the buffer all the same.  The original device returns instead.
-/
import SignetBase.Access
import SignetBase.RawHid

namespace SignetBase.FirmwareHc

/-- The link of the HC. -/
abbrev hcLink : HidLink := Device.signetHc.hidLink

/-- `seq`. -/
def rxSeq (data : Mem) : Nat := (data 0).toNat % 128

/-- `last`. -/
def rxLast (data : Mem) : Bool := 128 ≤ (data 0).toNat

/-- `index`. -/
def rxIndex (data : Mem) : Nat := rxSeq data * hcLink.rawHidPayloadSize

/-- Where the payload goes. -/
def rxSpan (data : Mem) : Span := ⟨rxIndex data, hcLink.rawHidPayloadSize⟩

/-- The negation of the comparison that `usb_raw_hid_rx` makes. -/
def RxFits (data : Mem) : Prop :=
  rxIndex data + hcLink.rawHidPayloadSize ≤ hcLink.cmdPacketBufSize

instance (data : Mem) : Decidable (RxFits data) := inferInstanceAs (Decidable (_ ≤ _))

/-- What `usb_raw_hid_rx` does with a packet: `cmd_packet_buf` and what lies behind it, the
    bytes written, and whether `cmd_packet_recv` is called. -/
structure RxResult where
  buf : Mem
  written : List Span
  received : Bool

/-- The loop that stores the payload. -/
def rxStore (data buf : Mem) : Mem :=
  buf.copy (rxIndex data) data RAW_HID_HEADER_SIZE hcLink.rawHidPayloadSize

/-- `usb_raw_hid_rx`; when the packet does not fit, `USBD_HID_rx_resume` is all that the
    comparison leads to. -/
def usbRawHidRx (data buf : Mem) : RxResult :=
  ⟨rxStore data buf, [rxSpan data], rxLast data⟩

/-- What is expected of `usb_raw_hid_rx`: all bytes go into the buffer, and a packet that
    does not fit changes nothing and is not taken for a command. -/
structure RxResult.Safe (data buf : Mem) (r : RxResult) : Prop where
  within : Span.AllWithin hcLink.cmdPacketBufSize r.written
  unfit : ¬ RxFits data → r.buf = buf ∧ r.received = false

/-- **A packet is stored safely just when it fits.** -/
theorem safe_usbRawHidRx {data buf : Mem} :
    (usbRawHidRx data buf).Safe data buf ↔ RxFits data := by
  constructor
  · intro h
    exact h.within _ (List.mem_singleton.mpr rfl)
  · intro hfits
    refine ⟨?_, fun h => absurd hfits h⟩
    rintro r hr
    rw [List.mem_singleton.mp hr]
    exact hfits

end SignetBase.FirmwareHc
