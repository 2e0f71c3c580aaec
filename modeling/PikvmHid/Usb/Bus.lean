import PikvmHid.Lib.Machine
import PikvmHid.Usb.Irq

/-!
# `PikvmHid.Usb.Bus`: the device on the bus

The peripheral between its registers and the bus, and the machine of the whole device. Its
labels are what can happen next: a transaction of the host, a bus reset, the interrupt handler
up to the next time it looks at `ISTR`, or a task that sends a report. Any order of labels is a
run, so transactions can come between two rounds of the handler. A round and a call of
`USBD_HID_ReportIn` are one step each: no transaction completes inside a round, and the interrupt
does not preempt the call. What comes inside the register macros is in `PikvmHid.Spec.UsbRegisters`,
and a call with interrupts in between in `PikvmHid.Usb.ReportCall`.

The peripheral is the environment of the driver. It answers a transaction when the function is
enabled and the register with the endpoint's number is `VALID`; then it leaves `NAK`, the
other data toggle and the completion flag. A SETUP packet is always taken by an open control
endpoint. A reset clears all registers but the completion flags.
-/

set_option autoImplicit false

namespace PikvmHid

/-! ### The registers after a transaction -/

/-- The bits of the status. -/
def EpHalf.statMask : EpHalf → U16
  | .rx => USB_EPRX_STAT
  | .tx => USB_EPTX_STAT

/-- A register after a completed transaction: `NAK`, the toggle flipped, the flag set. -/
def hwDone (d : EpHalf) (e : U16) : U16 :=
  ((e &&& ~~~d.statMask) ||| d.status .nak ||| d.ctr) ^^^ d.dtog

/-- A control register after a SETUP transaction: both directions `NAK` with the toggle set,
`CTR_RX` and `SETUP` set. -/
def hwSetup (e : U16) : U16 :=
  (e &&& ~~~(USB_EPRX_STAT ||| USB_EPTX_STAT)) ||| EpHalf.rx.status .nak ||| EpHalf.tx.status .nak |||
    USB_EP_DTOG_RX ||| USB_EP_DTOG_TX ||| USB_EP_CTR_RX ||| USB_EP_SETUP

/-- A register after a bus reset. -/
def hwReset (e : U16) : U16 := e &&& (USB_EP_CTR_RX ||| USB_EP_CTR_TX)

/-- An acknowledged transaction, field by field. -/
theorem fields_hwDone (d : EpHalf) (e : U16) :
    eprFields (hwDone d e) = (eprFields e).setHalf d ⟨.nak, !(eprHalf d e).dtog, true⟩ := by
  refine eprFields_eq (fun i hi => ?_) ?_ (fun i hi => ?_) ?_ ?_ ?_
  case refine_1 => interval_cases i <;> cases d <;>
    simp [hwDone, EpHalf.statMask, EpHalf.status, EpHalf.ctr, EpHalf.dtog, EprFields.setHalf,
      eprFields]
  case refine_3 => interval_cases i <;> cases d <;>
    simp [hwDone, EpHalf.statMask, EpHalf.status, EpHalf.ctr, EpHalf.dtog, EprFields.setHalf,
      eprFields]
  all_goals
    cases d <;>
      simp [hwDone, EpHalf.statMask, EpHalf.status, EpHalf.ctr, EpHalf.dtog, EprFields.setHalf,
        eprFields, eprHalf, EpHalf.pos, EpStatus.ofBits]

/-- The half it was on. -/
@[simp] theorem eprHalf_hwDone (d : EpHalf) (e : U16) :
    eprHalf d (hwDone d e) = ⟨.nak, !(eprHalf d e).dtog, true⟩ := by
  rw [← half_eprFields, fields_hwDone, half_setHalf]

/-- A bus reset clears a register but for its completion flags. -/
theorem fields_hwReset (e : U16) :
    eprFields (hwReset e) =
      { ea := 0, kind := false, type := 0, setup := false
        rx := ⟨.dis, false, (eprHalf .rx e).ctr⟩, tx := ⟨.dis, false, (eprHalf .tx e).ctr⟩ } := by
  refine eprFields_eq (fun i hi => ?_) ?_ (fun i hi => ?_) ?_ ?_ ?_
  case refine_1 => interval_cases i <;> simp [hwReset]
  case refine_3 => interval_cases i <;> simp [hwReset]
  all_goals simp [hwReset, eprHalf, EpHalf.pos]

/-- A SETUP packet, field by field. -/
theorem fields_hwSetup (e : U16) :
    eprFields (hwSetup e) =
      { eprFields e with
        setup := true
        rx := ⟨.nak, true, true⟩, tx := ⟨.nak, true, (eprHalf .tx e).ctr⟩ } := by
  refine eprFields_eq (fun i hi => ?_) ?_ (fun i hi => ?_) ?_ ?_ ?_
  case refine_1 => interval_cases i <;> simp [hwSetup, EpHalf.status, eprFields]
  case refine_3 => interval_cases i <;> simp [hwSetup, EpHalf.status, eprFields]
  all_goals simp [hwSetup, EpHalf.status, eprFields, eprHalf, EpHalf.pos, EpStatus.ofBits]

/-- It keeps the address. -/
theorem ea_hwSetup (e : U16) : (eprFields (hwSetup e)).ea = (eprFields e).ea := by
  rw [fields_hwSetup]

/-- The `SETUP` bit is not part of the address. -/
theorem ea_and_not_setup (e : U16) :
    (eprFields (e &&& ~~~USB_EP_SETUP)).ea = (eprFields e).ea := by
  apply BitVec.eq_of_getLsbD_eq
  intro i hi
  interval_cases i <;> simp [eprFields]

/-! ### Transactions -/

/-- `DADDR.EF`: the function is enabled. -/
def UsbDevice.enabled (dev : UsbDevice) : Bool := dev.daddr.getLsbD 7

/-- The register that answers a transaction of the endpoint `n` in a direction. -/
def eprFor (dev : UsbDevice) (d : EpHalf) (n : Nat) : Option Nat :=
  (List.range USBD_MAX_EP_COUNT).find? fun r =>
    (eprFields (dev.epr r)).ea.toNat = n ∧ (eprHalf d (dev.epr r)).stat ≠ .dis

/-- The packet in the transmit buffer of a register. -/
def txPacket (dev : UsbDevice) (r : Nat) : List U8 :=
  dev.pma.packet (dev.pma (bdtTxAddr r)).toNat (dev.pma (bdtTxCount r) &&& 0x3FF).toNat

/-- The packet memory with a received packet in the receive buffer of a register. -/
def rxStore (dev : UsbDevice) (r : Nat) (bytes : List U8) : Pma :=
  let p := usbPrvWritePMA (.ofList bytes .zero) (dev.pma (bdtRxAddr r)).toNat bytes.length dev.pma
  p.set (bdtRxCount r) ((p (bdtRxCount r) &&& 0xFC00) ||| .ofNat 16 bytes.length)

/-- What the host and the task see. -/
inductive UsbObs where
  /-- A packet of the endpoint `n`, with its data toggle; `ack` when the device got the
  acknowledgement. -/
  | packet (n : Nat) (pid : Bool) (bytes : List U8) (ack : Bool)
  /-- A call of `USBD_HID_ReportIn` and whether it returned `USBD_E_OK`. -/
  | report (i : Nat) (bytes : List U8) (ok : Bool)
  deriving DecidableEq, Repr

/-- What happens next. -/
inductive UsbAct where
  /-- An IN transaction of the endpoint `n`; `ack` when its acknowledgement arrives. -/
  | inToken (n : Nat) (ack : Bool)
  /-- An OUT transaction of the endpoint `n`. -/
  | outToken (n : Nat) (bytes : List U8)
  /-- A SETUP transaction of endpoint 0. -/
  | setup (req : SetupRequest)
  | busReset
  /-- The interrupt handler, up to the next time it looks at `ISTR`. -/
  | irq
  /-- A task sends a report of the interface `i`. -/
  | reportIn (i : Nat) (bytes : List U8)

/-- An IN transaction. Without the acknowledgement the register stays as it is and the packet
is sent again. -/
def busIn (dev : UsbDevice) (n : Nat) (ack : Bool) : UsbDevice × List UsbObs :=
  match eprFor dev .tx n with
  | some r =>
      if dev.enabled ∧ (eprHalf .tx (dev.epr r)).stat = .valid then
        (if ack then dev.setEpr r (hwDone .tx) else dev,
          [.packet n (eprHalf .tx (dev.epr r)).dtog (txPacket dev r) ack])
      else (dev, [])
  | none => (dev, [])

/-- An OUT transaction. A packet longer than the buffer is refused. -/
def busOut (dev : UsbDevice) (n : Nat) (bytes : List U8) : UsbDevice :=
  match eprFor dev .rx n with
  | some r =>
      if dev.enabled ∧ (eprHalf .rx (dev.epr r)).stat = .valid ∧
          bytes.length ≤ rxCapacity (dev.pma (bdtRxCount r)) then
        { dev with pma := rxStore dev r bytes }.setEpr r fun e => hwDone .rx e &&& ~~~USB_EP_SETUP
      else dev
  | none => dev

/-- A SETUP transaction. It is not answered while the last packet waits to be handled, nor when
the buffer is too short for it. -/
def busSetup (dev : UsbDevice) (req : SetupRequest) : UsbDevice :=
  if dev.enabled ∧ (eprHalf .rx (dev.epr 0)).stat ≠ .dis ∧ (eprHalf .rx (dev.epr 0)).ctr = false ∧
      req.toBytes.length ≤ rxCapacity (dev.pma (bdtRxCount 0)) then
    { dev with pma := rxStore dev 0 req.toBytes }.setEpr 0 hwSetup
  else dev

/-- A bus reset: the function is disabled until the handler sets an address. -/
def busReset (dev : UsbDevice) : UsbDevice :=
  { dev with epr := fun r => hwReset (dev.epr r), daddr := 0, reset := true }

/-- The device and its bus, with a round of the handler and a call of a task as one step each. -/
def usbMachine : Lib.Machine UsbDevice UsbAct UsbObs where
  step dev
    | .inToken n ack    => busIn dev n ack
    | .outToken n bytes => (busOut dev n bytes, [])
    | .setup req        => (busSetup dev req, [])
    | .busReset         => (busReset dev, [])
    | .irq              => (usbVIRQHandler.step dev, [])
    | .reportIn i bytes =>
        let r := usbdHidReportIn dev i (.ofList bytes .zero) bytes.length
        (r.2, [.report i bytes (r.1 = .ok)])

end PikvmHid
