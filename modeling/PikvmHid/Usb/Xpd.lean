import PikvmHid.Usb.Types

/-!
# `PikvmHid.Usb.Xpd`: the peripheral driver

`usb/Xpd/xpd_usb.c`: opening, closing and halting endpoints, the packets of a transfer, and
the allocation of registers and packet memory. No interface of this device has an isochronous
endpoint, so double buffering appears in the allocation only. The interrupt handler is in
`PikvmHid.Usb.Irq`, since it calls the device layer.
-/

set_option autoImplicit false

namespace PikvmHid

/-! ### Endpoint addresses -/

/-- `NUMBER > 0x7F`: the address is one of an IN endpoint. -/
def isInAddr (epAddr : U8) : Bool := epAddr.getLsbD 7

/-- The index of the endpoint in its array, as `USB_GET_EP_AT` and `USBD_EpAddr2Ref` take it:
the number of an IN endpoint, the whole address of an OUT endpoint. -/
def epIndex (epAddr : U8) : Nat :=
  if isInAddr epAddr then (epAddr &&& 0xF).toNat else epAddr.toNat

/-- `USB_GET_EP_AT`, `USBD_EpAddr2Ref`. -/
def UsbDevice.ep (dev : UsbDevice) (epAddr : U8) : UsbEp :=
  if isInAddr epAddr then dev.epIn (epIndex epAddr) else dev.epOut (epIndex epAddr)

/-- The endpoint at an address stored. -/
def UsbDevice.setEp (dev : UsbDevice) (epAddr : U8) (ep : UsbEp) : UsbDevice :=
  if isInAddr epAddr then dev.setIn (epIndex epAddr) ep else dev.setOut (epIndex epAddr) ep

/-- The direction of the register that an address stands for. -/
def epHalfOf (epAddr : U8) : EpHalf := if isInAddr epAddr then .tx else .rx

/-! ### Packets -/

/-- `USB_prvNextPacketSize`: the size, and the endpoint with what is left. -/
def usbPrvNextPacketSize (ep : UsbEp) : Nat × UsbEp :=
  if ep.progress > ep.maxPacketSize then
    (ep.maxPacketSize, { ep with progress := ep.progress - ep.maxPacketSize })
  else
    (ep.progress, { ep with progress := 0 })

/-- `USB_prvReceivePacket` on the OUT endpoint `n`. -/
def usbPrvReceivePacket (dev : UsbDevice) (n : Nat) : UsbDevice :=
  let r := usbPrvNextPacketSize (dev.epOut n)
  ((dev.setOut n r.2).setPma fun p =>
      p.set (bdtRxCount r.2.regId) (usbPrvConvertRxCount r.1)).setEpr r.2.regId
    (setStatus .rx .valid)

/-- `USB_prvTransmitPacket` on the IN endpoint `n`. -/
def usbPrvTransmitPacket (dev : UsbDevice) (n : Nat) : UsbDevice :=
  let r := usbPrvNextPacketSize (dev.epIn n)
  let pmaAddress := (dev.pma (bdtTxAddr r.2.regId)).toNat
  ((dev.setIn n r.2).setPma fun p =>
      usbPrvWritePMA (r.2.data.read dev.ctrlData) pmaAddress r.1
        (p.set (bdtTxCount r.2.regId) (.ofNat 16 r.1))).setEpr r.2.regId
    (setStatus .tx .valid)

/-- `USB_vEpSend`. -/
def usbVEpSend (dev : UsbDevice) (epAddr : U8) (data : DataPtr) (length : Nat) : UsbDevice :=
  let n := (epAddr &&& 0xF).toNat
  usbPrvTransmitPacket
    (dev.setIn n { dev.epIn n with data := data, progress := length, length := length }) n

/-- `USB_vEpReceive`. -/
def usbVEpReceive (dev : UsbDevice) (epAddr : U8) (data : DataPtr) (length : Nat) : UsbDevice :=
  let n := epAddr.toNat
  usbPrvReceivePacket
    (dev.setOut n { dev.epOut n with data := data, progress := length, length := 0 }) n

/-! ### Opening, closing, halting -/

/-- `USB_vSetAddress`. -/
def usbVSetAddress (dev : UsbDevice) (address : U8) : UsbDevice :=
  { dev with daddr := 0x80 ||| address }

/-- `USB_vEpOpen`. -/
def usbVEpOpen (dev : UsbDevice) (epAddr : U8) (type : EpType) (maxPacketSize : Nat) : UsbDevice :=
  let dev := dev.setEp epAddr { dev.ep epAddr with maxPacketSize := maxPacketSize, type := type }
  let r := (dev.ep epAddr).regId
  let dev := dev.setEpr r (setType type)
  let dev := dev.setEpr r (setAddress epAddr)
  let dev := dev.setEpr r (toggleClear (epHalfOf epAddr))
  dev.setEpr r (setStatus (epHalfOf epAddr) .nak)

/-- `USB_vEpClose`. -/
def usbVEpClose (dev : UsbDevice) (epAddr : U8) : UsbDevice :=
  let r := (dev.ep epAddr).regId
  let dev := dev.setEpr r (toggleClear (epHalfOf epAddr))
  dev.setEpr r (setStatus (epHalfOf epAddr) .dis)

/-- `USB_vEpSetStall`. -/
def usbVEpSetStall (dev : UsbDevice) (epAddr : U8) : UsbDevice :=
  dev.setEpr (dev.ep epAddr).regId (setStatus (epHalfOf epAddr) .stall)

/-- `USB_vEpClearStall`. An OUT endpoint receives again at once. -/
def usbVEpClearStall (dev : UsbDevice) (epAddr : U8) : UsbDevice :=
  let r := (dev.ep epAddr).regId
  let dev := dev.setEpr r (toggleClear (epHalfOf epAddr))
  dev.setEpr r (setStatus (epHalfOf epAddr) (if isInAddr epAddr then .nak else .valid))

/-- `USB_prvCtrlEpOpen`. -/
def usbPrvCtrlEpOpen (dev : UsbDevice) : UsbDevice :=
  let dev := dev.setEpr 0 (setType .control)
  let dev := dev.setEpr 0 (setAddress 0)
  -- IN direction
  let dev := dev.setPma fun p => p.set (bdtTxCount 0) 0
  let dev := dev.setEpr 0 (toggleClear .tx)
  let dev := dev.setEpr 0 (setStatus .tx .nak)
  -- OUT direction
  let dev := dev.setPma fun p =>
    p.set (bdtRxCount 0) (usbPrvConvertRxCount (dev.epOut 0).maxPacketSize)
  let dev := dev.setEpr 0 (toggleClear .rx)
  dev.setEpr 0 (setStatus .rx .valid)

/-! ### Allocation -/

/-- `USB_EP_DOUBLE_BUFFERED`. -/
def doubleBuffered (ep : UsbEp) : Bool := ep.type = .isochronous

/-- `MaxPacketSize` rounded up to the next even number, `(MaxPacketSize + 1) & ~1`. -/
def evenMps (ep : UsbEp) : Nat := (ep.maxPacketSize + 1) / 2 * 2

/-- The first loop of `USB_vAllocateEPs` for the endpoint number `n`, with `ucRegId`. An IN and
an OUT endpoint of one number and type share a register. -/
def usbVAllocateEPs.reg (s : UsbDevice × Nat) (n : Nat) : UsbDevice × Nat :=
  let dev := s.1
  let regId := s.2
  let out := dev.epOut n
  let inp := dev.epIn n
  if out.maxPacketSize > 0 then
    let dev := dev.setOut n { out with regId := regId }
    if inp.maxPacketSize > 0 then
      if !doubleBuffered out && !doubleBuffered inp && out.type = inp.type then
        (dev.setIn n { inp with regId := regId }, regId + 1)
      else
        (dev.setIn n { inp with regId := regId + 1 }, regId + 2)
    else (dev, regId + 1)
  else if inp.maxPacketSize > 0 then
    (dev.setIn n { inp with regId := regId }, regId + 1)
  else (dev, regId)

/-- One endpoint of the second loop, with `usPmaTail`: its buffer address is stored at `addr`,
and the one of a second buffer at `addr2`. -/
def usbVAllocateEPs.buffer (ep : UsbEp) (addr addr2 : Nat → Nat) (s : Pma × Nat) : Pma × Nat :=
  if ep.maxPacketSize > 0 then
    let s := (s.1.set (addr ep.regId) (.ofNat 16 s.2), s.2 + evenMps ep)
    if doubleBuffered ep then (s.1.set (addr2 ep.regId) (.ofNat 16 s.2), s.2 + evenMps ep) else s
  else s

/-- The second loop of `USB_vAllocateEPs` for the endpoint number `n`. -/
def usbVAllocateEPs.buffers (dev : UsbDevice) (s : Pma × Nat) (n : Nat) : Pma × Nat :=
  usbVAllocateEPs.buffer (dev.epOut n) bdtRxAddr bdtTxAddr
    (usbVAllocateEPs.buffer (dev.epIn n) bdtTxAddr bdtRxAddr s)

/-- The packet memory after the second part of `USB_vAllocateEPs`, and `usPmaTail`. The table
takes 16 bytes for each register; endpoint 0 has one buffer for both directions. -/
def usbVAllocateEPs.pma (dev : UsbDevice) (regId : Nat) : Pma × Nat :=
  let tail := regId * 16
  let p := dev.pma.set (bdtTxAddr (dev.epIn 0).regId) (.ofNat 16 tail)
  let p := p.set (bdtRxAddr (dev.epIn 0).regId) (.ofNat 16 tail)
  ((List.range (USBD_MAX_EP_COUNT - 1)).map (· + 1)).foldl (usbVAllocateEPs.buffers dev)
    (p, tail + evenMps (dev.epIn 0))

/-- `USB_vAllocateEPs`. -/
def usbVAllocateEPs (dev : UsbDevice) : UsbDevice :=
  let s := (List.range USBD_MAX_EP_COUNT).foldl usbVAllocateEPs.reg (dev, 0)
  if s.2 < USBD_MAX_EP_COUNT then { s.1 with pma := (usbVAllocateEPs.pma s.1 s.2).1 } else s.1

/-- `USB_vCtrlEpOpen`. -/
def usbVCtrlEpOpen (dev : UsbDevice) : UsbDevice := usbPrvCtrlEpOpen (usbVAllocateEPs dev)

/-- `USB_vInit`: the registers cleared. -/
def usbVInit (dev : UsbDevice) : UsbDevice :=
  { dev with
    epIn := Function.update dev.epIn 0
      { dev.epIn 0 with maxPacketSize := USBD_EP0_MAX_PACKET_SIZE, type := .control }
    epOut := Function.update dev.epOut 0
      { dev.epOut 0 with maxPacketSize := USBD_EP0_MAX_PACKET_SIZE, type := .control }
    reset := false }

end PikvmHid
