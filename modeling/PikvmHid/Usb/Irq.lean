import PikvmHid.Usb.Device

/-!
# `PikvmHid.Usb.Irq`: the interrupt handler

`USB_vIRQHandler` of `usb/Xpd/xpd_usb.c`, called by `USB_LP_CAN1_RX0_IRQHandler` through
`USB_vISR`. Its loop serves one endpoint register a round, as long as a completion flag is set;
then it looks at the `RESET` flag. Suspend, wake-up and start of frame change nothing that is
modelled here. No endpoint is double buffered.
-/

set_option autoImplicit false

namespace PikvmHid

/-- The register of `ISTR.EP_ID`: the first one with a completion flag, if `ISTR.CTR` is set. -/
def pendingEp (dev : UsbDevice) : Option Nat :=
  (List.range USBD_MAX_EP_COUNT).find? fun r =>
    (dev.epr r) &&& (USB_EP_CTR_RX ||| USB_EP_CTR_TX) ≠ 0

/-- A round, the SETUP packet: `Setup` is read from the packet memory. The flag is cleared in
register 0. -/
def usbVIRQHandler.setup (dev : UsbDevice) (epId : Nat) : UsbDevice :=
  let dev := dev.setEpr 0 (flagClear .rx)
  let bytes := usbPrvReadPMA dev.pma (dev.pma (bdtRxAddr epId)).toNat 8
  usbdSetupCallback { dev with setup := .ofBytes (.ofList bytes .zero) }

/-- A round, the OUT data packet of the endpoint `n`. -/
def usbVIRQHandler.out (dev : UsbDevice) (epId n : Nat) : UsbDevice :=
  let pmaAddress := (dev.pma (bdtRxAddr epId)).toNat
  let dataCount := (dev.pma (bdtRxCount epId) &&& 0x3FF).toNat
  let dev := dev.setEpr epId (flagClear .rx)
  let ep := dev.epOut n
  let dev := { dev with
    ctrlData := ep.data.write dev.ctrlData (usbPrvReadPMA dev.pma pmaAddress dataCount) }
  let dev := dev.setOut n { ep with data := ep.data.add dataCount, length := ep.length + dataCount }
  if ep.progress = 0 ∨ dataCount < ep.maxPacketSize then
    let dev := usbdEpOutCallback dev n
    if n = 0 then
      -- Keep EP0 ready to receive next setup
      (dev.setPma fun p =>
        p.set (bdtRxCount 0) (usbPrvConvertRxCount ep.maxPacketSize)).setEpr 0 (setStatus .rx .valid)
    else dev
  else usbPrvReceivePacket dev n

/-- A round, the acknowledged IN packet of the endpoint `n`. -/
def usbVIRQHandler.in (dev : UsbDevice) (epId n : Nat) : UsbDevice :=
  let dev := dev.setEpr epId (flagClear .tx)
  let dataCount := (dev.pma (bdtTxCount epId) &&& 0x3FF).toNat
  let ep := dev.epIn n
  let dev := dev.setIn n { ep with data := ep.data.add dataCount }
  if ep.progress = 0 then usbdEpInCallback dev n else usbPrvTransmitPacket dev n

/-- A round of the loop for the register `epId`. The register is read once, before both parts. -/
def usbVIRQHandler.round (dev : UsbDevice) (epId : Nat) : UsbDevice :=
  let epReg := dev.epr epId
  let epNum := (epReg &&& USB_EPADDR_FIELD).toNat
  let dev :=
    if epReg &&& USB_EP_CTR_RX ≠ 0 then
      if epReg &&& USB_EP_SETUP ≠ 0 then usbVIRQHandler.setup dev epId
      else usbVIRQHandler.out dev epId epNum
    else dev
  if epReg &&& USB_EP_CTR_TX ≠ 0 then usbVIRQHandler.in dev epId epNum else dev

/-- The part after the loop: the device reset. -/
def usbVIRQHandler.tail (dev : UsbDevice) : UsbDevice :=
  if dev.reset then usbdResetCallback (usbVSetAddress { dev with reset := false } 0) else dev

/-- The handler up to the next time it looks at `ISTR`. -/
def usbVIRQHandler.step (dev : UsbDevice) : UsbDevice :=
  match pendingEp dev with
  | some epId => usbVIRQHandler.round dev epId
  | none      => usbVIRQHandler.tail dev

/-- `USB_vIRQHandler`, with at most `n` rounds of the loop. -/
def usbVIRQHandler : Nat → UsbDevice → UsbDevice
  | 0,     dev => dev
  | n + 1, dev =>
      match pendingEp dev with
      | some epId => usbVIRQHandler n (usbVIRQHandler.round dev epId)
      | none      => usbVIRQHandler.tail dev

end PikvmHid
