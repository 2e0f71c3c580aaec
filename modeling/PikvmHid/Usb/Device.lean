import PikvmHid.Usb.Desc

/-!
# `PikvmHid.Usb.Device`: the device layer

`usb/Device/usbd.c`, `usbd_ctrl.c`, `usbd_ep.c`, `usbd_if.c`, and the class functions of
`usb/Class/HID/usbd_hid.c` they call. The control endpoint is a state machine over
`EP.IN[0].State` and `EP.OUT[0].State`, driven by the callbacks of the peripheral driver.
-/

set_option autoImplicit false

namespace PikvmHid

/-! ### Endpoints -/

/-- `USBD_EpSend`. -/
def usbdEpSend (dev : UsbDevice) (epAddr : U8) (data : DataPtr) (len : Nat) :
    UsbdReturn × UsbDevice :=
  let n := (epAddr &&& 0xF).toNat
  let ep := dev.epIn n
  if ep.state = .idle ∨ ep.type = .isochronous then
    (.ok, usbVEpSend (dev.setIn n { ep with state := .data }) epAddr data len)
  else (.busy, dev)

/-- `USBD_EpOpen`. -/
def usbdEpOpen (dev : UsbDevice) (epAddr : U8) (type : EpType) (mps : Nat) : UsbDevice :=
  let dev := usbVEpOpen dev epAddr type mps
  dev.setEp epAddr { dev.ep epAddr with state := .idle }

/-- `USBD_EpClose`. -/
def usbdEpClose (dev : UsbDevice) (epAddr : U8) : UsbDevice :=
  let dev := usbVEpClose dev epAddr
  dev.setEp epAddr { dev.ep epAddr with state := .closed }

/-! ### Control transfers -/

/-- `USBD_CtrlSendError`. -/
def usbdCtrlSendError (dev : UsbDevice) : UsbDevice :=
  let dev := usbVEpSetStall dev 0x80
  let dev := dev.setIn 0 { dev.epIn 0 with state := .stall }
  let dev := usbVEpSetStall dev 0x00
  dev.setOut 0 { dev.epOut 0 with state := .stall }

/-- `USBD_CtrlSendStatus`. -/
def usbdCtrlSendStatus (dev : UsbDevice) : UsbDevice :=
  usbVEpSend (dev.setIn 0 { dev.epIn 0 with state := .status }) 0x80 .null 0

/-- `USBD_CtrlReceiveStatus`. -/
def usbdCtrlReceiveStatus (dev : UsbDevice) : UsbDevice :=
  usbVEpReceive (dev.setOut 0 { dev.epOut 0 with state := .status }) 0x00 .null 0

/-- `USBD_CtrlSendData`. -/
def usbdCtrlSendData (dev : UsbDevice) (data : DataPtr) (len : Nat) : UsbdReturn × UsbDevice :=
  if (dev.epOut 0).state = .setup then
    let len := if dev.setup.length.toNat < len then dev.setup.length.toNat else len
    (.ok, usbVEpSend (dev.setIn 0 { dev.epIn 0 with state := .data }) 0x80 data len)
  else (.error, dev)

/-- `USBD_CtrlReceiveData`. -/
def usbdCtrlReceiveData (dev : UsbDevice) (data : DataPtr) : UsbdReturn × UsbDevice :=
  if (dev.epOut 0).state = .setup then
    let len := dev.setup.length.toNat
    (.ok, usbVEpReceive (dev.setOut 0 { dev.epOut 0 with state := .data }) 0x00 data len)
  else (.error, dev)

/-! ### The HID class -/

/-- `hid_init` of the interface `i`. -/
def hidInit (dev : UsbDevice) (i : Nat) : UsbDevice :=
  match dev.ifs[i]? with
  | some itf =>
      let mps := if itf.app.inputMaxSize > USB_EP_INTR_FS_MPS then USB_EP_INTR_FS_MPS
        else itf.app.inputMaxSize
      (usbdEpOpen dev itf.inEpNum .interrupt mps).modifyIf i fun itf =>
        { itf with request := 0, idleRate := itf.app.inputInterval / 4 }
  | none => dev

/-- `hid_deinit` of the interface `i`. -/
def hidDeinit (dev : UsbDevice) (i : Nat) : UsbDevice :=
  match dev.ifs[i]? with
  | some itf => usbdEpClose dev itf.inEpNum
  | none     => dev

/-- `hid_setupStage`, standard requests: the class descriptor and the report descriptor. The
class descriptor is sent with `wItemLength` 0. -/
def hidSetupStage.standard (dev : UsbDevice) (itf : HidIfHandle) : UsbdReturn × UsbDevice :=
  if dev.setup.request = USB_REQ_GET_DESCRIPTOR then
    if highByte dev.setup.value = HID_DESC_TYPE_HID then
      usbdCtrlSendData (dev.setCtrl (hidClassDesc 0)) (.ctrlData 0) (hidClassDesc 0).length
    else if highByte dev.setup.value = HID_DESC_TYPE_REPORT then
      usbdCtrlSendData dev (.mem (.ofList itf.app.desc .zero)) itf.app.desc.length
    else (.error, dev)
  else (.error, dev)

/-- `hid_setupStage`, class requests to the interface `i`. No application callback answers
`GET_REPORT`. -/
def hidSetupStage.class (dev : UsbDevice) (i : Nat) (itf : HidIfHandle) : UsbdReturn × UsbDevice :=
  let reportId := lowByte dev.setup.value
  if dev.setup.request = HID_REQ_GET_REPORT then
    (if highByte dev.setup.value = 0 then .ok else .error,
      dev.modifyIf i fun itf => { itf with request := 0 })
  else if dev.setup.request = HID_REQ_SET_REPORT then
    usbdCtrlReceiveData dev (.ctrlData 0)
  else if dev.setup.request = HID_REQ_GET_IDLE then
    usbdCtrlSendData (dev.setCtrl [itf.idleRate]) (.ctrlData 0) 1
  else if dev.setup.request = HID_REQ_SET_IDLE then
    (.ok, if reportId = 0 then
        dev.modifyIf i fun itf => { itf with idleRate := highByte dev.setup.value }
      else dev)
  else (.error, dev)

/-- `hid_setupStage`. -/
def hidSetupStage (dev : UsbDevice) (i : Nat) (itf : HidIfHandle) : UsbdReturn × UsbDevice :=
  if dev.setup.type = USB_REQ_TYPE_STANDARD then hidSetupStage.standard dev itf
  else if dev.setup.type = USB_REQ_TYPE_CLASS then hidSetupStage.class dev i itf
  else (.error, dev)

/-- `hid_dataStage` of the interface `i`, whose application has no `SetReport` callback. The caller
does not check `i`; without an interface the model leaves the device alone
(`hidDataStage.strays`). -/
def hidDataStage (dev : UsbDevice) (i : Nat) : UsbDevice :=
  if dev.setup.request = HID_REQ_SET_REPORT then
    dev.modifyIf i fun itf => { itf with request := 0 }
  else dev

/-- `USBD_HID_ReportIn` of the interface `i`. -/
def usbdHidReportIn (dev : UsbDevice) (i : Nat) (data : Buffer) (length : Nat) :
    UsbdReturn × UsbDevice :=
  match dev.ifs[i]? with
  | some itf =>
      let reportId := lowByte dev.setup.value
      if itf.request ≠ 0 ∧ (reportId = 0 ∨ reportId = data 0) then
        let r := usbdCtrlSendData dev (.mem data) length
        (r.1, r.2.modifyIf i fun itf => { itf with request := 0 })
      else usbdEpSend dev itf.inEpNum (.mem data) length
  | none => (.error, dev)

/-! ### `usbd_if.c` -/

/-- `USBD_IfConfig`. -/
def usbdIfConfig (dev : UsbDevice) (cfgNum : U8) : UsbDevice :=
  if dev.configSelector ≠ cfgNum then
    -- Clear any previously selected config
    let dev := if dev.configSelector ≠ 0 then
        (List.range dev.ifs.length).foldl (fun dev i =>
          (hidDeinit dev i).modifyIf i fun itf => { itf with altSelector := 0 }) dev
      else dev
    let dev := { dev with configSelector := cfgNum }
    -- Set the new selected valid config
    if dev.configSelector ≠ 0 then (List.range dev.ifs.length).foldl hidInit dev else dev
  else dev

/-- `USBD_IfRequest`. -/
def usbdIfRequest (dev : UsbDevice) : UsbdReturn × UsbDevice :=
  let ifNum := dev.setup.indexLow.toNat
  match dev.ifs[ifNum]? with
  | some itf =>
      if dev.configSelector = 0 then (.invalid, dev)
      else if dev.setup.type = USB_REQ_TYPE_STANDARD then
        if dev.setup.request = USB_REQ_GET_INTERFACE then
          usbdCtrlSendData dev (.mem (.ofList [itf.altSelector, itf.altCount] .zero)) 1
        else if dev.setup.request = USB_REQ_SET_INTERFACE then
          let altSel := lowByte dev.setup.value
          if itf.altCount > altSel then
            let dev := hidDeinit dev ifNum
            let dev := dev.modifyIf ifNum fun itf => { itf with altSelector := altSel }
            (.ok, hidInit dev ifNum)
          else (.invalid, dev)
        else hidSetupStage dev ifNum itf
      else hidSetupStage dev ifNum itf
  | none => (.invalid, dev)

/-! ### `usbd_ep.c`: requests -/

/-- `USBD_EpRequest`. -/
def usbdEpRequest (dev : UsbDevice) : UsbdReturn × UsbDevice :=
  let epAddr := dev.setup.indexLow
  let epNum := (epAddr &&& 0xF).toNat
  if epNum ≥ USBD_MAX_EP_COUNT ∨ epNum = 0 ∨ dev.configSelector = 0 then (.invalid, dev)
  else if dev.setup.type = USB_REQ_TYPE_STANDARD then
    let ep := dev.ep epAddr
    if dev.setup.request = USB_REQ_SET_FEATURE then
      if dev.setup.value = USB_FEATURE_EP_HALT then
        (.ok, if ep.state ≠ .stall then
            let dev := usbVEpSetStall dev epAddr
            dev.setEp epAddr { dev.ep epAddr with state := .stall }
          else dev)
      else (.invalid, dev)
    else if dev.setup.request = USB_REQ_CLEAR_FEATURE then
      if dev.setup.value = USB_FEATURE_EP_HALT then
        (.ok, if ep.state = .stall then
            let dev := usbVEpClearStall dev epAddr
            dev.setEp epAddr { dev.ep epAddr with state := .idle, length := 0 }
          else dev)
      else (.invalid, dev)
    else if dev.setup.request = USB_REQ_GET_STATUS then
      usbdCtrlSendData (dev.setCtrl [if ep.state = .stall then 1 else 0, 0]) (.ctrlData 0) 2
    else (.invalid, dev)
  else (.invalid, dev)

/-! ### `usbd.c` and `usbd_desc.c`: device requests -/

/-- `USBD_GetDescriptor`. -/
def usbdGetDescriptor (dev : UsbDevice) : UsbdReturn × UsbDevice :=
  let send := fun bytes : List U8 => usbdCtrlSendData (dev.setCtrl bytes) (.ctrlData 0) bytes.length
  let type := highByte dev.setup.value
  if type = USB_DESC_TYPE_DEVICE then send (usbdDeviceDesc dev)
  else if type = USB_DESC_TYPE_CONFIGURATION then send (usbdConfigDesc dev)
  else if type = USB_DESC_TYPE_STRING then
    if lowByte dev.setup.value = USBD_ISTR_LANGID then
      usbdCtrlSendData dev (.mem (.ofList usbdLangIdDesc .zero)) usbdLangIdDesc.length
    else
      match usbdString dev with
      | some str => send (usbdGetStringDesc str)
      | none     => (.invalid, dev)
  else (.invalid, dev)

/-- `USBD_SetAddress`: the address is taken over when the request is complete. -/
def usbdSetAddress (dev : UsbDevice) : UsbdReturn × UsbDevice :=
  (if dev.setup.index = 0 ∧ dev.setup.length = 0 ∧ dev.configSelector = 0 then .ok else .invalid,
    dev)

/-- `USBD_SetConfig`. -/
def usbdSetConfig (dev : UsbDevice) : UsbdReturn × UsbDevice :=
  let cfgNum := lowByte dev.setup.value
  if cfgNum ≤ USBD_MAX_CONFIGURATION_COUNT then (.ok, usbdIfConfig dev cfgNum)
  else (.invalid, dev)

/-- `USBD_GetConfig`. -/
def usbdGetConfig (dev : UsbDevice) : UsbdReturn × UsbDevice :=
  usbdCtrlSendData (dev.setCtrl [dev.configSelector]) (.ctrlData 0) 1

/-- `USBD_GetStatus`. -/
def usbdGetStatus (dev : UsbDevice) : UsbdReturn × UsbDevice :=
  let status : U8 := (if dev.selfPowered then 1 else 0) ||| (if dev.remoteWakeup then 2 else 0)
  usbdCtrlSendData (dev.setCtrl [status, 0]) (.ctrlData 0) 2

/-- The body of `USBD_SetFeature` and `USBD_ClearFeature`: remote wakeup is the only feature. -/
def usbdFeature (remoteWakeup : Bool) (dev : UsbDevice) : UsbdReturn × UsbDevice :=
  if dev.setup.value = USB_FEATURE_REMOTE_WAKEUP then
    (.ok, { dev with remoteWakeup := remoteWakeup })
  else (.invalid, dev)

/-- `USBD_SetFeature`. -/
def usbdSetFeature (dev : UsbDevice) : UsbdReturn × UsbDevice := usbdFeature true dev

/-- `USBD_ClearFeature`. -/
def usbdClearFeature (dev : UsbDevice) : UsbdReturn × UsbDevice := usbdFeature false dev

/-- `USBD_DevRequest`. -/
def usbdDevRequest (dev : UsbDevice) : UsbdReturn × UsbDevice :=
  if dev.setup.type = USB_REQ_TYPE_STANDARD then
    if dev.setup.request = USB_REQ_GET_DESCRIPTOR then usbdGetDescriptor dev
    else if dev.setup.request = USB_REQ_SET_ADDRESS then usbdSetAddress dev
    else if dev.setup.request = USB_REQ_SET_CONFIGURATION then usbdSetConfig dev
    else if dev.setup.request = USB_REQ_GET_CONFIGURATION then usbdGetConfig dev
    else if dev.setup.request = USB_REQ_GET_STATUS then usbdGetStatus dev
    else if dev.setup.request = USB_REQ_SET_FEATURE then usbdSetFeature dev
    else if dev.setup.request = USB_REQ_CLEAR_FEATURE then usbdClearFeature dev
    else (.invalid, dev)
  else (.invalid, dev)

/-! ### The callbacks of the peripheral driver -/

/-- The recipient's answer to the request. -/
def usbdSetupCallback.route (dev : UsbDevice) : UsbdReturn × UsbDevice :=
  if dev.setup.recipient = USB_REQ_RECIPIENT_DEVICE then usbdDevRequest dev
  else if dev.setup.recipient = USB_REQ_RECIPIENT_INTERFACE then usbdIfRequest dev
  else if dev.setup.recipient = USB_REQ_RECIPIENT_ENDPOINT then usbdEpRequest dev
  else (.invalid, dev)

/-- `USBD_SetupCallback`. -/
def usbdSetupCallback (dev : UsbDevice) : UsbDevice :=
  let r := usbdSetupCallback.route (dev.setOut 0 { dev.epOut 0 with state := .setup })
  if r.1 ≠ .ok then usbdCtrlSendError r.2
  else if r.2.setup.length = 0 then usbdCtrlSendStatus r.2
  else r.2

/-- The condition of `USBD_CtrlInCallback` for one more, empty packet. -/
def usbdNeedsZlp (dev : UsbDevice) : Bool :=
  (dev.epIn 0).length < dev.setup.length.toNat ∧ (dev.epIn 0).maxPacketSize ≤ (dev.epIn 0).length ∧
    (dev.epIn 0).length &&& ((dev.epIn 0).maxPacketSize - 1) = 0

/-- `USBD_CtrlInCallback`. -/
def usbdCtrlInCallback (dev : UsbDevice) : UsbDevice :=
  if usbdNeedsZlp dev then usbVEpSend dev 0x80 .null 0
  else
    let dev := dev.setIn 0 { dev.epIn 0 with state := .idle }
    if dev.setup.isIn then
      let dev :=
        if dev.configSelector ≠ 0 ∧ dev.setup.recipient = USB_REQ_RECIPIENT_INTERFACE then
          hidDataStage dev dev.setup.indexLow.toNat
        else dev
      usbdCtrlReceiveStatus dev
    else if dev.setup.requestType = 0x00 ∧ dev.setup.request = USB_REQ_SET_ADDRESS then
      usbVSetAddress dev (lowByte dev.setup.value &&& 0x7F)
    else dev

/-- `USBD_CtrlOutCallback`. -/
def usbdCtrlOutCallback (dev : UsbDevice) : UsbDevice :=
  if dev.setup.length ≠ 0 ∧ dev.setup.isIn = false then
    let dev :=
      if dev.configSelector ≠ 0 then hidDataStage dev dev.setup.indexLow.toNat else dev
    usbdCtrlSendStatus dev
  else dev

/-- `USBD_EpInCallback` of the IN endpoint `n`. The HID class has no `InData` callback. -/
def usbdEpInCallback (dev : UsbDevice) (n : Nat) : UsbDevice :=
  if n = 0 then usbdCtrlInCallback dev else dev.setIn n { dev.epIn n with state := .idle }

/-- `USBD_EpOutCallback` of the OUT endpoint `n`. The HID class has no `OutData` callback. -/
def usbdEpOutCallback (dev : UsbDevice) (n : Nat) : UsbDevice :=
  let dev := dev.setOut n { dev.epOut n with state := .idle }
  if n = 0 then usbdCtrlOutCallback dev else dev

/-- `USBD_ResetCallback`. -/
def usbdResetCallback (dev : UsbDevice) : UsbDevice :=
  let dev := usbVCtrlEpOpen (usbdIfConfig dev 0)
  dev.setOut 0 { dev.epOut 0 with state := .idle }

/-! ### Set-up -/

/-- `USBD_HID_MountInterface`: the interface with its handle bound to the device. -/
def usbdHidMountInterface (itf : HidIfHandle) (dev : UsbDevice) : UsbdReturn × UsbDevice :=
  if dev.ifs.length < USBD_MAX_IF_COUNT then
    let itf := { itf with altCount := 1, altSelector := 0 }
    let mps := if itf.app.inputMaxSize > USB_EP_INTR_FS_MPS then USB_EP_INTR_FS_MPS
      else itf.app.inputMaxSize
    let dev := dev.setEp itf.inEpNum
      { dev.ep itf.inEpNum with
        type := .interrupt, ifNum := dev.ifs.length, maxPacketSize := mps }
    (.ok, { dev with ifs := dev.ifs ++ [itf] })
  else (.error, dev)

/-- `USBD_Init`. -/
def usbdInit (dev : UsbDevice) (desc : UsbDescription) : UsbDevice :=
  let dev := { dev with
    desc := desc, configSelector := 0, remoteWakeup := false
    selfPowered := desc.configBits.getLsbD 6 }
  let dev := dev.setIn 0 { dev.epIn 0 with maxPacketSize := USBD_EP0_MAX_PACKET_SIZE }
  let dev := dev.setOut 0 { dev.epOut 0 with maxPacketSize := USBD_EP0_MAX_PACKET_SIZE }
  usbVInit dev

end PikvmHid
