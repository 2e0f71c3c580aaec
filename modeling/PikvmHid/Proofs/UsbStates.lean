import PikvmHid.Proofs.UsbPipes
import PikvmHid.Spec.UsbStates

/-!
# `PikvmHid.Proofs.UsbStates`: the handle and the register of a report endpoint agree

`PipeView` is what the two know of a report endpoint. Opening, closing, halting and resuming are
functions of it, and everything else on the control endpoint leaves it alone. `Consistent` is kept by
every step of a calm run, so the handle tells the truth about the register (`pipe_states`).
-/

set_option autoImplicit false

namespace PikvmHid

/-- A completion that is not yet handled belongs to a report under way, on a register that is `NAK`.
-/
theorem PipeState.of_ctr {state : EpState} {stat : EpStatus} (h : PipeState state stat true) :
    state = .data ∧ stat = .nak := by
  cases h
  exact ⟨rfl, rfl⟩

/-- A register that is `VALID` has a report waiting and no completion to handle. -/
theorem PipeState.of_valid {state : EpState} {ctr : Bool} (h : PipeState state .valid ctr) :
    state = .data ∧ ctr = false := by
  cases h
  exact ⟨rfl, rfl⟩

/-- An idle pipe has its register `NAK` and no completion to handle. -/
theorem PipeState.of_idle {stat : EpStatus} {ctr : Bool} (h : PipeState .idle stat ctr) :
    stat = .nak ∧ ctr = false := by
  cases h
  exact ⟨rfl, rfl⟩

/-! ### The view of a pipe -/

/-- The state of the handle, and the address, the status and the flag of the register. -/
structure PipeView where
  state : EpState
  ea : BitVec 4
  stat : EpStatus
  ctr : Bool

def pipeView (dev : UsbDevice) (itf : HidIf) : PipeView where
  state := (dev.epIn itf.epNum).state
  ea := (eprFields (dev.epr itf.regId)).ea
  stat := (eprHalf .tx (dev.epr itf.regId)).stat
  ctr := (eprHalf .tx (dev.epr itf.regId)).ctr

namespace PipeView

def opened (itf : HidIf) (v : PipeView) : PipeView := ⟨.idle, .ofNat 4 itf.epNum, .nak, v.ctr⟩

def closed (v : PipeView) : PipeView := { v with state := .closed, stat := .dis }

def halted (v : PipeView) : PipeView := { v with state := .stall, stat := .stall }

def resumed (v : PipeView) : PipeView := { v with state := .idle, stat := .nak }

end PipeView

/-- A pipe that is kept looks the same. -/
theorem Keeps.view {dev dev' : UsbDevice} {itf : HidIf} (h : Keeps dev dev' itf) :
    pipeView dev' itf = pipeView dev itf := by
  rw [pipeView, pipeView, h.ep, h.reg]

section
variable (dev : UsbDevice) (kind itf : HidIf)

/-- Storing an IN endpoint of `kind` changes the state that is seen of `kind`, and of no other pipe.
-/
theorem view_setIn (ep : UsbEp) :
    pipeView (dev.setIn kind.epNum ep) itf =
      if itf = kind then { pipeView dev itf with state := ep.state } else pipeView dev itf := by
  by_cases h : itf = kind
  · subst h
    rw [if_pos rfl, pipeView, UsbDevice.setIn_self]
    rfl
  · rw [if_neg h, pipeView, UsbDevice.setIn_of_ne _ fun h' => h (HidIf.epNum_inj h')]
    rfl

/-- OUT endpoints are not part of a pipe. -/
theorem view_setOut (n : Nat) (ep : UsbEp) : pipeView (dev.setOut n ep) itf = pipeView dev itf := rfl

/-- Writing the register of `kind` changes what is read of that register, and no other pipe. -/
theorem view_setEpr (f : U16 → U16) :
    pipeView (dev.setEpr kind.regId f) itf =
      if itf = kind then
        { pipeView dev itf with
          ea := (eprFields (f (dev.epr itf.regId))).ea
          stat := (eprHalf .tx (f (dev.epr itf.regId))).stat
          ctr := (eprHalf .tx (f (dev.epr itf.regId))).ctr }
      else pipeView dev itf := by
  by_cases h : itf = kind
  · subst h
    rw [if_pos rfl, pipeView, UsbDevice.setEpr_self]
    rfl
  · rw [if_neg h, pipeView, UsbDevice.setEpr_of_ne _ (HidIf.regId_ne h)]
    rfl

/-- `USB_EP_STATUS_SET` on the register of `kind` changes its `STAT_TX`. -/
theorem view_setStatus (s : EpStatus) :
    pipeView (dev.setEpr kind.regId (setStatus .tx s)) itf =
      if itf = kind then { pipeView dev itf with stat := s } else pipeView dev itf := by
  rw [view_setEpr]
  simp only [ea_setStatus, eprHalf_setStatus, if_true]
  rfl

/-- The data toggle is not part of the view. -/
theorem view_toggleClear :
    pipeView (dev.setEpr kind.regId (toggleClear .tx)) itf = pipeView dev itf := by
  rw [view_setEpr]
  simp only [ea_toggleClear, eprHalf_toggleClear, if_true]
  exact ite_self _

/-- `USB_EP_FLAG_CLEAR` takes the completion away and nothing else. -/
theorem view_flagClear :
    pipeView (dev.setEpr kind.regId (flagClear .tx)) itf =
      if itf = kind then { pipeView dev itf with ctr := false } else pipeView dev itf := by
  rw [view_setEpr]
  simp only [ea_flagClear, eprHalf_flagClear, if_true]
  rfl

/-- The type of an endpoint is not part of the view. -/
theorem view_setType (t : EpType) :
    pipeView (dev.setEpr kind.regId (setType t)) itf = pipeView dev itf := by
  rw [view_setEpr]
  simp only [ea_setType, eprHalf_setType]
  exact ite_self _

/-- The address is stored over zero or over itself. -/
theorem view_setAddress (hea : (eprFields (dev.epr kind.regId)).ea = 0 ∨
      (eprFields (dev.epr kind.regId)).ea = .ofNat 4 kind.epNum) :
    pipeView (dev.setEpr kind.regId (setAddress kind.inEpNum)) itf =
      if itf = kind then { pipeView dev itf with ea := .ofNat 4 kind.epNum }
      else pipeView dev itf := by
  rw [view_setEpr]
  by_cases h : itf = kind
  · subst h
    have hor : (eprFields (setAddress itf.inEpNum (dev.epr itf.regId))).ea = .ofNat 4 itf.epNum := by
      rw [ea_setAddress]
      rcases hea with hea | hea <;> rw [hea] <;> cases itf <;> decide
    rw [if_pos rfl, if_pos rfl, hor, eprHalf_setAddress]
    rfl
  · rw [if_neg h, if_neg h]

end

/-! ### Opening, closing, halting -/

section
variable {dev : UsbDevice} (h : Allocated dev) (kind itf : HidIf)
include h

/-- `USBD_EpClose` closes its own pipe and leaves the others. -/
theorem Allocated.view_epClose :
    pipeView (usbdEpClose dev kind.inEpNum) itf =
      if itf = kind then (pipeView dev itf).closed else pipeView dev itf := by
  have hreg := (h.tables.report kind).regId
  simp only [usbdEpClose, usbVEpClose, ep_inEpNum, setEp_inEpNum, epHalfOf_inEpNum, hreg, view_setIn,
    view_setStatus, view_toggleClear]
  split <;> rfl

/-- `USBD_EpOpen` opens its own pipe and leaves the others. -/
theorem Allocated.view_epOpen (type : EpType) (mps : Nat) :
    pipeView (usbdEpOpen dev kind.inEpNum type mps) itf =
      if itf = kind then (pipeView dev itf).opened itf else pipeView dev itf := by
  have hreg := (h.tables.report kind).regId
  simp only [usbdEpOpen, usbVEpOpen, ep_inEpNum, setEp_inEpNum, epHalfOf_inEpNum, hreg, view_setIn,
    UsbDevice.setIn_self, view_setStatus, view_toggleClear]
  rw [view_setAddress, view_setType, view_setIn]
  · by_cases hk : itf = kind
    · subst hk
      simp only [if_true]
      rfl
    · simp only [if_neg hk]
  · rw [UsbDevice.setEpr_self, ea_setType]
    exact h.registers.addr kind

end

/-- An address names the endpoint of an interface, whatever its bits 4 to 6 are. -/
def HidIf.Named (itf : HidIf) (epAddr : U8) : Prop :=
  isInAddr epAddr = true ∧ epIndex epAddr = itf.epNum

instance (itf : HidIf) (epAddr : U8) : Decidable (itf.Named epAddr) :=
  inferInstanceAs (Decidable (_ ∧ _))

/-- An endpoint address names one interface at most. -/
theorem HidIf.Named.iff_eq {kind : HidIf} {epAddr : U8} (hk : kind.Named epAddr) (itf : HidIf) :
    itf.Named epAddr ↔ itf = kind := by
  constructor
  · intro hi
    exact HidIf.epNum_inj (hi.2.symm.trans hk.2)
  · rintro rfl
    exact hk

/-- The address of a report endpoint is an IN address. -/
theorem HidIf.Named.epHalfOf {kind : HidIf} {epAddr : U8} (hk : kind.Named epAddr) :
    epHalfOf epAddr = .tx := if_pos hk.1

/-- The endpoint behind such an address is the IN endpoint of the interface. -/
theorem HidIf.Named.ep {kind : HidIf} {epAddr : U8} (hk : kind.Named epAddr) (dev : UsbDevice) :
    dev.ep epAddr = dev.epIn kind.epNum := by
  rw [UsbDevice.ep, if_pos hk.1, hk.2]

/-- An address that names neither has the control register. -/
theorem Allocated.regId_of_unnamed {dev : UsbDevice} (h : Allocated dev) {epAddr : U8}
    (hk : ∀ kind : HidIf, ¬ kind.Named epAddr) : (dev.ep epAddr).regId = 0 := by
  rw [UsbDevice.ep]
  by_cases hin : isInAddr epAddr = true
  · rw [if_pos hin]
    exact (h.tables.inRest _ fun kind hn => hk kind ⟨hin, hn⟩).regId
  · rw [if_neg hin]
    exact (h.tables.out _).regId

/-- The register of the control endpoint is not part of a pipe. -/
theorem view_setEpr0 (dev : UsbDevice) (itf : HidIf) (f : U16 → U16) :
    pipeView (dev.setEpr 0 f) itf = pipeView dev itf :=
  (keeps_setEpr_of_ne itf.regId_ne_zero f).view

/-- Storing an endpoint by its address changes the state of the pipe it names. -/
theorem view_setEp (dev : UsbDevice) (epAddr : U8) (ep : UsbEp) (itf : HidIf) :
    pipeView (dev.setEp epAddr ep) itf =
      if itf.Named epAddr then { pipeView dev itf with state := ep.state } else pipeView dev itf := by
  rw [UsbDevice.setEp]
  by_cases hin : isInAddr epAddr = true
  · rw [if_pos hin]
    by_cases hk : itf.Named epAddr
    · rw [if_pos hk, hk.2, view_setIn, if_pos rfl]
    · rw [if_neg hk, pipeView, UsbDevice.setIn_of_ne _ fun hn => hk ⟨hin, hn.symm⟩]
      rfl
  · rw [if_neg hin, if_neg fun hk => hin hk.1]
    rfl

section
variable {dev : UsbDevice} (h : Allocated dev) (epAddr : U8) (itf : HidIf)
include h

/-- `USB_vEpSetStall` stalls the pipe that is named. -/
theorem Allocated.view_setStall :
    pipeView (usbVEpSetStall dev epAddr) itf =
      if itf.Named epAddr then { pipeView dev itf with stat := .stall } else pipeView dev itf := by
  rw [usbVEpSetStall]
  by_cases hk : ∃ kind : HidIf, kind.Named epAddr
  · obtain ⟨kind, hk⟩ := hk
    simp only [hk.ep, hk.epHalfOf, (h.tables.report kind).regId, view_setStatus, hk.iff_eq]
  · have hunnamed : ∀ kind : HidIf, ¬ kind.Named epAddr := fun kind hn => hk ⟨kind, hn⟩
    rw [h.regId_of_unnamed hunnamed, view_setEpr0, if_neg (hunnamed itf)]

/-- `USB_vEpClearStall` makes the pipe that is named `NAK`. -/
theorem Allocated.view_clearStall :
    pipeView (usbVEpClearStall dev epAddr) itf =
      if itf.Named epAddr then { pipeView dev itf with stat := .nak } else pipeView dev itf := by
  rw [usbVEpClearStall]
  by_cases hk : ∃ kind : HidIf, kind.Named epAddr
  · obtain ⟨kind, hk⟩ := hk
    simp only [hk.ep, hk.epHalfOf, (h.tables.report kind).regId, hk.1, if_true, view_setStatus,
      view_toggleClear, hk.iff_eq]
  · have hunnamed : ∀ kind : HidIf, ¬ kind.Named epAddr := fun kind hn => hk ⟨kind, hn⟩
    rw [h.regId_of_unnamed hunnamed]
    simp only [view_setEpr0, if_neg (hunnamed itf)]

end

/-! ### Changing the configuration -/

/-- The interface handles are not part of a pipe. -/
theorem view_modifyIf (dev : UsbDevice) (i : Nat) (f : HidIfHandle → HidIfHandle) (itf : HidIf) :
    pipeView (dev.modifyIf i f) itf = pipeView dev itf := rfl

section
variable {dev : UsbDevice} (h : Allocated dev) (kind itf : HidIf)
include h

/-- `HID_Deinit` closes the pipe of its interface. -/
theorem Allocated.view_hidDeinit :
    pipeView (hidDeinit dev kind.index) itf =
      if itf = kind then (pipeView dev itf).closed else pipeView dev itf := by
  obtain ⟨hif, hget, hep, -⟩ := h.tables.ifs.getElem? kind
  rw [hidDeinit, hget]
  dsimp only
  rw [hep, h.view_epClose]

/-- `HID_Init` opens the pipe of its interface. -/
theorem Allocated.view_hidInit :
    pipeView (hidInit dev kind.index) itf =
      if itf = kind then (pipeView dev itf).opened itf else pipeView dev itf := by
  obtain ⟨hif, hget, hep, -⟩ := h.tables.ifs.getElem? kind
  rw [hidInit, hget]
  dsimp only
  rw [view_modifyIf, hep, h.view_epOpen]

end

/-- Both interfaces, one after the other. -/
theorem foldl_ifs {dev : UsbDevice} (h : IfsMounted dev.ifs) (f : UsbDevice → Nat → UsbDevice) :
    (List.range dev.ifs.length).foldl f dev = f (f dev HidIf.hidKbIf.index) HidIf.hidMsIf.index := by
  have hlen : dev.ifs.length = 2 := by
    have hmap := congrArg List.length h
    simpa using hmap
  rw [hlen]
  rfl

/-- The configuration and the pending reset. -/
def configReset (dev : UsbDevice) : U8 × Bool := (dev.configSelector, dev.reset)

/-- Equal pairs have equal parts. -/
theorem configReset_eq {dev dev' : UsbDevice} (h : configReset dev' = configReset dev) :
    dev'.configSelector = dev.configSelector ∧ dev'.reset = dev.reset :=
  Prod.mk.inj h

/-- Transfers on endpoints touch neither the selected configuration nor the reset line. -/
theorem ignored_configReset : Ignored configReset where
  setIn _ _ _ := rfl
  setOut _ _ _ := rfl
  setPma _ _ := rfl
  setCtrl _ _ := rfl
  modifyIf _ _ _ := rfl
  remoteWakeup _ _ := rfl
  setStatus _ _ _ _ := rfl
  toggleClear _ _ _ := rfl
  setType _ _ _ := rfl
  setAddress _ _ _ := rfl

/-- `USBD_IfConfig` stores the configuration it is given. -/
theorem configSelector_ifConfig (dev : UsbDevice) (cfgNum : U8) :
    (usbdIfConfig dev cfgNum).configSelector = cfgNum := by
  rw [usbdIfConfig]
  split
  · dsimp only
    split
    · exact congrArg Prod.fst (Ignored.foldl _ ignored_configReset.hidInit _)
    · rfl
  · rename_i hsame
    exact not_not.mp hsame

/-- What is done to each interface is done to all pipes. -/
theorem Allocated.view_foldl {dev : UsbDevice} (h : Allocated dev) {f : UsbDevice → Nat → UsbDevice}
    {g : HidIf → PipeView → PipeView} (hf : ∀ dev i, Settled dev (f dev i))
    (hview : ∀ {dev : UsbDevice}, Allocated dev → ∀ kind itf : HidIf,
      pipeView (f dev kind.index) itf =
      if itf = kind then g itf (pipeView dev itf) else pipeView dev itf) (itf : HidIf) :
    pipeView ((List.range dev.ifs.length).foldl f dev) itf = g itf (pipeView dev itf) := by
  have hfirst := (hf dev HidIf.hidKbIf.index h).1
  rw [foldl_ifs h.tables.ifs, hview hfirst, hview h]
  cases itf <;> rfl

/-- Another configuration closes the pipes and, unless it is none, opens them. -/
theorem Allocated.view_ifConfig {dev : UsbDevice} (h : Allocated dev) {cfgNum : U8}
    (hne : dev.configSelector ≠ cfgNum) (itf : HidIf) :
    pipeView (usbdIfConfig dev cfgNum) itf =
      if cfgNum = 0 then (pipeView dev itf).closed else (pipeView dev itf).opened itf := by
  let close : UsbDevice → Nat → UsbDevice := fun dev i =>
    (hidDeinit dev i).modifyIf i fun itf => { itf with altSelector := 0 }
  have hsettled : ∀ dev i, Settled dev (close dev i) := fun dev i =>
    Settled.after (settled_modifyIf _ i fun _ => ⟨rfl, rfl, id⟩) (settled_hidDeinit dev i)
  have hclose := (settled_foldl hsettled (List.range dev.ifs.length) dev h).1
  have hclosed := h.view_foldl (g := fun _ => PipeView.closed) hsettled
    (fun ha kind itf => ha.view_hidDeinit kind itf) itf
  have hopen : ∀ dev' : UsbDevice, Allocated dev' →
      pipeView ((List.range dev'.ifs.length).foldl hidInit dev') itf =
        (pipeView dev' itf).opened itf :=
    fun dev' ha => ha.view_foldl settled_hidInit (fun ha kind itf => ha.view_hidInit kind itf) itf
  have hselect : ∀ dev' : UsbDevice, Settled dev' { dev' with configSelector := cfgNum } :=
    fun dev' => settled_of_eq id rfl rfl rfl rfl
  rw [usbdIfConfig, if_pos hne]
  dsimp only
  -- `USBD_IfConfig` closes the old configuration, if any, and opens the new one, if any.
  by_cases hcfg : cfgNum = 0
  · rw [if_neg (not_not.mpr hcfg), if_pos hcfg, if_pos fun h0 => hne (h0.trans hcfg.symm)]
    exact hclosed
  · rw [if_pos hcfg, if_neg hcfg]
    by_cases hzero : dev.configSelector = 0
    · rw [if_neg (not_not.mpr hzero)]
      exact hopen _ (hselect dev h).1
    · rw [if_pos hzero]
      refine (hopen _ (hselect _ hclose).1).trans ?_
      show (pipeView ((List.range dev.ifs.length).foldl close dev) itf).opened itf = _
      rw [hclosed]
      rfl

/-! ### The handle and the register agree -/

/-- What is kept of a pipe in a configuration. Until a bus reset is served the address may be zero
though the pipe is open. An idle pipe has nothing to send and nothing to handle, even then. -/
structure PipeView.Good (v : PipeView) (itf : HidIf) (config : U8) (reset : Bool) : Prop where
  closed_iff : v.state = .closed ↔ config = 0
  dis : config = 0 → v.stat = .dis
  states : v.ea = .ofNat 4 itf.epNum → PipeState v.state v.stat v.ctr
  unaddressed : reset = false → v.ea ≠ .ofNat 4 itf.epNum → v.state = .closed ∧ v.ctr = false
  quiet : v.state = .idle → v.stat ≠ .valid ∧ v.ctr = false

namespace PipeView.Good

variable {v : PipeView} {itf : HidIf} {config : U8} {reset : Bool}

/-- A closed pipe in no configuration. -/
theorem closed (hctr : v.ctr = false) : v.closed.Good itf 0 reset where
  closed_iff := iff_of_true rfl rfl
  dis _ := rfl
  states _ := by
    show PipeState .closed .dis v.ctr
    rw [hctr]
    exact .closed
  unaddressed _ _ := ⟨rfl, hctr⟩
  quiet hidle := absurd hidle (by simp [PipeView.closed])

/-- An endpoint just opened agrees with its register, if no completion was left over. -/
theorem opened (hctr : v.ctr = false) (hconfig : config ≠ 0) :
    (v.opened itf).Good itf config reset where
  closed_iff := iff_of_false (by simp [PipeView.opened]) hconfig
  dis h0 := absurd h0 hconfig
  states _ := by
    show PipeState .idle .nak v.ctr
    rw [hctr]
    exact .idle
  unaddressed _ hea := absurd rfl hea
  quiet _ := ⟨by simp [PipeView.opened], hctr⟩

/-- An open pipe that goes to another state stays addressed. -/
theorem of_open (h : v.Good itf config reset) (hconfig : config ≠ 0) {v' : PipeView}
    (hea : v'.ea = v.ea) (hstate : v'.state ≠ .closed)
    (hstates : v.ea = .ofNat 4 itf.epNum → PipeState v'.state v'.stat v'.ctr)
    (hquiet : v'.state = .idle → v'.stat ≠ .valid ∧ v'.ctr = false) :
    v'.Good itf config reset where
  closed_iff := iff_of_false hstate hconfig
  dis h0 := absurd h0 hconfig
  states hown := hstates (hea.symm.trans hown)
  unaddressed hreset hne := by
    have hclosed := (h.unaddressed hreset fun hown => hne (hea.trans hown)).1
    exact absurd (h.closed_iff.mp hclosed) hconfig
  quiet := hquiet

/-- So does one the host has just halted. -/
theorem halted (h : v.Good itf config reset) (hctr : v.ctr = false) (hconfig : config ≠ 0) :
    v.halted.Good itf config reset := by
  refine h.of_open hconfig rfl (by simp [PipeView.halted]) (fun _ => ?_) fun hidle => ?_
  · show PipeState .stall .stall v.ctr
    rw [hctr]
    exact .halted
  · exact absurd hidle (by simp [PipeView.halted])

/-- And one whose halt the host has just cleared. -/
theorem resumed (h : v.Good itf config reset) (hctr : v.ctr = false) (hconfig : config ≠ 0) :
    v.resumed.Good itf config reset := by
  refine h.of_open hconfig rfl (by simp [PipeView.resumed]) (fun _ => ?_) fun _ => ?_
  · show PipeState .idle .nak v.ctr
    rw [hctr]
    exact .idle
  · exact ⟨by simp [PipeView.resumed], hctr⟩

end PipeView.Good

def Consistent (dev : UsbDevice) : Prop :=
  ∀ itf, (pipeView dev itf).Good itf dev.configSelector dev.reset

/-- No completion of a report waits. -/
structure QuietPipes (dev : UsbDevice) : Prop where
  consistent : Consistent dev
  ctr : ∀ itf, (pipeView dev itf).ctr = false

/-- A change that keeps a quiet device so. -/
def Steady (dev dev' : UsbDevice) : Prop :=
  Allocated dev → QuietPipes dev → Allocated dev' ∧ QuietPipes dev'

/-- A device that does not change stays consistent. -/
theorem Steady.refl (dev : UsbDevice) : Steady dev dev := fun ha hq => ⟨ha, hq⟩

/-- Steady changes compose. -/
theorem Steady.after {a b c : UsbDevice} (h' : Steady b c) (h : Steady a b) : Steady a c := by
  intro ha hq
  obtain ⟨hb, hqb⟩ := h ha hq
  exact h' hb hqb

/-- Consistency depends on the views, the configuration and the reset line only. -/
theorem Consistent.of_view {dev dev' : UsbDevice} (h : Consistent dev)
    (hview : ∀ itf, pipeView dev' itf = pipeView dev itf)
    (hconf : configReset dev' = configReset dev) : Consistent dev' := by
  intro itf
  rw [hview, (configReset_eq hconf).1, (configReset_eq hconf).2]
  exact h itf

/-- A change on the control endpoint keeps the pipes consistent. -/
theorem UsbFramed.steady {dev dev' : UsbDevice} (hf : UsbFramed dev dev')
    (hconf : configReset dev' = configReset dev) : Steady dev dev' := by
  intro ha hq
  obtain ⟨ha', hkeeps⟩ := hf ha
  refine ⟨ha', hq.consistent.of_view (fun itf => (hkeeps itf).view) hconf, fun itf => ?_⟩
  rw [(hkeeps itf).view]
  exact hq.ctr itf

/-! ### Requests -/

/-- `USBD_IfConfig` leaves every pipe open or every pipe closed, as the new configuration asks. -/
theorem steady_ifConfig (dev : UsbDevice) (cfgNum : U8) : Steady dev (usbdIfConfig dev cfgNum) := by
  intro ha hq
  refine ⟨(settled_ifConfig dev cfgNum ha).1, ?_⟩
  by_cases hne : dev.configSelector = cfgNum
  · rw [usbdIfConfig, if_neg (not_not.mpr hne)]
    exact hq
  · have hview := ha.view_ifConfig hne
    refine ⟨fun itf => ?_, fun itf => ?_⟩
    · rw [configSelector_ifConfig, hview]
      split
      · rename_i h0
        rw [h0]
        exact .closed (hq.ctr itf)
      · rename_i h0
        exact .opened (hq.ctr itf) h0
    · rw [hview]
      split <;> exact hq.ctr itf

/-- A device whose pipes are those of a quiet one, but for one that was opened, halted or
resumed. -/
theorem QuietPipes.of_cases {dev dev' : UsbDevice} (h : QuietPipes dev)
    (hconf : configReset dev' = configReset dev) (hconfig : dev.configSelector ≠ 0)
    (hview : ∀ itf, pipeView dev' itf = pipeView dev itf ∨
      pipeView dev' itf = (pipeView dev itf).opened itf ∨
      pipeView dev' itf = (pipeView dev itf).halted ∨
      pipeView dev' itf = (pipeView dev itf).resumed) :
    QuietPipes dev' := by
  obtain ⟨hc, hr⟩ := configReset_eq hconf
  constructor
  · intro itf
    rw [hc, hr]
    rcases hview itf with hv | hv | hv | hv <;> rw [hv]
    · exact h.consistent itf
    · exact .opened (h.ctr itf) hconfig
    · exact (h.consistent itf).halted (h.ctr itf) hconfig
    · exact (h.consistent itf).resumed (h.ctr itf) hconfig
  · intro itf
    rcases hview itf with hv | hv | hv | hv <;> rw [hv] <;> exact h.ctr itf

/-- A request to an interface is steady. -/
theorem steady_ifRequest (dev : UsbDevice) : Steady dev (usbdIfRequest dev).2 := by
  have hconf := ignored_configReset.ifRequest dev
  by_cases hset : dev.setup.type = USB_REQ_TYPE_STANDARD ∧ dev.setup.request = USB_REQ_SET_INTERFACE
  · intro ha hq
    refine ⟨(settled_ifRequest dev ha).1, ?_⟩
    rw [usbdIfRequest] at hconf ⊢
    dsimp only at hconf ⊢
    split
    · rename_i hif hget
      simp only [hget, hset.1, hset.2, if_pos] at hconf ⊢
      split_ifs at hconf ⊢ with hzero hget' halt
      · exact hq
      · exact absurd hget' (by decide)
      · -- The interface is closed and opened again.
        obtain ⟨kind, hindex, -⟩ := ha.tables.ifs.cases hget
        rw [hindex] at hconf ⊢
        refine hq.of_cases hconf hzero fun itf => ?_
        have hclose := (settled_hidDeinit dev kind.index ha).1
        have hmid := (settled_modifyIf (hidDeinit dev kind.index) kind.index
          (f := fun itf => { itf with altSelector := lowByte dev.setup.value })
          (fun _ => ⟨rfl, rfl, id⟩) hclose).1
        rw [hmid.view_hidInit, view_modifyIf, ha.view_hidDeinit]
        by_cases hk : itf = kind
        · rw [if_pos hk, if_pos hk]
          exact .inr (.inl rfl)
        · rw [if_neg hk, if_neg hk]
          exact .inl rfl
      · exact hq
    · exact hq
  · exact (framed_ifRequest hset).steady hconf

/-- So is one to an endpoint, halts included. -/
theorem steady_epRequest (dev : UsbDevice) : Steady dev (usbdEpRequest dev).2 := by
  have hconf := ignored_configReset.epRequest dev
  by_cases hset : dev.setup.type = USB_REQ_TYPE_STANDARD ∧
      (dev.setup.request = USB_REQ_SET_FEATURE ∨ dev.setup.request = USB_REQ_CLEAR_FEATURE)
  · intro ha hq
    refine ⟨(settled_epRequest dev ha).1, ?_⟩
    rw [usbdEpRequest] at hconf ⊢
    dsimp only at hconf ⊢
    split_ifs at hconf ⊢ with hno htype hfeature hvalue hstall hclear hvalue' hstall' hget
    -- What is left are the two halt requests, which change the named pipe.
    all_goals try exact hq
    · refine hq.of_cases hconf (fun h0 => hno (.inr (.inr h0))) fun itf => ?_
      rw [view_setEp, ha.view_setStall]
      by_cases hk : itf.Named dev.setup.indexLow
      · rw [if_pos hk, if_pos hk]
        exact .inr (.inr (.inl rfl))
      · rw [if_neg hk, if_neg hk]
        exact .inl rfl
    · refine hq.of_cases hconf (fun h0 => hno (.inr (.inr h0))) fun itf => ?_
      rw [view_setEp, ha.view_clearStall]
      by_cases hk : itf.Named dev.setup.indexLow
      · rw [if_pos hk, if_pos hk]
        exact .inr (.inr (.inr rfl))
      · rw [if_neg hk, if_neg hk]
        exact .inl rfl
    · exact absurd hset.2 (not_or.mpr ⟨hfeature, hclear⟩)
    · exact absurd hset.2 (not_or.mpr ⟨hfeature, hclear⟩)
  · exact (framed_epRequest hset).steady hconf

/-- So is one to the device, `SET_CONFIGURATION` included. -/
theorem steady_devRequest (dev : UsbDevice) : Steady dev (usbdDevRequest dev).2 := by
  by_cases hset : dev.setup.type = USB_REQ_TYPE_STANDARD ∧
      dev.setup.request = USB_REQ_SET_CONFIGURATION
  · have hconfig : usbdDevRequest dev = usbdSetConfig dev := by
      simp [usbdDevRequest, hset]
    rw [hconfig, usbdSetConfig]
    split
    · exact steady_ifConfig dev _
    · exact Steady.refl dev
  · exact (framed_devRequest hset).steady
      (ignored_configReset.devRequest dev fun htype hreq => absurd ⟨htype, hreq⟩ hset)

/-- So is whatever `USBD_SetupCallback` is asked for. -/
theorem steady_setupCallback (dev : UsbDevice) : Steady dev (usbdSetupCallback dev) := by
  have hstate : UsbFramed dev (dev.setOut 0 { dev.epOut 0 with state := .setup }) :=
    framed_setOut rfl rfl rfl
  have hsetup := hstate.steady (ignored_configReset.setOut dev 0 _)
  have hroute : ∀ dev' : UsbDevice, Steady dev' (usbdSetupCallback.route dev').2 := by
    intro dev'
    rw [usbdSetupCallback.route]
    split_ifs
    · exact steady_devRequest dev'
    · exact steady_ifRequest dev'
    · exact steady_epRequest dev'
    · exact Steady.refl dev'
  have herror : ∀ dev' : UsbDevice, Steady dev' (usbdCtrlSendError dev') := fun dev' =>
    (framed_ctrlSendError dev').steady (ignored_configReset.ctrlSendError dev')
  have hstatus : ∀ dev' : UsbDevice, Steady dev' (usbdCtrlSendStatus dev') := fun dev' =>
    (framed_ctrlSendStatus dev').steady (ignored_configReset.ctrlSendStatus dev')
  rw [usbdSetupCallback]
  dsimp only
  split_ifs
  · exact Steady.after (herror _) (Steady.after (hroute _) hsetup)
  · exact Steady.after (hstatus _) (Steady.after (hroute _) hsetup)
  · exact Steady.after (hroute _) hsetup

/-! ### The interrupt handler -/

section
variable (dev : UsbDevice) (epId n : Nat)

/-- An OUT packet changes neither the configuration nor the reset line. -/
theorem configReset_irq_out : configReset (usbVIRQHandler.out dev epId n) = configReset dev :=
  (ignored_configReset.irq_out dev (fun _ _ => rfl) epId n).trans rfl

/-- Nor does a completed IN transaction. -/
theorem configReset_irq_in : configReset (usbVIRQHandler.in dev epId n) = configReset dev :=
  (ignored_configReset.irq_in dev (fun _ _ => rfl) epId n).trans rfl

end

/-- Nor does a request that does not reconfigure. -/
theorem configReset_irq_setup {dev : UsbDevice} {epId : Nat}
    (h : ¬ (bufferedSetup dev epId).Reconfigures) :
    configReset (usbVIRQHandler.setup dev epId) = configReset dev := by
  rw [usbVIRQHandler.setup]
  refine (ignored_configReset.setupCallback _ fun dev' _ htype hdev hset => ?_).trans rfl
  exact absurd ⟨htype, .inl ⟨hdev, hset⟩⟩ h

/-- The packet of the control register: of a quiet device every request, else one that does not
reconfigure. -/
theorem Allocated.consistent_round0 {dev : UsbDevice} (h : Allocated dev) (hc : Consistent dev)
    (hcalm : Reconfiguring dev → ∀ itf, (pipeView dev itf).ctr = false) :
    Consistent (usbVIRQHandler.round dev 0) := by
  have hnum : (dev.epr 0 &&& USB_EPADDR_FIELD).toNat = 0 := h.num_ctrl
  have hin : ∀ mid : UsbDevice, Allocated mid → Consistent mid →
      Consistent (usbVIRQHandler.in mid 0 0) := fun mid ha hmid =>
    hmid.of_view (fun itf => ((framed_irq_in0 mid ha).2 itf).view) (configReset_irq_in mid 0 0)
  have hrx : Allocated (if dev.epr 0 &&& USB_EP_CTR_RX ≠ 0 then
      if dev.epr 0 &&& USB_EP_SETUP ≠ 0 then usbVIRQHandler.setup dev 0
      else usbVIRQHandler.out dev 0 0 else dev) ∧
      Consistent (if dev.epr 0 &&& USB_EP_CTR_RX ≠ 0 then
        if dev.epr 0 &&& USB_EP_SETUP ≠ 0 then usbVIRQHandler.setup dev 0
        else usbVIRQHandler.out dev 0 0 else dev) := by
    split_ifs with hctr hsetup
    · -- A request that may move the pipes is served only while they are quiet.
      by_cases hreq : (bufferedSetup dev 0).Reconfigures
      · have hquiet :=
          hcalm ⟨(and_ctr_ne_zero_iff .rx _).mp hctr, (and_setup_ne_zero_iff _).mp hsetup, hreq⟩
        have hsteady : Steady dev (usbVIRQHandler.setup dev 0) := by
          rw [usbVIRQHandler.setup]
          exact Steady.after (steady_setupCallback _) ((framed_storeSetup dev _).steady rfl)
        obtain ⟨ha, hq⟩ := hsteady h ⟨hc, hquiet⟩
        exact ⟨ha, hq.consistent⟩
      · obtain ⟨ha, hkeeps⟩ := framed_irq_setup hreq h
        exact ⟨ha, hc.of_view (fun itf => (hkeeps itf).view) (configReset_irq_setup hreq)⟩
    · obtain ⟨ha, hkeeps⟩ := framed_irq_out dev 0 h
      exact ⟨ha, hc.of_view (fun itf => (hkeeps itf).view) (configReset_irq_out dev 0 0)⟩
    · exact ⟨h, hc⟩
  rw [usbVIRQHandler.round, hnum]
  split
  · exact hin _ hrx.1 hrx.2
  · exact hrx.2

/-- The completion of a pipe that has lost its address is taken for one of the control endpoint. -/
theorem Allocated.view_irq_in0 {dev : UsbDevice} (h : Allocated dev) (kind itf : HidIf) :
    pipeView (usbVIRQHandler.in dev kind.regId 0) itf =
      if itf = kind then { pipeView dev itf with ctr := false } else pipeView dev itf := by
  have hflag := ((shuts_flagClear .tx).settled kind h).1
  have hframed :
      UsbFramed (dev.setEpr kind.regId (flagClear .tx)) (usbVIRQHandler.in dev kind.regId 0) := by
    rw [usbVIRQHandler.in]
    split
    · rw [usbdEpInCallback, if_pos rfl]
      exact UsbFramed.after (framed_ctrlInCallback _) (framed_setIn0 rfl rfl rfl)
    · exact UsbFramed.after (framed_transmitPacket0 _) (framed_setIn0 rfl rfl rfl)
  rw [((hframed hflag).2 itf).view, view_flagClear]

/-- The round that takes the completion of a pipe ends its report, and leaves the others. -/
theorem Allocated.consistent_round_pipe {dev : UsbDevice} (h : Allocated dev) (hc : Consistent dev)
    (kind : HidIf) (hflag : flag dev .tx kind.regId = true) :
    Consistent (usbVIRQHandler.round dev kind.regId) := by
  have hctr : (pipeView dev kind).ctr = true := hflag
  have hgood := hc kind
  rcases h.registers.addr kind with hzero | hown
  · have hround : usbVIRQHandler.round dev kind.regId = usbVIRQHandler.in dev kind.regId 0 :=
      round_eq_in (by rw [hzero]; rfl) (h.registers.rx kind).2 hflag
    obtain ⟨hconfig, hreset⟩ := configReset_eq (configReset_irq_in dev kind.regId 0)
    rw [hround]
    intro itf
    rw [h.view_irq_in0, hconfig, hreset]
    by_cases hk : itf = kind
    · subst hk
      rw [if_pos rfl]
      refine ⟨hgood.closed_iff, hgood.dis, fun hea => ?_,
        fun hr hne => ⟨(hgood.unaddressed hr hne).1, rfl⟩, fun hidle => ⟨(hgood.quiet hidle).1, rfl⟩⟩
      -- The address is zero, which is no report endpoint's.
      have h0 : (0 : BitVec 4) = .ofNat 4 itf.epNum := hzero.symm.trans hea
      exact absurd h0 (by cases itf <;> decide)
    · rw [if_neg hk]
      exact hc itf
  · obtain ⟨ep, hidle, heq⟩ := h.irq_in_pipe kind
    have hview : ∀ itf, pipeView (usbVIRQHandler.in dev kind.regId kind.epNum) itf =
        if itf = kind then { pipeView dev itf with state := .idle, ctr := false }
        else pipeView dev itf := by
      intro itf
      rw [heq, view_setIn, view_flagClear, hidle]
      by_cases hk : itf = kind
      · rw [if_pos hk, if_pos hk, if_pos hk]
      · rw [if_neg hk, if_neg hk, if_neg hk]
    obtain ⟨hconfig, hreset⟩ := configReset_eq (configReset_irq_in dev kind.regId kind.epNum)
    rw [h.round_pipe kind hown hflag]
    intro itf
    rw [hview, hconfig, hreset]
    by_cases hk : itf = kind
    · subst hk
      rw [if_pos rfl]
      have hstates := hgood.states hown
      rw [hctr] at hstates
      obtain ⟨hdata, hnak⟩ := hstates.of_ctr
      have hconfig : dev.configSelector ≠ 0 := fun h0 => by
        have hclosed := hgood.closed_iff.mpr h0
        rw [hdata] at hclosed
        exact EpState.noConfusion hclosed
      refine hgood.of_open hconfig rfl (by simp) (fun _ => ?_) fun _ => ⟨?_, rfl⟩
      · show PipeState .idle (pipeView dev itf).stat false
        rw [hnak]
        exact .idle
      · show (pipeView dev itf).stat ≠ .valid
        simp [hnak]
    · rw [if_neg hk]
      exact hc itf

/-- A pipe in no configuration is closed. -/
theorem PipeView.Good.eq_closed {v : PipeView} {itf : HidIf} {config : U8} {reset : Bool}
    (h : v.Good itf config reset) (h0 : config = 0) : v.closed = v := by
  rw [PipeView.closed, ← h.closed_iff.mpr h0, ← h.dis h0]

/-- The device reset closes the pipes. -/
theorem Allocated.consistent_resetCallback {dev : UsbDevice} (h : Allocated dev)
    (hclosed : ∀ itf, dev.configSelector = 0 → (pipeView dev itf).closed = pipeView dev itf)
    (hctr : ∀ itf, (pipeView dev itf).ctr = false) : Consistent (usbdResetCallback dev) := by
  have hconfig : (usbdResetCallback dev).configSelector = 0 := by
    have hkept : configReset (usbdResetCallback dev) = configReset (usbdIfConfig dev 0) := by
      rw [usbdResetCallback, ignored_configReset.setOut, ignored_configReset.ctrlEpOpen]
    rw [(configReset_eq hkept).1]
    exact configSelector_ifConfig dev 0
  -- `USBD_IfConfig` closes the pipes unless they are closed already.
  have hview : ∀ itf, pipeView (usbdIfConfig dev 0) itf = (pipeView dev itf).closed := by
    intro itf
    by_cases h0 : dev.configSelector = 0
    · rw [usbdIfConfig, if_neg (not_not.mpr h0), hclosed itf h0]
    · rw [h.view_ifConfig h0, if_pos rfl]
  have hopen := framed_ctrlEpOpen _ (settled_ifConfig dev 0 h).1
  have hidle :
      ∀ dev' : UsbDevice, UsbFramed dev' (dev'.setOut 0 { dev'.epOut 0 with state := .idle }) :=
    fun _ => framed_setOut rfl rfl rfl
  have hkept : ∀ itf, pipeView (usbdResetCallback dev) itf = (pipeView dev itf).closed := by
    intro itf
    rw [usbdResetCallback, ((hidle _ hopen.1).2 itf).view, (hopen.2 itf).view, hview]
  intro itf
  rw [hconfig, hkept]
  exact .closed (hctr itf)

/-- The bus reset, once every completion is handled, keeps the pipes consistent. -/
theorem Allocated.consistent_tail {dev : UsbDevice} (h : Allocated dev) (hc : Consistent dev)
    (hpending : pendingEp dev = none) : Consistent (usbVIRQHandler.tail dev) := by
  rw [usbVIRQHandler.tail]
  split
  · have haddr : UsbFramed dev (usbVSetAddress { dev with reset := false } 0) :=
      framed_of_eq id rfl rfl rfl rfl
    refine (haddr h).1.consistent_resetCallback (fun itf h0 => ?_) fun itf => ?_
    · exact (hc itf).eq_closed h0
    · exact flag_of_pendingEp hpending .tx (by cases itf <;> decide)
  · exact hc

/-- So does a whole call of the handler, unless it reconfigures under a completion. -/
theorem Allocated.consistent_irq {dev : UsbDevice} (h : Allocated dev) (hc : Consistent dev)
    (hcalm : Reconfiguring dev → ∀ itf, (pipeView dev itf).ctr = false) :
    Consistent (usbVIRQHandler.step dev) := by
  rw [usbVIRQHandler.step]
  split
  · rename_i r hr
    rcases h.pendingEp_cases hr with ⟨rfl, -⟩ | ⟨itf, rfl, hflag⟩
    · exact h.consistent_round0 hc hcalm
    · exact h.consistent_round_pipe hc itf hflag
  · exact h.consistent_tail hc ‹_›

/-! ### Transactions and reports -/

/-- An IN transaction turns a waiting report into a completion. -/
theorem Allocated.consistent_busIn {dev : UsbDevice} (h : Allocated dev) (hc : Consistent dev)
    (n : Nat) (ack : Bool) : Consistent (busIn dev n ack).1 := by
  rw [busIn]
  split
  · rename_i r hr
    split_ifs with hv hack
    · have hne : dev.epr r ≠ 0 := by
        intro h0
        have hstat := (eprFor_spec hr).2
        rw [h0] at hstat
        exact hstat rfl
      rcases h.pending_cases hne with rfl | ⟨kind, rfl⟩
      · exact hc.of_view (fun itf => view_setEpr0 dev itf _) rfl
      · -- The acknowledged packet waits in a pipe that is open.
        intro itf
        show (pipeView (dev.setEpr kind.regId (hwDone .tx)) itf).Good itf dev.configSelector dev.reset
        rw [view_setEpr, fields_hwDone, ea_setHalf, eprHalf_hwDone]
        by_cases hk : itf = kind
        · subst hk
          have hgood := hc itf
          have hvalid : (pipeView dev itf).stat = .valid := hv.2
          have hconfig : dev.configSelector ≠ 0 := fun h0 => by
            have hdis := hgood.dis h0
            rw [hvalid] at hdis
            exact EpStatus.noConfusion hdis
          rw [if_pos rfl]
          refine hgood.of_open hconfig rfl (fun h0 => hconfig (hgood.closed_iff.mp h0)) (fun hown => ?_)
            fun hidle => absurd hvalid (hgood.quiet hidle).1
          have hstates := hgood.states hown
          rw [hvalid] at hstates
          show PipeState (pipeView dev itf).state .nak true
          rw [hstates.of_valid.1]
          exact .sent
        · rw [if_neg hk]
          exact hc itf
    · exact hc
    · exact hc
  · exact hc

/-- An OUT transaction is about the control endpoint. -/
theorem consistent_busOut {dev : UsbDevice} (h : Allocated dev) (hc : Consistent dev) (n : Nat)
    (bytes : List U8) : Consistent (busOut dev n bytes) := by
  refine hc.of_view (fun itf => ((framed_busOut dev n bytes h).2 itf).view) ?_
  rw [busOut]
  split
  · split_ifs <;> rfl
  · rfl

/-- So is a SETUP packet. -/
theorem consistent_busSetup {dev : UsbDevice} (h : Allocated dev) (hc : Consistent dev)
    (req : SetupRequest) : Consistent (busSetup dev req) := by
  refine hc.of_view (fun itf => ((framed_busSetup dev req h).2 itf).view) ?_
  rw [busSetup]
  split_ifs <;> rfl

/-- A bus reset takes the address away and disables the endpoint, but the handle stays as it is. -/
theorem Consistent.busReset {dev : UsbDevice} (hc : Consistent dev) : Consistent (busReset dev) := by
  intro itf
  have hhalf : eprHalf .tx (hwReset (dev.epr itf.regId)) = ⟨.dis, false, (pipeView dev itf).ctr⟩ := by
    rw [← half_eprFields, fields_hwReset]
    rfl
  have hea : (eprFields (hwReset (dev.epr itf.regId))).ea = 0 := by rw [fields_hwReset]
  refine ⟨(hc itf).closed_iff, fun _ => congrArg EprHalf.stat hhalf, fun hown => ?_, fun hr => ?_,
    fun hidle => ?_⟩
  · have h0 : (0 : BitVec 4) = .ofNat 4 itf.epNum := hea.symm.trans hown
    exact absurd h0 (by cases itf <;> decide)
  · exact absurd hr (by simp [PikvmHid.busReset])
  · show (eprHalf .tx (hwReset (dev.epr itf.regId))).stat ≠ .valid ∧
      (eprHalf .tx (hwReset (dev.epr itf.regId))).ctr = false
    rw [hhalf]
    exact ⟨by simp, ((hc itf).quiet hidle).2⟩

/-- An accepted report makes an idle pipe wait, and a refused one changes nothing. -/
theorem Allocated.consistent_reportIn {dev : UsbDevice} (h : Allocated dev) (hc : Consistent dev)
    (i : Nat) {bytes : List U8}
    (hlen : ∀ itf : HidIf, i = itf.index → bytes.length ≤ itf.reportSize) :
    Consistent (usbdHidReportIn dev i (.ofList bytes .zero) bytes.length).2 := by
  by_cases hitf : ∃ itf : HidIf, i = itf.index
  · obtain ⟨kind, rfl⟩ := hitf
    have hreport := h.reportIn kind (hlen kind rfl)
    split at hreport
    · -- An open, idle pipe takes the report; the others are not touched.
      rename_i hidle
      obtain ⟨ep, hep, hr⟩ := hreport
      rw [hr]
      intro itf
      show (pipeView (sendReport dev kind ep bytes) itf).Good itf dev.configSelector dev.reset
      have hset :
          ∀ (dev' : UsbDevice) (f : Pma → Pma), pipeView (dev'.setPma f) itf = pipeView dev' itf :=
        fun _ _ => rfl
      rw [sendReport, view_setStatus, hset, view_setIn, hep.state]
      by_cases hk : itf = kind
      · subst hk
        have hgood := hc itf
        have hstate : (pipeView dev itf).state = .idle := hidle
        -- Idle is not closed, so a configuration is selected.
        have hconfig : dev.configSelector ≠ 0 := fun h0 => by
          have hclosed := hgood.closed_iff.mpr h0
          rw [hstate] at hclosed
          exact EpState.noConfusion hclosed
        rw [if_pos rfl, if_pos rfl]
        refine hgood.of_open hconfig rfl (by simp) (fun hown => ?_) fun hidle => absurd hidle (by simp)
        have hstates := hgood.states hown
        rw [hstate] at hstates
        show PipeState .data .valid (pipeView dev itf).ctr
        rw [hstates.of_idle.2]
        exact .waits
      · rw [if_neg hk, if_neg hk]
        exact hc itf
    · rw [hreport]
      exact hc
  · rw [reportIn_of_no_interface h.tables.ifs fun itf h' => hitf ⟨itf, h'⟩]
    exact hc

/-! ### Before the first bus reset -/

/-- After `USB_vDevInit` every pipe is closed and its register disabled. -/
theorem Fresh.view {dev : UsbDevice} (h : Fresh dev) (itf : HidIf) :
    pipeView dev itf = ⟨.closed, 0, .dis, false⟩ := by
  rw [pipeView, (h.inEp itf.epNum).2.2, h.epr]
  rfl

/-- That is consistent, as no configuration is selected. -/
theorem Fresh.consistent {dev : UsbDevice} (h : Fresh dev) : Consistent dev := by
  intro itf
  have hview := h.view itf
  rw [h.configSelector, hview]
  have hclosed : (pipeView dev itf).closed.Good itf 0 dev.reset :=
    PipeView.Good.closed (congrArg PipeView.ctr hview)
  rw [hview] at hclosed
  exact hclosed

/-- Opening the control endpoint for the first time leaves the pipes closed. -/
theorem Fresh.view_ctrlEpOpen {dev : UsbDevice} (h : Fresh dev) (itf : HidIf) :
    pipeView (usbVCtrlEpOpen dev) itf = pipeView dev itf := by
  have hstate : ((usbVCtrlEpOpen dev).epIn itf.epNum).state = (dev.epIn itf.epNum).state := by
    rw [usbVCtrlEpOpen, h.mounted.allocateEPs]
    cases itf <;> rfl
  have hepr : (usbVCtrlEpOpen dev).epr itf.regId = dev.epr itf.regId := by
    rw [usbVCtrlEpOpen, prvCtrlEpOpen_epr _ itf.regId_ne_zero, h.mounted.allocateEPs]
    rfl
  rw [pipeView, pipeView, hstate, hepr]

/-- It stays so when the first bus reset closes every interface. -/
theorem Fresh.consistent_resetCallback {dev : UsbDevice} (h : Fresh dev) :
    Consistent (usbdResetCallback dev) := by
  have hconfig : usbdIfConfig dev 0 = dev := by
    rw [usbdIfConfig, if_neg (not_not.mpr h.configSelector)]
  have hkept : configReset (usbdResetCallback dev) = configReset dev := by
    rw [usbdResetCallback, hconfig, ignored_configReset.setOut, ignored_configReset.ctrlEpOpen]
  refine h.consistent.of_view (fun itf => ?_) hkept
  rw [usbdResetCallback, hconfig, view_setOut, h.view_ctrlEpOpen]

/-- And when the handler allocates the endpoints. -/
theorem Fresh.consistent_tail {dev : UsbDevice} (h : Fresh dev) :
    Consistent (usbVIRQHandler.tail dev) := by
  rw [usbVIRQHandler.tail]
  split
  · exact h.addressed.consistent_resetCallback
  · exact h.consistent

/-! ### The run -/

/-- The register of a pipe, by the number in its handle, is the one it was allocated. -/
theorem Allocated.pipeReg_eq {dev : UsbDevice} (h : Allocated dev) (itf : HidIf) :
    pipeReg dev itf = dev.epr itf.regId := by
  rw [pipeReg, (h.tables.report itf).regId]

/-- One step of a calm run keeps the pipes consistent. -/
theorem Consistent.next {c : UsbDevice × List UsbObs} (ho : ReportsInOrder c) (hc : Consistent c.1)
    {i : UsbAct}
    (hi : FitsPacket i ∧ Calm c i) : Consistent (usbMachine.next c i).1 := by
  obtain ⟨dev, obs⟩ := c
  show Consistent (usbMachine.step dev i).1
  rcases ho with ⟨hfresh, -⟩ | ⟨ha, -, -⟩
  · -- Before the first reset is served no pipe is open.
    rcases hfresh.step_cases i with hsame | ⟨-, hbus⟩ | ⟨-, -, htail, -⟩
    · rw [hsame]
      exact hc
    · rw [hbus]
      exact hc.busReset
    · rw [htail]
      exact hfresh.consistent_tail
  · cases i with
    | inToken n ack => exact ha.consistent_busIn hc n ack
    | outToken n bytes => exact consistent_busOut ha hc n bytes
    | setup req => exact consistent_busSetup ha hc req
    | busReset => exact hc.busReset
    | irq =>
        refine ha.consistent_irq hc fun hreq itf => ?_
        have hcalm := hi.2 hreq itf
        rw [ha.pipeReg_eq] at hcalm
        exact hcalm
    | reportIn i bytes => exact ha.consistent_reportIn hc i hi.1

/-- Every calm run from start-up does. -/
theorem consistent_run (pma : Pma) {is : List UsbAct}
    (h : usbMachine.Meets (fun c i => FitsPacket i ∧ Calm c i) (usbDeviceInit pma, []) is) :
    ReportsInOrder (usbMachine.exec (usbDeviceInit pma, []) is) ∧
      Consistent (usbMachine.exec (usbDeviceInit pma, []) is).1 := by
  have hfresh := fresh_usbDeviceInit pma
  exact usbMachine.invariant (I := fun c => ReportsInOrder c ∧ Consistent c.1)
    (fun c i hc hi => ⟨hc.1.next i hi.1, hc.2.next hc.1 hi⟩)
    ⟨.fresh hfresh fun _ => rfl, hfresh.consistent⟩ h

/-- Once resets are served the handle and the register are in one of the five states. -/
theorem PipeView.Good.pipeState {v : PipeView} {itf : HidIf} {config : U8}
    (h : v.Good itf config false) : PipeState v.state v.stat v.ctr := by
  by_cases hown : v.ea = .ofNat 4 itf.epNum
  · exact h.states hown
  · obtain ⟨hclosed, hctr⟩ := h.unaddressed rfl hown
    rw [hclosed, h.dis (h.closed_iff.mp hclosed), hctr]
    exact .closed

/-- The handle alone tells whether a report is accepted, and it is right about the register. -/
theorem PipeState.idle_iff {state : EpState} {stat : EpStatus} {ctr : Bool}
    (h : PipeState state stat ctr) : state = .idle ↔ stat = .nak ∧ ctr = false := by
  cases h <;> simp

/-- In every calm run without stray accesses a report endpoint is closed exactly when no configuration
is selected, and once resets are served its handle and its register are in one of the five states. So
a report is accepted when the register is `NAK` and no acknowledged one waits, and only then. -/
theorem pipe_states (pma : Pma) {is : List UsbAct}
    (h : usbMachine.Meets (fun c i => Contained c i ∧ Calm c i) (usbDeviceInit pma, []) is)
    (itf : HidIf) :
    let dev := (usbMachine.exec (usbDeviceInit pma, []) is).1
    let reg := eprHalf .tx (pipeReg dev itf)
    ((dev.epIn itf.epNum).state = .closed ↔ dev.configSelector = 0) ∧
      (dev.reset = false → PipeState (dev.epIn itf.epNum).state reg.stat reg.ctr ∧
        ∀ bytes, bytes.length ≤ itf.reportSize →
          ((usbdHidReportIn dev itf.index (.ofList bytes .zero) bytes.length).1 = .ok ↔
            reg.stat = .nak ∧ reg.ctr = false)) := by
  intro dev reg
  obtain ⟨ho, hc⟩ := consistent_run pma (usbMachine.meets_mono (fun _ _ hi => ⟨hi.1.1, hi.2⟩) h)
  have hgood := hc itf
  refine ⟨hgood.closed_iff, fun hreset => ?_⟩
  have hview : PipeState (pipeView dev itf).state (pipeView dev itf).stat (pipeView dev itf).ctr :=
    (hreset ▸ hgood).pipeState
  -- Before the first reset every pipe is closed; after it a pipe has its own register.
  rcases ho with ⟨hfresh, -⟩ | ⟨ha, -, -⟩
  · have hreg : reg = eprHalf .tx (dev.epr itf.regId) := by
      show eprHalf .tx (pipeReg dev itf) = _
      rw [pipeReg, hfresh.epr, hfresh.epr]
    rw [hreg]
    refine ⟨hview, fun bytes _ => iff_of_false (hfresh.reportIn _ _ _).1 ?_⟩
    rw [hfresh.epr]
    decide
  · have hreg : reg = eprHalf .tx (dev.epr itf.regId) := congrArg (eprHalf .tx) (ha.pipeReg_eq itf)
    rw [hreg]
    refine ⟨hview, fun bytes hlen => ?_⟩
    refine Iff.trans ?_ hview.idle_iff
    have hreport := ha.reportIn itf hlen
    show _ ↔ (dev.epIn itf.epNum).state = .idle
    by_cases hidle : (dev.epIn itf.epNum).state = .idle
    · rw [if_pos hidle] at hreport
      obtain ⟨ep, -, hr⟩ := hreport
      rw [hr]
      exact iff_of_true rfl hidle
    · rw [if_neg hidle] at hreport
      rw [hreport]
      exact iff_of_false (by simp) hidle

/-- `SET_FEATURE(ENDPOINT_HALT)` of the keyboard's endpoint. -/
def haltKeyboard : SetupRequest where
  requestType := 0x02
  request := USB_REQ_SET_FEATURE
  value := USB_FEATURE_EP_HALT
  index := 0x87
  length := 0

/-- The run is not calm when the halt comes before the acknowledgement is handled: the handle is idle
again though the register stalls. -/
example :
    let dev := (usbMachine.exec (usbDeviceInit fun _ => 0, []) (configure ++
      [.reportIn 0 [0, 0, 4, 0, 0, 0, 0, 0], .inToken 7 true, .setup haltKeyboard, .irq, .irq])).1
    (dev.epIn HidIf.hidKbIf.epNum).state = .idle ∧
      (eprHalf .tx (pipeReg dev .hidKbIf)).stat = .stall := by
  decide +kernel

end PikvmHid
