import PikvmHid.Proofs.Boundaries
import PikvmHid.Spec.Resync

/-!
# `PikvmHid.Proofs.Resync`: a frame behind a silence

A frame whose first byte is stored as the first one goes out whole: `emits_frame`. The
interrupt counts one tick less when the tick count wraps, so the byte behind more than 50
ticks is stored there unless exactly 51 pass over a wrap: `resyncs_iff`.
-/

set_option autoImplicit false

namespace PikvmHid

open Lib Lib.Machine

/-- From any byte of a frame on, with the ones before it collected: its last byte completes
it. By induction on the bytes behind. -/
theorem emits_frame {f : List U8} (hf : IsBinaryFrame f ∨ IsRawFrame f)
    (hlen : f.length ≤ UART_RX_BUF_LEN) (rest : List Interrupt) :
    ∀ (i : Interrupt) (s : UartIsr) (t : List Received) (p : List U8),
      f = p ++ i.ch :: rest.map (·.ch) →
      withByte s.lastTick s.collected i.ch i.tick = p ++ [i.ch] →
      (i :: rest).IsChain (fun a b => b.tick - a.tick ≤ 50) →
      (uartIsr.exec (s, t) (i :: rest)).2.map (·.frame)
        = t.map (·.frame) ++ (List.replicate rest.length none ++ [some f]) := by
  induction rest with
  | nil =>
      intro i s t p hsplit hbytes _
      have hsent : frameSent s i.ch i.tick = some f := by
        rw [frameSent_eq, hbytes]
        simp only [(sendFrame_iff hf hsplit).mpr rfl, if_true]
        rw [hsplit]
        rfl
      simp only [exec_cons, exec_nil, next, uartIsr, List.map_append, List.map_cons,
        List.map_nil, hsent]
      rfl
  | cons j rest ih =>
      intro i s t p hsplit hbytes hgaps
      have hmore : sendFrame ((p ++ [i.ch]).headD 0) (p ++ [i.ch]).length i.ch = false := by
        rw [Bool.eq_false_iff]
        exact fun hsend => List.cons_ne_nil _ _ ((sendFrame_iff hf hsplit).mp hsend)
      have hsent : frameSent s i.ch i.tick = none := by
        rw [frameSent_eq, hbytes]
        simp only [hmore, Bool.false_eq_true, if_false]
      -- The byte is collected, and the next one comes in time.
      obtain ⟨htick, hspec⟩ := halUartIsr_spec s i.kernel i.ch i.tick
      rw [hbytes, hmore, if_neg Bool.false_ne_true] at hspec
      have hshort : (p ++ [i.ch]).length < UART_RX_BUF_LEN := by
        rw [hsplit] at hlen
        simp only [List.length_append, List.length_cons, List.map_cons, List.length_nil] at hlen ⊢
        omega
      have hnext := withByte_within j.ch (List.isChain_cons_cons.mp hgaps).1 hshort
      rw [exec_cons, show uartIsr.next (s, t) i
        = ((halUartIsr s i.kernel i.ch i.tick).isr, t ++ [⟨i.ch, i.tick, none⟩]) by
          rw [← hsent]
          rfl,
        ih j _ _ (p ++ [i.ch]) (by simp [hsplit]) (by rw [htick, hspec.1, hnext])
          (List.isChain_cons_cons.mp hgaps).2]
      simp [List.replicate_succ]

/-- Behind a gap of more than 50 ticks the byte is stored as the first one, unless the
interrupt counts 50 of 51. -/
theorem storeIndex_eq_zero_iff {s : UartIsr} {tick : U32} (hgap : tick - s.lastTick > 50) :
    storeIndex s tick = 0 ↔ ¬ WrapHidesGap s tick := by
  have hcount : elapsedTicks s.lastTick tick > 50 ↔
      ¬ (tick < s.lastTick ∧ tick - s.lastTick = 51) := by
    rcases elapsedTicks_cases s.lastTick tick with ⟨hle, heq⟩ | ⟨hlt, heq⟩
    · rw [heq]
      exact iff_of_true hgap fun h => absurd h.1 (BitVec.not_lt.mpr hle)
    · rw [heq]
      bv_omega
  unfold storeIndex countAfterGap WrapHidesGap
  by_cases hseen : elapsedTicks s.lastTick tick > 50
  · rw [if_pos hseen]
    exact iff_of_true rfl fun h => hcount.mp hseen h.2
  · have hhidden := not_not.mp (mt hcount.mpr hseen)
    rw [if_neg hseen, and_iff_left hhidden]
    split <;> omega

/-- In every state, with whatever bytes collected, the byte behind more than 50 ticks is
stored as the first one, and a frame that starts with it goes out whole, exactly if it is
not so that a frame is under way and the tick count wraps in a gap of 51. -/
theorem resyncs_iff (s : UartIsr) (tick : U32) (hgap : tick - s.lastTick > 50) :
    Resyncs s tick ↔ ¬ WrapHidesGap s tick := by
  rw [← storeIndex_eq_zero_iff hgap]
  refine ⟨Resyncs.stored, fun hstored => ⟨hstored, ?_⟩⟩
  rintro i is rfl hframe
  have hbytes : withByte s.lastTick s.collected i.ch i.tick = [] ++ [i.ch] := by
    rw [withByte, ← take_storeIndex, hstored, List.take_zero]
  have hemit := emits_frame hframe.isFrame
    ((List.length_map _).trans_le hframe.length_le) is i s [] [] rfl hbytes hframe.gaps
  rwa [List.map_nil, List.nil_append] at hemit

/-- Behind one stray byte and 51 ticks. -/
theorem resyncs_after_stray_byte :
    Resyncs (uartIsr.exec (.boot, []) (interrupts [CHAR_AT] 0)).1 51 :=
  (resyncs_iff _ 51 (by decide +kernel)).mpr (by decide +kernel)

/-- The same 51 ticks over a wrap of the tick count: the byte joins the stray one. -/
theorem not_resyncs_over_wrap :
    let s := (uartIsr.exec (.boot, []) (interrupts [CHAR_AT] 0xFFFFFFFF)).1
    50 - s.lastTick = 51 ∧ ¬ Resyncs s 50 := by
  intro s
  refine ⟨by decide +kernel, fun h => ?_⟩
  exact absurd h.stored (by decide +kernel)

end PikvmHid
