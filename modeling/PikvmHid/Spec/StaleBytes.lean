import PikvmHid.App.CliTask

/-!
# `PikvmHid.Spec.StaleBytes`: what is left on the stack should not matter

`cmd_buf` is a local array that nothing initialises. Two calls of `handle_command` that find
the same queue and the same statics, and differ only in what the stack holds there, should
leave the same behind.
-/

set_option autoImplicit false

namespace PikvmHid

/-- The call leaves the same whatever `cmd_buf` holds at its start. -/
def StaleIndependent (env : TaskEnv) (k : Kernel) (st : KvmState) : Prop :=
  ∀ stale stale' : Buffer,
    handleCommand { env with cmdBuf := stale } k st
      = handleCommand { env with cmdBuf := stale' } k st

/-- The queue starts with no end of line. And if it starts with `MAGIC` and does not reach
the checksum at bytes 6 and 7, then it reaches byte 5, and its checksum differs from the zero
that is stored behind it. -/
structure ReadsOwnBytes (queue : List U8) : Prop where
  head : ∀ ch ∈ queue.head?, ¬ IsEol ch
  short : queue.head? = some MAGIC → queue.length < 7 →
    queue.length = 6 ∧ highByte (crc16 (.ofList queue .zero) 6) ≠ 0

end PikvmHid
