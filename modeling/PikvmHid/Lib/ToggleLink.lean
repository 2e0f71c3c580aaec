import PikvmHid.Lib.Machine

/-!
# `PikvmHid.Lib.ToggleLink`: stop and wait with a toggle bit

A sender with a queue and a toggle bit, polled by a receiver. Each poll shows the first packet with
the bit; the sender keeps it until an acknowledgement arrives, and then flips the bit and goes on
to the next one. Acknowledgements can be lost, so a packet can be shown again. The receiver takes
a packet with the bit it expects and drops any other.

* `sender`: the machine, with an offer and a poll as its labels.
* `accepted`, `received`: what went in and what the receiver has taken.
* `received_append`: in every run the receiver has taken each packet once and in order, but those
  that are still in the queue.
-/

set_option autoImplicit false

namespace Lib

namespace ToggleLink

universe u

variable {α : Type u}

/-- The sender. -/
structure Sender (α : Type u) where
  toggle : Bool
  queue : List α

/-- What the sender does next. -/
inductive Act (α : Type u) where
  | offer (a : α)
  /-- The receiver polls; `ack` when its acknowledgement arrives. -/
  | poll (ack : Bool)

/-- What can be seen of the link. -/
inductive Obs (α : Type u) where
  | accepted (a : α)
  | packet (toggle : Bool) (a : α) (ack : Bool)

/-- The sender as a machine. -/
def sender : Machine (Sender α) (Act α) (Obs α) where
  step
    | ⟨t, q⟩,      .offer a  => (⟨t, q ++ [a]⟩, [.accepted a])
    | ⟨t, []⟩,     .poll _   => (⟨t, []⟩, [])
    | ⟨t, a :: q⟩, .poll ack => (if ack then ⟨!t, q⟩ else ⟨t, a :: q⟩, [.packet t a ack])

/-- The packets that were accepted. -/
def accepted (obs : List (Obs α)) : List α :=
  obs.filterMap fun
    | .accepted a => some a
    | .packet ..  => none

/-- The receiver: the bit it expects and the packets it has taken. -/
def receive (r : Bool × List α) : Obs α → Bool × List α
  | .accepted _   => r
  | .packet t a _ => if t = r.1 then (!r.1, r.2 ++ [a]) else r

/-- The receiver that first expects the bit `t`. -/
def receiver (t : Bool) (obs : List (Obs α)) : Bool × List α := obs.foldl receive (t, [])

/-- The packets the receiver has taken. -/
def received (t : Bool) (obs : List (Obs α)) : List α := (receiver t obs).2

/-- What the receiver still has to take: the queue, but for the first packet if it was taken and its
acknowledgement was lost. -/
inductive Untaken (s : Sender α) (bit : Bool) : List α → Prop where
  | all : bit = s.toggle → Untaken s bit s.queue
  | tail {a : α} {q : List α} : bit = !s.toggle → s.queue = a :: q → Untaken s bit q

/-- The two ends agree about the packets `all`. -/
def Synced (t : Bool) (init : List α) (c : Sender α × List (Obs α)) : Prop :=
  ∃ q, Untaken c.1 (receiver t c.2).1 q ∧ received t c.2 ++ q = init ++ accepted c.2

/-- The receiver after one more observation. -/
theorem receiver_append (t : Bool) (obs : List (Obs α)) (o : Obs α) :
    receiver t (obs ++ [o]) = receive (receiver t obs) o := by
  rw [receiver, List.foldl_append]
  rfl

/-- What is accepted along a longer run. -/
theorem accepted_append (obs obs' : List (Obs α)) :
    accepted (obs ++ obs') = accepted obs ++ accepted obs' :=
  List.filterMap_append

/-- A packet of the expected bit is taken. -/
theorem receiver_packet_self {t : Bool} {obs : List (Obs α)} {d : Bool} (h : (receiver t obs).1 = d)
    (a : α) (ack : Bool) :
    receiver t (obs ++ [.packet d a ack]) = (!d, received t obs ++ [a]) := by
  rw [receiver_append, receive, if_pos h.symm, h, received]

/-- A packet of the other bit is dropped. -/
theorem receiver_packet_not {t : Bool} {obs : List (Obs α)} {d : Bool} (h : (receiver t obs).1 = !d)
    (a : α) (ack : Bool) : receiver t (obs ++ [.packet d a ack]) = receiver t obs := by
  rw [receiver_append, receive, if_neg (by simp [h])]

/-- Every step keeps the two ends in step. -/
theorem Synced.next {t : Bool} {init : List α} {c : Sender α × List (Obs α)} (h : Synced t init c)
    (i : Act α) : Synced t init (sender.next c i) := by
  obtain ⟨⟨d, queue⟩, obs⟩ := c
  obtain ⟨q, hq, htaken⟩ := h
  rw [Machine.next]
  cases i with
  | offer a =>
      have hrecv : receiver t (obs ++ [Obs.accepted a]) = receiver t obs := receiver_append t obs _
      have hall : received t obs ++ (q ++ [a]) = init ++ accepted (obs ++ [.accepted a]) := by
        rw [accepted_append, ← List.append_assoc, ← List.append_assoc, htaken]
        rfl
      simp only [sender, Synced, received, hrecv]
      refine ⟨q ++ [a], ?_, hall⟩
      cases hq with
      | all hbit => exact .all hbit
      | tail hbit hqueue => exact .tail hbit (congrArg (· ++ [a]) hqueue)
  | poll ack =>
      cases queue with
      | nil =>
          simp only [sender, List.append_nil]
          exact ⟨q, hq, htaken⟩
      | cons a queue =>
          have haccepted : accepted (obs ++ [Obs.packet d a ack]) = accepted obs := by
            simp [accepted]
          simp only [sender, Synced, received, haccepted]
          cases hq with
          | all hbit =>
              -- The packet is new: it is taken now.
              have hall : (received t obs ++ [a]) ++ queue = init ++ accepted obs := by
                simpa using htaken
              rw [receiver_packet_self hbit]
              refine ⟨queue, ?_, hall⟩
              cases ack
              · exact .tail rfl rfl
              · exact .all rfl
          | tail hbit hqueue =>
              -- It was taken before: it is dropped.
              obtain ⟨rfl, rfl⟩ := List.cons.inj hqueue
              rw [receiver_packet_not hbit]
              refine ⟨queue, ?_, htaken⟩
              cases ack
              · exact .tail hbit rfl
              · exact .all hbit

/-- So does every run. -/
theorem synced_run (s : Sender α) (is : List (Act α)) :
    Synced s.toggle s.queue (sender.exec (s, []) is) := by
  refine sender.invariant_all (fun c i hc => hc.next i) ⟨s.queue, .all rfl, ?_⟩ is
  simp [received, receiver, accepted]

/-- Each packet is taken once and in order, but those that are still in the queue. -/
theorem received_append (s : Sender α) (is : List (Act α)) :
    let c := sender.exec (s, []) is
    ∃ q, (q = c.1.queue ∨ ∃ a, c.1.queue = a :: q) ∧
      received s.toggle c.2 ++ q = s.queue ++ accepted c.2 := by
  intro c
  obtain ⟨q, hq, htaken⟩ := synced_run s is
  refine ⟨q, ?_, htaken⟩
  cases hq with
  | all _ => exact .inl rfl
  | tail _ hqueue => exact .inr ⟨_, hqueue⟩

end ToggleLink

end Lib
