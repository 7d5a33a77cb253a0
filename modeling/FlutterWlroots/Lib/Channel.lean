/-
  FlutterWlroots.Lib.Channel — a FIFO channel to a receiver.

  The messages that are under way together with the receiver.  What the receiver will be once every
  message has been delivered (`settled`) changes with sending alone, in the order of sending;
  delivering only makes it so.

    • `settled_send`     — sending acts on the settled receiver at once,
    • `settled_deliver`  — delivering does not,
    • `receiver_eq`      — without messages under way the receiver is the settled one.
-/
import Mathlib.Init

namespace Lib

/-- The messages under way, the oldest first, and the receiver. -/
structure Channel (Message Receiver : Type) where
  pending : List Message
  receiver : Receiver

namespace Channel

variable {Message Receiver : Type} (receive : Receiver → Message → Receiver)
  (ch : Channel Message Receiver)

/-- A message sent. -/
def send (m : Message) : Channel Message Receiver := { ch with pending := ch.pending ++ [m] }

/-- The oldest message delivered. -/
def deliver : Option (Channel Message Receiver) :=
  match ch.pending with
  | [] => none
  | m :: pending => some ⟨pending, receive ch.receiver m⟩

/-- The receiver after all messages. -/
def settled : Receiver := ch.pending.foldl receive ch.receiver

variable {receive ch} {ch' : Channel Message Receiver}

@[simp] theorem settled_send (m : Message) :
    (ch.send m).settled receive = receive (ch.settled receive) m := by
  unfold settled send
  rw [List.foldl_append]
  rfl

theorem settled_deliver (h : ch.deliver receive = some ch') :
    ch'.settled receive = ch.settled receive := by
  unfold deliver at h
  split at h
  next => cases h
  next m pending hpending =>
    cases h
    unfold settled
    rw [hpending]
    rfl

theorem receiver_eq (h : ch.pending = []) : ch.receiver = ch.settled receive := by
  unfold settled
  rw [h]
  rfl

end Channel

end Lib
