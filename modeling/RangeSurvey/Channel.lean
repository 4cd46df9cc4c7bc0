/-!
# Channels

A channel with room for a few messages, known by what its operations do to the messages in it. How
it wakes those who wait is up to it.
-/

namespace RangeSurvey

universe u v

/-- A channel with room for `capacity` messages. `κ` is all of its state, including whom it is going
to wake. -/
structure Channel (κ : Type u) (μ : Type v) (capacity : Nat) where
  new : κ
  /-- Puts a message in and says whether there was room for it. -/
  trySend : μ → κ → κ × Bool
  /-- Takes the oldest message out, if there is one. -/
  tryReceive : κ → κ × Option μ
  /-- Looks at a wait for a message. The channel may remember who waits on. -/
  pollReceive : (waiter : Nat) → κ → κ × Option μ
  length : κ → Nat
  isFull : κ → Bool
  /-- What is in the channel, the oldest message first. -/
  messages : κ → List μ
  messages_new : messages new = []
  sends : ∀ m c, (messages c).length < capacity →
    (trySend m c).2 = true ∧ messages (trySend m c).1 = messages c ++ [m]
  refuses : ∀ m c, capacity ≤ (messages c).length → trySend m c = (c, false)
  receives : ∀ c, (tryReceive c).2 = (messages c).head? ∧
    messages (tryReceive c).1 = (messages c).tail
  polls : ∀ waiter c, (pollReceive waiter c).2 = (messages c).head? ∧
    messages (pollReceive waiter c).1 = (messages c).tail
  length_eq : ∀ c, length c = (messages c).length
  isFull_eq : ∀ c, isFull c = decide ((messages c).length = capacity)

/-- Messages in a box, and the last of those who have looked into it in vain. -/
structure Mailbox (μ : Type) where
  messages : List μ := []
  waker : Option Nat := none
deriving DecidableEq, Repr

namespace Mailbox

variable {μ : Type}

def send (capacity : Nat) (m : μ) (box : Mailbox μ) : Mailbox μ × Bool :=
  if box.messages.length < capacity then (⟨box.messages ++ [m], none⟩, true) else (box, false)

def receive (box : Mailbox μ) : Mailbox μ × Option μ :=
  ({ box with messages := box.messages.tail }, box.messages.head?)

def poll (waiter : Nat) (box : Mailbox μ) : Mailbox μ × Option μ :=
  match box.messages with
  | [] => ({ box with waker := some waiter }, none)
  | m :: messages => ({ box with messages }, some m)

def channel (μ : Type) (capacity : Nat) : Channel (Mailbox μ) μ capacity where
  new := {}
  trySend := send capacity
  tryReceive := receive
  pollReceive := poll
  length box := box.messages.length
  isFull box := box.messages.length == capacity
  messages := messages
  messages_new := rfl
  sends m box room := by simp only [send, room, if_true, and_self]
  refuses m box full := if_neg (Nat.not_lt.mpr full)
  receives box := ⟨rfl, rfl⟩
  polls waiter box := by
    rcases box with ⟨_ | ⟨m, messages⟩, waker⟩
    · exact ⟨rfl, rfl⟩
    · exact ⟨rfl, rfl⟩
  length_eq box := rfl
  isFull_eq box := rfl

end Mailbox

end RangeSurvey
