import IMessageClient.Messaging.Session
/-!
# Messaging — the message queue, had it been made

`Connect` never makes the session's channel, so nothing the handler builds
reaches the poller (`connect_session_drops_messages`). On a channel made
with a buffer of `B`, the handler and the poller form the queue the design
describes: over any interleaving in which the handler always finds fewer
than `B` messages pending, no handler call reports the channel full, and
the polls return every message the handler built, once each, in the order
it built them (`runQueue_fifo`). A handler call that panics in
`DecryptMessage` builds nothing.

The proof is a step lemma for each party (`push_step`, `poll_step`) and an
induction over the run.
-/

namespace IMessageClient

namespace Messaging

open Session

/-- The two parties of the channel: the read loop's handler, and the
poller. -/
inductive QueueCall where
  | push (payload : Apns.SendMessagePayload) (clock : Clock)
  | poll (handshake : Except String HandshakeState)

/-- The session call each party makes. -/
def QueueCall.toSessionCall : QueueCall → SessionCall
  | .push payload clock => .handle payload clock
  | .poll handshake => .fetchMessages handshake

@[simp] theorem QueueCall.apply_push (prim : Primitives) (s : Session) (payload : Apns.SendMessagePayload)
    (clock : Clock) : (QueueCall.push payload clock).toSessionCall.apply prim s =
      ((s.handleAPNSMessage prim clock payload).1, .handled (s.handleAPNSMessage prim clock payload).2) :=
  rfl

@[simp] theorem QueueCall.apply_poll (prim : Primitives) (s : Session)
    (handshake : Except String HandshakeState) : (QueueCall.poll handshake).toSessionCall.apply prim s =
      ((s.fetchMessages handshake).1, .fetched (s.fetchMessages handshake).2) :=
  rfl

/-- Whether every handler call of a run finds fewer than `B` messages
pending. -/
def belowBound (prim : Primitives) (B : Nat) : List QueueCall → Session → Bool
  | [], _ => true
  | call :: calls, s =>
    (match call with
      | .push _ _ => decide (s.messageChan.pending.length < B)
      | .poll _ => true) &&
      belowBound prim B calls (call.toSessionCall.apply prim s).1

/-- The messages the handler built, call after call. -/
def pushed (prim : Primitives) : List QueueCall → Session → List Message
  | [], _ => []
  | call :: calls, s =>
    (match call with
      | .push payload clock =>
        match buildMessage prim clock s payload with
        | .ok (msg, _) => [msg]
        | .error _ => []
      | .poll _ => []) ++ pushed prim calls (call.toSessionCall.apply prim s).1

/-- What the polls of a run returned, in order. -/
def delivered (results : List SessionResult) : List Message :=
  results.flatMap fun
    | .fetched (.ok msgs) => msgs
    | _ => []

/-- What the handler returns after a send is never "message channel
full". -/
theorem buildMessage_onSent {prim : Primitives} {clock : Clock} {s : Session}
    {payload : Apns.SendMessagePayload} {msg : Message} {onSent : Option Fault}
    (h : buildMessage prim clock s payload = .ok (msg, onSent)) :
    onSent ≠ some (.error "message channel full") := by
  unfold buildMessage at h
  split at h
  · cases h; simp
  · split at h
    · cases h
    · cases h
      intro h'
      have := congrArg (fun t : String => t.data.head?) (Fault.error.inj (Option.some.inj h'))
      simp [String.append] at this
      exact absurd this (by decide)
    · cases h; simp

variable {prim : Primitives} {s : Session} {b : Buffer (Option Message)}

/-- **The handler, with room in the channel**: the message it built goes
in at the back, and it returns what it returns after a send. -/
theorem push_step (hc : s.messageChan = some b) (hroom : b.items.length < b.capacity) (clock : Clock)
    (payload : Apns.SendMessagePayload) {msg : Message} {onSent : Option Fault}
    (hb : buildMessage prim clock s payload = .ok (msg, onSent)) :
    s.handleAPNSMessage prim clock payload =
      ({ s with messageChan := some ⟨b.capacity, b.items ++ [some msg], by simp; omega⟩ }, onSent) := by
  simp [handleAPNSMessage, hb, enqueue, trySend, hc, hroom]

/-- **The poller**: once the handshake is done it takes everything the
channel holds, oldest first, and leaves it empty; otherwise it leaves the
channel as it was. -/
theorem poll_step (hc : s.messageChan = some b) (handshake : Except String HandshakeState) :
    ((s.fetchMessages handshake).1.messageChan = some ⟨b.capacity, [], Nat.zero_le _⟩ ∧
        (s.fetchMessages handshake).2 = .ok (b.items.filterMap id)) ∨
      ((s.fetchMessages handshake).1.messageChan = some b ∧
        ∃ err, (s.fetchMessages handshake).2 = .error err) := by
  have hchan := (ensureHandshake_frame handshake s).2
  unfold fetchMessages
  rcases he : s.ensureHandshake handshake with ⟨s1, _ | err⟩ <;> rw [he] at hchan <;>
    dsimp only at hchan ⊢
  · rw [hchan, hc]
    exact .inl ⟨rfl, by simp⟩
  · exact .inr ⟨hchan.trans hc, err, rfl⟩

/-- **One call of either party**, below the bound: the channel stays made
with its capacity, the call does not report it full, and what the channel
held, then what the call built, is what the call returned, then what the
channel holds. -/
theorem queueCall_step (call : QueueCall) (hc : s.messageChan = some b)
    (hroom : belowBound prim b.capacity [call] s = true) :
    ∃ b', (call.toSessionCall.apply prim s).1.messageChan = some b' ∧ b'.capacity = b.capacity ∧
      (call.toSessionCall.apply prim s).2 ≠ .handled (some (.error "message channel full")) ∧
      b.items.filterMap id ++ pushed prim [call] s =
        delivered [(call.toSessionCall.apply prim s).2] ++ b'.items.filterMap id := by
  cases call with
  | push payload clock =>
    have hroom' : b.items.length < b.capacity := by simpa [belowBound, hc, Chan.pending] using hroom
    rcases hb : buildMessage prim clock s payload with f | ⟨msg, onSent⟩
    · obtain ⟨m, rfl⟩ := buildMessage_error hb
      exact ⟨b, by simp [handleAPNSMessage, hb, hc, pushed, delivered]⟩
    · simp only [QueueCall.apply_push, push_step hc hroom' clock payload hb]
      exact ⟨_, rfl, rfl, by simpa using buildMessage_onSent hb, by simp [pushed, hb, delivered]⟩
  | poll handshake =>
    rcases poll_step hc handshake with ⟨hc', hres⟩ | ⟨hc', err, hres⟩
    · exact ⟨_, hc', rfl, by simp [hres, pushed, delivered]⟩
    · exact ⟨b, hc', rfl, by simp [hres, pushed, delivered]⟩

theorem pushed_cons (call : QueueCall) (calls : List QueueCall) (s : Session) :
    pushed prim (call :: calls) s = pushed prim [call] s ++ pushed prim calls (call.toSessionCall.apply prim s).1 := by
  simp [pushed]

theorem delivered_cons (r : SessionResult) (rs : List SessionResult) :
    delivered (r :: rs) = delivered [r] ++ delivered rs := by
  simp [delivered]

/-- **The queue loses, duplicates and reorders nothing below its bound.**
On a channel made with a buffer of `B`, over every interleaving of handler
and poller calls in which the handler always finds fewer than `B` messages
pending, no handler call reports the channel full, and what the channel
held, then everything the handler built, is what the polls returned, then
what the channel still holds. -/
theorem runQueue_fifo (prim : Primitives) (B : Nat) (calls : List QueueCall) :
    ∀ (s : Session) (b : Buffer (Option Message)), s.messageChan = some b → b.capacity = B →
      belowBound prim B calls s = true →
      let r := runSession prim (calls.map QueueCall.toSessionCall) s
      (∀ res ∈ r.2, res ≠ .handled (some (.error "message channel full"))) ∧
        b.items.filterMap id ++ pushed prim calls s =
          delivered r.2 ++ r.1.messageChan.pending.filterMap id := by
  induction calls with
  | nil => intro s b hc _ _; simp [runSession, pushed, delivered, Chan.pending, hc]
  | cons call calls ih =>
    intro s b hc hcap hbound
    subst hcap
    simp only [belowBound, Bool.and_eq_true] at hbound
    obtain ⟨b', hc', hcap', hfull, hstep⟩ :=
      queueCall_step call hc (by simpa only [belowBound, Bool.and_true] using hbound.1)
    obtain ⟨hfull', hfifo⟩ := ih _ b' hc' hcap' hbound.2
    refine ⟨by simpa [runSession] using ⟨hfull, hfull'⟩, ?_⟩
    simp only [List.map_cons, runSession]
    rw [pushed_cons, delivered_cons, ← List.append_assoc, hstep, List.append_assoc, hfifo, List.append_assoc]

/-- A session whose channel has one slot, empty. -/
def oneSlotSession : Session := ⟨newMemoryStore, none, true, some ⟨1, [], Nat.zero_le _⟩⟩

/-- Push, poll, push through one slot. -/
def pushPollPush : List QueueCall :=
  [.push ⟨[], [0x62]⟩ ⟨0, 0⟩, .poll (.ok ⟨none⟩), .push ⟨[], [0x63]⟩ ⟨1, 1⟩]

theorem runQueue_fifo_oneSlot :
    belowBound Primitives.stub 1 pushPollPush oneSlotSession = true ∧
      let r := runSession Primitives.stub (pushPollPush.map QueueCall.toSessionCall) oneSlotSession
      (∀ res ∈ r.2, res ≠ .handled (some (.error "message channel full"))) ∧
        [].filterMap id ++ pushed Primitives.stub pushPollPush oneSlotSession =
          delivered r.2 ++ r.1.messageChan.pending.filterMap id :=
  have hbound : belowBound Primitives.stub 1 pushPollPush oneSlotSession = true := rfl
  ⟨hbound, runQueue_fifo Primitives.stub 1 pushPollPush oneSlotSession ⟨1, [], Nat.zero_le _⟩ rfl rfl hbound⟩

end Messaging

end IMessageClient
