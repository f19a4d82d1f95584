import IMessageClient.Messaging.Queue
import IMessageClient.Apns.ReadLoop
/-!
# Messaging — from the wire to the poller

`startAPNS` sets the session's `handleAPNSMessage` as the connection's
message handler, and the read loop calls it on each send-message frame.
That closes the path a message takes: the loop decodes frames off the
socket, the handler decrypts each send-message and pushes the message into
the channel, and `FetchMessages` drains it.

On a session with a state and a channel with room for every send-message
of the stream, over whole frames and then a read error, the poll after the
loop returns what the channel held, then the message the handler built
from each send-message, in the order of the stream
(`readLoop_delivers`). The code as it is never gets there: `Connect` does
not make the channel (`connect_session_drops_messages`), and nothing calls
`startAPNS`, whose connection `Connect` would refuse for want of a
certificate (`handshake_connection_idle`).

The proof is the read loop's own induction (`readLoopFrom_serving`), which
leaves the handler's state as a fold over the send-messages, and one more
over that fold, a handler call per step (`handledState_session`).
-/

namespace IMessageClient

namespace Messaging

open Apns Session

/-- The text `ReadLoop` prints for a handler's error. -/
def faultText : Fault → String
  | .error msg => msg
  | .panic msg => msg

/-- `conn.SetMessageHandler(s.handleAPNSMessage)`. The handler's state is
the session and the number of calls so far, which picks each call's
reading of the clock. A panic in `DecryptMessage` ends the program in Go;
the results below assume none, and here it only returns its text. -/
def sessionHandler (prim : Primitives) (clock : Nat → Clock) : MessageHandler (Session × Nat) :=
  fun st payload =>
    let r := st.1.handleAPNSMessage prim (clock st.2) payload
    ((r.1, st.2 + 1), r.2.map faultText)

/-- The messages the handler builds from the send-messages among `ps`, from
call `n` on, for a session whose state is that of `s`. -/
def builtMessages (prim : Primitives) (clock : Nat → Clock) (s : Session) : Nat → List Payload → List Message
  | _, [] => []
  | n, p :: ps =>
    if p.id = commandSendMessage then
      (match buildMessage prim (clock n) s ⟨p.findField 2, p.findField 3⟩ with
        | .ok (msg, _) => [msg]
        | .error _ => []) ++ builtMessages prim clock s (n + 1) ps
    else builtMessages prim clock s n ps

/-- Building a message reads only the session's state. -/
theorem buildMessage_congr {prim : Primitives} {clock : Clock} {s s' : Session} (h : s.state = s'.state)
    (payload : SendMessagePayload) : buildMessage prim clock s payload = buildMessage prim clock s' payload := by
  simp only [buildMessage, h]

/-- **The handler's state over a stream.** From a session with the state of
`s0` and a channel with room for every send-message among `ps`, none of
which panics: the state stays, and the channel holds what it held, then
each message built. -/
theorem handledState_session (prim : Primitives) (clock : Nat → Clock) (s0 : Session) :
    ∀ (ps : List Payload) (s : Session) (n : Nat) (b : Buffer (Option Message)),
      s.state = s0.state → s.messageChan = some b →
      b.items.length + (ps.filter (·.id = commandSendMessage)).length ≤ b.capacity →
      (∀ p ∈ ps, p.id = commandSendMessage → ∀ k msg,
        buildMessage prim (clock k) s0 ⟨p.findField 2, p.findField 3⟩ ≠ .error (.panic msg)) →
      (handledState (sessionHandler prim clock) (s, n) ps).1.state = s0.state ∧
        (handledState (sessionHandler prim clock) (s, n) ps).1.messageChan.pending =
          b.items ++ (builtMessages prim clock s0 n ps).map some := by
  intro ps
  induction ps with
  | nil => intro s n b hst hc _ _; simp [handledState, hst, hc, Chan.pending, builtMessages]
  | cons p ps ih =>
    intro s n b hst hc hroom hpanic
    have hpanic' : ∀ q ∈ ps, q.id = commandSendMessage → ∀ k msg,
        buildMessage prim (clock k) s0 ⟨q.findField 2, q.findField 3⟩ ≠ .error (.panic msg) :=
      fun q hq => hpanic q (List.mem_cons_of_mem _ hq)
    by_cases hid : p.id = commandSendMessage
    · simp only [List.filter_cons, hid, decide_True, if_true, List.length_cons] at hroom
      rcases hb : buildMessage prim (clock n) s0 ⟨p.findField 2, p.findField 3⟩ with f | ⟨msg, onSent⟩
      · obtain ⟨m, rfl⟩ := buildMessage_error hb
        exact absurd hb (hpanic p (List.mem_cons_self _ _) hid n m)
      have hlen : (b.items ++ [some msg]).length ≤ b.capacity := by simp; omega
      have hpush := push_step hc (by omega) (clock n) _ ((buildMessage_congr hst _).trans hb)
      obtain ⟨hst', hpend⟩ := ih { s with messageChan := some ⟨b.capacity, b.items ++ [some msg], hlen⟩ } (n + 1)
        ⟨b.capacity, b.items ++ [some msg], hlen⟩ hst rfl (by simp; omega) hpanic'
      have hfold : handledState (sessionHandler prim clock) (s, n) (p :: ps) =
          handledState (sessionHandler prim clock)
            ({ s with messageChan := some ⟨b.capacity, b.items ++ [some msg], hlen⟩ }, n + 1) ps := by
        simp only [handledState, List.foldl_cons, hid, if_true, sessionHandler, ← Payload.findField_eq_firstValue,
          hpush]
      rw [hfold]
      refine ⟨hst', ?_⟩
      rw [hpend, builtMessages, if_pos hid, hb]
      simp
    · have hfold : handledState (sessionHandler prim clock) (s, n) (p :: ps) =
          handledState (sessionHandler prim clock) (s, n) ps := by
        simp only [handledState, List.foldl_cons, hid, if_false]
      rw [hfold, builtMessages, if_neg hid]
      exact ih s n b hst hc (by simpa [List.filter_cons, hid] using hroom) hpanic'

/-- **From the wire to the poller.** Take a session with a state whose
channel has room for every send-message of the stream, none of which
panics in `DecryptMessage`, and the read loop over whole frames and then a
read error, with that session's handler, on a socket whose writes succeed.
The loop returns the read error, and `FetchMessages` after it returns what
the channel held, then the message built from each send-message frame, in
the order of the stream. -/
theorem readLoop_delivers (prim : Primitives) (clock : Nat → Clock) (c : Connection (Session × Nat)) (sock : Nat)
    (fails : List (Option WriteFailure)) (hok : ∀ e ∈ fails, e = none) (frames : List Frame) (err : String)
    (s : Session) (n : Nat) {b : Buffer (Option Message)} (hst : s.state.isSome) (hc : s.messageChan = some b)
    (hroom : b.items.length + ((frames.map (·.payload)).filter (·.id = commandSendMessage)).length ≤ b.capacity)
    (hpanic : ∀ f ∈ frames, f.payload.id = commandSendMessage → ∀ k msg,
      buildMessage prim (clock k) s ⟨f.payload.findField 2, f.payload.findField 3⟩ ≠ .error (.panic msg))
    (handshake : Except String HandshakeState) :
    let r := (Connection.serving c (sessionHandler prim clock) sock fails
      ⟨(frames.map fun f => f.payload.toBytes).flatten, err⟩).readLoop Connection.Context.background (s, n)
    (r.2.1.1.fetchMessages handshake).2 =
        .ok (b.items.filterMap id ++ builtMessages prim clock s n (frames.map (·.payload))) ∧
      r.2.2.2 = .error ("failed to read payload: " ++ err) := by
  obtain ⟨-, hstate, herr⟩ := Connection.readLoopFrom_serving c (sessionHandler prim clock) sock err frames
    fails hok 0 (s, n)
  obtain ⟨hst', hpend⟩ := handledState_session prim clock s _ s n b rfl hc hroom
    (fun p hp => by
      obtain ⟨f, hf, rfl⟩ := List.mem_map.1 hp
      exact hpanic f hf)
  refine ⟨?_, herr⟩
  rw [Connection.readLoop, hstate, (fetchMessages_of_state handshake (hst'.symm ▸ hst)).2.2, hpend]
  simp [List.filterMap_append]

/-- A session with a state without a key, and an empty channel of two
slots. -/
def twoSlotSession : Session := ⟨newMemoryStore, some ⟨none⟩, true, some ⟨2, [], Nat.zero_le _⟩⟩

/-- A clock that reads `k` at call `k`. -/
def tickClock : Nat → Clock := fun k => ⟨k, k⟩

/-- After a keep-alive and a message, the poll returns the placeholder
built for the message. -/
theorem readLoop_delivers_keepAlive_message :
    (∀ e ∈ ([] : List (Option WriteFailure)), e = none) ∧ twoSlotSession.state.isSome ∧
      twoSlotSession.messageChan = some ⟨2, [], Nat.zero_le _⟩ ∧
      ([] : List (Option Message)).length +
          ((Connection.keepAliveThenMessage.map (·.payload)).filter (·.id = commandSendMessage)).length ≤ 2 ∧
      (∀ f ∈ Connection.keepAliveThenMessage, f.payload.id = commandSendMessage → ∀ k msg,
        buildMessage Primitives.stub (tickClock k) twoSlotSession ⟨f.payload.findField 2, f.payload.findField 3⟩ ≠
          .error (.panic msg)) ∧
      let r := (Connection.serving (newConnection none none []) (sessionHandler Primitives.stub tickClock) 7 []
        ⟨(Connection.keepAliveThenMessage.map fun f => f.payload.toBytes).flatten, eof⟩).readLoop
          Connection.Context.background (twoSlotSession, 0)
      (r.2.1.1.fetchMessages (.ok ⟨none⟩)).2 =
          .ok (([] : List (Option Message)).filterMap id ++
            builtMessages Primitives.stub tickClock twoSlotSession 0 (Connection.keepAliveThenMessage.map (·.payload))) ∧
        r.2.2.2 = .error ("failed to read payload: " ++ eof) :=
  have hpanic : ∀ f ∈ Connection.keepAliveThenMessage, f.payload.id = commandSendMessage → ∀ k msg,
      buildMessage Primitives.stub (tickClock k) twoSlotSession ⟨f.payload.findField 2, f.payload.findField 3⟩ ≠
        .error (.panic msg) :=
    fun _ _ _ _ _ h => by simp [buildMessage, twoSlotSession] at h
  ⟨fun _ h => absurd h (List.not_mem_nil _), rfl, rfl, by decide, hpanic,
    readLoop_delivers Primitives.stub tickClock (newConnection none none []) 7 []
      (fun _ h => absurd h (List.not_mem_nil _)) Connection.keepAliveThenMessage eof twoSlotSession 0 rfl rfl
      (by decide) hpanic _⟩

end Messaging

end IMessageClient
