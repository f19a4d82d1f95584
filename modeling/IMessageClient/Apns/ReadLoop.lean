import IMessageClient.Apns.Connection
import IMessageClient.Apns.Encoding
/-!
# APNS — what `ReadLoop` does with a stream of frames

On an open socket whose writes succeed, with a message handler set and a
context that is never cancelled, `ReadLoop` is a function of the frames it
reads. Each frame is received, then has the effects `frameEffects` names:
one handler call for a send-message, with the first topic and payload
fields (`Payload.firstValue`, which `FindField` computes); one keep-alive frame written back for a keep-alive; nothing for the
rest. Handler errors are only printed, so the loop runs through every frame
and returns the read error that ends the stream
(`readLoop_dispatches_frames`).

The proof is a step lemma, one frame per turn (`readLoopStep_serving`), and
an induction over the frames (`readLoopFrom_serving`). The same step lemma
gives the loop under a context cancelled at turn `k`: it handles exactly
the first `k` frames and returns "context canceled" (`readLoop_cancelled`).
-/

namespace IMessageClient

namespace Apns

variable {σ : Type}

/-- A line `fmt.Printf` printed. -/
def Event.isLog : Event → Bool
  | .log _ => true
  | _ => false

/-- **What a frame should cause**: the handler called with its first topic
and payload fields for a send-message, the keep-alive frame `0C 00 00 00 00`
written to the socket for a keep-alive, nothing else. -/
def frameEffects (sock : Nat) (p : Payload) : List Event :=
  if p.id = commandSendMessage then [.handle ⟨p.firstValue 2, p.firstValue 3⟩]
  else if p.id = commandKeepAlive then [.write sock [12, 0, 0, 0, 0]]
  else []

/-- The handler's state after the send-message frames among `ps`. -/
def handledState (h : MessageHandler σ) (s : σ) (ps : List Payload) : σ :=
  ps.foldl (fun s p =>
    if p.id = commandSendMessage then (h s ⟨p.firstValue 2, p.firstValue 3⟩).1 else s) s

namespace Connection

@[simp] theorem background_done (k : Nat) : Context.background.done k = false := rfl

/-- `c` reading `r` on the open socket `id`, whose writes have the outcomes
`fails`, with the handler `h`. -/
def serving (c : Connection σ) (h : MessageHandler σ) (id : Nat) (fails : List (Option WriteFailure))
    (r : Reader) : Connection σ :=
  { c with conn := some ⟨id, r, fails, false⟩, messageHandler := some h }

section Serving

variable (c : Connection σ) (h : MessageHandler σ) (id : Nat) {fails : List (Option WriteFailure)}

/-- **One frame's dispatch.** The handler's state moves only on a
send-message, a keep-alive uses up one write, and the events, printed lines
apart, are the frame's effects. -/
theorem dispatch_serving (hok : ∀ e ∈ fails, e = none) (r : Reader) (p : Payload) (s : σ) :
    (serving c h id fails r).dispatch p s =
      (serving c h id (if p.id = commandKeepAlive then fails.tail else fails) r,
        (if p.id = commandSendMessage then (h s ⟨p.firstValue 2, p.firstValue 3⟩).1 else s),
        ((serving c h id fails r).dispatch p s).2.2.1, none) ∧
      ((serving c h id fails r).dispatch p s).2.2.1.filter (fun e => !e.isLog) =
        frameEffects id p := by
  by_cases h10 : p.id = commandSendMessage
  · simp only [dispatch, h10, if_true, serving, frameEffects, IncomingSendMessageCommand.fromPayload,
      Payload.findField_eq_firstValue, if_neg (by decide : commandSendMessage ≠ commandKeepAlive)]
    rcases h s ⟨p.firstValue 2, p.firstValue 3⟩ with ⟨s', _ | err⟩ <;> exact ⟨rfl, rfl⟩
  by_cases h12 : p.id = commandKeepAlive
  · have hw := write_of_open (c := serving c h id fails r) rfl rfl hok keepAlivePayload.toBytes
    rw [dispatch, if_neg h10, if_pos h12, hw]
    simp only [frameEffects, h10, h12, if_false, if_true, keepAlivePayload_toBytes]
    exact ⟨rfl, rfl⟩
  simp only [dispatch, h10, h12, if_false, frameEffects]
  split <;> exact ⟨rfl, rfl⟩

/-- **One turn on a stream that starts with a frame.** -/
theorem readLoopStep_serving (hok : ∀ e ∈ fails, e = none) (f : Frame) (rest : List UInt8)
    (err : String) (s : σ) :
    ∃ evs, (serving c h id fails ⟨f.payload.toBytes ++ rest, err⟩).readLoopStep false s =
      (serving c h id (if f.payload.id = commandKeepAlive then fails.tail else fails) ⟨rest, err⟩,
        (if f.payload.id = commandSendMessage then
          (h s ⟨f.payload.firstValue 2, f.payload.firstValue 3⟩).1 else s),
        .receive f.payload :: evs, none) ∧
      evs.filter (fun e => !e.isLog) = frameEffects id f.payload := by
  have hread : (serving c h id fails ⟨f.payload.toBytes ++ rest, err⟩).readPayload =
      (serving c h id fails ⟨rest, err⟩, .ok f.payload) := by
    rw [readPayload_of_conn rfl, unmarshalBinaryStream_toBytes f.encodable]
    rfl
  obtain ⟨hd, hevs⟩ := dispatch_serving c h id hok ⟨rest, err⟩ f.payload s
  refine ⟨_, ?_, hevs⟩
  rw [readLoopStep_of_read s hread, hd]

/-- The stream has run out: the next read reports its error, and the loop
returns it. -/
theorem readLoopFrom_serving_nil (r : Reader) (hr : r.bytes = []) (k : Nat) (s : σ) :
    (serving c h id fails r).readLoopFrom Context.background k s =
      (serving c h id fails r, s, [], .error ("failed to read payload: " ++ r.err)) := by
  obtain ⟨bytes, err⟩ := r
  dsimp only at hr
  subst hr
  have hread : (serving c h id fails ⟨[], err⟩).readPayload =
      (serving c h id fails ⟨[], err⟩, .error (.error err)) := by
    rw [readPayload_of_conn rfl]
    simp [unmarshalBinaryStream, serving]
  exact readLoopFrom_of_step_some (readLoopStep_of_read_error s hread)

/-- **A loop over whole frames**, from any turn: the events, printed lines
apart, are each frame's receipt and effects in order; the handler's state
has seen every send-message; and the read error that ends the stream is
what the loop returns. -/
theorem readLoopFrom_serving (err : String) (frames : List Frame) :
    ∀ (fails : List (Option WriteFailure)), (∀ e ∈ fails, e = none) → ∀ (k : Nat) (s : σ),
      let r := (serving c h id fails ⟨(frames.map fun f => f.payload.toBytes).flatten, err⟩).readLoopFrom
        Context.background k s
      r.2.2.1.filter (fun e => !e.isLog) =
          frames.flatMap (fun f => .receive f.payload :: frameEffects id f.payload) ∧
        r.2.1 = handledState h s (frames.map (·.payload)) ∧
        r.2.2.2 = .error ("failed to read payload: " ++ err) := by
  induction frames with
  | nil =>
    intro fails _ k s
    rw [List.map_nil, List.flatten_nil, readLoopFrom_serving_nil c h id _ rfl]
    exact ⟨rfl, rfl, rfl⟩
  | cons f frames ih =>
    intro fails hok k s
    obtain ⟨evs, hstep, hevs⟩ := readLoopStep_serving c h id hok f
      (frames.map fun f => f.payload.toBytes).flatten err s
    have hok' : ∀ e ∈ (if f.payload.id = commandKeepAlive then fails.tail else fails), e = none := by
      split
      · exact fun e he => hok e (List.mem_of_mem_tail he)
      · exact hok
    obtain ⟨htrace, hstate, herr⟩ := ih _ hok' (k + 1)
      (if f.payload.id = commandSendMessage then (h s ⟨f.payload.firstValue 2, f.payload.firstValue 3⟩).1 else s)
    rw [List.map_cons, List.flatten_cons, readLoopFrom_of_step_none hstep]
    refine ⟨?_, hstate, herr⟩
    rw [List.filter_append, List.filter_cons, hevs, htrace]
    rfl

end Serving

/-- **`ReadLoop` is a function of the frames it reads.** On an open socket
whose writes succeed, with a handler set and a context never cancelled,
over whole frames and then a read error: each frame is received and has
exactly its effects, in order (printed lines apart); the handler's state
has seen exactly the send-messages; and the loop returns the read error,
whatever the handler returned. -/
theorem readLoop_dispatches_frames (c : Connection σ) (h : MessageHandler σ) (id : Nat)
    (fails : List (Option WriteFailure)) (hok : ∀ e ∈ fails, e = none) (frames : List Frame)
    (err : String) (s : σ) :
    let r := (serving c h id fails ⟨(frames.map fun f => f.payload.toBytes).flatten, err⟩).readLoop
      Context.background s
    r.2.2.1.filter (fun e => !e.isLog) =
        frames.flatMap (fun f => .receive f.payload :: frameEffects id f.payload) ∧
      r.2.1 = handledState h s (frames.map (·.payload)) ∧
      r.2.2.2 = .error ("failed to read payload: " ++ err) :=
  readLoopFrom_serving c h id err frames fails hok 0 s

/-- A keep-alive, then a message with topic `t` and payload `a`. -/
def keepAliveThenMessage : List Frame :=
  [⟨⟨12, []⟩, by decide, by decide, by decide⟩,
    ⟨⟨10, [⟨2, [0x74]⟩, ⟨3, [0x61]⟩]⟩, by decide, by decide, by decide⟩]

/-- The two frames, to a handler that counts messages and rejects each. -/
theorem readLoop_dispatches_keepAlive_message :
    (∀ e ∈ [none, none], e = (none : Option WriteFailure)) ∧
      let r := (serving (newConnection none none [] : Connection Nat) (fun n _ => (n + 1, some "no"))
        7 [none, none] ⟨(keepAliveThenMessage.map fun f => f.payload.toBytes).flatten, eof⟩).readLoop
          Context.background 0
      r.2.2.1.filter (fun e => !e.isLog) =
          keepAliveThenMessage.flatMap (fun f => .receive f.payload :: frameEffects 7 f.payload) ∧
        r.2.1 = handledState (fun n _ => (n + 1, some "no")) 0 (keepAliveThenMessage.map (·.payload)) ∧
        r.2.2.2 = .error ("failed to read payload: " ++ eof) :=
  ⟨by simp, readLoop_dispatches_frames _ _ 7 [none, none] (by simp) _ eof 0⟩

/-! ## Cancellation -/

/-- A context cancelled at turn `k`. -/
def Context.cancelled (k : Nat) : Context := ⟨some k⟩

/-- The turns of a loop whose context is cancelled `m` turns on, over a
stream of at least `m` frames. -/
theorem readLoopFrom_cancelled (c : Connection σ) (h : MessageHandler σ) (id : Nat) (err : String)
    (m : Nat) : ∀ (frames : List Frame), m ≤ frames.length →
      ∀ (fails : List (Option WriteFailure)), (∀ e ∈ fails, e = none) → ∀ (j : Nat) (s : σ),
      let r := (serving c h id fails ⟨(frames.map fun f => f.payload.toBytes).flatten, err⟩).readLoopFrom
        (Context.cancelled (j + m)) j s
      r.2.2.1.filter (fun e => !e.isLog) =
          (frames.take m).flatMap (fun f => .receive f.payload :: frameEffects id f.payload) ∧
        r.2.1 = handledState h s ((frames.take m).map (·.payload)) ∧
        r.2.2.2 = .error "context canceled" := by
  induction m with
  | zero =>
    intro frames _ fails _ j s
    have hstep : (serving c h id fails ⟨(frames.map fun f => f.payload.toBytes).flatten, err⟩).readLoopStep
        ((Context.cancelled (j + 0)).done j) s = (serving c h id fails
          ⟨(frames.map fun f => f.payload.toBytes).flatten, err⟩, s, [], some (.error "context canceled")) := by
      simp [Context.cancelled, Context.done, readLoopStep]
    rw [readLoopFrom_of_step_some hstep]
    exact ⟨rfl, rfl, rfl⟩
  | succ m ih =>
    intro frames hm fails hok j s
    obtain ⟨f, frames, rfl⟩ : ∃ f rest, frames = f :: rest :=
      List.exists_cons_of_ne_nil (by rintro rfl; simp at hm)
    obtain ⟨evs, hstep, hevs⟩ := readLoopStep_serving c h id hok f
      (frames.map fun f => f.payload.toBytes).flatten err s
    have hdone : (Context.cancelled (j + 1 + m)).done j = false := by
      simp [Context.cancelled, Context.done]; omega
    have hok' : ∀ e ∈ (if f.payload.id = commandKeepAlive then fails.tail else fails), e = none := by
      split
      · exact fun e he => hok e (List.mem_of_mem_tail he)
      · exact hok
    obtain ⟨htrace, hstate, herr⟩ := ih frames (by simpa using hm) _ hok' (j + 1)
      (if f.payload.id = commandSendMessage then (h s ⟨f.payload.firstValue 2, f.payload.firstValue 3⟩).1 else s)
    rw [show j + (m + 1) = j + 1 + m by omega, List.map_cons, List.flatten_cons,
      readLoopFrom_of_step_none (hdone ▸ hstep)]
    refine ⟨?_, hstate, herr⟩
    rw [List.take_succ_cons, List.flatMap_cons, List.filter_append, List.filter_cons, hevs, htrace]
    rfl

/-- **A cancelled context stops the loop before its next read**: cancelled
at turn `k`, over a stream of at least `k` frames, `ReadLoop` has handled
exactly the first `k` and returns "context canceled". -/
theorem readLoop_cancelled (c : Connection σ) (h : MessageHandler σ) (id : Nat)
    (fails : List (Option WriteFailure)) (hok : ∀ e ∈ fails, e = none) (frames : List Frame)
    (err : String) (s : σ) (k : Nat) (hk : k ≤ frames.length) :
    let r := (serving c h id fails ⟨(frames.map fun f => f.payload.toBytes).flatten, err⟩).readLoop
      (Context.cancelled k) s
    r.2.2.1.filter (fun e => !e.isLog) =
        (frames.take k).flatMap (fun f => .receive f.payload :: frameEffects id f.payload) ∧
      r.2.1 = handledState h s ((frames.take k).map (·.payload)) ∧
      r.2.2.2 = .error "context canceled" := by
  have := readLoopFrom_cancelled c h id err k frames hk fails hok 0 s
  rwa [Nat.zero_add] at this

/-- Cancelled after one turn: the keep-alive is answered, the message is
never read. -/
theorem readLoop_cancelled_after_keepAlive :
    (∀ e ∈ [none], e = (none : Option String)) ∧ 1 ≤ keepAliveThenMessage.length ∧
      let r := (serving (newConnection none none [] : Connection Nat) (fun n _ => (n + 1, none)) 7 [none]
        ⟨(keepAliveThenMessage.map fun f => f.payload.toBytes).flatten, eof⟩).readLoop
          (Context.cancelled 1) 0
      r.2.2.1.filter (fun e => !e.isLog) =
          (keepAliveThenMessage.take 1).flatMap (fun f => .receive f.payload :: frameEffects 7 f.payload) ∧
        r.2.1 = handledState (fun n _ => (n + 1, none)) 0 ((keepAliveThenMessage.take 1).map (·.payload)) ∧
        r.2.2.2 = .error "context canceled" :=
  ⟨by simp, by decide, readLoop_cancelled _ _ 7 [none] (by simp) _ eof 0 1 (by decide)⟩

end Connection

end Apns

end IMessageClient
