import IMessageClient.Apns.Lifecycle
/-!
# APNS — what the courier receives, over every run

`Apns.Lifecycle` says where a run writes; this module says what. Every
caller hands `write` the frame of one client command: the connect command,
a topic filter, a state change or the keep-alive reply (`ClientFrame`).
A `Write` that fails may have put the start of the frame out, and the
client neither counts the bytes nor drops the socket, so later frames go
out after the cut one. Each operation writes the starts of client frames,
whole while no write of its socket fails (`Sends`), and a run does what
its operations do: the bytes any socket receives are client frames, each
whole unless its write failed, and when none fails the courier's stream
decoder splits them back into the commands, in order, whenever each fits
the format (`run_sends_whole_frames`).

A connection that has no socket and cannot pass `Connect`'s guard (no
key, no certificate or no token) stays so: `Connect` returns before the
dial, and every other call stops at `conn = nil`. Every run then leaves it
as it was and does nothing observable (`run_idle_of_blocked`), an empty
token included, which the design allows for a first connect.
`RealHandshaker` builds its connection this way
(`Messaging.handshake_connection_idle`).
-/

namespace IMessageClient

namespace Apns

/-! ## Client frames -/

/-- The frames a client writes. -/
inductive ClientFrame : Payload → Prop
  | connect (cmd : ConnectCommand) : ClientFrame cmd.toPayload
  | filterTopics (cmd : FilterTopicsCommand) : ClientFrame cmd.toPayload
  | setState (cmd : SetStateCommand) : ClientFrame cmd.toPayload
  | keepAlive : ClientFrame keepAlivePayload

/-- An event that writes writes the start of one client frame, and the
whole frame when `whole`. -/
def Event.SendsFrame (whole : Bool) : Event → Prop
  | .write _ data => ∃ p, ClientFrame p ∧ data <+: p.toBytes ∧ (whole = true → data = p.toBytes)
  | _ => True

/-- Every event of a trace writes the start of a client frame. -/
def SendsFrames (whole : Bool) (evs : List Event) : Prop := ∀ e ∈ evs, e.SendsFrame whole

variable {whole : Bool}

theorem sendsFrames_nil : SendsFrames whole [] := fun _ h => absurd h (List.not_mem_nil _)

theorem SendsFrames.append {a b : List Event} (ha : SendsFrames whole a) (hb : SendsFrames whole b) :
    SendsFrames whole (a ++ b) := fun e he => (List.mem_append.1 he).elim (ha e) (hb e)

/-- Events that write nothing. -/
theorem sendsFrames_of_silent {evs : List Event} (h : ∀ e ∈ evs, e.isSilent) : SendsFrames whole evs := by
  intro e he
  cases e <;> first | trivial | cases h _ he

/-- The bytes a trace writes to socket `n`, in order. -/
def writtenTo (n : Nat) (evs : List Event) : List UInt8 :=
  evs.flatMap fun
    | .write m data => if m = n then data else []
    | _ => []

/-- **A trace writes to each socket the starts of a sequence of client
frames**, whole when `whole`. -/
theorem writtenTo_frames (n : Nat) {evs : List Event} (h : SendsFrames whole evs) :
    ∃ parts : List (Payload × List UInt8),
      (∀ x ∈ parts, ClientFrame x.1 ∧ x.2 <+: x.1.toBytes ∧ (whole = true → x.2 = x.1.toBytes)) ∧
        writtenTo n evs = (parts.map Prod.snd).flatten := by
  induction evs with
  | nil => exact ⟨[], by simp, rfl⟩
  | cons e evs ih =>
    obtain ⟨parts, hparts, hw⟩ := ih fun e' h' => h e' (List.mem_cons_of_mem _ h')
    have he := h e (List.mem_cons_self _ _)
    cases e with
    | write m data =>
      obtain ⟨p, hp, hpre, hwhole⟩ := he
      by_cases hm : m = n
      · refine ⟨(p, data) :: parts, fun x hx => ?_, ?_⟩
        · rcases List.mem_cons.1 hx with rfl | hx
          exacts [⟨hp, hpre, hwhole⟩, hparts x hx]
        · simp only [writtenTo, List.flatMap_cons, hm, if_true] at hw ⊢
          rw [hw]; rfl
      · exact ⟨parts, hparts, by simpa [writtenTo, hm] using hw⟩
    | _ => exact ⟨parts, hparts, by simpa [writtenTo] using hw⟩

/-! ## Write outcomes -/

variable {σ : Type}

namespace Connection

/-- The outcomes left to the writes of the connection's socket. -/
def failuresLeft (c : Connection σ) : List (Option WriteFailure) :=
  match c.conn with
  | some sock => sock.writeFailures
  | none => []

/-- No write left to the connection's socket fails. -/
def WritesOk (c : Connection σ) : Prop := ∀ e ∈ c.failuresLeft, e = none

/-- Every socket the world dials takes every write whole. -/
def ConnectEnv.WritesOk (env : ConnectEnv) : Prop :=
  ∀ addr sock, env.dial addr = .ok sock → ∀ e ∈ sock.writeFailures, e = none

/-- **An operation writes the starts of client frames**, whole while no
write of the socket fails, and a socket whose writes all succeed stays so. -/
structure Sends (whole : Bool) (c : Connection σ) (evs : List Event) (c' : Connection σ) : Prop where
  frames : (whole = true → c.WritesOk) → SendsFrames whole evs
  keeps : whole = true → c.WritesOk → c'.WritesOk

variable {c c' c'' : Connection σ} {evs evs' : List Event}

theorem Sends.trans (h : Sends whole c evs c') (h' : Sends whole c' evs' c'') : Sends whole c (evs ++ evs') c'' where
  frames hw := (h.frames hw).append (h'.frames fun hwh => h.keeps hwh (hw hwh))
  keeps hwh hc := h'.keeps hwh (h.keeps hwh hc)

/-- An operation that keeps the outcomes left and causes only silent events. -/
theorem Sends.of_failures (hf : c'.failuresLeft = c.failuresLeft) (hs : ∀ e ∈ evs, e.isSilent) :
    Sends whole c evs c' :=
  ⟨fun _ => sendsFrames_of_silent hs, fun _ hc => by rwa [WritesOk, hf]⟩

theorem Sends.refl (c : Connection σ) : Sends whole c [] c := .of_failures rfl (by simp)

/-- `write` of a client frame: the frame whole, or the start of it that went
out before the socket failed. -/
theorem write_sends {p : Payload} (hp : ClientFrame p) (c : Connection σ) :
    Sends whole c (c.write p.toBytes).2.1 (c.write p.toBytes).1 := by
  unfold write
  split
  · exact .refl c
  rename_i sock hconn
  split
  · exact .refl c
  have hleft : c.failuresLeft = sock.writeFailures := by simp [failuresLeft, hconn]
  have hwhole : SendsFrames whole [.write sock.id p.toBytes] := by
    simpa [SendsFrames, Event.SendsFrame] using ⟨p, hp, List.prefix_refl _, fun _ => rfl⟩
  split
  · exact ⟨fun _ => hwhole, fun _ hc => hc⟩
  · rename_i rest hws
    exact ⟨fun _ => hwhole,
      fun _ hc e he => hc e (by rw [hleft, hws]; exact List.mem_cons_of_mem _ (by simpa [failuresLeft] using he))⟩
  · rename_i failure rest hws
    have hfail : ¬ c.WritesOk := fun hc =>
      absurd (hc _ (by rw [hleft, hws]; exact List.mem_cons_self _ _)) (by simp)
    exact ⟨fun hw => by
        simpa [SendsFrames, Event.SendsFrame] using
          ⟨p, hp, List.take_prefix _ _, fun hwh => absurd (hw hwh) hfail⟩,
      fun _ hc => absurd hc hfail⟩

theorem Sends.of_write {p : Payload} (hp : ClientFrame p) {r : Option Fault}
    (h : c.write p.toBytes = (c', evs, r)) : Sends whole c evs c' := by
  have hw : Sends whole c (c.write p.toBytes).2.1 (c.write p.toBytes).1 := write_sends hp c
  rwa [h] at hw

theorem guardedWrite_sends (c : Connection σ) {p : Payload} (hp : ClientFrame p) :
    Sends whole c (c.guardedWrite p).2.1 (c.guardedWrite p).1 := by
  unfold guardedWrite
  split
  · exact .refl c
  · exact write_sends hp c

@[simp] theorem readPayload_failuresLeft (c : Connection σ) : c.readPayload.1.failuresLeft = c.failuresLeft := by
  cases h : c.conn <;> simp [readPayload, failuresLeft, h]

@[simp] theorem connectAck_failuresLeft (c : Connection σ) (p : Payload) :
    (c.connectAck p).1.failuresLeft = c.failuresLeft := by
  unfold connectAck
  split
  · rfl
  · dsimp only
    split <;> rfl

theorem Sends.of_readPayload {r : Except Fault Payload} (h : c.readPayload = (c', r)) : Sends whole c [] c' :=
  .of_failures (by rw [← readPayload_failuresLeft c, h]) (by simp)

theorem connect_sends (sha1 : List UInt8 → List UInt8) (env : ConnectEnv) (c : Connection σ)
    (henv : whole = true → env.WritesOk) :
    Sends whole c (c.connect sha1 env).2.1 (c.connect sha1 env).1 := by
  unfold connect
  split
  · split
    · exact .refl c
    split
    · exact .refl c
    rename_i sock hdial
    let c1 : Connection σ := { c with conn := some sock }
    have hdialled : Sends whole c [.dial sock.id] c1 :=
      ⟨fun _ => by simp [SendsFrames, Event.SendsFrame],
        fun hwh _ e he => henv hwh _ sock hdial e (by simpa [c1, failuresLeft] using he)⟩
    dsimp only
    split
    · exact hdialled
    split
    · exact hdialled
    split
    · next heq => exact hdialled.trans (.of_write (.connect _) heq)
    next c2 evs heq =>
    have hw : Sends whole c (.dial sock.id :: evs) c2 := hdialled.trans (.of_write (.connect _) heq)
    split
    · next hread => simpa using hw.trans (Sends.of_readPayload hread)
    · next c3 payload hread =>
      have hack : Sends whole c3 [] (c3.connectAck payload).1 :=
        .of_failures (connectAck_failuresLeft _ _) (by simp)
      simpa using (hw.trans (.of_readPayload hread)).trans hack
  · exact .refl c

theorem dispatch_sends (c : Connection σ) (p : Payload) (s : σ) :
    Sends whole c (c.dispatch p s).2.2.1 (c.dispatch p s).1 := by
  unfold dispatch
  split
  · split
    · exact .refl c
    · dsimp only; split <;> exact .of_failures rfl (List.all_eq_true.1 rfl)
  split
  · split <;> exact .of_write .keepAlive ‹_›
  split
  · exact .refl c
  · exact .of_failures rfl (List.all_eq_true.1 rfl)

theorem readLoopStep_sends (c : Connection σ) (done : Bool) (s : σ) :
    Sends whole c (c.readLoopStep done s).2.2.1 (c.readLoopStep done s).1 := by
  cases done
  · rcases hr : c.readPayload with ⟨c1, err | p⟩
    · rw [readLoopStep_of_read_error s hr]
      exact .of_readPayload hr
    · rw [readLoopStep_of_read s hr]
      have hrecv : Sends whole c [.receive p] c1 :=
        .of_failures (by rw [← readPayload_failuresLeft c, hr]) (List.all_eq_true.1 rfl)
      exact hrecv.trans (dispatch_sends c1 p s)
  · exact .refl c

/-- **A whole `ReadLoop`**, by induction on the bytes left to read. -/
theorem readLoopFrom_sends (ctx : Context) (n : Nat) :
    ∀ (c : Connection σ), c.inboundLength = n → ∀ (k : Nat) (s : σ),
      Sends whole c (c.readLoopFrom ctx k s).2.2.1 (c.readLoopFrom ctx k s).1 := by
  induction n using Nat.strong_induction_on with
  | _ n ih =>
  intro c hn k s
  have h1 : Sends whole c (c.readLoopStep (ctx.done k) s).2.2.1 (c.readLoopStep (ctx.done k) s).1 :=
    readLoopStep_sends c (ctx.done k) s
  rcases hstep : c.readLoopStep (ctx.done k) s with ⟨c', s', evs, _ | err⟩ <;> rw [hstep] at h1
  · rw [readLoopFrom_of_step_none hstep]
    exact h1.trans (ih _ (hn ▸ readLoopStep_consumes hstep) c' rfl (k + 1) s')
  · rwa [readLoopFrom_of_step_some hstep]

theorem close_sends (c : Connection σ) : Sends whole c c.close.2.1 c.close.1 := by
  unfold close
  split
  · exact .refl c
  rename_i sock hconn
  split
  · exact .refl c
  · exact ⟨fun _ => by simp [SendsFrames, Event.SendsFrame],
      fun _ hc => by simpa [WritesOk, failuresLeft, hconn] using hc⟩

end Connection

open Connection

/-! ## Runs -/

/-- A call whose world dials only sockets that take every write whole. -/
def Call.WritesOk : Call → Prop
  | .connect env => env.WritesOk
  | _ => True

theorem Call.apply_sends (sha1 : List UInt8 → List UInt8) (call : Call) (cs : Connection σ × σ)
    (hcall : whole = true → call.WritesOk) :
    Sends whole cs.1 (call.apply sha1 cs).2.1 (call.apply sha1 cs).1.1 := by
  obtain ⟨c, s⟩ := cs
  cases call with
  | connect env => exact connect_sends sha1 env c hcall
  | filter topics => exact guardedWrite_sends c (.filterTopics _)
  | setState state => exact guardedWrite_sends c (.setState _)
  | readLoop ctx => exact readLoopFrom_sends ctx _ c rfl 0 s
  | close => exact close_sends c

theorem run_sends (sha1 : List UInt8 → List UInt8) (calls : List Call)
    (hcalls : whole = true → ∀ call ∈ calls, call.WritesOk) :
    ∀ cs : Connection σ × σ, Sends whole cs.1 (run sha1 calls cs).2 (run sha1 calls cs).1.1 := by
  induction calls with
  | nil => exact fun cs => .refl cs.1
  | cons call calls ih =>
    exact fun cs => (call.apply_sends sha1 cs fun hwh => hcalls hwh call (List.mem_cons_self _ _)).trans
      (ih (fun hwh c hc => hcalls hwh c (List.mem_cons_of_mem _ hc)) _)

/-- **Every socket receives client frames, each whole unless its write
failed.** Over every run from every connection, the bytes written to a
socket are the starts of a sequence of client frames (`Connect`,
`FilterTopics`, `SetState`, the keep-alive reply): a frame is cut where its
`Write` failed, and since the socket stays in `conn`, later frames follow
the cut one. While no write fails, they are whole frames, which a
courier's stream decoder reads back as exactly those commands, in order,
stopping at their end, whenever each fits the format. -/
theorem run_sends_whole_frames (sha1 : List UInt8 → List UInt8) (calls : List Call)
    (cs : Connection σ × σ) (n : Nat) :
    (∃ parts : List (Payload × List UInt8), (∀ x ∈ parts, ClientFrame x.1 ∧ x.2 <+: x.1.toBytes) ∧
        writtenTo n (run sha1 calls cs).2 = (parts.map Prod.snd).flatten) ∧
      (cs.1.WritesOk → (∀ call ∈ calls, call.WritesOk) →
        ∃ ps : List Payload, (∀ p ∈ ps, ClientFrame p) ∧
          writtenTo n (run sha1 calls cs).2 = (ps.map Payload.toBytes).flatten ∧
          ((∀ p ∈ ps, p.Encodable) → ∀ rest err,
            unmarshalBinaryStreamN ps.length ⟨writtenTo n (run sha1 calls cs).2 ++ rest, err⟩ =
              (ps.map .ok, ⟨rest, err⟩))) := by
  constructor
  · obtain ⟨parts, hparts, hw⟩ :=
      writtenTo_frames n ((run_sends sha1 calls (by simp) cs : Sends false _ _ _).frames (by simp))
    exact ⟨parts, fun x hx => ⟨(hparts x hx).1, (hparts x hx).2.1⟩, hw⟩
  · intro hc hcalls
    obtain ⟨parts, hparts, hw⟩ :=
      writtenTo_frames n ((run_sends sha1 calls (fun _ => hcalls) cs : Sends true _ _ _).frames (fun _ => hc))
    have hwhole : (parts.map Prod.fst).map Payload.toBytes = parts.map Prod.snd := by
      rw [List.map_map]
      exact List.map_congr_left fun x hx => ((hparts x hx).2.2 rfl).symm
    refine ⟨parts.map Prod.fst, fun p hp => ?_, by rw [hw, hwhole], fun henc rest err => ?_⟩
    · obtain ⟨x, hx, rfl⟩ := List.mem_map.1 hp
      exact (hparts x hx).1
    · rw [hw, ← hwhole]
      exact unmarshalBinaryStreamN_toBytes _ henc rest err

/-- A connection on socket `3`, whose writes all succeed. -/
def openConnection : Connection Unit := { newConnection none none [] with conn := some ⟨3, ⟨[], eof⟩, [], false⟩ }

theorem run_sends_whole_frames_setState :
    openConnection.WritesOk ∧ (∀ call ∈ [Call.setState 1], call.WritesOk) ∧
      ∃ ps : List Payload, (∀ p ∈ ps, ClientFrame p) ∧
        writtenTo 3 (run id [Call.setState 1] (openConnection, ())).2 = (ps.map Payload.toBytes).flatten ∧
        ((∀ p ∈ ps, p.Encodable) → ∀ rest err,
          unmarshalBinaryStreamN ps.length ⟨writtenTo 3 (run id [Call.setState 1] (openConnection, ())).2 ++ rest, err⟩ =
            (ps.map .ok, ⟨rest, err⟩)) :=
  have hc : openConnection.WritesOk := fun _ h => absurd h (List.not_mem_nil _)
  have hcalls : ∀ call ∈ [Call.setState 1], call.WritesOk := fun _ h => by
    rw [List.mem_singleton.1 h]; trivial
  ⟨hc, hcalls, (run_sends_whole_frames id [Call.setState 1] (openConnection, ()) 3).2 hc hcalls⟩

/-! ## A connection that cannot connect -/

namespace Connection

/-- `ReadLoop` without a socket returns at its first turn. -/
theorem readLoopFrom_of_conn_none {c : Connection σ} (hc : c.conn = none) (ctx : Context) (k : Nat) (s : σ) :
    (c.readLoopFrom ctx k s).1 = c ∧ (c.readLoopFrom ctx k s).2.1 = s ∧ (c.readLoopFrom ctx k s).2.2.1 = [] := by
  have hstep : ∃ err, c.readLoopStep (ctx.done k) s = (c, s, [], some err) := by
    cases ctx.done k <;> simp [readLoopStep, readPayload, hc]
  obtain ⟨err, h⟩ := hstep
  simp [readLoopFrom_of_step_some h]

end Connection

/-- One call on a connection without a socket that cannot pass `Connect`'s
guard changes nothing and causes nothing. -/
theorem Call.apply_of_blocked (sha1 : List UInt8 → List UInt8) (call : Call) {c : Connection σ} (s : σ)
    (hconn : c.conn = none) (hguard : c.privateKey = none ∨ c.deviceCert = none ∨ c.token = []) :
    (call.apply sha1 (c, s)).1 = (c, s) ∧ (call.apply sha1 (c, s)).2.1 = [] := by
  cases call with
  | connect env =>
    have h : (c.connect sha1 env).1 = c ∧ (c.connect sha1 env).2.1 = [] := by
      unfold Connection.connect
      rcases hk : c.privateKey with _ | key <;> rcases hd : c.deviceCert with _ | cert <;> simp_all
    simp [Call.apply, h]
  | filter topics => simp [Call.apply, Connection.filter, guardedWrite_of_conn_none hconn]
  | setState state => simp [Call.apply, Connection.setState, guardedWrite_of_conn_none hconn]
  | readLoop ctx =>
    obtain ⟨h1, h2, h3⟩ := readLoopFrom_of_conn_none hconn ctx 0 s
    simp only [Call.apply, Connection.readLoop, h1, h2, h3, and_self]
  | close => simp [Call.apply, Connection.close, hconn]

/-- **A connection that cannot connect stays idle**: with no socket, and
no key, no certificate or no token, every run leaves it and the handler's
state as they were, and causes no event: no dial, no write, no message. -/
theorem run_idle_of_blocked (sha1 : List UInt8 → List UInt8) (calls : List Call) (c : Connection σ) (s : σ)
    (hconn : c.conn = none) (hguard : c.privateKey = none ∨ c.deviceCert = none ∨ c.token = []) :
    run sha1 calls (c, s) = ((c, s), []) := by
  induction calls with
  | nil => rfl
  | cons call calls ih =>
    obtain ⟨h1, h2⟩ := call.apply_of_blocked sha1 s hconn hguard
    simp only [run, h1, h2, ih, List.nil_append]

end Apns

end IMessageClient
