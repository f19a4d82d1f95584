import IMessageClient.Apns.Connection
import IMessageClient.Apns.Framing
/-!
# APNS — where frames are written, over every run

A run is any sequence of `Connect`, `Filter`, `SetState`, `ReadLoop` and
`Close` calls on one `Connection`, with every dial, nonce, signature, write
outcome and reply the world can give. Its trace says which socket is
writable at each point: the one the latest dial opened, until it is closed
(`openAfter`). Every operation keeps the trace and the connection in step
(`Tracks`): it writes only to the writable socket, and the socket it leaves
writable is the one the trace says. `run_writesToOpen` collects the
operations' lemmas over a whole run.

What makes a socket writable is the dial, not the handshake: `Connect`
stores the socket before it sends the connect command, and keeps it when
the reply is refused, so a later `Filter` writes on a connection the server
never acknowledged (`filter_writes_after_refused_connect`). Only before the
first dial do `Filter` and `SetState` return `ErrNotConnected`.
-/

namespace IMessageClient

namespace Apns

/-! ## What a trace leaves writable -/

/-- A `Dial` event. -/
def Event.isDial : Event → Bool
  | .dial _ => true
  | _ => false

/-- An event that neither opens, closes nor writes to a socket. -/
def Event.isSilent : Event → Bool
  | .receive _ | .handle _ | .log _ => true
  | _ => false

/-- The writable socket after one event: a dial opens its socket, a close
of the writable socket leaves none. -/
def Event.nextOpen (cur : Option Nat) : Event → Option Nat
  | .dial n => some n
  | .close n => if cur = some n then none else cur
  | _ => cur

/-- Whether an event may happen while `cur` is writable: a write only to it. -/
def Event.allowed (cur : Option Nat) : Event → Bool
  | .write n _ => cur = some n
  | _ => true

/-- The socket a trace leaves writable. -/
def openAfter (cur : Option Nat) (evs : List Event) : Option Nat :=
  evs.foldl Event.nextOpen cur

/-- **Every write of a trace goes to the socket writable at that point.** -/
def writesToOpen : Option Nat → List Event → Bool
  | _, [] => true
  | cur, e :: evs => e.allowed cur && writesToOpen (e.nextOpen cur) evs

@[simp] theorem openAfter_nil (cur : Option Nat) : openAfter cur [] = cur := rfl

@[simp] theorem openAfter_cons (cur : Option Nat) (e : Event) (evs : List Event) :
    openAfter cur (e :: evs) = openAfter (e.nextOpen cur) evs := rfl

theorem openAfter_append (cur : Option Nat) (a b : List Event) :
    openAfter cur (a ++ b) = openAfter (openAfter cur a) b :=
  List.foldl_append _ _ _ _

theorem writesToOpen_append (cur : Option Nat) (a b : List Event) :
    writesToOpen cur (a ++ b) = (writesToOpen cur a && writesToOpen (openAfter cur a) b) := by
  induction a generalizing cur with
  | nil => rfl
  | cons e a ih => simp [writesToOpen, ih, Bool.and_assoc]

/-- A silent event is allowed and leaves the writable socket as it is. -/
theorem Event.silent_step {e : Event} (he : e.isSilent) (cur : Option Nat) :
    e.allowed cur = true ∧ e.nextOpen cur = cur ∧ e.isDial = false := by
  cases e <;> first | exact ⟨rfl, rfl, rfl⟩ | cases he

/-- Silent events leave the writable socket as it is. -/
theorem silent_trace {evs : List Event} (hs : ∀ e ∈ evs, e.isSilent) (cur : Option Nat) :
    writesToOpen cur evs = true ∧ openAfter cur evs = cur := by
  induction evs with
  | nil => exact ⟨rfl, rfl⟩
  | cons e evs ih =>
    obtain ⟨ha, hn, -⟩ := Event.silent_step (hs e (List.mem_cons_self _ _)) cur
    simp only [writesToOpen, openAfter_cons, ha, hn, Bool.true_and]
    exact ih fun e' h' => hs e' (List.mem_cons_of_mem _ h')

/-! ## The connection's side -/

variable {σ : Type}

namespace Connection

/-- The socket `c` can write to: its socket, unless closed. -/
def openSocket (c : Connection σ) : Option Nat :=
  c.conn.bind fun sock => if sock.closed then none else some sock.id

/-- What the write path sees of the socket: its id, and whether it is closed. -/
def endpoint (c : Connection σ) : Option (Nat × Bool) :=
  c.conn.map fun sock => (sock.id, sock.closed)

/-- The writable socket is read off the endpoint. -/
theorem openSocket_eq (c : Connection σ) :
    c.openSocket = c.endpoint.bind fun e => if e.2 then none else some e.1 := by
  unfold openSocket endpoint
  cases c.conn <;> rfl

theorem isSome_conn (c : Connection σ) : c.conn.isSome = c.endpoint.isSome := by
  unfold endpoint
  cases c.conn <;> rfl

/-- **An operation keeps the trace and the connection in step**: its
events write only to the writable socket and leave writable the socket the
connection can write to, and a socket is stored exactly when one was
dialled. -/
structure Tracks (c : Connection σ) (evs : List Event) (c' : Connection σ) : Prop where
  writes : writesToOpen c.openSocket evs = true
  opens : openAfter c.openSocket evs = c'.openSocket
  dialled : c'.conn.isSome = (c.conn.isSome || evs.any Event.isDial)

variable {c c' c'' : Connection σ} {evs evs' : List Event}

theorem Tracks.trans (h : Tracks c evs c') (h' : Tracks c' evs' c'') : Tracks c (evs ++ evs') c'' where
  writes := by rw [writesToOpen_append, h.writes, h.opens, h'.writes]; rfl
  opens := by rw [openAfter_append, h.opens, h'.opens]
  dialled := by rw [h'.dialled, h.dialled, List.any_append, Bool.or_assoc]

/-- An operation that keeps the endpoint and causes only silent events. -/
theorem Tracks.of_endpoint (he : c'.endpoint = c.endpoint) (hs : ∀ e ∈ evs, e.isSilent) :
    Tracks c evs c' := by
  have ho : c'.openSocket = c.openSocket := by rw [openSocket_eq, openSocket_eq, he]
  have hd : c'.conn.isSome = c.conn.isSome := by rw [isSome_conn, isSome_conn, he]
  have hnd : evs.any Event.isDial = false :=
    List.any_eq_false.2 fun e he' => Bool.eq_false_iff.1 (Event.silent_step (hs e he') none).2.2
  exact ⟨(silent_trace hs _).1, by rw [(silent_trace hs _).2, ho], by rw [hd, hnd, Bool.or_false]⟩

theorem Tracks.of_endpoint_nil (he : c'.endpoint = c.endpoint) : Tracks c [] c' :=
  .of_endpoint he (by simp)

theorem Tracks.refl (c : Connection σ) : Tracks c [] c := .of_endpoint_nil rfl

/-- A write to the writable socket. -/
theorem Tracks.write_event {n : Nat} (hc : c.openSocket = some n) (he : c'.endpoint = c.endpoint)
    (data : List UInt8) : Tracks c [.write n data] c' := by
  have h := Tracks.of_endpoint_nil he
  exact ⟨by simp [writesToOpen, Event.allowed, hc], by simpa [Event.nextOpen] using h.opens,
    by simpa [Event.isDial] using h.dialled⟩

/-! ## Each operation -/

theorem write_tracks (c : Connection σ) (data : List UInt8) :
    Tracks c (c.write data).2.1 (c.write data).1 := by
  unfold write
  split
  · exact .refl c
  rename_i sock hconn
  split
  · exact .refl c
  rename_i hopen
  have hc : c.openSocket = some sock.id := by simp [openSocket, hconn, hopen]
  split
  · exact .write_event hc rfl data
  · exact .write_event hc (by simp [endpoint, hconn]) data
  · exact .write_event hc (by simp [endpoint, hconn]) _

@[simp] theorem readPayload_endpoint (c : Connection σ) : c.readPayload.1.endpoint = c.endpoint := by
  cases h : c.conn <;> simp [readPayload, endpoint, h]

@[simp] theorem connectAck_endpoint (c : Connection σ) (p : Payload) :
    (c.connectAck p).1.endpoint = c.endpoint := by
  unfold connectAck
  split
  · rfl
  · dsimp only
    split <;> rfl

theorem Tracks.of_write {data : List UInt8} {r : Option Fault} (h : c.write data = (c', evs, r)) :
    Tracks c evs c' := by
  have hw := write_tracks c data
  rwa [h] at hw

theorem Tracks.of_readPayload {r : Except Fault Payload} (h : c.readPayload = (c', r)) :
    Tracks c [] c' :=
  .of_endpoint_nil (by rw [← readPayload_endpoint c, h])

theorem dispatch_tracks (c : Connection σ) (p : Payload) (s : σ) :
    Tracks c (c.dispatch p s).2.2.1 (c.dispatch p s).1 := by
  unfold dispatch
  split
  · split
    · exact .refl c
    · dsimp only; split <;> exact .of_endpoint rfl (List.all_eq_true.1 rfl)
  split
  · split <;> exact .of_write ‹_›
  split
  · exact .refl c
  · exact .of_endpoint rfl (List.all_eq_true.1 rfl)

theorem readLoopStep_tracks (c : Connection σ) (done : Bool) (s : σ) :
    Tracks c (c.readLoopStep done s).2.2.1 (c.readLoopStep done s).1 := by
  cases done
  · rcases hr : c.readPayload with ⟨c1, err | p⟩
    · rw [readLoopStep_of_read_error s hr]
      exact .of_readPayload hr
    · rw [readLoopStep_of_read s hr]
      have hrecv : Tracks c [.receive p] c1 :=
        .of_endpoint (by rw [← readPayload_endpoint c, hr]) (List.all_eq_true.1 rfl)
      exact hrecv.trans (dispatch_tracks c1 p s)
  · exact .refl c

/-- **A whole `ReadLoop`**, by induction on the bytes left to read. -/
theorem readLoopFrom_tracks (ctx : Context) (n : Nat) :
    ∀ (c : Connection σ), c.inboundLength = n → ∀ (k : Nat) (s : σ),
      Tracks c (c.readLoopFrom ctx k s).2.2.1 (c.readLoopFrom ctx k s).1 := by
  induction n using Nat.strong_induction_on with
  | _ n ih =>
  intro c hn k s
  have h1 := readLoopStep_tracks c (ctx.done k) s
  rcases hstep : c.readLoopStep (ctx.done k) s with ⟨c', s', evs, _ | err⟩ <;> rw [hstep] at h1
  · rw [readLoopFrom_of_step_none hstep]
    exact h1.trans (ih _ (hn ▸ readLoopStep_consumes hstep) c' rfl (k + 1) s')
  · rwa [readLoopFrom_of_step_some hstep]

theorem close_tracks (c : Connection σ) : Tracks c c.close.2.1 c.close.1 := by
  unfold close
  split
  · exact .refl c
  rename_i sock hconn
  split
  · exact .refl c
  rename_i hopen
  exact ⟨by simp [writesToOpen, Event.allowed], by simp [openSocket, hconn, hopen, Event.nextOpen],
    by simp [hconn, Event.isDial]⟩

/-- A dial stores an open socket. -/
theorem Tracks.dial {sock : Socket} (hopen : sock.closed = false) :
    Tracks c [.dial sock.id] { c with conn := some sock } :=
  ⟨by simp [writesToOpen, Event.allowed], by simp [openSocket, hopen, Event.nextOpen],
    by simp [Event.isDial]⟩

theorem connect_tracks (sha1 : List UInt8 → List UInt8) (env : ConnectEnv) (c : Connection σ) :
    Tracks c (c.connect sha1 env).2.1 (c.connect sha1 env).1 := by
  unfold connect
  split
  · split
    · exact .refl c
    split
    · exact .refl c
    rename_i sock hdial
    have hd : Tracks c [.dial sock.id] { c with conn := some sock } :=
      .dial (env.dial_open _ _ hdial)
    dsimp only
    split
    · exact hd
    split
    · exact hd
    split
    · next heq => exact hd.trans (.of_write heq)
    next heq =>
    split
    · next heq' => simpa using hd.trans ((Tracks.of_write heq).trans (.of_readPayload heq'))
    next heq' =>
    simpa using hd.trans ((Tracks.of_write heq).trans ((Tracks.of_readPayload heq').trans
      (.of_endpoint_nil (connectAck_endpoint _ _))))
  · exact .refl c

/-- Without a dial, no socket appears. -/
theorem Tracks.conn_none (h : Tracks c evs c') (hc : c.conn = none)
    (hnd : ∀ e ∈ evs, e.isDial = false) : c'.conn = none := by
  have hany : evs.any Event.isDial = false := List.any_eq_false.2 fun e he => by simp [hnd e he]
  simpa [hc, hany] using h.dialled

theorem guardedWrite_tracks (c : Connection σ) (p : Payload) :
    Tracks c (c.guardedWrite p).2.1 (c.guardedWrite p).1 := by
  unfold guardedWrite
  split
  · exact .refl c
  · exact write_tracks c _

/-- Before a dial there is no socket, and `Filter` and `SetState` stop at
their guard. -/
theorem guardedWrite_of_conn_none (hc : c.conn = none) (p : Payload) :
    c.guardedWrite p = (c, [], some errNotConnected) := by
  simp [guardedWrite, hc]

end Connection

/-! ## Runs -/

/-- A call a client makes on its connection. -/
inductive Call where
  | connect (env : Connection.ConnectEnv)
  | filter (topics : List (List UInt8))
  | setState (state : UInt8)
  | readLoop (ctx : Connection.Context)
  | close

open Connection

/-- One call, on the connection and the handler's state: where it leaves
them, its events, and the error it returns. -/
def Call.apply (sha1 : List UInt8 → List UInt8) : Call → Connection σ × σ →
    (Connection σ × σ) × List Event × Option Fault
  | .connect env, (c, s) => let (c, evs, err) := c.connect sha1 env; ((c, s), evs, err)
  | .filter topics, (c, s) => let (c, evs, err) := c.filter sha1 topics; ((c, s), evs, err)
  | .setState state, (c, s) => let (c, evs, err) := c.setState state; ((c, s), evs, err)
  | .readLoop ctx, (c, s) => let (c, s, evs, err) := c.readLoop ctx s; ((c, s), evs, some err)
  | .close, (c, s) => let (c, evs, err) := c.close; ((c, s), evs, err)

/-- Calls one after another: where they leave the connection and the
handler's state, and their events in order. -/
def run (sha1 : List UInt8 → List UInt8) : List Call → Connection σ × σ → (Connection σ × σ) × List Event
  | [], cs => (cs, [])
  | call :: calls, cs =>
    let (cs, evs, _) := call.apply sha1 cs
    let (cs, evs') := run sha1 calls cs
    (cs, evs ++ evs')

theorem Call.apply_tracks (sha1 : List UInt8 → List UInt8) (call : Call) (cs : Connection σ × σ) :
    Tracks cs.1 (call.apply sha1 cs).2.1 (call.apply sha1 cs).1.1 := by
  obtain ⟨c, s⟩ := cs
  cases call with
  | connect env => exact connect_tracks sha1 env c
  | filter topics => exact guardedWrite_tracks c _
  | setState state => exact guardedWrite_tracks c _
  | readLoop ctx => exact readLoopFrom_tracks ctx _ c rfl 0 s
  | close => exact close_tracks c

/-- **Every run keeps the trace and the connection in step.** -/
theorem run_tracks (sha1 : List UInt8 → List UInt8) (calls : List Call) :
    ∀ cs : Connection σ × σ, Tracks cs.1 (run sha1 calls cs).2 (run sha1 calls cs).1.1 := by
  induction calls with
  | nil => exact fun cs => .refl cs.1
  | cons call calls ih => exact fun cs => (call.apply_tracks sha1 cs).trans (ih _)

/-- **A frame is written only to the socket the latest `Connect` dialled,
and only until it is closed**, over every run from a new connection; while
no `Connect` has dialled, `Filter` and `SetState` return `ErrNotConnected`
and write nothing. -/
theorem run_writesToOpen (sha1 : List UInt8 → List UInt8) (calls : List Call)
    (privateKey : Option (List UInt8 → Except String (List UInt8))) (deviceCert : Option (List UInt8))
    (token : List UInt8) (s : σ) :
    let r := run sha1 calls (newConnection privateKey deviceCert token, s)
    writesToOpen none r.2 = true ∧ openAfter none r.2 = r.1.1.openSocket ∧
      ((∀ e ∈ r.2, e.isDial = false) → ∀ topics state,
        r.1.1.filter sha1 topics = (r.1.1, [], some errNotConnected) ∧
          r.1.1.setState state = (r.1.1, [], some errNotConnected)) := by
  have h := run_tracks sha1 calls (newConnection privateKey deviceCert token, s)
  refine ⟨h.writes, h.opens, fun hnd topics state => ?_⟩
  have hc := h.conn_none rfl hnd
  exact ⟨guardedWrite_of_conn_none hc _, guardedWrite_of_conn_none hc _⟩

/-- A run that filters, sets the state and closes before any `Connect`. -/
theorem run_writesToOpen_undialled :
    let r := run id [.filter [[1]], .setState 1, .close]
      (newConnection (σ := Unit) none none [1], ())
    writesToOpen none r.2 = true ∧ openAfter none r.2 = r.1.1.openSocket ∧
      ((∀ e ∈ r.2, e.isDial = false) → ∀ topics state,
        r.1.1.filter id topics = (r.1.1, [], some errNotConnected) ∧
          r.1.1.setState state = (r.1.1, [], some errNotConnected)) :=
  run_writesToOpen id [.filter [[1]], .setState 1, .close] none none [1] ()

/-! ## A refused handshake leaves the socket writable -/

/-- A courier that accepts the dial and answers the connect command with a
bare command `9`, not a connect-ack. -/
def refusingCourier : ConnectEnv where
  hostNum := 1
  dial _ := .ok ⟨5, ⟨[9, 0, 0, 0, 0], eof⟩, [], false⟩
  dial_open _ _ h := by cases h; rfl
  nonce := .ok (List.replicate 20 0)

/-- `Connect` returns an error, and the next `Filter` writes its frame to
the socket of that refused handshake. -/
theorem filter_writes_after_refused_connect :
    let c := (newConnection (σ := Unit) (some fun _ => .ok []) (some []) [1]).connect id refusingCourier
    c.2.2 = some (.error "unexpected response to connect: command 9") ∧
      (c.1.filter id []).2 = ([.write 5 (FilterTopicsCommand.toPayload ⟨[1], []⟩).toBytes], none) := by
  have hread : unmarshalBinaryStream Payload.empty ⟨[9, 0, 0, 0, 0], eof⟩ = (.ok ⟨9, []⟩, ⟨[], eof⟩) :=
    unmarshalBinaryStream_zero_length (by decide) [] eof
  have hid : (9 : UInt8) ≠ commandConnectAck := by decide
  simp [connect, refusingCourier, newConnection, write, readPayload, hread, connectAck, hid,
    filter, guardedWrite]
  rfl

end Apns

end IMessageClient
