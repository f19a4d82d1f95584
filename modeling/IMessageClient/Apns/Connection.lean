import IMessageClient.Apns.Commands
/-!
# APNS — the courier connection

`Connection` is the struct of `connection.go`, its `net.Conn` a `Socket`:
the bytes the server sends and the error reads report once they run out,
what each write does, and whether `Close` was called. Every operation
returns the new connection, the events it causes (`Event`) and the error
it returns. The outside world's part of `Connect` (the host `mathrand`
picks, the dial, the nonce) is a `ConnectEnv`; a private key is its
`SignPKCS1v15` function, and `sha1` is taken as given.

`ReadLoop` is a loop of `readLoopStep` turns: a context check, one frame,
its dispatch. It returns when the context is done or a read fails, and a
turn that goes on has consumed a byte of the stream
(`readLoopStep_consumes`), so it returns on every stream.
-/

namespace IMessageClient

namespace Apns

/-- `CourierHostname`. -/
def courierHostname : String := "courier.push.apple.com"

/-- `CourierPort`. -/
def courierPort : Nat := 5223

/-- `SendMessagePayload`; a Go string is its bytes. -/
structure SendMessagePayload where
  topic : List UInt8
  payload : List UInt8
  deriving DecidableEq, Repr

/-- `MessageHandler`: it may change the state `σ` it closes over, and may
return an error. -/
def MessageHandler (σ : Type) : Type := σ → SendMessagePayload → σ × Option String

/-- What a connection does that can be observed. -/
inductive Event where
  /-- `Connect` dialled a socket. -/
  | dial (sock : Nat)
  /-- Bytes written to a socket. -/
  | write (sock : Nat) (data : List UInt8)
  /-- `ReadLoop` read a frame. -/
  | receive (p : Payload)
  /-- `ReadLoop` called the message handler. -/
  | handle (msg : SendMessagePayload)
  /-- A line printed with `fmt.Printf`. -/
  | log (line : String)
  /-- `Close` closed a socket. -/
  | close (sock : Nat)
  deriving DecidableEq, Repr

/-- How one `Write` fails: after the first `written` bytes went out, with
the error `err`. `Write` returns the count, and the client ignores it. -/
structure WriteFailure where
  written : Nat
  err : String
  deriving DecidableEq, Repr

/-- **A TLS connection to a courier.** Its reads deliver `reader`; its
writes go by the outcomes in `writeFailures`, in turn, and succeed once
they run out. -/
structure Socket where
  id : Nat
  reader : Reader
  writeFailures : List (Option WriteFailure)
  closed : Bool
  deriving DecidableEq, Repr

/-- `net.ErrClosed`'s text: what a closed socket reports. -/
def errClosed : String := "use of closed network connection"

/-- `ErrNotConnected`. -/
def errNotConnected : Fault := .error "not connected to APNS"

/-- `ErrNoToken`. -/
def errNoToken : Fault := .error "no push token available"

/-- `Connection`. -/
structure Connection (σ : Type) where
  /-- The push key, as `rsa.SignPKCS1v15` with it. -/
  privateKey : Option (List UInt8 → Except String (List UInt8))
  /-- The device certificate's raw bytes. -/
  deviceCert : Option (List UInt8)
  token : List UInt8
  conn : Option Socket
  messageHandler : Option (MessageHandler σ)
  maxMessageSize : Nat
  maxLargeMessageSize : Nat

variable {σ : Type}

/-- `NewConnection`. -/
def newConnection (privateKey : Option (List UInt8 → Except String (List UInt8)))
    (deviceCert : Option (List UInt8)) (token : List UInt8) : Connection σ where
  privateKey := privateKey
  deviceCert := deviceCert
  token := token
  conn := none
  messageHandler := none
  maxMessageSize := 4 * 1024
  maxLargeMessageSize := 15 * 1024

namespace Connection

/-! ## Writing and reading -/

/-- `write`. A closed socket fails the write deadline. A failed `Write`
leaves the bytes that went out on the socket, and the socket in `conn`. -/
def write (c : Connection σ) (data : List UInt8) : Connection σ × List Event × Option Fault :=
  match c.conn with
  | none => (c, [], some errNotConnected)
  | some sock =>
    if sock.closed then (c, [], some (.error errClosed))
    else
      match sock.writeFailures with
      | [] => (c, [.write sock.id data], none)
      | none :: rest =>
        ({ c with conn := some { sock with writeFailures := rest } }, [.write sock.id data], none)
      | some failure :: rest =>
        ({ c with conn := some { sock with writeFailures := rest } }, [.write sock.id (data.take failure.written)],
          some (.error failure.err))

/-- `write` on an open socket whose next writes succeed: the bytes go out
and one outcome is used up. -/
theorem write_of_open {c : Connection σ} {sock : Socket} (hconn : c.conn = some sock)
    (hopen : sock.closed = false) (hok : ∀ e ∈ sock.writeFailures, e = none) (data : List UInt8) :
    c.write data = ({ c with conn := some { sock with writeFailures := sock.writeFailures.tail } },
      [.write sock.id data], none) := by
  obtain ⟨id, reader, ws, closed⟩ := sock
  dsimp only at hopen hok ⊢
  subst hopen
  cases ws with
  | nil =>
    obtain ⟨_, _, _, conn, _, _, _⟩ := c
    cases hconn
    rfl
  | cons e ws =>
    obtain rfl := hok e (List.mem_cons_self _ _)
    simp [write, hconn]

/-- `readPayload`: one frame from the socket, into a fresh payload. -/
def readPayload (c : Connection σ) : Connection σ × Except Fault Payload :=
  match c.conn with
  | none => (c, .error errNotConnected)
  | some sock =>
    let (result, reader) := unmarshalBinaryStream Payload.empty sock.reader
    ({ c with conn := some { sock with reader := reader } }, result)

/-- The guard `Filter` and `SetState` share: no socket, no write. -/
def guardedWrite (c : Connection σ) (payload : Payload) : Connection σ × List Event × Option Fault :=
  match c.conn with
  | none => (c, [], some errNotConnected)
  | some _ => c.write payload.toBytes

/-- `Filter`: the SHA-1 of each topic, under the current token. -/
def filter (sha1 : List UInt8 → List UInt8) (topics : List (List UInt8)) (c : Connection σ) :
    Connection σ × List Event × Option Fault :=
  c.guardedWrite (FilterTopicsCommand.toPayload ⟨c.token, topics.map sha1⟩)

/-- `SetState`, with the fixed second field `0x7fffffff`. -/
def setState (state : UInt8) (c : Connection σ) : Connection σ × List Event × Option Fault :=
  c.guardedWrite (SetStateCommand.toPayload ⟨state, 0x7fffffff⟩)

/-- `Close`. The socket stays in `conn`; reads and writes on it fail. -/
def close (c : Connection σ) : Connection σ × List Event × Option Fault :=
  match c.conn with
  | none => (c, [], none)
  | some sock =>
    if sock.closed then (c, [], some (.error errClosed))
    else ({ c with conn := some { sock with closed := true, reader := ⟨[], errClosed⟩ } },
      [.close sock.id], none)

/-! ## `Connect` -/

/-- The lowercase hex digits of a byte string, `%x`. -/
def hexString (b : List UInt8) : String :=
  String.mk (b.flatMap fun x => [hexDigit (x.toNat / 16), hexDigit (x.toNat % 16)])
where
  hexDigit (n : Nat) : Char := if n < 10 then Char.ofNat (48 + n) else Char.ofNat (87 + n)

/-- What the outside world does in one `Connect`. -/
structure ConnectEnv where
  /-- `mathrand.Intn(CourierHostCount) + 1`. -/
  hostNum : Nat
  /-- The TLS dial to an address: a fresh socket, or an error. -/
  dial : String → Except String Socket
  /-- A socket fresh from a dial is open. -/
  dial_open : ∀ addr sock, dial addr = .ok sock → sock.closed = false
  /-- `rand.Read` of the 20-byte nonce. -/
  nonce : Except String (List UInt8)

/-- The end of `Connect`: the reply must be a connect-ack whose status, if
any, starts with a zero byte; then a non-empty token and non-zero sizes
are adopted. -/
def connectAck (c : Connection σ) (payload : Payload) : Connection σ × Option Fault :=
  if payload.id ≠ commandConnectAck then
    (c, some (.error s!"unexpected response to connect: command {payload.id}"))
  else
    let ack := ConnectAckCommand.fromPayload payload
    if ack.status ≠ [] ∧ ack.status.headD 0 ≠ 0 then
      (c, some (.error s!"connection rejected by APNS, status: {hexString ack.status}"))
    else
      ({ c with
          token := if ack.token ≠ [] then ack.token else c.token
          maxMessageSize := if 0 < ack.maxMessageSize then ack.maxMessageSize else c.maxMessageSize
          maxLargeMessageSize :=
            if 0 < ack.largeMessageSize then ack.largeMessageSize else c.maxLargeMessageSize },
        none)

/-- `Connect`. The dialled socket is stored before the handshake, and stays
when the handshake fails. -/
def connect (sha1 : List UInt8 → List UInt8) (env : ConnectEnv) (c : Connection σ) :
    Connection σ × List Event × Option Fault :=
  match c.privateKey, c.deviceCert with
  | some privateKey, some deviceCert =>
    if c.token = [] then (c, [], some errNoToken)
    else
      match env.dial s!"{env.hostNum}-{courierHostname}:{courierPort}" with
      | .error err => (c, [], some (.error s!"failed to dial APNS: {err}"))
      | .ok sock =>
        let c := { c with conn := some sock }
        match env.nonce with
        | .error err => (c, [.dial sock.id], some (.error s!"failed to generate nonce: {err}"))
        | .ok nonce =>
          let nonce := nonce.set 0 0
          match privateKey (sha1 nonce) with
          | .error err => (c, [.dial sock.id], some (.error s!"failed to sign nonce: {err}"))
          | .ok signature =>
            let connectCmd : ConnectCommand := ⟨c.token, [1],
              baseConnectionFlags ||| rootConnection, deviceCert, nonce, [1, 1] ++ signature⟩
            match c.write connectCmd.toPayload.toBytes with
            | (c, evs, some err) =>
              (c, .dial sock.id :: evs, some (err.wrap "failed to send connect command: "))
            | (c, evs, none) =>
              match c.readPayload with
              | (c, .error err) =>
                (c, .dial sock.id :: evs, some (err.wrap "failed to read connect ack: "))
              | (c, .ok payload) =>
                let (c, err) := c.connectAck payload
                (c, .dial sock.id :: evs, err)
  | _, _ => (c, [], some (.error "missing push certificate or key"))

/-! ## `ReadLoop` -/

/-- What `ReadLoop` does with one frame. -/
def dispatch (c : Connection σ) (payload : Payload) (s : σ) :
    Connection σ × σ × List Event × Option Fault :=
  if payload.id = commandSendMessage then
    match c.messageHandler with
    | none => (c, s, [], none)
    | some handler =>
      let msg := IncomingSendMessageCommand.fromPayload payload
      let msgPayload : SendMessagePayload := ⟨msg.topic, msg.payload⟩
      match handler s msgPayload with
      | (s, none) => (c, s, [.handle msgPayload], none)
      | (s, some err) => (c, s, [.handle msgPayload, .log s!"Error handling message: {err}\n"], none)
  else if payload.id = commandKeepAlive then
    match c.write keepAlivePayload.toBytes with
    | (c, evs, none) => (c, s, evs, none)
    | (c, evs, some err) => (c, s, evs, some (err.wrap "failed to respond to keep-alive: "))
  else if payload.id ∈ [commandConnectAck, commandFilterTopicsAck, commandSendMessageAck,
      commandKeepAliveAck] then (c, s, [], none)
  else (c, s, [.log s!"Received unknown command: {payload.id}\n"], none)

/-- One turn of `ReadLoop`'s loop: `some err` is what `ReadLoop` returns. -/
def readLoopStep (c : Connection σ) (done : Bool) (s : σ) :
    Connection σ × σ × List Event × Option Fault :=
  if done then (c, s, [], some (.error "context canceled"))
  else
    match c.readPayload with
    | (c, .error err) => (c, s, [], some (err.wrap "failed to read payload: "))
    | (c, .ok payload) =>
      let (c, s, evs, err) := c.dispatch payload s
      (c, s, .receive payload :: evs, err)

/-- The bytes left to read. -/
def inboundLength (c : Connection σ) : Nat :=
  match c.conn with
  | some sock => sock.reader.bytes.length
  | none => 0

end Connection

/-! ## What a turn consumes -/

/-- A successful `io.ReadFull` consumes what it returns. -/
theorem readFull_ok_length {r r' : Reader} {n : Nat} {b : List UInt8}
    (h : readFull r n = (.ok b, r')) : r'.bytes.length + n = r.bytes.length := by
  unfold readFull at h
  split at h
  · cases h; simp; omega
  · cases h

/-- A frame decoded from a stream took at least its id byte. -/
theorem unmarshalBinaryStream_consumes {p q : Payload} {r r' : Reader}
    (h : unmarshalBinaryStream p r = (.ok q, r')) : r'.bytes.length < r.bytes.length := by
  unfold unmarshalBinaryStream at h
  split at h
  · cases h
  rename_i r1 h1
  have l1 := readFull_ok_length h1
  dsimp only at h
  split at h
  · cases h; omega
  split at h
  · cases h
  rename_i r2 h2
  have l2 := readFull_ok_length h2
  split at h
  · cases h
  rename_i r3 h3
  have l3 := readFull_ok_length h3
  cases (Prod.mk.inj h).2
  omega

namespace Connection

/-- `readPayload` on an open socket: the stream decoder on its reader. -/
theorem readPayload_of_conn {c : Connection σ} {sock : Socket} (h : c.conn = some sock) :
    c.readPayload = ({ c with conn := some { sock with
      reader := (unmarshalBinaryStream Payload.empty sock.reader).2 } },
      (unmarshalBinaryStream Payload.empty sock.reader).1) := by
  simp only [readPayload, h]

theorem readPayload_consumes {c c' : Connection σ} {p : Payload}
    (h : c.readPayload = (c', .ok p)) : c'.inboundLength < c.inboundLength := by
  cases hconn : c.conn with
  | none => simp [readPayload, hconn] at h
  | some sock =>
    rw [readPayload_of_conn hconn, Prod.mk.injEq] at h
    rw [← h.1]
    simpa [inboundLength, hconn] using unmarshalBinaryStream_consumes (Prod.ext h.2 rfl)

@[simp] theorem write_inboundLength (c : Connection σ) (data : List UInt8) :
    (c.write data).1.inboundLength = c.inboundLength := by
  unfold write
  split
  · rfl
  rename_i sock hconn
  split
  · rfl
  split <;> simp [inboundLength, hconn]

theorem dispatch_inboundLength (c : Connection σ) (payload : Payload) (s : σ) :
    (c.dispatch payload s).1.inboundLength = c.inboundLength := by
  unfold dispatch
  split
  · split
    · rfl
    · dsimp only; split <;> rfl
  split
  · split <;> rename_i heq <;> simp [← write_inboundLength c keepAlivePayload.toBytes, heq]
  split <;> rfl

/-- A turn that reads a frame: the frame is received, then dispatched. -/
theorem readLoopStep_of_read {c c' : Connection σ} {p : Payload} (s : σ)
    (h : c.readPayload = (c', .ok p)) :
    c.readLoopStep false s =
      ((c'.dispatch p s).1, (c'.dispatch p s).2.1, .receive p :: (c'.dispatch p s).2.2.1,
        (c'.dispatch p s).2.2.2) := by
  simp only [readLoopStep, h, Bool.false_eq_true, if_false]

/-- A turn whose read fails ends the loop with the error wrapped. -/
theorem readLoopStep_of_read_error {c c' : Connection σ} {err : Fault} (s : σ)
    (h : c.readPayload = (c', .error err)) :
    c.readLoopStep false s = (c', s, [], some (err.wrap "failed to read payload: ")) := by
  simp only [readLoopStep, h, Bool.false_eq_true, if_false]

/-- **A turn that goes on has consumed a byte.** -/
theorem readLoopStep_consumes {c c' : Connection σ} {done : Bool} {s s' : σ} {evs : List Event}
    (h : c.readLoopStep done s = (c', s', evs, none)) : c'.inboundLength < c.inboundLength := by
  cases done
  · rcases hr : c.readPayload with ⟨c1, err | p⟩
    · simp [readLoopStep_of_read_error s hr] at h
    · rw [readLoopStep_of_read s hr, Prod.mk.injEq] at h
      rw [← h.1, dispatch_inboundLength]
      exact readPayload_consumes hr
  · simp [readLoopStep] at h

/-- The context of `ReadLoop`: the turn from which `ctx.Done()` is closed, if
it ever is. -/
structure Context where
  cancelledAt : Option Nat

/-- `context.Background()`, never done. -/
def Context.background : Context := ⟨none⟩

/-- Whether `ctx.Done()` is closed at turn `k`. -/
def Context.done (ctx : Context) (k : Nat) : Bool :=
  match ctx.cancelledAt with
  | some n => decide (n ≤ k)
  | none => false

/-- `ReadLoop` from turn `k` on. -/
def readLoopFrom (ctx : Context) (k : Nat) (c : Connection σ) (s : σ) :
    Connection σ × σ × List Event × Fault :=
  match _hstep : c.readLoopStep (ctx.done k) s with
  | (c', s', evs, some err) => (c', s', evs, err)
  | (c', s', evs, none) =>
    let (c'', s'', evs', err) := c'.readLoopFrom ctx (k + 1) s'
    (c'', s'', evs ++ evs', err)
termination_by c.inboundLength
decreasing_by exact readLoopStep_consumes _hstep

/-- `ReadLoop`: the connection, the handler's state and the events when it
returns, and the error it returns. -/
def readLoop (ctx : Context) (c : Connection σ) (s : σ) : Connection σ × σ × List Event × Fault :=
  c.readLoopFrom ctx 0 s

/-- The loop returns with the turn that ends it. -/
theorem readLoopFrom_of_step_some {ctx : Context} {k : Nat} {c c' : Connection σ} {s s' : σ}
    {evs : List Event} {err : Fault} (h : c.readLoopStep (ctx.done k) s = (c', s', evs, some err)) :
    c.readLoopFrom ctx k s = (c', s', evs, err) := by
  rw [readLoopFrom]
  split <;> simp_all

/-- A turn that goes on is followed by the rest of the loop. -/
theorem readLoopFrom_of_step_none {ctx : Context} {k : Nat} {c c' : Connection σ} {s s' : σ}
    {evs : List Event} (h : c.readLoopStep (ctx.done k) s = (c', s', evs, none)) :
    c.readLoopFrom ctx k s =
      let r := c'.readLoopFrom ctx (k + 1) s'
      (r.1, r.2.1, evs ++ r.2.2.1, r.2.2.2) := by
  rw [readLoopFrom]
  split <;> simp_all

end Connection

end Apns

end IMessageClient
