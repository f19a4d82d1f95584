import IMessageClient.Messaging.Store
import IMessageClient.Messaging.Decrypt
import IMessageClient.Apns.Connection
/-!
# Messaging — the session

A `Session` holds the last-seen store, the handshake's state once there is
one, and the channel the APNS read loop's handler pushes messages into for
`FetchMessages` to drain. A Go channel is `nil` or made with a buffer
(`Chan`); both ends use `select` with a `default`, so a send happens only
while the buffer has room and a receive only while it holds something, and
on a `nil` channel neither ever does.

The outside world's part is an argument of each call: what the handshaker
returns (`ensureHandshake`), the clock (`handleAPNSMessage`), the order a
`range` over a map takes (`updateStore`), and the libraries
`DecryptMessage` calls. A run is any interleaving of the producer
(`handleAPNSMessage`) and the two pollers (`runSession`).
-/

namespace IMessageClient

namespace Messaging

/-! ## Channels -/

/-- The buffer of a made channel: its capacity, and what it holds, never
more. -/
structure Buffer (α : Type) where
  capacity : Nat
  items : List α
  length_le : items.length ≤ capacity

/-- A Go channel: `nil`, or made with a buffer. -/
abbrev Chan (α : Type) : Type := Option (Buffer α)

variable {α : Type}

/-- `make(chan T, capacity)`. -/
def makeChan (capacity : Nat) : Chan α := some ⟨capacity, [], Nat.zero_le _⟩

/-- What a channel holds, oldest first. -/
def Chan.pending : Chan α → List α
  | none => []
  | some b => b.items

/-- `select { case ch <- x: … default: … }`: the channel after the send, or
`none` when the `default` case runs. -/
def trySend (ch : Chan α) (x : α) : Option (Chan α) :=
  match ch with
  | none => none
  | some b =>
    if h : b.items.length < b.capacity then
      some (some ⟨b.capacity, b.items ++ [x], by rw [List.length_append, List.length_singleton]; omega⟩)
    else none

/-! ## The session -/

/-- `handshakeState`, the field the session reads. -/
structure HandshakeState where
  /-- `IDSConfig.IDSEncryptionKey`, as its OAEP decryption; `none` when the
  config or the key is nil. -/
  idsEncryptionKey : Option (List UInt8 → Except String (List UInt8))

/-- `Session`. -/
structure Session where
  store : Store
  state : Option HandshakeState
  /-- Whether a `Handshaker` is set. -/
  handshaker : Bool
  messageChan : Chan (Option Message)

/-- `config.RegistrationData`, as `Connect` checks it; `IsExpired` is read
at the time of the call. -/
structure RegistrationData where
  validationData : List UInt8
  expired : Bool

/-- `ErrInvalidRegistrationData`. -/
def errInvalidRegistrationData : String := "registration data missing required fields"

/-- `ErrRegistrationExpired`. -/
def errRegistrationExpired : String := "registration expired"

/-- `ErrHandshakeNotImplemented`. -/
def errHandshakeNotImplemented : String := "handshake not implemented"

/-- `Connect`: the registration is checked, a missing store becomes a
`MemoryStore`, and the session gets the real handshaker. Its channel is
never made. -/
def connect (reg : Option RegistrationData) (store : Option Store) : Except String Session :=
  match reg with
  | none => .error "registration data is nil"
  | some reg =>
    if reg.validationData = [] then .error errInvalidRegistrationData
    else if reg.expired then .error errRegistrationExpired
    else .ok { store := store.getD newMemoryStore, state := none, handshaker := true, messageChan := none }

namespace Session

/-- `ensureHandshake`; `handshake` is what the handshaker returns if it is
asked. -/
def ensureHandshake (handshake : Except String HandshakeState) (s : Session) : Session × Option String :=
  match s.state with
  | some _ => (s, none)
  | none =>
    if s.handshaker then
      match handshake with
      | .error err => (s, some err)
      | .ok state => ({ s with state := some state }, none)
    else (s, some errHandshakeNotImplemented)

/-- The two readings of `time.Now()` a message takes: `Unix()` for its id,
and its timestamp. -/
structure Clock where
  unix : Int
  now : Int

/-- A Go string of bytes, printed one character per byte. -/
def goString (b : List UInt8) : String := String.mk (b.map fun x => Char.ofNat x.toNat)

/-- The `select` that ends each branch of `handleAPNSMessage`: `onSent` if
the message went into the channel, "message channel full" if not. -/
def enqueue (s : Session) (msg : Message) (onSent : Option Fault) : Session × Option Fault :=
  match trySend s.messageChan (some msg) with
  | some ch => ({ s with messageChan := ch }, onSent)
  | none => (s, some (.error "message channel full"))

/-- The message `handleAPNSMessage` builds, and what it returns once the
message is in the channel: a placeholder without a key or when decryption
fails, the decrypted message otherwise. A panic in `DecryptMessage`
propagates. -/
def buildMessage (prim : Primitives) (clock : Clock) (s : Session) (payload : Apns.SendMessagePayload) :
    Except Fault (Message × Option Fault) :=
  match s.state.bind (·.idsEncryptionKey) with
  | none =>
    .ok (⟨s!"msg-{clock.unix}", "unknown-chat", "unknown-sender",
      s!"[Encrypted] {payload.payload.length} bytes from {goString payload.topic}", clock.now⟩, none)
  | some key =>
    match decryptMessage prim key payload.payload with
    | .error (.panic msg) => .error (.panic msg)
    | .error (.error err) =>
      .ok (⟨s!"msg-{clock.unix}", "unknown-chat", "unknown-sender",
        s!"[Decrypt failed: {err}] {payload.payload.length} bytes", clock.now⟩,
        some (.error s!"decryption failed: {err}"))
    | .ok imsg =>
      let chat := if imsg.groupID ≠ "" then imsg.groupID else imsg.participants.headD "direct"
      let msgID := if imsg.messageUUID = "" then s!"msg-{clock.unix}" else imsg.messageUUID
      .ok (⟨msgID, chat, imsg.participants.headD "unknown", imsg.text, clock.now⟩, none)

/-- `handleAPNSMessage`: each branch builds its message, then sends it with
a `select` whose `default` reports the channel full. -/
def handleAPNSMessage (prim : Primitives) (clock : Clock) (s : Session)
    (payload : Apns.SendMessagePayload) : Session × Option Fault :=
  match buildMessage prim clock s payload with
  | .error f => (s, some f)
  | .ok (msg, onSent) => enqueue s msg onSent

/-- The loop of `FetchMessages`: each turn receives the oldest message,
skipping a nil one, until the `default` case finds the buffer empty. -/
def drain (messages : List Message) : List (Option Message) → List Message
  | [] => messages
  | msg :: rest =>
    drain (match msg with
      | some m => messages ++ [m]
      | none => messages) rest

/-- `FetchMessages`. -/
def fetchMessages (handshake : Except String HandshakeState) (s : Session) :
    Session × Except String (List Message) :=
  match s.ensureHandshake handshake with
  | (s, some err) => (s, .error err)
  | (s, none) =>
    match s.messageChan with
    | none => (s, .ok [])
    | some b =>
      ({ s with messageChan := some ⟨b.capacity, [], Nat.zero_le _⟩ }, .ok (drain [] b.items))

/-- `FetchUnread`. -/
def fetchUnread (handshake : Except String HandshakeState) (order : MapOrder) (s : Session) :
    Session × Except String (List MessageSummary) :=
  match s.ensureHandshake handshake with
  | (s, some err) => (s, .error err)
  | (s, none) =>
    match s.fetchMessages handshake with
    | (s, .error err) => (s, .error err)
    | (s, .ok messages) =>
      let unread := filterUnread s.store messages
      match updateStore order s.store unread with
      | (store, some err) => ({ s with store := store }, .error err)
      | (store, none) => ({ s with store := store }, .ok (unread.map Message.toSummary))

/-! ## What each call does -/

@[simp] theorem drain_eq (messages : List Message) (items : List (Option Message)) :
    drain messages items = messages ++ items.filterMap id := by
  induction items generalizing messages with
  | nil => simp [drain]
  | cons msg items ih => cases msg <;> simp [drain, ih]

/-- The handshake touches neither the store nor the channel. -/
theorem ensureHandshake_frame (handshake : Except String HandshakeState) (s : Session) :
    (s.ensureHandshake handshake).1.store = s.store ∧
      (s.ensureHandshake handshake).1.messageChan = s.messageChan := by
  unfold ensureHandshake
  split
  · exact ⟨rfl, rfl⟩
  · split
    · split <;> exact ⟨rfl, rfl⟩
    · exact ⟨rfl, rfl⟩

/-- After a handshake that succeeds, there is a state. -/
theorem ensureHandshake_state {handshake : Except String HandshakeState} {s s' : Session}
    (h : s.ensureHandshake handshake = (s', none)) : s'.state.isSome := by
  unfold ensureHandshake at h
  split at h
  · cases h; simp [*]
  · split at h
    · split at h <;> cases h; rfl
    · cases h

/-- `FetchMessages` once there is a state: everything the channel holds,
oldest first, and the channel left empty. -/
theorem fetchMessages_of_state (handshake : Except String HandshakeState) {s : Session}
    (h : s.state.isSome) :
    (s.fetchMessages handshake).1.store = s.store ∧
      (s.fetchMessages handshake).1.messageChan.pending = [] ∧
      (s.fetchMessages handshake).2 = .ok (s.messageChan.pending.filterMap id) := by
  obtain ⟨st, hst⟩ := Option.isSome_iff_exists.1 h
  have hhs : s.ensureHandshake handshake = (s, none) := by simp [ensureHandshake, hst]
  unfold fetchMessages
  rw [hhs]
  cases hc : s.messageChan <;> simp [hc, Chan.pending]

theorem enqueue_store (s : Session) (msg : Message) (onSent : Option Fault) :
    (s.enqueue msg onSent).1.store = s.store := by
  unfold enqueue
  split <;> rfl

/-- Building a message fails only by a panic in `DecryptMessage`. -/
theorem buildMessage_error {prim : Primitives} {clock : Clock} {s : Session}
    {payload : Apns.SendMessagePayload} {f : Fault} (h : buildMessage prim clock s payload = .error f) :
    ∃ msg, f = .panic msg := by
  unfold buildMessage at h
  split at h
  · cases h
  · split at h
    · cases h; exact ⟨_, rfl⟩
    · cases h
    · cases h

/-- The handler only ever touches the channel. -/
theorem handleAPNSMessage_store (prim : Primitives) (clock : Clock) (s : Session)
    (payload : Apns.SendMessagePayload) : (s.handleAPNSMessage prim clock payload).1.store = s.store := by
  unfold handleAPNSMessage
  split
  · rfl
  · exact enqueue_store _ _ _

theorem fetchMessages_store (handshake : Except String HandshakeState) (s : Session) :
    (s.fetchMessages handshake).1.store = s.store := by
  have hstore := (ensureHandshake_frame handshake s).1
  unfold fetchMessages
  rcases he : s.ensureHandshake handshake with ⟨s1, _ | err⟩ <;> rw [he] at hstore
  · dsimp only
    split <;> exact hstore
  · exact hstore

/-- `FetchMessages` keeps a state once there is one. -/
theorem fetchMessages_state {handshake : Except String HandshakeState} {s : Session}
    (h : s.state.isSome) : (s.fetchMessages handshake).1.state = s.state := by
  obtain ⟨st, hst⟩ := Option.isSome_iff_exists.1 h
  simp only [fetchMessages, ensureHandshake, hst]
  split <;> simp [hst]

/-- **`FetchUnread` past a successful handshake**: the channel drained by
`FetchMessages`, the store as `updateStore` leaves it, and an error exactly
when `updateStore` returns one. -/
theorem fetchUnread_of_handshake {handshake : Except String HandshakeState} {s s1 : Session}
    (order : MapOrder) (hhs : s.ensureHandshake handshake = (s1, none)) :
    let unread := filterUnread s.store (s.messageChan.pending.filterMap id)
    s.fetchUnread handshake order =
      ({ (s1.fetchMessages handshake).1 with store := (updateStore order s.store unread).1 },
        match (updateStore order s.store unread).2 with
        | some err => .error err
        | none => .ok (unread.map Message.toSummary)) := by
  obtain ⟨hstore, hchan⟩ := ensureHandshake_frame handshake s
  rw [hhs] at hstore hchan
  obtain ⟨hstore', -, hfetch⟩ := fetchMessages_of_state handshake (ensureHandshake_state hhs)
  dsimp only at hstore hchan
  have hf : s1.fetchMessages handshake =
      ((s1.fetchMessages handshake).1, .ok (s.messageChan.pending.filterMap id)) :=
    Prod.ext rfl (by rw [hfetch, hchan])
  simp only [fetchUnread, hhs]
  rw [hf]
  simp only [hstore', hstore]
  rcases updateStore order s.store _ with ⟨store, _ | err⟩ <;> rfl

/-- **What `FetchUnread` can do.** It leaves the store as it was, or as
`updateStore` leaves it on the new messages of the channel; and when it
succeeds, it returns those messages' summaries after an `updateStore` that
got through. -/
theorem fetchUnread_spec (handshake : Except String HandshakeState) (order : MapOrder) (s : Session) :
    let unread := filterUnread s.store (s.messageChan.pending.filterMap id)
    ((s.fetchUnread handshake order).1.store = s.store ∨
        (s.fetchUnread handshake order).1.store = (updateStore order s.store unread).1) ∧
      ∀ sums, (s.fetchUnread handshake order).2 = .ok sums →
        sums = unread.map Message.toSummary ∧
          updateStore order s.store unread = ((s.fetchUnread handshake order).1.store, none) := by
  intro unread
  rcases hhs : s.ensureHandshake handshake with ⟨s1, _ | err⟩
  · rw [fetchUnread_of_handshake order hhs]
    rcases updateStore order s.store unread with ⟨store, _ | err⟩
    · exact ⟨.inr rfl, fun _ h => ⟨(Except.ok.inj h).symm, rfl⟩⟩
    · exact ⟨.inr rfl, fun _ h => by cases h⟩
  · have hstore := (ensureHandshake_frame handshake s).1
    rw [hhs] at hstore
    simp only [fetchUnread, hhs]
    exact ⟨.inl hstore, fun _ h => by cases h⟩

end Session

/-! ## Runs -/

/-- A call on the session: the read loop's handler, or one of the two
pollers. -/
inductive SessionCall where
  | handle (payload : Apns.SendMessagePayload) (clock : Session.Clock)
  | fetchMessages (handshake : Except String HandshakeState)
  | fetchUnread (handshake : Except String HandshakeState) (order : MapOrder)

/-- What a call returned; for `FetchUnread`, with the channel's new
messages it summarised. -/
inductive SessionResult where
  | handled (err : Option Fault)
  | fetched (result : Except String (List Message))
  | reported (result : Except String (List MessageSummary)) (unread : List Message)

/-- One call. -/
def SessionCall.apply (prim : Primitives) : SessionCall → Session → Session × SessionResult
  | .handle payload clock, s =>
    let (s, err) := s.handleAPNSMessage prim clock payload
    (s, .handled err)
  | .fetchMessages handshake, s =>
    let (s, result) := s.fetchMessages handshake
    (s, .fetched result)
  | .fetchUnread handshake order, s =>
    let unread := filterUnread s.store (s.messageChan.pending.filterMap id)
    let (s, result) := s.fetchUnread handshake order
    (s, .reported result unread)

/-- Calls one after another: the session after them, and what each
returned. -/
def runSession (prim : Primitives) : List SessionCall → Session → Session × List SessionResult
  | [], s => (s, [])
  | call :: calls, s =>
    let (s, result) := call.apply prim s
    let (s, results) := runSession prim calls s
    (s, result :: results)

/-! ## The channel `Connect` leaves nil -/

/-- A result in which nothing got through the channel: the handler found
it full (or panicked in `DecryptMessage`), and the pollers drained
nothing. -/
def SessionResult.Dropped : SessionResult → Prop
  | .handled err => err = some (.error "message channel full") ∨ ∃ msg, err = some (.panic msg)
  | .fetched result => ∀ msgs, result = .ok msgs → msgs = []
  | .reported result _ => ∀ sums, result = .ok sums → sums = []

namespace Session

variable {s : Session}

theorem enqueue_of_nil (hc : s.messageChan = none) (msg : Message) (onSent : Option Fault) :
    s.enqueue msg onSent = (s, some (.error "message channel full")) := by
  simp [enqueue, trySend, hc]

/-- **On a nil channel the handler never enqueues**: the `default` case
runs, unless `DecryptMessage` panics first. -/
theorem handleAPNSMessage_of_nil (hc : s.messageChan = none) (prim : Primitives) (clock : Clock)
    (payload : Apns.SendMessagePayload) :
    (s.handleAPNSMessage prim clock payload).1 = s ∧
      ((s.handleAPNSMessage prim clock payload).2 = some (.error "message channel full") ∨
        ∃ msg, (s.handleAPNSMessage prim clock payload).2 = some (.panic msg)) := by
  unfold handleAPNSMessage
  split
  · obtain ⟨msg, rfl⟩ := buildMessage_error ‹_›
    exact ⟨rfl, .inr ⟨msg, rfl⟩⟩
  · simp [enqueue_of_nil hc]

theorem fetchMessages_of_nil (hc : s.messageChan = none) (handshake : Except String HandshakeState) :
    (s.fetchMessages handshake).1.messageChan = none ∧
      ∀ msgs, (s.fetchMessages handshake).2 = .ok msgs → msgs = [] := by
  have hchan := (ensureHandshake_frame handshake s).2
  unfold fetchMessages
  rcases he : s.ensureHandshake handshake with ⟨s1, _ | err⟩ <;> rw [he] at hchan <;>
    dsimp only at hchan ⊢
  · simp [hchan, hc]
  · exact ⟨hchan.trans hc, fun _ h => by cases h⟩

theorem fetchUnread_of_nil (hc : s.messageChan = none) (handshake : Except String HandshakeState)
    (order : MapOrder) : (s.fetchUnread handshake order).1.messageChan = none := by
  have hchan := (ensureHandshake_frame handshake s).2
  unfold fetchUnread
  rcases he : s.ensureHandshake handshake with ⟨s1, _ | err⟩ <;> rw [he] at hchan <;>
    dsimp only at hchan ⊢
  · have hf := (fetchMessages_of_nil (hchan.trans hc) handshake).1
    rcases hm : s1.fetchMessages handshake with ⟨s2, err | msgs⟩ <;> rw [hm] at hf <;>
      dsimp only at hf ⊢
    · exact hf
    · split <;> exact hf
  · exact hchan.trans hc

end Session

/-- One call on a session whose channel is nil: the channel stays nil and
nothing gets through. -/
theorem apply_of_nil (prim : Primitives) (call : SessionCall) {s : Session} (hc : s.messageChan = none) :
    (call.apply prim s).1.messageChan = none ∧ (call.apply prim s).2.Dropped := by
  cases call with
  | handle payload clock =>
    obtain ⟨hs, herr⟩ := Session.handleAPNSMessage_of_nil hc prim clock payload
    exact ⟨by simp only [SessionCall.apply, hs, hc], herr⟩
  | fetchMessages handshake => exact Session.fetchMessages_of_nil hc handshake
  | fetchUnread handshake order =>
    refine ⟨Session.fetchUnread_of_nil hc handshake order, fun sums h => ?_⟩
    simpa [Chan.pending, hc, filterUnread] using ((Session.fetchUnread_spec handshake order s).2 sums h).1

/-- Over every run from a session whose channel is nil, nothing gets
through. -/
theorem runSession_of_nil (prim : Primitives) (calls : List SessionCall) :
    ∀ s : Session, s.messageChan = none → ∀ r ∈ (runSession prim calls s).2, r.Dropped := by
  induction calls with
  | nil => simp [runSession]
  | cons call calls ih =>
    intro s hc
    obtain ⟨hc', hdrop⟩ := apply_of_nil prim call hc
    simp only [runSession, List.mem_cons]
    rintro r (rfl | hr)
    · exact hdrop
    · exact ih _ hc' r hr

/-- **The channel stays nil over every run**: no call makes it. -/
theorem runSession_chan_nil (prim : Primitives) (calls : List SessionCall) :
    ∀ s : Session, s.messageChan = none → (runSession prim calls s).1.messageChan = none := by
  induction calls with
  | nil => exact fun _ hc => hc
  | cons call calls ih => exact fun s hc => ih _ (apply_of_nil prim call hc).1

theorem connect_chan_nil {reg : Option RegistrationData} {store : Option Store} {s : Session}
    (h : connect reg store = .ok s) : s.messageChan = none := by
  unfold connect at h
  split at h
  · cases h
  · split_ifs at h
    all_goals cases h
    rfl

/-- A handshake that fails leaves the session as it was. -/
theorem Session.ensureHandshake_of_error {handshake : Except String HandshakeState} {s s' : Session}
    {err : String} (h : s.ensureHandshake handshake = (s', some err)) : s' = s := by
  unfold Session.ensureHandshake at h
  repeat' split at h
  all_goals cases h
  all_goals rfl

/-- **On a nil channel a poll fails only at its handshake**, and then
leaves the session as it was: past the handshake it drains nothing and
`updateStore` calls `SetLastSeen` on nothing. -/
theorem Session.fetchUnread_of_nil_error {s : Session} (hc : s.messageChan = none)
    {handshake : Except String HandshakeState} {order : MapOrder} {err : String}
    (h : (s.fetchUnread handshake order).2 = .error err) : (s.fetchUnread handshake order).1 = s := by
  rcases hhs : s.ensureHandshake handshake with ⟨s1, _ | err1⟩
  · have hc1 : s1.messageChan = none := by
      rw [← hc]; simpa [hhs] using (ensureHandshake_frame handshake s).2
    obtain ⟨st, hst⟩ := Option.isSome_iff_exists.1 (ensureHandshake_state hhs)
    have hfetch : s1.fetchMessages handshake = (s1, .ok []) := by
      simp [fetchMessages, ensureHandshake, hst, hc1]
    simp [fetchUnread, hhs, hfetch, filterUnread, updateStore_nil] at h
  · simp only [fetchUnread, hhs]
    exact ensureHandshake_of_error hhs

/-- **A session from `Connect` delivers nothing.** Its channel is never
made, so over every interleaving of the handler and the pollers each
handler call returns "message channel full" (or panics) and enqueues
nothing, and every drain is empty. -/
theorem connect_session_drops_messages (prim : Primitives) {reg : Option RegistrationData}
    {store : Option Store} {s : Session} (h : connect reg store = .ok s) (calls : List SessionCall) :
    ∀ r ∈ (runSession prim calls s).2, r.Dropped :=
  runSession_of_nil prim calls s (connect_chan_nil h)

/-- Libraries for running the model: a zero keystream, no gzip, and a
plist decoder that rejects everything. -/
def Primitives.stub : Primitives := ⟨fun _ _ _ => 0, fun d => .ok d, fun _ => .error "unsupported"⟩

/-- A fresh session: the handler's push is dropped and the poll that
follows drains nothing. -/
theorem connect_session_drops_messages_fresh :
    connect (some ⟨[1], false⟩) none = .ok ⟨newMemoryStore, none, true, none⟩ ∧
      ∀ r ∈ (runSession Primitives.stub [.handle ⟨[], [0x62, 0x70]⟩ ⟨0, 0⟩, .fetchMessages (.ok ⟨none⟩)]
        ⟨newMemoryStore, none, true, none⟩).2, r.Dropped :=
  have h : connect (some ⟨[1], false⟩) none = .ok ⟨newMemoryStore, none, true, none⟩ := rfl
  ⟨h, connect_session_drops_messages Primitives.stub h _⟩


/-! ## The handshake a session keeps

`ensureHandshake` asks the handshaker only while the session has no state,
and keeps the first state it gets. Over a run, the state is therefore the
one the session started with or, if it had none and has a handshaker, the
outcome of the first call whose handshake succeeded
(`runSession_handshake_once`); once there is one, what the handshaker would
return no longer matters. -/

/-- The state a call's handshake would give, if it asks. -/
def SessionCall.handshakeOutcome : SessionCall → Option HandshakeState
  | .handle _ _ => none
  | .fetchMessages handshake => handshake.toOption
  | .fetchUnread handshake _ => handshake.toOption

/-- The same call, with the handshaker returning `handshake`. -/
def SessionCall.withHandshake (handshake : Except String HandshakeState) : SessionCall → SessionCall
  | .handle payload clock => .handle payload clock
  | .fetchMessages _ => .fetchMessages handshake
  | .fetchUnread _ order => .fetchUnread handshake order

namespace Session

/-- What `ensureHandshake` leaves in `state`, and that it keeps the
handshaker. -/
theorem ensureHandshake_state_eq (handshake : Except String HandshakeState) (s : Session) :
    (s.ensureHandshake handshake).1.state = s.state.or (if s.handshaker then handshake.toOption else none) ∧
      (s.ensureHandshake handshake).1.handshaker = s.handshaker := by
  unfold ensureHandshake
  rcases hst : s.state with _ | st
  · cases hh : s.handshaker <;> cases handshake <;> simp [hst, hh, Except.toOption]
  · simp [hst]

theorem fetchMessages_state_eq (handshake : Except String HandshakeState) (s : Session) :
    (s.fetchMessages handshake).1.state = (s.ensureHandshake handshake).1.state ∧
      (s.fetchMessages handshake).1.handshaker = (s.ensureHandshake handshake).1.handshaker := by
  unfold fetchMessages
  rcases s.ensureHandshake handshake with ⟨s1, _ | err⟩
  · dsimp only
    split <;> exact ⟨rfl, rfl⟩
  · exact ⟨rfl, rfl⟩

theorem fetchUnread_state_eq (handshake : Except String HandshakeState) (order : MapOrder) (s : Session) :
    (s.fetchUnread handshake order).1.state = (s.ensureHandshake handshake).1.state ∧
      (s.fetchUnread handshake order).1.handshaker = (s.ensureHandshake handshake).1.handshaker := by
  unfold fetchUnread
  rcases he : s.ensureHandshake handshake with ⟨s1, _ | err⟩
  · obtain ⟨st, hst⟩ := Option.isSome_iff_exists.1 (ensureHandshake_state he)
    have hs1 := fetchMessages_state_eq handshake s1
    simp only [ensureHandshake, hst] at hs1
    rw [← hst] at hs1
    dsimp only
    rcases hm : s1.fetchMessages handshake with ⟨s2, err | msgs⟩ <;> rw [hm] at hs1
    · exact hs1
    · dsimp only
      split <;> exact hs1
  · exact ⟨rfl, rfl⟩

/-- Once there is a state, the handshaker's outcome does not matter. -/
theorem fetchMessages_of_some {st : HandshakeState} {s : Session} (hst : s.state = some st)
    (handshake handshake' : Except String HandshakeState) :
    s.fetchMessages handshake' = s.fetchMessages handshake := by
  simp only [fetchMessages, ensureHandshake, hst]

theorem fetchUnread_of_some {st : HandshakeState} {s : Session} (hst : s.state = some st)
    (handshake handshake' : Except String HandshakeState) (order : MapOrder) :
    s.fetchUnread handshake' order = s.fetchUnread handshake order := by
  simp only [fetchUnread, ensureHandshake, hst, fetchMessages_of_some hst handshake handshake']

end Session

theorem handleAPNSMessage_state (prim : Primitives) (clock : Session.Clock) (s : Session)
    (payload : Apns.SendMessagePayload) :
    (s.handleAPNSMessage prim clock payload).1.state = s.state ∧
      (s.handleAPNSMessage prim clock payload).1.handshaker = s.handshaker := by
  unfold Session.handleAPNSMessage Session.enqueue
  split
  · exact ⟨rfl, rfl⟩
  · split <;> exact ⟨rfl, rfl⟩

/-- One call: the state it leaves, and that it keeps the handshaker. -/
theorem SessionCall.apply_state (prim : Primitives) (call : SessionCall) (s : Session) :
    (call.apply prim s).1.state = s.state.or (if s.handshaker then call.handshakeOutcome else none) ∧
      (call.apply prim s).1.handshaker = s.handshaker := by
  cases call with
  | handle payload clock =>
    simpa [SessionCall.apply, handshakeOutcome] using handleAPNSMessage_state prim clock s payload
  | fetchMessages handshake =>
    rw [SessionCall.apply, handshakeOutcome, ← Session.ensureHandshake_state_eq handshake s |>.1,
      ← Session.ensureHandshake_state_eq handshake s |>.2]
    exact Session.fetchMessages_state_eq handshake s
  | fetchUnread handshake order =>
    rw [SessionCall.apply, handshakeOutcome, ← Session.ensureHandshake_state_eq handshake s |>.1,
      ← Session.ensureHandshake_state_eq handshake s |>.2]
    exact Session.fetchUnread_state_eq handshake order s

theorem SessionCall.apply_withHandshake (prim : Primitives) (handshake : Except String HandshakeState)
    (call : SessionCall) {s : Session} {st : HandshakeState} (hst : s.state = some st) :
    (call.withHandshake handshake).apply prim s = call.apply prim s := by
  cases call with
  | handle payload clock => rfl
  | fetchMessages h =>
    simp only [withHandshake, apply, Session.fetchMessages_of_some hst h handshake]
  | fetchUnread h order =>
    simp only [withHandshake, apply, Session.fetchUnread_of_some hst h handshake]

theorem findSome?_cons_eq_or {β : Type} (f : SessionCall → Option β) (call : SessionCall)
    (calls : List SessionCall) : (call :: calls).findSome? f = (f call).or (calls.findSome? f) := by
  rw [List.findSome?_cons]
  cases f call <;> rfl

/-- **The handshake is done once.** Over every run, the session ends with
the state it started with or, if it had none and has a handshaker, the
state of the first call whose handshake succeeded; and from a session
with a state, the run is the same whatever the handshaker returns. -/
theorem runSession_handshake_once (prim : Primitives) (calls : List SessionCall) (s : Session) :
    (runSession prim calls s).1.state =
        s.state.or (if s.handshaker then calls.findSome? SessionCall.handshakeOutcome else none) ∧
      ∀ st, s.state = some st → ∀ handshake,
        runSession prim (calls.map (SessionCall.withHandshake handshake)) s = runSession prim calls s := by
  induction calls generalizing s with
  | nil => simp [runSession]
  | cons call calls ih =>
    obtain ⟨hstate, hhs⟩ := call.apply_state prim s
    obtain ⟨ihstate, ihrun⟩ := ih (call.apply prim s).1
    refine ⟨?_, fun st hst handshake => ?_⟩
    · simp only [runSession, ihstate, hstate, hhs, findSome?_cons_eq_or, Option.or_assoc]
      split <;> simp
    · have hst' : (call.apply prim s).1.state = some st := by simp [hstate, hst]
      simp only [runSession, List.map_cons, call.apply_withHandshake prim handshake hst,
        ihrun st hst' handshake]

end Messaging

end IMessageClient
