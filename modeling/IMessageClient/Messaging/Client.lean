import IMessageClient.Messaging.HandshakeReal
/-!
# Messaging — the client

`Client.PollUnread` and `Client.Send` are what the command line calls.
Each starts a fresh session with `Connect` on the client's registration and
store, and the session asks `RealHandshaker` for its state. `PollUnread`
then runs `FetchUnread`; `Send` stops after the handshake.

`Connect` never makes the session's channel, so the poll drains nothing,
has nothing to report and writes nothing to the store; `Send` has nothing
past its handshake. Each returns the first error of `Connect` and the
handshake, and otherwise an empty report (`pollUnread_eq`) and
`ErrNotImplemented` (`send_eq`); `Cmd.commands_never_deliver` carries this
to the command line.
-/

namespace IMessageClient

namespace Messaging

/-- `ErrNotImplemented`. -/
def errNotImplemented : String := "not implemented"

/-- What `RealHandshaker.Handshake` gives `ensureHandshake`: the session
state of its result. The APNS connection's handler state is the session's. -/
def realHandshake (env : HandshakeEnv) (reg : Option Config.RegistrationData) : Except String HandshakeState :=
  (@handshake Session env reg).2.map HandshakeResult.toHandshakeState

/-- `Client`. The store is shared with the sessions it starts, so what they
write to it stays. -/
structure Client where
  registration : Option Config.RegistrationData
  store : Store

/-- `NewClient`. -/
def newClient (reg : Option Config.RegistrationData) : Client := ⟨reg, newMemoryStore⟩

/-- `NewClientWithStore`: a nil store becomes a `MemoryStore`. -/
def newClientWithStore (reg : Option Config.RegistrationData) (store : Option Store) : Client :=
  ⟨reg, store.getD newMemoryStore⟩

namespace Client

/-- `PollUnread` at the time `now`, with `order` the order of
`updateStore`'s map. -/
def pollUnread (env : HandshakeEnv) (now : Int) (order : MapOrder) (c : Client) :
    Client × Except String (List MessageSummary) :=
  match connect (c.registration.map (Config.RegistrationData.toSession now)) (some c.store) with
  | .error err => (c, .error err)
  | .ok session =>
    match session.fetchUnread (realHandshake env c.registration) order with
    | (session, result) => ({ c with store := session.store }, result)

/-- `Send` at the time `now`; the chat and the text are never read. -/
def send (env : HandshakeEnv) (now : Int) (c : Client) (_chat _text : String) : Except String Unit :=
  match connect (c.registration.map (Config.RegistrationData.toSession now)) (some c.store) with
  | .error err => .error err
  | .ok session =>
    match session.ensureHandshake (realHandshake env c.registration) with
    | (_, some err) => .error err
    | (_, none) => .error errNotImplemented

end Client

/-! ## A fresh session -/

/-- The session `Connect` returns: the store, no state, the real
handshaker and a nil channel. -/
theorem eq_of_connect_ok {reg : Option RegistrationData} {store : Option Store} {s : Session}
    (h : connect reg store = .ok s) : s = ⟨store.getD newMemoryStore, none, true, none⟩ := by
  unfold connect at h
  split at h
  · cases h
  · split_ifs at h
    all_goals cases h
    rfl

/-- `FetchUnread` on a fresh session: the handshake's error, or an empty
report; the store stays as it was either way. -/
theorem fetchUnread_fresh (store : Store) (handshake : Except String HandshakeState) (order : MapOrder) :
    (Session.fetchUnread handshake order ⟨store, none, true, none⟩).1.store = store ∧
      (Session.fetchUnread handshake order ⟨store, none, true, none⟩).2 = handshake.map fun _ => [] := by
  cases handshake with
  | error err => exact ⟨rfl, rfl⟩
  | ok st =>
    simp [Session.fetchUnread, Session.ensureHandshake, Session.fetchMessages, filterUnread, updateStore_nil]
    rfl

/-- `PollUnread` end to end: the client as it was, and the first error of
`Connect` and the handshake, or an empty report. -/
theorem pollUnread_eq (env : HandshakeEnv) (now : Int) (order : MapOrder) (c : Client) :
    c.pollUnread env now order =
      (c, connect (c.registration.map (Config.RegistrationData.toSession now)) (some c.store) >>= fun _ =>
        realHandshake env c.registration >>= fun _ => pure []) := by
  unfold Client.pollUnread
  rcases hc : connect (c.registration.map (Config.RegistrationData.toSession now)) (some c.store)
    with err | session
  · rfl
  · obtain rfl := eq_of_connect_ok hc
    obtain ⟨hstore, hresult⟩ := fetchUnread_fresh c.store (realHandshake env c.registration) order
    simp only [Option.getD_some] at hstore hresult ⊢
    rcases hh : realHandshake env c.registration with err | st <;> rw [hh] at hstore hresult <;>
      exact Prod.ext (by rw [hstore]) hresult

/-- `Send` end to end: the first error of `Connect` and the handshake, or
`ErrNotImplemented`. -/
theorem send_eq (env : HandshakeEnv) (now : Int) (c : Client) (chat text : String) :
    c.send env now chat text =
      (connect (c.registration.map (Config.RegistrationData.toSession now)) (some c.store) >>= fun _ =>
        realHandshake env c.registration >>= fun _ => .error errNotImplemented) := by
  unfold Client.send
  rcases hc : connect (c.registration.map (Config.RegistrationData.toSession now)) (some c.store)
    with err | session
  · rfl
  · obtain rfl := eq_of_connect_ok hc
    rcases realHandshake env c.registration with err | st <;> rfl

end Messaging

end IMessageClient
