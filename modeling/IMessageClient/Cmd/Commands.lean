import IMessageClient.Messaging.Client
/-!
# The command line

`check-messages` and `send` load the registration, refuse an expired one,
open the store the `--store` flag names (a `FileStore`, or a `MemoryStore`
for `""`), and call `Client.PollUnread` or `Client.Send` (`openClient` is
the part they share). They tell the stubs apart with `errors.Is` against
the sentinel errors, and `check-messages` prints what it found with
`PrintSummaries`.

On the errors that reach those checks `errors.Is` is a comparison of
texts: `Connect`, `RealHandshaker` and `Send` return each sentinel as
itself, never wrapped, and every other error they return has a prefix no
sentinel has. Neither `Connect` nor the handshake ever returns
`ErrHandshakeNotImplemented` or `ErrNotImplemented`
(`handshake_error_ne_stub`), so the branches for them in `check-messages`
are dead, `PrintSummaries` only ever gets an empty list, and `send` never
gets past its stub: each command fails, or prints the one line it has for
nothing done (`commands_never_deliver`).
-/

namespace IMessageClient

open Messaging

namespace Notifier

/-- `PrintSummaries`: the lines it prints, with `format` for
`Timestamp.Format(time.RFC3339)`. -/
def printSummaries (format : Int → String) (summaries : List MessageSummary) : List String :=
  if summaries.length = 0 then ["No new messages."]
  else s!"You have {summaries.length} new message(s):" ::
    summaries.map fun msg => s!"- {msg.sender} [{format msg.timestamp}]: {msg.preview}"

end Notifier

namespace Cmd

/-- What a command run reads from the world. -/
structure CmdEnv where
  /-- `config.LoadRegistration(configPath)`. -/
  loadRegistration : Except String Config.RegistrationData
  /-- The `--store` flag. -/
  storePath : String
  /-- `messaging.NewFileStore(storePath)`. -/
  newFileStore : Except String Store
  /-- `time.Now()` at the command's `IsExpired`. -/
  checkedAt : Int
  /-- `time.Now()` at `Connect`'s `IsExpired`. -/
  connectedAt : Int
  /-- What `RealHandshaker.Handshake` meets. -/
  handshake : HandshakeEnv

/-- The start both commands share: the registration, checked for expiry,
and a client on the store the flag names. -/
def openClient (env : CmdEnv) : Except String Client :=
  match env.loadRegistration with
  | .error err => .error err
  | .ok reg =>
    if Config.RegistrationData.isExpired env.checkedAt (some reg) then
      .error "registration data expired; regenerate with mac-registration-provider"
    else if env.storePath ≠ "" then
      match env.newFileStore with
      | .error err => .error s!"failed to initialize store: {err}"
      | .ok store => .ok (newClientWithStore (some reg) (some store))
    else .ok (newClientWithStore (some reg) (some newMemoryStore))

/-- `check-messages`: the lines it prints and the error it returns. -/
def checkMessages (env : CmdEnv) (order : MapOrder) (format : Int → String) : List String × Option String :=
  match openClient env with
  | .error err => ([], some err)
  | .ok client =>
    match (client.pollUnread env.handshake env.connectedAt order).2 with
    | .error err =>
      if err = errHandshakeNotImplemented then (["Handshake not implemented yet."], none)
      else if err = errInvalidRegistrationData then ([], some "registration data missing required fields")
      else if err = errNotImplemented then (["Polling not implemented yet."], none)
      else ([], some err)
    | .ok summaries => (Notifier.printSummaries format summaries, none)

/-- `send` with the `--chat` flag `chat` and the text `text`: the lines it
prints and the error it returns. -/
def send (env : CmdEnv) (chat text : String) : List String × Option String :=
  match openClient env with
  | .error err => ([], some err)
  | .ok client =>
    if chat = "" then ([], some "recipient/chat is required (use --chat)")
    else
      match client.send env.handshake env.connectedAt chat text with
      | .error err =>
        if err = errHandshakeNotImplemented then (["Handshake not implemented yet."], none)
        else if err = errNotImplemented then (["Send not implemented yet."], none)
        else ([], some err)
      | .ok () => (["Sent (stub)."], none)

/-! ## No error is a stub's -/

/-- A text interpolated after a prefix differs from every text that starts
otherwise. -/
theorem interpolated_ne {pre t : String} (err post : String) (hpre : pre.data ≠ [])
    (h : pre.data.head? ≠ t.data.head?) : toString pre ++ toString err ++ toString post ≠ t := by
  rintro rfl
  apply h
  show pre.data.head? = (pre ++ err ++ post).data.head?
  rw [String.data_append, String.data_append, List.append_assoc, List.head?_append_of_ne_nil _ hpre]

theorem connect_error_ne_stub {reg : Option Messaging.RegistrationData} {store : Option Store} {e : String}
    (h : connect reg store = .error e) : e ≠ errHandshakeNotImplemented ∧ e ≠ errNotImplemented := by
  unfold connect at h
  split at h
  · cases h; decide
  · split_ifs at h <;> cases h <;> decide

/-- **Every error of the handshake names its stage**: none is a stub's. -/
theorem handshake_error_ne_stub {σ : Type} {env : HandshakeEnv} {reg : Option Config.RegistrationData} {e : String}
    (h : (@handshake σ env reg).2 = .error e) : e ≠ errHandshakeNotImplemented ∧ e ≠ errNotImplemented := by
  unfold handshake at h
  dsimp only at h
  repeat' split at h
  all_goals cases h
  all_goals constructor
  all_goals first
    | decide
    | exact interpolated_ne _ _ (by decide) (by decide)

theorem realHandshake_error_ne_stub {env : HandshakeEnv} {reg : Option Config.RegistrationData} {e : String}
    (h : realHandshake env reg = .error e) : e ≠ errHandshakeNotImplemented ∧ e ≠ errNotImplemented := by
  unfold realHandshake at h
  rcases hh : (@handshake Session env reg).2 with e' | st <;> rw [hh] at h <;> cases h
  exact handshake_error_ne_stub hh

/-- `PollUnread` reports nothing, or fails with an error that is no
stub's. -/
theorem pollUnread_result (hsEnv : HandshakeEnv) (now : Int) (order : MapOrder) (c : Client) :
    (c.pollUnread hsEnv now order).2 = .ok [] ∨
      ∃ e, (c.pollUnread hsEnv now order).2 = .error e ∧ e ≠ errHandshakeNotImplemented ∧ e ≠ errNotImplemented := by
  rw [pollUnread_eq]
  rcases hc : connect (c.registration.map (Config.RegistrationData.toSession now)) (some c.store) with e | s
  · exact .inr ⟨e, rfl, connect_error_ne_stub hc⟩
  · rcases hh : realHandshake hsEnv c.registration with e | st
    · exact .inr ⟨e, rfl, realHandshake_error_ne_stub hh⟩
    · exact .inl rfl

/-- `Send` fails with `ErrNotImplemented`, or with an error that is no
stub's. -/
theorem send_result (hsEnv : HandshakeEnv) (now : Int) (c : Client) (chat text : String) :
    c.send hsEnv now chat text = .error errNotImplemented ∨
      ∃ e, c.send hsEnv now chat text = .error e ∧ e ≠ errHandshakeNotImplemented ∧ e ≠ errNotImplemented := by
  rw [send_eq]
  rcases hc : connect (c.registration.map (Config.RegistrationData.toSession now)) (some c.store) with e | s
  · exact .inr ⟨e, rfl, connect_error_ne_stub hc⟩
  · rcases hh : realHandshake hsEnv c.registration with e | st
    · exact .inr ⟨e, rfl, realHandshake_error_ne_stub hh⟩
    · exact .inl rfl

/-! ## What the commands print -/

/-- **The commands never deliver.** For every registration file, store
flag, clock and handshake environment: `check-messages` fails printing
nothing, or prints "No new messages." and succeeds, never a summary and
never its messages for the stubs; and `send` fails printing nothing, or
prints "Send not implemented yet." and succeeds, never "Sent (stub).". -/
theorem commands_never_deliver (env : CmdEnv) (order : MapOrder) (format : Int → String) (chat text : String) :
    ((checkMessages env order format).1 = [] ∧ (checkMessages env order format).2.isSome ∨
        checkMessages env order format = (["No new messages."], none)) ∧
      ((send env chat text).1 = [] ∧ (send env chat text).2.isSome ∨
        send env chat text = (["Send not implemented yet."], none)) := by
  constructor
  · unfold checkMessages
    rcases openClient env with err | client
    · exact .inl ⟨rfl, rfl⟩
    rcases pollUnread_result env.handshake env.connectedAt order client with h | ⟨e, h, hh, hn⟩ <;>
      simp only [h]
    · exact .inr rfl
    · simp only [if_neg hh, if_neg hn]
      split_ifs <;> exact .inl ⟨rfl, rfl⟩
  · unfold send
    rcases openClient env with err | client
    · exact .inl ⟨rfl, rfl⟩
    split_ifs
    · exact .inl ⟨rfl, rfl⟩
    rcases send_result env.handshake env.connectedAt client chat text with h | ⟨e, h, hh, hn⟩ <;>
      simp only [h]
    · simp [show errNotImplemented ≠ errHandshakeNotImplemented by decide]
    · simp [if_neg hh, if_neg hn]

end Cmd

end IMessageClient
