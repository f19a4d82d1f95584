import IMessageClient.Messaging.Session
/-!
# Messaging — what `FetchUnread` reports

A successful `FetchUnread` returns the summaries of exactly the drained
messages that are newer than their chat's last-seen time, in drain order,
and leaves each chat at the largest of its old time and those messages'
times (`fetchUnread_of_ok`). No call moves a chat back, failed ones
included, and what a call reports is newer than anything reported before
in the same chat (`runSession_reports`). `fetchUnread_reports_new`
collects the two.

On every session `Connect` returns the channel stays nil whatever runs on
it, so a poll drains nothing, and one that fails has failed at its
handshake and changed nothing (`fetchUnread_error_unchanged`). That rests
on the nil channel alone: on a session whose channel is made, a failed
`FetchUnread` is not rolled back (`fetchUnread_error_keeps_prefix`). Past
the handshake it has already drained the channel, and `updateStore` stops
at the first `SetLastSeen` error with the earlier updates in effect, and
with the failing one too after a `FileStore` save error.
-/

namespace IMessageClient

namespace Messaging

open Session

/-- The messages a successful `FetchUnread` reported. -/
def SessionResult.reportedMessages : SessionResult → Option (List Message)
  | .reported (.ok _) unread => some unread
  | _ => none

/-- What the successful `FetchUnread` calls of a run reported, call by
call. -/
def reports (results : List SessionResult) : List (List Message) :=
  results.filterMap SessionResult.reportedMessages

/-- **A successful `FetchUnread`**: the summaries of the channel's messages
newer than their chat's time, in order, and each chat moved to the largest
of its old time and the times of those of its messages. -/
theorem fetchUnread_of_ok (handshake : Except String HandshakeState) (order : MapOrder) (s : Session)
    {sums : List MessageSummary} (h : (s.fetchUnread handshake order).2 = .ok sums) :
    let unread := filterUnread s.store (s.messageChan.pending.filterMap id)
    sums = unread.map Message.toSummary ∧
      ∀ c, (s.fetchUnread handshake order).1.store.lastSeen c =
        (timesOf c unread).foldl max (s.store.lastSeen c) := by
  obtain ⟨hsums, hupd⟩ := (fetchUnread_spec handshake order s).2 sums h
  exact ⟨hsums, updateStore_of_ok order (fun _ hm => lastSeen_lt_of_mem_filterUnread hm) hupd⟩

/-- **No call moves a chat back.** -/
theorem apply_mono (prim : Primitives) (call : SessionCall) (s : Session) (c : String) :
    s.store.lastSeen c ≤ (call.apply prim s).1.store.lastSeen c := by
  cases call with
  | handle payload clock => exact le_of_eq (by rw [← handleAPNSMessage_store prim clock s payload]; rfl)
  | fetchMessages handshake => exact le_of_eq (by rw [← fetchMessages_store handshake s]; rfl)
  | fetchUnread handshake order =>
    rcases (fetchUnread_spec handshake order s).1 with h | h
    · exact le_of_eq (by rw [← h]; rfl)
    · show _ ≤ (s.fetchUnread handshake order).1.store.lastSeen c
      rw [h]
      exact updateStore_mono order (fun _ hm => lastSeen_lt_of_mem_filterUnread hm) c

/-- What one call reports is newer than the store before it, and the store
after it has caught up with it. -/
theorem apply_reported (prim : Primitives) (call : SessionCall) (s : Session) {rep : List Message}
    (h : (call.apply prim s).2.reportedMessages = some rep) :
    ∀ m ∈ rep, s.store.lastSeen m.chat < m.timestamp ∧
      m.timestamp ≤ (call.apply prim s).1.store.lastSeen m.chat := by
  cases call with
  | handle payload clock => simp [SessionCall.apply, SessionResult.reportedMessages] at h
  | fetchMessages handshake => simp [SessionCall.apply, SessionResult.reportedMessages] at h
  | fetchUnread handshake order =>
    simp only [SessionCall.apply] at h ⊢
    cases hr : (s.fetchUnread handshake order).2 with
    | error err => simp [hr, SessionResult.reportedMessages] at h
    | ok sums =>
      simp only [hr, SessionResult.reportedMessages, Option.some.injEq] at h
      subst h
      intro m hm
      refine ⟨lastSeen_lt_of_mem_filterUnread hm, ?_⟩
      rw [(fetchUnread_of_ok handshake order s hr).2]
      exact le_foldl_max (List.mem_map.2 ⟨m, List.mem_filter.2 ⟨hm, by simp⟩, rfl⟩) _

/-- **Over every run**, no chat moves back; everything reported is newer
than the store at the start and caught up with at the end; and what a call
reports is newer than what any earlier call reported in the same chat. -/
theorem runSession_reports (prim : Primitives) (calls : List SessionCall) (s : Session) :
    let r := runSession prim calls s
    (∀ c, s.store.lastSeen c ≤ r.1.store.lastSeen c) ∧
      (∀ rep ∈ reports r.2, ∀ m ∈ rep,
        s.store.lastSeen m.chat < m.timestamp ∧ m.timestamp ≤ r.1.store.lastSeen m.chat) ∧
      (reports r.2).Pairwise fun earlier later =>
        ∀ m ∈ earlier, ∀ m' ∈ later, m.chat = m'.chat → m.timestamp < m'.timestamp := by
  induction calls generalizing s with
  | nil => exact ⟨fun _ => le_rfl, by simp [runSession, reports], by simp [runSession, reports]⟩
  | cons call calls ih =>
    obtain ⟨hmono, hrep, hpair⟩ := ih (call.apply prim s).1
    have hstep := apply_mono prim call s
    simp only [runSession]
    refine ⟨fun c => (hstep c).trans (hmono c), ?_, ?_⟩
    · intro rep hrep' m hm
      simp only [reports, List.filterMap_cons] at hrep'
      split at hrep'
      · exact ⟨(hstep _).trans_lt (hrep rep hrep' m hm).1, (hrep rep hrep' m hm).2⟩
      · rename_i rep0 h0
        rcases List.mem_cons.1 hrep' with rfl | hrep'
        · exact ⟨(apply_reported prim call s h0 m hm).1,
            (apply_reported prim call s h0 m hm).2.trans (hmono _)⟩
        · exact ⟨(hstep _).trans_lt (hrep rep hrep' m hm).1, (hrep rep hrep' m hm).2⟩
    · simp only [reports, List.filterMap_cons]
      split
      · exact hpair
      · rename_i rep0 h0
        refine List.Pairwise.cons ?_ hpair
        intro later hlater m hm m' hm' hc
        exact (apply_reported prim call s h0 m hm).2.trans_lt (hc ▸ (hrep later hlater m' hm').1)

/-- **`FetchUnread` reports exactly the new messages and moves the store
forward**: per call, the summaries of the drained messages newer than
their chat's time, in drain order, with each chat moved to the largest of
its old time and their times; over any run, no chat moves back and no
report repeats or precedes an earlier one of the same chat. -/
theorem fetchUnread_reports_new :
    (∀ (handshake : Except String HandshakeState) (order : MapOrder) (s : Session)
        (sums : List MessageSummary), (s.fetchUnread handshake order).2 = .ok sums →
      let unread := (s.messageChan.pending.filterMap id).filter fun m => s.store.lastSeen m.chat < m.timestamp
      sums = unread.map Message.toSummary ∧
        ∀ c, (s.fetchUnread handshake order).1.store.lastSeen c =
          (timesOf c unread).foldl max (s.store.lastSeen c)) ∧
    (∀ (prim : Primitives) (calls : List SessionCall) (s : Session),
      let r := runSession prim calls s
      (∀ c, s.store.lastSeen c ≤ r.1.store.lastSeen c) ∧
        (reports r.2).Pairwise fun earlier later =>
          ∀ m ∈ earlier, ∀ m' ∈ later, m.chat = m'.chat → m.timestamp < m'.timestamp) :=
  ⟨fun handshake order s _ h => fetchUnread_of_ok handshake order s h,
    fun prim calls s => ⟨(runSession_reports prim calls s).1, (runSession_reports prim calls s).2.2⟩⟩

/-! ## A failed poll -/

/-- The order a map's entries were built in. -/
def MapOrder.asBuilt : MapOrder := ⟨id, fun _ => List.Perm.refl _⟩

namespace Session

variable {handshake : Except String HandshakeState} {s : Session}

/-- A poll past the handshake with nothing in the channel reports nothing
and leaves the store as it is. -/
theorem fetchUnread_of_drained (order : MapOrder) (hstate : s.state.isSome)
    (hchan : s.messageChan.pending = []) : (s.fetchUnread handshake order).2 = .ok [] := by
  obtain ⟨st, hst⟩ := Option.isSome_iff_exists.1 hstate
  have hhs : s.ensureHandshake handshake = (s, none) := by simp [ensureHandshake, hst]
  have hnone : order.order (chatLatest []).entries = [] := (order.perm _).eq_nil
  rw [fetchUnread_of_handshake order hhs, hchan]
  simp [filterUnread, updateStore, hnone, setEach]

end Session

/-- **A failed poll has no effect.** On every session `Connect` returns and
every run of handler and poller calls after it, the channel is still nil,
so every drain is empty; and a `FetchUnread` that fails has failed at its
handshake and leaves the session as it was, store included, whether a
`MemoryStore` or a `FileStore`. -/
theorem fetchUnread_error_unchanged (prim : Primitives) {reg : Option RegistrationData} {store : Option Store}
    {s0 : Session} (hconn : connect reg store = .ok s0) (calls : List SessionCall)
    (handshake : Except String HandshakeState) (order : MapOrder) {err : String} :
    let s := (runSession prim calls s0).1
    (s.fetchUnread handshake order).2 = .error err →
      (s.fetchUnread handshake order).1 = s ∧ s.messageChan = none := fun h =>
  have hc := runSession_chan_nil prim calls s0 (connect_chan_nil hconn)
  ⟨Session.fetchUnread_of_nil_error hc h, hc⟩

/-- A fresh session whose handshake fails: the poll returns the error and
changes nothing. -/
theorem fetchUnread_error_unchanged_fresh :
    connect (some ⟨[1], false⟩) none = .ok ⟨newMemoryStore, none, true, none⟩ ∧
      ((runSession Primitives.stub [] ⟨newMemoryStore, none, true, none⟩).1.fetchUnread (.error "no IDS")
        MapOrder.asBuilt).2 = .error "no IDS" ∧
      ((runSession Primitives.stub [] ⟨newMemoryStore, none, true, none⟩).1.fetchUnread (.error "no IDS")
          MapOrder.asBuilt).1 = (runSession Primitives.stub [] ⟨newMemoryStore, none, true, none⟩).1 ∧
        (runSession Primitives.stub [] ⟨newMemoryStore, none, true, none⟩).1.messageChan = none :=
  have hconn : connect (some ⟨[1], false⟩) none = .ok ⟨newMemoryStore, none, true, none⟩ := rfl
  have herr : ((runSession Primitives.stub [] ⟨newMemoryStore, none, true, none⟩).1.fetchUnread (.error "no IDS")
      MapOrder.asBuilt).2 = .error "no IDS" := rfl
  ⟨hconn, herr, fetchUnread_error_unchanged Primitives.stub hconn [] (.error "no IDS") MapOrder.asBuilt herr⟩

/-- **On a channel that has been made, a failed `FetchUnread` is not
undone.** No code makes the channel (`fetchUnread_error_unchanged`); on a
session whose channel is made, either the handshake failed and nothing
changed, or the poll has drained the channel and `updateStore` stopped at
an error: the entries it visited before the failing one have taken
effect, and the failing one too unless its chat is empty (a `FileStore`
whose save failed), and the drained messages are gone, so the next poll
reports nothing. -/
theorem fetchUnread_error_keeps_prefix (handshake : Except String HandshakeState) (order : MapOrder)
    (s : Session) {err : String} (h : (s.fetchUnread handshake order).2 = .error err) :
    let s' := (s.fetchUnread handshake order).1
    let unread := filterUnread s.store (s.messageChan.pending.filterMap id)
    (s'.store = s.store ∧ s'.messageChan = s.messageChan) ∨
      ((∃ pre e post, order.order (chatLatest unread).entries = pre ++ e :: post ∧
          ∀ c, s'.store.lastSeen c =
            ((pre ++ if e.1 = "" then [] else [e]).dlookup c).getD (s.store.lastSeen c)) ∧
        s'.messageChan.pending = [] ∧
        ∀ handshake' order', (s'.fetchUnread handshake' order').2 = .ok []) := by
  dsimp only
  obtain ⟨hstore, hchan⟩ := ensureHandshake_frame handshake s
  rcases hhs : s.ensureHandshake handshake with ⟨s1, _ | err1⟩ <;> rw [hhs] at hstore hchan
  · rw [fetchUnread_of_handshake order hhs] at h ⊢
    have hstate := ensureHandshake_state hhs
    obtain ⟨-, hpending, -⟩ := fetchMessages_of_state handshake hstate
    rcases hu : updateStore order s.store (filterUnread s.store (s.messageChan.pending.filterMap id)) with
      ⟨store, _ | err'⟩ <;> rw [hu] at h
    · cases h
    · refine .inr ⟨setEach_of_error ((List.perm_nodupKeys (order.perm _)).2 (chatLatest _).nodupKeys) hu,
        hpending, fun handshake' order' => ?_⟩
      exact fetchUnread_of_drained order' (by simpa only [fetchMessages_state hstate] using hstate) hpending
  · left
    simp only [fetchUnread, hhs]
    exact ⟨hstore, hchan⟩

/-- A session whose channel holds three messages: chat `a`, last seen at
`4`, at `5` and at `3`, and chat `b` at `1`. -/
def sampleSession : Session where
  store := .memory fun c => if c = "a" then 4 else 0
  state := some ⟨none⟩
  handshaker := true
  messageChan := some ⟨4, [some ⟨"1", "a", "x", "hi", 5⟩, some ⟨"2", "a", "x", "old", 3⟩,
    some ⟨"3", "b", "y", "yo", 1⟩], by decide⟩

/-- The poll reports the messages at `5` and `1`, not the one at `3`. -/
theorem fetchUnread_reports_new_sample :
    (sampleSession.fetchUnread (.ok ⟨none⟩) MapOrder.asBuilt).2 = .ok [⟨"x", "hi", 5⟩, ⟨"y", "yo", 1⟩] ∧
      let unread := (sampleSession.messageChan.pending.filterMap id).filter fun m =>
        sampleSession.store.lastSeen m.chat < m.timestamp
      [⟨"x", "hi", 5⟩, ⟨"y", "yo", 1⟩] = unread.map Message.toSummary ∧
        ∀ c, (sampleSession.fetchUnread (.ok ⟨none⟩) MapOrder.asBuilt).1.store.lastSeen c =
          (timesOf c unread).foldl max (sampleSession.store.lastSeen c) := by
  have h : (sampleSession.fetchUnread (.ok ⟨none⟩) MapOrder.asBuilt).2 =
      .ok [⟨"x", "hi", 5⟩, ⟨"y", "yo", 1⟩] := by
    rfl
  exact ⟨h, fetchUnread_reports_new.1 _ _ _ _ h⟩

/-- A memory store, and a channel holding a message of the empty chat at
`3` (a decrypted payload whose first participant is empty), then one of
chat `a` at `5`. -/
def emptyChatSession : Session where
  store := newMemoryStore
  state := some ⟨none⟩
  handshaker := true
  messageChan := some ⟨4, [some ⟨"1", "", "x", "hi", 3⟩, some ⟨"2", "a", "y", "yo", 5⟩], by decide⟩

/-- A file store whose next save fails, and a channel holding a message of
chat `a` at `5`. -/
def failingSaveSession : Session where
  store := .file (fun _ => 0) [some "disk full"]
  state := some ⟨none⟩
  handshaker := true
  messageChan := some ⟨4, [some ⟨"2", "a", "y", "yo", 5⟩], by decide⟩

/-- Both polls fail with chat `a` already moved to `5`, and the poll after
each reports nothing: the message at `5` is never reported. -/
theorem fetchUnread_error_keeps_prefix_at_failures :
    ((emptyChatSession.fetchUnread (.ok ⟨none⟩) MapOrder.asBuilt).2 = .error "chat identifier is empty" ∧
        (emptyChatSession.fetchUnread (.ok ⟨none⟩) MapOrder.asBuilt).1.store.lastSeen "a" = 5 ∧
        ((emptyChatSession.fetchUnread (.ok ⟨none⟩) MapOrder.asBuilt).1.fetchUnread (.ok ⟨none⟩)
          MapOrder.asBuilt).2 = .ok []) ∧
      ((failingSaveSession.fetchUnread (.ok ⟨none⟩) MapOrder.asBuilt).2 = .error "disk full" ∧
        (failingSaveSession.fetchUnread (.ok ⟨none⟩) MapOrder.asBuilt).1.store.lastSeen "a" = 5 ∧
        ((failingSaveSession.fetchUnread (.ok ⟨none⟩) MapOrder.asBuilt).1.fetchUnread (.ok ⟨none⟩)
          MapOrder.asBuilt).2 = .ok []) := by
  have hm : (emptyChatSession.fetchUnread (.ok ⟨none⟩) MapOrder.asBuilt).2 =
      .error "chat identifier is empty" := rfl
  have hm5 : (emptyChatSession.fetchUnread (.ok ⟨none⟩) MapOrder.asBuilt).1.store.lastSeen "a" = 5 := rfl
  have hf : (failingSaveSession.fetchUnread (.ok ⟨none⟩) MapOrder.asBuilt).2 = .error "disk full" := rfl
  have hf5 : (failingSaveSession.fetchUnread (.ok ⟨none⟩) MapOrder.asBuilt).1.store.lastSeen "a" = 5 := rfl
  refine ⟨⟨hm, hm5, ?_⟩, ⟨hf, hf5, ?_⟩⟩
  · rcases fetchUnread_error_keeps_prefix _ _ _ hm with ⟨hs, -⟩ | ⟨-, -, hnext⟩
    · exact absurd (hs ▸ hm5) (by decide)
    · exact hnext _ _
  · rcases fetchUnread_error_keeps_prefix _ _ _ hf with ⟨hs, -⟩ | ⟨-, -, hnext⟩
    · exact absurd (hs ▸ hf5) (by decide)
    · exact hnext _ _

end Messaging

end IMessageClient
