import IMessageClient.Common.Runtime
import Mathlib.Data.List.AList
import Mathlib.Order.MinMax
/-!
# Messaging — the last-seen store

The session remembers, per chat, the time of the latest message it
reported. A `Store` is a `MemoryStore` or a `FileStore`; both keep a map
from chat to time, and a `FileStore` saves it after every change. A
`time.Time` is a count of nanoseconds from the zero `Time`, so a chat the
store has never seen reads as `0`.

`filterUnread` keeps the messages strictly after their chat's time, and
`updateStore` sets each chat to its latest message: a first loop builds the
map `chatLatest`, a second calls `SetLastSeen` for each entry in the order
Go's `range` picks (`MapOrder`, any permutation), stopping at the first
error. When the second loop gets through, each chat of the map holds its
value, whatever the order (`setEach_of_ok`); when it stops early, every
chat holds its old value or its value in the map (`setEach_cases`).
-/

namespace IMessageClient

namespace Messaging

/-- `Message`, without the `Service` field nothing sets. -/
structure Message where
  id : String
  chat : String
  sender : String
  text : String
  timestamp : Int
  deriving DecidableEq, Repr

/-- `MessageSummary`. -/
structure MessageSummary where
  sender : String
  preview : String
  timestamp : Int
  deriving DecidableEq, Repr

/-- `Message.ToSummary`. -/
def Message.toSummary (m : Message) : MessageSummary := ⟨m.sender, m.text, m.timestamp⟩

/-! ## Stores -/

/-- A `Store`: a `MemoryStore`, or a `FileStore` whose saves have the
outcomes `saves` in turn and succeed once they run out. -/
inductive Store where
  | memory (seen : String → Int)
  | file (seen : String → Int) (saves : List (Option String))

/-- `NewMemoryStore`. -/
def newMemoryStore : Store := .memory fun _ => 0

/-- `LastSeen`: the map's value, the zero `Time` when it has none. -/
def Store.lastSeen : Store → String → Int
  | .memory seen, chat => seen chat
  | .file seen _, chat => seen chat

/-- `seen[chat] = ts`. -/
def setSeen (seen : String → Int) (chat : String) (ts : Int) : String → Int :=
  fun c => if c = chat then ts else seen c

/-- `SetLastSeen`. An empty chat is refused; a `FileStore` changes its map,
then saves, and returns the save's error with the map already changed. -/
def Store.setLastSeen (store : Store) (chat : String) (ts : Int) : Store × Option String :=
  if chat = "" then (store, some "chat identifier is empty")
  else
    match store with
    | .memory seen => (.memory (setSeen seen chat ts), none)
    | .file seen [] => (.file (setSeen seen chat ts) [], none)
    | .file seen (outcome :: saves) => (.file (setSeen seen chat ts) saves, outcome)

/-- What `SetLastSeen` leaves: the chat at its new time unless it was
refused, every other chat as it was. -/
theorem lastSeen_setLastSeen (store : Store) (chat : String) (ts : Int) (c : String) :
    (store.setLastSeen chat ts).1.lastSeen c =
      if chat ≠ "" ∧ c = chat then ts else store.lastSeen c := by
  unfold Store.setLastSeen
  by_cases hc : chat = ""
  · simp [hc]
  · rcases store with seen | ⟨seen, _ | ⟨o, saves⟩⟩ <;>
      simp [hc, Store.lastSeen, setSeen]

/-- `SetLastSeen` succeeds only on a non-empty chat. -/
theorem setLastSeen_ne_empty {store store' : Store} {chat : String} {ts : Int}
    (h : store.setLastSeen chat ts = (store', none)) : chat ≠ "" := by
  intro hc
  simp [Store.setLastSeen, hc] at h

/-! ## `filterUnread` and `updateStore` -/

/-- `filterUnread`: the messages strictly after their chat's last-seen
time, in order. -/
def filterUnread (store : Store) (messages : List Message) : List Message :=
  messages.filter fun msg => store.lastSeen msg.chat < msg.timestamp

/-- A Go `map[string]time.Time`. -/
abbrev TimeMap : Type := AList fun _ : String => Int

/-- One turn of `updateStore`'s first loop: the message's time becomes its
chat's entry if the chat has none yet or an earlier one. -/
def noteLatest (chatLatest : TimeMap) (msg : Message) : TimeMap :=
  match chatLatest.lookup msg.chat with
  | some existing =>
    if existing < msg.timestamp then chatLatest.insert msg.chat msg.timestamp else chatLatest
  | none => chatLatest.insert msg.chat msg.timestamp

/-- `chatLatest`, the map the first loop builds. -/
def chatLatest (messages : List Message) : TimeMap :=
  messages.foldl noteLatest ∅

/-- **The order of a `range` over a map**, which Go leaves open: any
permutation of the entries. -/
structure MapOrder where
  order : List (Σ _ : String, Int) → List (Σ _ : String, Int)
  perm : ∀ entries, (order entries).Perm entries

/-- `updateStore`'s second loop: `SetLastSeen` for each entry, stopping at
the first error. -/
def setEach (store : Store) : List (Σ _ : String, Int) → Store × Option String
  | [] => (store, none)
  | ⟨chat, ts⟩ :: rest =>
    match store.setLastSeen chat ts with
    | (store, some err) => (store, some err)
    | (store, none) => setEach store rest

/-- `updateStore`. -/
def updateStore (order : MapOrder) (store : Store) (messages : List Message) : Store × Option String :=
  setEach store (order.order (chatLatest messages).entries)

/-- `updateStore` with no messages calls `SetLastSeen` on nothing. -/
theorem updateStore_nil (order : MapOrder) (store : Store) : updateStore order store [] = (store, none) := by
  rw [updateStore, show (chatLatest []).entries = [] from rfl, (order.perm []).eq_nil]
  rfl

/-! ## What `chatLatest` holds -/

/-- The times of a chat's messages, in order. -/
def timesOf (chat : String) (messages : List Message) : List Int :=
  (messages.filter fun msg => msg.chat = chat).map (·.timestamp)

theorem lookup_noteLatest (m : TimeMap) (msg : Message) (c : String) :
    (noteLatest m msg).lookup c =
      if msg.chat = c then some ((m.lookup c).elim msg.timestamp (max · msg.timestamp))
      else m.lookup c := by
  by_cases hc : msg.chat = c
  · subst hc
    unfold noteLatest
    cases h : m.lookup msg.chat with
    | none => simp [AList.lookup_insert]
    | some e =>
      by_cases hlt : e < msg.timestamp
      · simp [hlt, AList.lookup_insert, max_eq_right hlt.le]
      · simp [hlt, h, max_eq_left (not_lt.1 hlt)]
  · unfold noteLatest
    have hne : c ≠ msg.chat := Ne.symm hc
    split
    · split <;> simp [hc, AList.lookup_insert_ne hne]
    · simp [hc, AList.lookup_insert_ne hne]

theorem foldl_elim_some (a : Int) (l : List Int) :
    l.foldl (fun o t => some ((o : Option Int).elim t (max · t))) (some a) = some (l.foldl max a) := by
  induction l generalizing a with
  | nil => rfl
  | cons t l ih => exact ih (max a t)

/-- **`chatLatest` holds each chat's latest time**, and nothing for a chat
with no message. -/
theorem lookup_chatLatest (messages : List Message) (c : String) :
    (chatLatest messages).lookup c = (timesOf c messages).max? := by
  have hfold : ∀ (m : TimeMap) (msgs : List Message), (msgs.foldl noteLatest m).lookup c =
      (timesOf c msgs).foldl (fun o t => some (o.elim t (max · t))) (m.lookup c) := by
    intro m msgs
    induction msgs generalizing m with
    | nil => rfl
    | cons msg msgs ih =>
      rw [List.foldl_cons, ih, lookup_noteLatest]
      by_cases hc : msg.chat = c <;> simp [timesOf, List.filter_cons, hc]
  rw [chatLatest, hfold, AList.lookup_empty]
  cases h : timesOf c messages with
  | nil => rfl
  | cons a l => exact foldl_elim_some a l

/-- An entry of `chatLatest` is the time of one of its chat's messages. -/
theorem mem_timesOf_of_mem_chatLatest {messages : List Message} {c : String} {t : Int}
    (h : (⟨c, t⟩ : Σ _ : String, Int) ∈ (chatLatest messages).entries) : t ∈ timesOf c messages := by
  have hl := AList.mem_lookup_iff.2 h
  rw [lookup_chatLatest] at hl
  exact List.max?_mem max_choice hl

/-- Over times all after `prev`, the running maximum from `prev` is the
largest of them. -/
theorem foldl_max_of_lt {prev : Int} {l : List Int} (h : ∀ t ∈ l, prev < t) :
    l.foldl max prev = l.max?.getD prev := by
  cases l with
  | nil => rfl
  | cons a l =>
    rw [List.foldl_cons, max_eq_right (h a (List.mem_cons_self _ _)).le, List.max?_cons']
    rfl

theorem le_foldl_max_init (l : List Int) (init : Int) : init ≤ l.foldl max init := by
  induction l generalizing init with
  | nil => exact le_rfl
  | cons a l ih => exact (le_max_left init a).trans (ih _)

theorem le_foldl_max {t : Int} {l : List Int} (ht : t ∈ l) (init : Int) : t ≤ l.foldl max init := by
  induction l generalizing init with
  | nil => cases ht
  | cons a l ih =>
    rcases List.mem_cons.1 ht with rfl | ht
    · exact (le_max_right init t).trans (le_foldl_max_init l _)
    · exact ih ht _

/-! ## The second loop -/

/-- **When the second loop gets through**, each entry's chat holds the
entry's time and every other chat its old one. -/
theorem setEach_of_ok {store store' : Store} {entries : List (Σ _ : String, Int)}
    (hnd : entries.NodupKeys) (h : setEach store entries = (store', none)) (c : String) :
    store'.lastSeen c = (entries.dlookup c).getD (store.lastSeen c) := by
  induction entries generalizing store with
  | nil => cases h; rfl
  | cons e rest ih =>
    obtain ⟨c0, t0⟩ := e
    obtain ⟨hfresh, hnd⟩ := List.nodupKeys_cons.1 hnd
    unfold setEach at h
    split at h
    · cases h
    rename_i store1 h1
    have hne := setLastSeen_ne_empty h1
    have h1c := lastSeen_setLastSeen store c0 t0 c
    rw [h1] at h1c
    rw [ih hnd h, h1c]
    by_cases hc : c = c0
    · subst hc
      simp [List.dlookup_eq_none.2 hfresh, hne]
    · simp [List.dlookup_cons_ne rest ⟨c0, t0⟩ hc, hc]

/-- **When it stops early**, each chat holds its old time or its time in
the entries. -/
theorem setEach_cases (store : Store) (entries : List (Σ _ : String, Int)) (c : String) :
    (setEach store entries).1.lastSeen c = store.lastSeen c ∨
      ∃ t, (⟨c, t⟩ : Σ _ : String, Int) ∈ entries ∧ (setEach store entries).1.lastSeen c = t := by
  induction entries generalizing store with
  | nil => exact .inl rfl
  | cons e rest ih =>
    obtain ⟨c0, t0⟩ := e
    have h1 := lastSeen_setLastSeen store c0 t0 c
    have hstep : (store.setLastSeen c0 t0).1.lastSeen c = store.lastSeen c ∨
        (c = c0 ∧ (store.setLastSeen c0 t0).1.lastSeen c = t0) := by
      rw [h1]; split_ifs with hc <;> simp_all
    unfold setEach
    split
    · rename_i store1 err h
      rw [h] at hstep
      rcases hstep with hs | ⟨rfl, hs⟩
      · exact .inl hs
      · exact .inr ⟨t0, List.mem_cons_self _ _, hs⟩
    · rename_i store1 h
      rw [h] at hstep
      rcases ih store1 with hs | ⟨t, ht, hs⟩
      · rcases hstep with hs' | ⟨rfl, hs'⟩
        · exact .inl (hs.trans hs')
        · exact .inr ⟨t0, List.mem_cons_self _ _, hs.trans hs'⟩
      · exact .inr ⟨t, List.mem_cons_of_mem _ ht, hs⟩

/-- **When it stops at an error**, the entries before the failing one have
taken effect, and the failing one too unless its chat is empty: a
`FileStore` keeps in its map the change whose save failed. -/
theorem setEach_of_error {store store' : Store} {entries : List (Σ _ : String, Int)} {err : String}
    (hnd : entries.NodupKeys) (h : setEach store entries = (store', some err)) :
    ∃ pre e post, entries = pre ++ e :: post ∧
      ∀ c, store'.lastSeen c = ((pre ++ if e.1 = "" then [] else [e]).dlookup c).getD (store.lastSeen c) := by
  induction entries generalizing store with
  | nil => cases h
  | cons e rest ih =>
    obtain ⟨c0, t0⟩ := e
    obtain ⟨hfresh, hnd⟩ := List.nodupKeys_cons.1 hnd
    unfold setEach at h
    split at h
    · rename_i store1 err' h1
      cases h
      refine ⟨[], ⟨c0, t0⟩, rest, rfl, fun c => ?_⟩
      have h1c := lastSeen_setLastSeen store c0 t0 c
      rw [h1] at h1c
      rw [h1c]
      by_cases hc : c = c0
      · subst hc
        by_cases h0 : c = "" <;> simp [h0]
      · rw [if_neg fun h => hc h.2]
        split_ifs <;> simp [List.dlookup_cons_ne _ (⟨c0, t0⟩ : Σ _ : String, Int) hc]
    · rename_i store1 h1
      obtain ⟨pre, e, post, rfl, hls⟩ := ih hnd h
      refine ⟨⟨c0, t0⟩ :: pre, e, post, rfl, fun c => ?_⟩
      have hne := setLastSeen_ne_empty h1
      have h1c := lastSeen_setLastSeen store c0 t0 c
      rw [h1] at h1c
      rw [hls, h1c]
      by_cases hc : c = c0
      · subst hc
        have hsub : (pre ++ if e.1 = "" then [] else [e]).Sublist (pre ++ e :: post) :=
          List.Sublist.append_left (by split_ifs <;> simp) pre
        have hkeys : c ∉ (pre ++ if e.1 = "" then [] else [e]).keys := fun hk =>
          hfresh ((hsub.map Sigma.fst).subset hk)
        simp [List.dlookup_eq_none.2 hkeys, hne]
      · simp [List.dlookup_cons_ne _ (⟨c0, t0⟩ : Σ _ : String, Int) hc, hc]

/-! ## `updateStore` -/

section UpdateStore

variable (order : MapOrder) {store : Store} {unread : List Message}

/-- **A successful `updateStore` on messages newer than the store** sets
every chat to the largest of its old time and its messages' times. -/
theorem updateStore_of_ok {store' : Store}
    (hnew : ∀ m ∈ unread, store.lastSeen m.chat < m.timestamp)
    (h : updateStore order store unread = (store', none)) (c : String) :
    store'.lastSeen c = (timesOf c unread).foldl max (store.lastSeen c) := by
  have hperm := order.perm (chatLatest unread).entries
  have hnd := (List.perm_nodupKeys hperm).2 (chatLatest unread).nodupKeys
  rw [setEach_of_ok hnd h, List.perm_dlookup _ hnd (chatLatest unread).nodupKeys hperm]
  change ((chatLatest unread).lookup c).getD _ = _
  rw [lookup_chatLatest, foldl_max_of_lt]
  intro t ht
  obtain ⟨m, hm, rfl⟩ := List.mem_map.1 ht
  have hc : m.chat = c := by simpa using (List.mem_filter.1 hm).2
  exact hc ▸ hnew m (List.mem_filter.1 hm).1

/-- **`updateStore` on messages newer than the store moves no chat back**,
whether it succeeds or stops at an error. -/
theorem updateStore_mono (hnew : ∀ m ∈ unread, store.lastSeen m.chat < m.timestamp) (c : String) :
    store.lastSeen c ≤ (updateStore order store unread).1.lastSeen c := by
  rcases setEach_cases store (order.order (chatLatest unread).entries) c with hs | ⟨t, ht, hs⟩
  · exact le_of_eq hs.symm
  · rw [updateStore, hs]
    obtain ⟨m, hm, rfl⟩ := List.mem_map.1
      (mem_timesOf_of_mem_chatLatest ((order.perm _).mem_iff.1 ht))
    have hc : m.chat = c := by simpa using (List.mem_filter.1 hm).2
    exact (hc ▸ hnew m (List.mem_filter.1 hm).1).le

end UpdateStore

/-- The messages `filterUnread` keeps are newer than the store. -/
theorem lastSeen_lt_of_mem_filterUnread {store : Store} {messages : List Message} {m : Message}
    (h : m ∈ filterUnread store messages) : store.lastSeen m.chat < m.timestamp := by
  simpa using (List.mem_filter.1 h).2

end Messaging

end IMessageClient
