import IMessageClient.Messaging.Store
/-!
# Messaging — the file store on disk

`FileStore` keeps its map in memory and, after every change, writes the
whole of it to its path as a JSON object of RFC 3339 times (`save`);
`NewFileStore` reads the file back (`load`), keeping each entry whose time
parses. The JSON and time codecs are a `FileCodec`; the file at the path,
and how each save ends, are a `Disk`. A save that fails at `MkdirAll` or
`OpenFile` leaves the file as it was; one whose write fails leaves the
first bytes it wrote, the file having been truncated on open.

Two facts tie this to the rest of the model. The `Store.file` the session
works with is this store seen from memory: each `SetLastSeen` on the file
store is `Store.setLastSeen` on its abstraction, time for time and error
for error (`setLastSeen_refines`), so what `FetchUnread` does to a store
holds of the file store. And a save that gets through is read back whole
by the next `NewFileStore`, when the codecs round-trip on what was written
(`reopen_after_save`).
-/

namespace IMessageClient

namespace Messaging

/-- A `map[string]string`: what `save` encodes and `json.Unmarshal`
fills. -/
abbrev TextMap : Type := AList fun _ : String => String

/-- The codecs a `FileStore` uses. -/
structure FileCodec where
  /-- `Time.Format(time.RFC3339Nano)`. -/
  format : Int → String
  /-- `time.Parse(time.RFC3339Nano, ·)`, `none` on an error. -/
  parse : String → Option Int
  /-- `json.NewEncoder(file).Encode` with the indent `save` sets. -/
  encode : TextMap → List UInt8
  /-- `json.Unmarshal` into a `map[string]string`. -/
  decode : List UInt8 → Except String TextMap

/-- How one `save` ends. -/
inductive SaveOutcome where
  | ok
  | mkdirFailed (err : String)
  | openFailed (err : String)
  /-- `Encode` wrote the first `written` bytes, then failed. -/
  | writeFailed (written : Nat) (err : String)

/-- The error a save returns. -/
def SaveOutcome.error : SaveOutcome → Option String
  | .ok => none
  | .mkdirFailed err => some err
  | .openFailed err => some err
  | .writeFailed _ err => some err

/-- The store's path on disk: what `os.ReadFile` returns for it (`none`
when it does not exist, an error when the read fails otherwise), and how
the saves end, in turn, succeeding once the list runs out. -/
structure Disk where
  file : Except String (Option (List UInt8))
  saves : List SaveOutcome

/-- `FileStore`. -/
structure FileStore where
  path : String
  seen : TimeMap

/-- `tmp` in `save`: every time of the map, formatted. -/
def formatted (codec : FileCodec) (seen : TimeMap) : TextMap :=
  ⟨seen.entries.map fun e => ⟨e.1, codec.format e.2⟩, by
    have hkeys : (seen.entries.map fun e => (⟨e.1, codec.format e.2⟩ : Σ _ : String, String)).keys =
        seen.entries.keys := List.map_map _ _ _
    rw [List.NodupKeys, hkeys]
    exact seen.nodupKeys⟩

/-- `load`'s loop: each entry whose time parses is set. -/
def loadEntries (codec : FileCodec) (seen : TimeMap) (raw : List (Σ _ : String, String)) : TimeMap :=
  raw.foldl (fun seen e =>
    match codec.parse e.2 with
    | some t => seen.insert e.1 t
    | none => seen) seen

/-- `load`: a missing file is an empty store. -/
def load (codec : FileCodec) (disk : Disk) (seen : TimeMap) : Except String TimeMap :=
  match disk.file with
  | .error err => .error err
  | .ok none => .ok seen
  | .ok (some data) =>
    match codec.decode data with
    | .error err => .error err
    | .ok raw => .ok (loadEntries codec seen raw.entries)

/-- `NewFileStore`. -/
def newFileStore (codec : FileCodec) (path : String) (disk : Disk) : Except String FileStore :=
  if path = "" then .error "store path is empty"
  else (load codec disk ∅).map fun seen => ⟨path, seen⟩

/-- `save`: the disk after it, and its error. -/
def save (codec : FileCodec) (fs : FileStore) (disk : Disk) : Disk × Option String :=
  let data := codec.encode (formatted codec fs.seen)
  match disk.saves with
  | [] => (⟨.ok (some data), []⟩, none)
  | .ok :: rest => (⟨.ok (some data), rest⟩, none)
  | .mkdirFailed err :: rest => (⟨disk.file, rest⟩, some err)
  | .openFailed err :: rest => (⟨disk.file, rest⟩, some err)
  | .writeFailed written err :: rest => (⟨.ok (some (data.take written)), rest⟩, some err)

namespace FileStore

/-- `FileStore.LastSeen`. -/
def lastSeen (fs : FileStore) (chat : String) : Int := (fs.seen.lookup chat).getD 0

/-- `FileStore.SetLastSeen`: the map changes before the save, whatever the
save returns. -/
def setLastSeen (codec : FileCodec) (fs : FileStore) (disk : Disk) (chat : String) (ts : Int) :
    FileStore × Disk × Option String :=
  if chat = "" then (fs, disk, some "chat identifier is empty")
  else
    let fs := { fs with seen := fs.seen.insert chat ts }
    let (disk, err) := save codec fs disk
    (fs, disk, err)

/-- The store the session sees: the map in memory, and the errors the
saves to come will return. -/
def abstract (fs : FileStore) (disk : Disk) : Store := .file fs.lastSeen (disk.saves.map SaveOutcome.error)

end FileStore

/-! ## The file store refines `Store.file` -/

/-- The saves after one save. -/
theorem save_saves (codec : FileCodec) (fs : FileStore) (disk : Disk) :
    ((save codec fs disk).1.saves.map SaveOutcome.error, (save codec fs disk).2) =
      match disk.saves.map SaveOutcome.error with
      | [] => ([], none)
      | outcome :: saves => (saves, outcome) := by
  unfold save
  rcases disk.saves with _ | ⟨_ | _ | _ | _, rest⟩ <;> rfl

theorem lastSeen_insert (fs : FileStore) (chat : String) (ts : Int) :
    ({ fs with seen := fs.seen.insert chat ts } : FileStore).lastSeen = setSeen fs.lastSeen chat ts := by
  funext c
  by_cases hc : c = chat
  · subst hc
    simp [FileStore.lastSeen, setSeen, AList.lookup_insert]
  · simp [FileStore.lastSeen, setSeen, hc, AList.lookup_insert_ne hc]

/-- **The file store refines `Store.file`.** Every `SetLastSeen` on the
file store, seen through `abstract`, is `Store.setLastSeen` on the store
it abstracts: the same times in memory, the same saves to come, the same
error. -/
theorem setLastSeen_refines (codec : FileCodec) (fs : FileStore) (disk : Disk) (chat : String) (ts : Int) :
    ((fs.setLastSeen codec disk chat ts).1.abstract (fs.setLastSeen codec disk chat ts).2.1,
        (fs.setLastSeen codec disk chat ts).2.2) =
      (fs.abstract disk).setLastSeen chat ts := by
  unfold FileStore.setLastSeen
  by_cases hc : chat = ""
  · simp [hc, Store.setLastSeen]
  · have hsaves := save_saves codec { fs with seen := fs.seen.insert chat ts } disk
    simp only [hc, if_false, FileStore.abstract, Store.setLastSeen, lastSeen_insert]
    rcases hd : disk.saves.map SaveOutcome.error with _ | ⟨outcome, saves⟩ <;> rw [hd] at hsaves <;>
      simp only [Prod.mk.injEq] at hsaves <;> simp only [hsaves]

/-! ## What a restart reads back -/

theorem lookup_formatted (codec : FileCodec) (seen : TimeMap) (c : String) :
    (formatted codec seen).lookup c = (seen.lookup c).map codec.format := by
  show List.dlookup c (seen.entries.map _) = (List.dlookup c seen.entries).map _
  induction seen.entries with
  | nil => rfl
  | cons e l ih =>
    obtain ⟨k, t⟩ := e
    by_cases hc : c = k
    · subst hc
      rw [List.map_cons, List.dlookup_cons_eq, List.dlookup_cons_eq]
      rfl
    · simp [List.dlookup_cons_ne, hc, ih]

/-- The load loop over entries with distinct keys: a key's time if it
parses, the map's value otherwise. -/
theorem lookup_loadEntries (codec : FileCodec) (c : String) :
    ∀ (raw : List (Σ _ : String, String)), raw.NodupKeys → ∀ seen : TimeMap,
      (loadEntries codec seen raw).lookup c = ((raw.dlookup c).bind codec.parse).or (seen.lookup c) := by
  intro raw
  induction raw with
  | nil => intro _ seen; rfl
  | cons e raw ih =>
    intro hnd seen
    obtain ⟨he, hnd⟩ := List.nodupKeys_cons.1 hnd
    rw [loadEntries, List.foldl_cons, ← loadEntries, ih hnd]
    obtain ⟨k, v⟩ := e
    by_cases hc : c = k
    · subst hc
      rw [List.dlookup_eq_none.2 he, List.dlookup_cons_eq]
      rcases hp : codec.parse v with _ | t <;> simp [hp, AList.lookup_insert]
    · rcases hp : codec.parse v with _ | t <;> simp [hp, hc, List.dlookup_cons_ne, AList.lookup_insert_ne hc]

/-- A save that gets through leaves the encoding of the whole map. -/
theorem save_file_of_ok {codec : FileCodec} {fs : FileStore} {disk : Disk} (h : (save codec fs disk).2 = none) :
    (save codec fs disk).1.file = .ok (some (codec.encode (formatted codec fs.seen))) := by
  obtain ⟨file, saves⟩ := disk
  unfold save at h ⊢
  rcases saves with _ | ⟨_ | _ | _ | _, rest⟩ <;> first | rfl | cases h

/-- **A restart reads back what a save wrote.** After a save that gets
through, `NewFileStore` on the same path succeeds and every chat has the
time it had in memory, whenever the JSON codec reads back the map it wrote
and each of its times parses back from its text. -/
theorem reopen_after_save (codec : FileCodec) (fs : FileStore) (disk : Disk) (hpath : fs.path ≠ "")
    (hsave : (save codec fs disk).2 = none)
    (hjson : codec.decode (codec.encode (formatted codec fs.seen)) = .ok (formatted codec fs.seen))
    (htime : ∀ c t, fs.seen.lookup c = some t → codec.parse (codec.format t) = some t) :
    ∃ fs', newFileStore codec fs.path (save codec fs disk).1 = .ok fs' ∧ ∀ c, fs'.lastSeen c = fs.lastSeen c := by
  refine ⟨⟨fs.path, loadEntries codec ∅ (formatted codec fs.seen).entries⟩, ?_, fun c => ?_⟩
  · simp only [newFileStore, hpath, if_false, load, save_file_of_ok hsave, hjson]
    rfl
  · have hload := lookup_loadEntries codec c _ (formatted codec fs.seen).nodupKeys ∅
    rw [AList.lookup_empty, Option.or_none] at hload
    change ((loadEntries codec ∅ (formatted codec fs.seen).entries).lookup c).getD 0 = (fs.seen.lookup c).getD 0
    rw [hload, show (formatted codec fs.seen).entries.dlookup c = (formatted codec fs.seen).lookup c from rfl,
      lookup_formatted]
    cases ht : fs.seen.lookup c with
    | none => rfl
    | some t => simp [htime c t ht]

/-- Codecs that write every time as `t` and read every text as `5`. -/
def constantCodec : FileCodec :=
  ⟨fun _ => "t", fun _ => some 5, fun _ => [0x7B, 0x7D], fun _ => .ok ((∅ : TextMap).insert "chat" "t")⟩

/-- A store at `state.json` that has seen one chat at time `5`. -/
def oneChatStore : FileStore := ⟨"state.json", (∅ : TimeMap).insert "chat" 5⟩

/-- Its first save, on a path with no file yet, read back. -/
theorem reopen_after_save_oneChat :
    oneChatStore.path ≠ "" ∧ (save constantCodec oneChatStore ⟨.ok none, []⟩).2 = none ∧
      constantCodec.decode (constantCodec.encode (formatted constantCodec oneChatStore.seen)) =
        .ok (formatted constantCodec oneChatStore.seen) ∧
      (∀ c t, oneChatStore.seen.lookup c = some t → constantCodec.parse (constantCodec.format t) = some t) ∧
      ∃ fs', newFileStore constantCodec oneChatStore.path (save constantCodec oneChatStore ⟨.ok none, []⟩).1 =
        .ok fs' ∧ ∀ c, fs'.lastSeen c = oneChatStore.lastSeen c :=
  have hjson : constantCodec.decode (constantCodec.encode (formatted constantCodec oneChatStore.seen)) =
      .ok (formatted constantCodec oneChatStore.seen) := rfl
  have htime : ∀ c t, oneChatStore.seen.lookup c = some t → constantCodec.parse (constantCodec.format t) = some t :=
    fun c t h => by
      by_cases hc : c = "chat"
      · subst hc
        rw [oneChatStore, AList.lookup_insert, Option.some.injEq] at h
        rw [← h]
        rfl
      · rw [oneChatStore, AList.lookup_insert_ne hc, AList.lookup_empty] at h
        cases h
  ⟨by decide, rfl, hjson, htime, reopen_after_save constantCodec oneChatStore ⟨.ok none, []⟩ (by decide) rfl hjson htime⟩

end Messaging

end IMessageClient
