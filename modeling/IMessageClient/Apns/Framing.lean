import IMessageClient.Apns.Encoding
/-!
# APNS — framing, over whole streams

The round trip of `Apns.Encoding` holds frame after frame on one stream
(`unmarshalBinaryStreamN_toBytes`): successive decodes return the payloads
in order and stop exactly at the end of the last frame. `toBytes_decodes`
collects it with the slice decoder's round trip. Both need the body to fit
the 4-byte length: at `2^32` bytes `ToBytes` wraps the header to `0`, and
the decoders return the bare command and leave the body on the stream
(`toBytes_decodes_fails_at_wrap`).

The field loop ends when fewer than three bytes are left, without looking
at them, so a body with one or two stray bytes decodes as a success
(`unmarshalBinaryStream_accepts_trailing`). It checks every bound before it
slices, so it never panics on any slice (`unmarshalFieldsFromBytes_ne_panic`),
nor does the stream decoder (`unmarshalBinaryStream_ne_panic`).
`UnmarshalBinary` does not check its slice `data[5:5+length]`: it panics
exactly where the bound falls outside `5 … cap(data)`
(`unmarshalBinary_panics_iff`), and below the capacity it reads past the
length. So it agrees with the stream decoder on a fresh slice, and on any
other it reads as the stream decoder reads the backing array
(`unmarshalBinary_ok_iff_stream`).
-/

namespace IMessageClient

namespace Apns

/-- `n` successive `UnmarshalBinaryStream` calls, each into a fresh
payload. -/
def unmarshalBinaryStreamN : Nat → Reader → List (Except Fault Payload) × Reader
  | 0, reader => ([], reader)
  | n + 1, reader =>
    let (result, reader) := unmarshalBinaryStream Payload.empty reader
    let (results, reader) := unmarshalBinaryStreamN n reader
    (result :: results, reader)

/-- Frame after frame, the stream decoder returns the payloads and stops at
the end of the last one. -/
theorem unmarshalBinaryStreamN_toBytes (ps : List Payload) (hps : ∀ p ∈ ps, p.Encodable)
    (rest : List UInt8) (err : String) :
    unmarshalBinaryStreamN ps.length ⟨(ps.map Payload.toBytes).flatten ++ rest, err⟩ =
      (ps.map .ok, ⟨rest, err⟩) := by
  induction ps with
  | nil => rfl
  | cons p ps ih =>
    have hp := hps p (List.mem_cons_self _ _)
    simp only [List.length_cons, List.map_cons, List.flatten_cons, List.append_assoc,
      unmarshalBinaryStreamN, unmarshalBinaryStream_toBytes hp,
      ih fun q hq => hps q (List.mem_cons_of_mem _ hq)]

/-- **Decoding undoes encoding**, for every payload the format carries:
the slice decoder on one frame shorter than `2^32` bytes, and the stream
decoder on any sequence of frames, which it consumes exactly. -/
theorem toBytes_decodes :
    (∀ p : Payload, p.Encodable → 5 + bodyLength p.fields < 2 ^ 32 →
      unmarshalBinary Payload.empty (Slice.ofList p.toBytes) = .ok p) ∧
    (∀ ps : List Payload, (∀ p ∈ ps, p.Encodable) → ∀ (rest : List UInt8) (err : String),
      unmarshalBinaryStreamN ps.length ⟨(ps.map Payload.toBytes).flatten ++ rest, err⟩ =
        (ps.map .ok, ⟨rest, err⟩)) :=
  ⟨fun _ hp h5 => unmarshalBinary_toBytes hp h5, unmarshalBinaryStreamN_toBytes⟩

/-- The round trip at a keep-alive frame, and at two frames on one stream. -/
theorem toBytes_decodes_keepAlive :
    unmarshalBinary Payload.empty (Slice.ofList (Payload.toBytes ⟨12, []⟩)) = .ok ⟨12, []⟩ ∧
      unmarshalBinaryStreamN 2
          ⟨([⟨1, [⟨1, [0xAA, 0xBB]⟩]⟩, ⟨12, []⟩].map Payload.toBytes).flatten ++ [], eof⟩ =
        ([.ok ⟨1, [⟨1, [0xAA, 0xBB]⟩]⟩, .ok ⟨12, []⟩], ⟨[], eof⟩) :=
  ⟨toBytes_decodes.1 ⟨12, []⟩ ⟨by decide, by decide, by decide⟩ (by decide),
    toBytes_decodes.2 [⟨1, [⟨1, [0xAA, 0xBB]⟩]⟩, ⟨12, []⟩]
      (by simp only [List.mem_cons, List.mem_singleton, List.not_mem_nil, or_false]
          rintro p (rfl | rfl) <;> exact ⟨by decide, by decide, by decide⟩) [] eof⟩

/-! ## A body the 4-byte length cannot hold -/

theorem bodyLength_replicate (n : Nat) (f : Field) :
    bodyLength (List.replicate n f) = n * (3 + f.value.length) := by
  induction n with
  | zero => simp
  | succ n ih => rw [List.replicate_succ, bodyLength_cons, ih, Nat.succ_mul]; omega

/-- A command frame whose length header reads `0`: both decoders return
the bare command, and the stream decoder stops after the header. -/
theorem unmarshalBinaryStream_zero_length {id : UInt8} (hid : id ≠ 0) (rest : List UInt8)
    (err : String) :
    unmarshalBinaryStream Payload.empty ⟨id :: 0 :: 0 :: 0 :: 0 :: rest, err⟩ =
      (.ok ⟨id, []⟩, ⟨rest, err⟩) := by
  have h4 := readFull_prefix (a := [0, 0, 0, 0]) (b := rest) (n := 4) err rfl
  simp only [List.cons_append, List.nil_append] at h4
  simp only [unmarshalBinaryStream, readFull_cons_one, List.headD_cons, hid, if_false, h4,
    show beNat [0, 0, 0, 0] = 0 from rfl, readFull_zero]
  simp [unmarshalFieldsFromBytes_eq, unmarshalFields_short, Payload.empty]

theorem unmarshalBinary_zero_length {id : UInt8} (hid : id ≠ 0) (rest : List UInt8) :
    unmarshalBinary Payload.empty (Slice.ofList (id :: 0 :: 0 :: 0 :: 0 :: rest)) = .ok ⟨id, []⟩ := by
  rw [unmarshalBinary_of_ne_zero _ (Slice.view_ofList _) hid (by simp),
    Slice.slice_of_le (by simp [beNat_four]) (by simp [beNat_four])]
  simp [unmarshalFieldsFromBytes_eq, unmarshalFields_short, Payload.empty, beNat_four, Slice.view]

/-- A field of `65533` zero bytes, three header bytes short of `2^16`. -/
def wrapField : Field := ⟨0, List.replicate 65533 0⟩

/-- `65536` such fields: a body of exactly `2^32` bytes. -/
def wrapPayload : Payload := ⟨1, List.replicate 65536 wrapField⟩

/-- At a body of `2^32` bytes, each field within the 2-byte limit, both
decoders return the command with no fields, and the stream decoder leaves
the whole body unread for the next frame. -/
theorem toBytes_decodes_fails_at_wrap :
    wrapPayload.id ≠ 0 ∧ (∀ f ∈ wrapPayload.fields, f.value.length < 2 ^ 16) ∧
      unmarshalBinary Payload.empty (Slice.ofList wrapPayload.toBytes) = .ok ⟨1, []⟩ ∧
      unmarshalBinaryStream Payload.empty ⟨wrapPayload.toBytes, eof⟩ =
        (.ok ⟨1, []⟩, ⟨encodeFields wrapPayload.fields, eof⟩) ∧
      wrapPayload ≠ ⟨1, []⟩ := by
  have hfield : wrapField.value.length = 65533 := List.length_replicate _ _
  have hB : bodyLength wrapPayload.fields = 2 ^ 32 :=
    calc bodyLength wrapPayload.fields = 65536 * (3 + wrapField.value.length) :=
          bodyLength_replicate 65536 wrapField
      _ = 65536 * (3 + 65533) := by rw [hfield]
      _ = 2 ^ 32 := by decide
  have hbytes : wrapPayload.toBytes = 1 :: 0 :: 0 :: 0 :: 0 :: encodeFields wrapPayload.fields := by
    rw [toBytes_eq, hB]; rfl
  refine ⟨by decide, ?_, ?_, ?_, ?_⟩
  · intro f hf
    have hf' : f = wrapField := (List.mem_replicate.1 hf).2
    rw [hf', hfield]
    decide
  · rw [hbytes, unmarshalBinary_zero_length (by decide)]
  · rw [hbytes, unmarshalBinaryStream_zero_length (by decide)]
  · intro h
    have h' : (List.replicate 65536 wrapField).length = 0 := congrArg (fun p => p.fields.length) h
    rw [List.length_replicate] at h'
    exact absurd h' (by decide)

/-! ## What the field loop leaves -/

/-- A body of no fields and one stray byte is accepted as a frame of no
fields: the consumed bytes are not the encoding of what was returned. -/
theorem unmarshalBinaryStream_accepts_trailing :
    unmarshalBinaryStream Payload.empty ⟨[1, 0, 0, 0, 1, 0xAA], eof⟩ = (.ok ⟨1, []⟩, ⟨[], eof⟩) ∧
      unmarshalBinary Payload.empty (Slice.ofList [1, 0, 0, 0, 1, 0xAA]) = .ok ⟨1, []⟩ ∧
      Payload.toBytes ⟨1, []⟩ ≠ [1, 0, 0, 0, 1, 0xAA] := by
  refine ⟨?_, ?_, by decide⟩
  · simp [unmarshalBinaryStream, readFull, unmarshalFieldsFromBytes_eq, unmarshalFields_short, beNat,
      Payload.empty]
  · rw [unmarshalBinary_of_ne_zero _ (Slice.view_ofList _) (by decide) (by decide),
      Slice.slice_of_le (by decide) (by decide)]
    simp [unmarshalFieldsFromBytes_eq, unmarshalFields_short, Slice.view, Slice.ofList, beNat, Payload.empty]

/-! ## Panics -/

/-- The field grammar has no branch that panics; what it says of the loop
is `unmarshalFieldsFrom_eq`. -/
theorem unmarshalFields_ne_panic (acc : List Field) (data : List UInt8) (msg : String) :
    unmarshalFields acc data ≠ .error (.panic msg) := by
  induction acc, data using unmarshalFields.induct with
  | case1 acc id b0 b1 rest _ hlt => rw [unmarshalFields_cons, if_pos hlt]; simp
  | case2 acc id b0 b1 rest _ hge ih => rw [unmarshalFields_cons, if_neg hge]; exact ih
  | case3 acc data hshort =>
    match data, hshort with
    | [], _ | [_], _ | [_, _], _ => simp [unmarshalFields_short]
    | _ :: _ :: _ :: _, h => exact absurd rfl (h _ _ _ _)

/-- **The field loop never panics**, on any slice whatever its capacity:
every index and slice it takes is behind a check. -/
theorem unmarshalFieldsFromBytes_ne_panic (p : Payload) (data : Slice) (msg : String) :
    unmarshalFieldsFromBytes p data ≠ .error (.panic msg) := by
  have := unmarshalFields_ne_panic p.fields data.view msg
  rw [unmarshalFieldsFromBytes_eq]
  cases h : unmarshalFields p.fields data.view <;> simp_all [Except.map]

/-- `io.ReadFull` fails only with a reader's error. -/
theorem readFull_error {r r' : Reader} {n : Nat} {e : Fault} (h : readFull r n = (.error e, r')) :
    ∃ m, e = .error m := by
  unfold readFull at h
  split at h
  · cases h
  · cases h; exact ⟨_, rfl⟩

/-- **The stream decoder never panics, nor does the field loop on any
slice**: `io.ReadFull` checks every length before the bytes are used, and
the loop checks each field's bounds before it slices. -/
theorem unmarshalBinaryStream_ne_panic (p : Payload) (r : Reader) (msg : String) :
    (unmarshalBinaryStream p r).1 ≠ .error (.panic msg) ∧
      ∀ data : Slice, unmarshalFieldsFromBytes p data ≠ .error (.panic msg) := by
  refine ⟨?_, fun data => unmarshalFieldsFromBytes_ne_panic p data msg⟩
  unfold unmarshalBinaryStream
  split
  · obtain ⟨m, rfl⟩ := readFull_error ‹_›
    simp
  dsimp only
  split
  · simp
  split
  · obtain ⟨m, rfl⟩ := readFull_error ‹_›
    simp
  split
  · obtain ⟨m, rfl⟩ := readFull_error ‹_›
    simp
  · exact unmarshalFieldsFromBytes_ne_panic _ _ msg

/-- **Where `UnmarshalBinary` panics**: on a command whose slice bound
`5 + length`, summed in `uint32`, falls outside `5 … cap(data)`. Below the
capacity but past the length it does not panic: it reads the bytes there. -/
theorem unmarshalBinary_panics_iff (p : Payload) (data : Slice) :
    (∃ msg, unmarshalBinary p data = .error (.panic msg)) ↔
      data.view.headD 0 ≠ 0 ∧ 5 ≤ data.len ∧
        ¬ (5 ≤ (5 + beNat ((data.view.drop 1).take 4)) % 2 ^ 32 ∧
          (5 + beNat ((data.view.drop 1).take 4)) % 2 ^ 32 ≤ data.cap) := by
  rcases hview : data.view with _ | ⟨id, rest⟩
  · have h0 : data.len = 0 := by rw [← Slice.length_view, hview]; rfl
    simp [unmarshalBinary, h0]
  have hlen : data.len = rest.length + 1 := by rw [← Slice.length_view, hview, List.length_cons]
  by_cases hid : id = 0
  · subst hid
    simp [unmarshalBinary, hlen, Slice.index, hview, index]
  by_cases h4 : 4 ≤ rest.length
  · rw [unmarshalBinary_of_ne_zero p hview hid h4,
      Slice.slice_bind_isPanic (unmarshalFieldsFromBytes_ne_panic _)]
    simp [hid, hlen, h4]
  · simp [unmarshalBinary, hlen, Slice.index, hview, index, hid, h4, show rest.length + 1 < 5 by omega]

/-- A one-byte body declared where none follows: `UnmarshalBinary` panics
instead of reporting a framing error. -/
theorem unmarshalBinary_panics_on_short_frame :
    unmarshalBinary Payload.empty (Slice.ofList [1, 0, 0, 0, 1]) =
      .error (.panic "slice bounds out of range [:6] with capacity 5") := rfl

/-! ## The two decoders -/

/-- `UnmarshalBinaryStream` on a command with a full header: the body read
of the declared length, then the field loop. -/
theorem unmarshalBinaryStream_of_ne_zero (p : Payload) {id : UInt8} {rest : List UInt8} (err : String)
    (hid : id ≠ 0) (hlen : 4 ≤ rest.length) :
    unmarshalBinaryStream p ⟨id :: rest, err⟩ =
      ((readFull ⟨rest.drop 4, err⟩ (beNat (rest.take 4))).1 >>= fun data =>
          unmarshalFieldsFromBytes { p with id := id } (Slice.ofList data),
        (readFull ⟨rest.drop 4, err⟩ (beNat (rest.take 4))).2) := by
  have hheader := readFull_prefix (b := rest.drop 4) err (show (rest.take 4).length = 4 by simpa using hlen)
  rw [List.take_append_drop] at hheader
  simp only [unmarshalBinaryStream, readFull_cons_one, List.headD_cons, hid, if_false, hheader]
  rcases readFull ⟨rest.drop 4, err⟩ (beNat (rest.take 4)) with ⟨_ | _, _⟩ <;> rfl

/-- On a slice of at least five bytes, `UnmarshalBinary` returns a payload
exactly when the stream decoder returns it from the backing array up to the
capacity: its body slice reads past the length where the capacity allows. -/
theorem unmarshalBinary_ok_iff_backing (p q : Payload) {data : Slice} (err : String) (h5 : 5 ≤ data.len)
    (hwrap : 5 + beNat ((data.view.drop 1).take 4) < 2 ^ 32) :
    unmarshalBinary p data = .ok q ↔ (unmarshalBinaryStream p ⟨data.backing, err⟩).1 = .ok q := by
  have hcap := data.len_le
  obtain ⟨id, rb, hb⟩ := List.exists_cons_of_length_pos (show 0 < data.backing.length by omega)
  rw [hb, List.length_cons] at hcap
  obtain ⟨n, hn⟩ : ∃ n, data.len = n + 1 := ⟨data.len - 1, by omega⟩
  have hview : data.view = id :: rb.take n := by rw [Slice.view, hb, hn, List.take_succ_cons]
  have hhdr : (rb.take n).take 4 = rb.take 4 := by rw [List.take_take, Nat.min_eq_left (by omega)]
  rw [hview, List.drop_one, List.tail_cons, hhdr] at hwrap
  by_cases hid : id = 0
  · subst hid
    simp [unmarshalBinary, hn, Slice.index, hview, index, unmarshalBinaryStream, hb, readFull_cons_one]
  rw [unmarshalBinary_of_ne_zero p hview hid (by simp; omega), hhdr, Nat.mod_eq_of_lt hwrap, hb,
    unmarshalBinaryStream_of_ne_zero p err hid (by omega)]
  by_cases hbody : beNat (rb.take 4) ≤ rb.length - 4
  · have hread := readFull_prefix (b := (rb.drop 4).drop (beNat (rb.take 4))) err
      (show ((rb.drop 4).take (beNat (rb.take 4))).length = beNat (rb.take 4) by simp; omega)
    rw [List.take_append_drop] at hread
    rw [Slice.slice_of_le (by simp only [Slice.cap, hb, List.length_cons]; omega) (by omega), hread,
      except_ok_bind, except_ok_bind, unmarshalFieldsFromBytes_eq, unmarshalFieldsFromBytes_eq, Slice.view_ofList]
    simp [Slice.view, hb]
  · obtain ⟨msg, hmsg⟩ : ∃ msg, data.slice 5 (5 + beNat (rb.take 4)) = .error (.panic msg) :=
      Slice.slice_isPanic.2 (by simp only [Slice.cap, hb, List.length_cons]; omega)
    simp [hmsg, readFull, hbody]

/-- **`UnmarshalBinary` reads up to the capacity, the stream decoder up to
the end of the stream.** On a fresh slice, whose capacity is its length,
and every byte string whose declared length does not wrap the `uint32`
bound `5 + length`, `UnmarshalBinary` returns a payload exactly when
`UnmarshalBinaryStream` on the same bytes does, and the same one. On any
slice of at least five bytes it returns what the stream decoder returns
from the whole backing array: a caller's slice with spare capacity is read
past its length. -/
theorem unmarshalBinary_ok_iff_stream (p q : Payload) (err : String) :
    (∀ data : List UInt8, 5 + beNat ((data.drop 1).take 4) < 2 ^ 32 →
      (unmarshalBinary p (Slice.ofList data) = .ok q ↔ (unmarshalBinaryStream p ⟨data, err⟩).1 = .ok q)) ∧
    ∀ data : Slice, 5 ≤ data.len → 5 + beNat ((data.view.drop 1).take 4) < 2 ^ 32 →
      (unmarshalBinary p data = .ok q ↔ (unmarshalBinaryStream p ⟨data.backing, err⟩).1 = .ok q) := by
  refine ⟨fun data hwrap => ?_, fun data h5 hwrap => unmarshalBinary_ok_iff_backing p q err h5 hwrap⟩
  by_cases h5 : 5 ≤ data.length
  · exact unmarshalBinary_ok_iff_backing p q err h5 (by simpa using hwrap)
  match data with
  | [] => simp [unmarshalBinary, Slice.ofList, unmarshalBinaryStream, readFull]
  | id :: rest =>
    by_cases hid : id = 0
    · subst hid
      simp [unmarshalBinary, Slice.ofList, Slice.index, Slice.view, index, unmarshalBinaryStream,
        readFull_cons_one]
    · simp [unmarshalBinary, Slice.ofList, Slice.index, Slice.view, index, unmarshalBinaryStream,
        readFull_cons_one, hid, readFull, show ¬ 4 ≤ rest.length by simp at h5; omega,
        show rest.length + 1 < 5 by simp at h5; omega]

/-- A five-byte slice over a longer backing array: `UnmarshalBinary` reads
the field `01 00 00` past its length, where the stream decoder on its five
bytes meets the end of the stream. -/
def spareCapacitySlice : Slice := ⟨[1, 0, 0, 0, 3, 1, 0, 0], 5, by decide⟩

theorem unmarshalBinary_ok_iff_stream_spareCapacity :
    5 ≤ spareCapacitySlice.len ∧ 5 + beNat ((spareCapacitySlice.view.drop 1).take 4) < 2 ^ 32 ∧
      (unmarshalBinary Payload.empty spareCapacitySlice = .ok ⟨1, [⟨1, []⟩]⟩ ↔
        (unmarshalBinaryStream Payload.empty ⟨spareCapacitySlice.backing, eof⟩).1 = .ok ⟨1, [⟨1, []⟩]⟩) :=
  ⟨by decide, by decide,
    (unmarshalBinary_ok_iff_stream Payload.empty ⟨1, [⟨1, []⟩]⟩ eof).2 spareCapacitySlice (by decide) (by decide)⟩

end Apns

end IMessageClient
