import IMessageClient.Common.Runtime
/-!
# APNS — the binary frame codec

`Payload` is a command id with its ordered TLV fields, as `binary.go` has
it. `toBytes` is `Payload.ToBytes` with its write pointer: a buffer of the
computed length, the header written at bytes `0 … 4`, then each field at
`ptr`. The decoders are `UnmarshalBinaryStream` (from a `Reader`),
`UnmarshalBinary` (from a slice) and the field loop they share,
`unmarshalFieldsFromBytes`. Each decodes into a receiver whose fields it
appends to; a fresh receiver is `Payload.empty`.

The functional reading of `toBytes` (`toBytes_eq`) and the decoding
lemmas are in `Apns.Encoding`.
-/

namespace IMessageClient

namespace Apns

/-! ## Commands and fields -/

def commandConnect : UInt8 := 7
def commandConnectAck : UInt8 := 8
def commandFilterTopics : UInt8 := 9
def commandSendMessage : UInt8 := 10
def commandSendMessageAck : UInt8 := 11
def commandKeepAlive : UInt8 := 12
def commandKeepAliveAck : UInt8 := 13
def commandFilterTopicsAck : UInt8 := 14
def commandSetState : UInt8 := 20

/-- A TLV field. Duplicate ids and empty values are legal. -/
structure Field where
  id : UInt8
  value : List UInt8
  deriving DecidableEq, Repr

/-- **A command and its fields, in order.** -/
structure Payload where
  id : UInt8
  fields : List Field
  deriving DecidableEq, Repr

/-- The loop of `FindField`: the value of the first field with the id, or
nil. -/
def findFieldIn (fieldID : UInt8) : List Field → List UInt8
  | [] => []
  | field :: fields => if field.id = fieldID then field.value else findFieldIn fieldID fields

namespace Payload

/-- `Payload{}`, the receiver every caller decodes into. -/
def empty : Payload := ⟨0, []⟩

/-- `FindField`. -/
def findField (p : Payload) (fieldID : UInt8) : List UInt8 := findFieldIn fieldID p.fields

end Payload

@[simp] theorem findFieldIn_nil (fieldID : UInt8) : findFieldIn fieldID [] = [] := rfl

theorem findFieldIn_cons (fieldID : UInt8) (field : Field) (fields : List Field) :
    findFieldIn fieldID (field :: fields) =
      if field.id = fieldID then field.value else findFieldIn fieldID fields := rfl

/-- **The first field-`k` value** the design speaks of, stated with
`List.find?` apart from `FindField`: the value of the first field with the
id, empty when there is none. -/
def Payload.firstValue (p : Payload) (k : UInt8) : List UInt8 :=
  ((p.fields.find? (·.id = k)).map Field.value).getD []

/-- `FindField` returns the first field-`k` value. -/
theorem Payload.findField_eq_firstValue (p : Payload) (k : UInt8) : p.findField k = p.firstValue k := by
  obtain ⟨id, fields⟩ := p
  induction fields with
  | nil => rfl
  | cons f fields ih =>
    simp only [Payload.findField, Payload.firstValue, findFieldIn_cons, List.find?_cons] at ih ⊢
    by_cases hf : f.id = k <;> simp [hf, ih]

/-! ## Encoding -/

/-- `copy(buf[off:off+len(src)], src)`, the destination in range. -/
def copyAt (buf : List UInt8) (off : Nat) (src : List UInt8) : List UInt8 :=
  buf.take off ++ src ++ buf.drop (off + src.length)

/-- What `ToBytes` adds to `length` for the fields: an id byte, two length
bytes and the value, per field. -/
def bodyLength (fields : List Field) : Nat := (fields.map fun f => 3 + f.value.length).sum

/-- The field loop of `ToBytes`, with `ptr` its write pointer. The value's
length is written as a `uint16`. -/
def writeFields (payload : List UInt8) (ptr : Nat) : List Field → List UInt8
  | [] => payload
  | field :: fields =>
    let payload := payload.set ptr field.id
    let payload := copyAt payload (ptr + 1) (putUint16 (field.value.length % 2 ^ 16))
    let payload := copyAt payload (ptr + 3) field.value
    writeFields payload (ptr + 3 + field.value.length) fields

/-- `ToBytes`: `[CommandID:1][Length:4][Fields...]`, each field
`[FieldID:1][FieldLength:2][FieldValue...]`. The length is written as a
`uint32`. -/
def Payload.toBytes (p : Payload) : List UInt8 :=
  let length := 5 + bodyLength p.fields
  let payload := (List.replicate length 0).set 0 p.id
  let payload := copyAt payload 1 (putUint32 ((length - 5) % 2 ^ 32))
  writeFields payload 5 p.fields

@[simp] theorem bodyLength_nil : bodyLength [] = 0 := rfl

@[simp] theorem bodyLength_cons (f : Field) (fields : List Field) :
    bodyLength (f :: fields) = 3 + f.value.length + bodyLength fields := by
  simp [bodyLength]

/-! ## Decoding -/

/-- **The field grammar**, read functionally on the unparsed rest
`data[i:]` of a body: while three bytes are left, a field header, a value
that must fit, and the field appended. Fewer than three bytes end it. The
loop of `unmarshalFieldsFromBytes` computes it (`unmarshalFieldsFrom_eq`). -/
def unmarshalFields (fields : List Field) : List UInt8 → Except Fault (List Field)
  | id :: b0 :: b1 :: rest =>
    let fieldLength := beNat [b0, b1]
    if rest.length < fieldLength then .error (.error "invalid field length")
    else unmarshalFields (fields ++ [⟨id, rest.take fieldLength⟩]) (rest.drop fieldLength)
  | _ => .ok fields
termination_by data => data.length

/-- The loop of `unmarshalFieldsFromBytes` from the index `i`: while
`i+3 <= len(data)`, the id `data[i]`, the length `data[i+1:i+3]`, the check
that the value fits, and the value `data[i+3:i+3+fieldLength]`. -/
def unmarshalFieldsFrom (data : Slice) (fields : List Field) (i : Nat) : Except Fault (List Field) :=
  if hi : i + 3 ≤ data.len then do
    let id ← data.index i
    let lengthBytes ← data.slice (i + 1) (i + 3)
    let fieldLength := beNat lengthBytes.view
    if hfit : i + 3 + fieldLength > data.len then .error (.error "invalid field length")
    else do
      let value ← data.slice (i + 3) (i + 3 + fieldLength)
      unmarshalFieldsFrom data (fields ++ [⟨id, value.view⟩]) (i + 3 + fieldLength)
  else .ok fields
termination_by data.len - i

/-- `unmarshalFieldsFromBytes`: the receiver's fields, then the body's. -/
def unmarshalFieldsFromBytes (p : Payload) (data : Slice) : Except Fault Payload :=
  (unmarshalFieldsFrom data p.fields 0).map fun fields => { p with fields := fields }

/-- `UnmarshalBinary`. Id `0` is the "no command" sentinel. The body is
`data[5:5+length]`, its bound summed in `uint32` and checked, as every
slice bound is, against the capacity of `data`. -/
def unmarshalBinary (p : Payload) (data : Slice) : Except Fault Payload :=
  if data.len = 0 then .error (.error "empty payload")
  else do
    let id ← data.index 0
    let p := { p with id := id }
    if p.id = 0 then .ok p
    else if data.len < 5 then .error (.error "invalid payload length")
    else do
      let header ← data.slice 1 5
      let length := beNat header.view
      let body ← data.slice 5 ((5 + length) % 2 ^ 32)
      unmarshalFieldsFromBytes p body

/-- `UnmarshalBinaryStream`: the id byte, then (unless it is `0`) the 4-byte
length, then exactly that many bytes into a fresh slice, parsed by the
field loop. -/
def unmarshalBinaryStream (p : Payload) (reader : Reader) : Except Fault Payload × Reader :=
  match readFull reader 1 with
  | (.error err, reader) => (.error err, reader)
  | (.ok readBuf, reader) =>
    let p := { p with id := readBuf.headD 0 }
    if p.id = 0 then (.ok p, reader)
    else
      match readFull reader 4 with
      | (.error err, reader) => (.error err, reader)
      | (.ok readBuf, reader) =>
        match readFull reader (beNat readBuf) with
        | (.error err, reader) => (.error err, reader)
        | (.ok data, reader) => (unmarshalFieldsFromBytes p (Slice.ofList data), reader)

theorem unmarshalFields_cons (fields : List Field) (id b0 b1 : UInt8) (rest : List UInt8) :
    unmarshalFields fields (id :: b0 :: b1 :: rest) =
      if rest.length < beNat [b0, b1] then .error (.error "invalid field length")
      else unmarshalFields (fields ++ [⟨id, rest.take (beNat [b0, b1])⟩])
        (rest.drop (beNat [b0, b1])) := by
  rw [unmarshalFields]

/-- Fewer than three bytes end the field loop, whatever they are. -/
theorem unmarshalFields_short (fields : List Field) {data : List UInt8} (h : data.length < 3) :
    unmarshalFields fields data = .ok fields := by
  match data, h with
  | [], _ | [_], _ | [_, _], _ => simp [unmarshalFields]

/-! ## Every slice of the field loop is checked -/

/-- One turn of the loop at a field header `id b0 b1`: its index and its
two slices are in range, and it reads what the header says. -/
theorem unmarshalFieldsFrom_header {data : Slice} (fields : List Field) {i : Nat} {id b0 b1 : UInt8}
    {rest : List UInt8} (h : data.view.drop i = id :: b0 :: b1 :: rest) :
    unmarshalFieldsFrom data fields i =
      if rest.length < beNat [b0, b1] then .error (.error "invalid field length")
      else unmarshalFieldsFrom data (fields ++ [⟨id, rest.take (beNat [b0, b1])⟩]) (i + 3 + beNat [b0, b1]) := by
  have hlen : rest.length + 3 + i = data.len := by
    have hl := congrArg List.length h
    simp only [List.length_drop, Slice.length_view, List.length_cons] at hl
    omega
  have hdrop : ∀ n, data.view.drop (i + n) = (id :: b0 :: b1 :: rest).drop n := fun n => by
    rw [← h, List.drop_drop]
  have hhdr : (data.backing.drop (i + 1)).take (i + 3 - (i + 1)) = [b0, b1] := by
    rw [Slice.take_drop_backing (by omega), hdrop, show i + 3 - (i + 1) = 2 by omega]; rfl
  rw [unmarshalFieldsFrom, dif_pos (by omega)]
  simp only [Slice.index, index_of_drop h, except_ok_bind,
    Slice.slice_of_le (show i + 3 ≤ data.cap by have := data.len_le; simp only [Slice.cap]; omega)
      (show i + 1 ≤ i + 3 by omega)]
  simp only [Slice.view, hhdr]
  by_cases hfit : rest.length < beNat [b0, b1]
  · rw [dif_pos (by omega), if_pos hfit]
  have hvalue : (data.backing.drop (i + 3)).take (i + 3 + beNat [b0, b1] - (i + 3)) = rest.take (beNat [b0, b1]) := by
    rw [Slice.take_drop_backing (by omega), hdrop, Nat.add_sub_cancel_left]; rfl
  rw [dif_neg (by omega), if_neg hfit, Slice.slice_of_le
    (show i + 3 + beNat [b0, b1] ≤ data.cap by have := data.len_le; simp only [Slice.cap]; omega) (by omega),
    except_ok_bind]
  simp only [hvalue]

/-- Where fewer than three bytes are left, the loop ends. -/
theorem unmarshalFieldsFrom_short {data : Slice} (fields : List Field) {i : Nat}
    (h : (data.view.drop i).length < 3) : unmarshalFieldsFrom data fields i = .ok fields := by
  simp only [List.length_drop, Slice.length_view] at h
  rw [unmarshalFieldsFrom, dif_neg (by omega)]

/-- **The field loop reads the field grammar off the bytes the slice
holds.** Each index and slice it takes is behind the check that covers it
(`unmarshalFieldsFrom_header`), so it never panics and never reads past the
length of `data`, whatever its capacity. -/
theorem unmarshalFieldsFrom_eq (data : Slice) (fields : List Field) (i : Nat) :
    unmarshalFieldsFrom data fields i = unmarshalFields fields (data.view.drop i) := by
  generalize hl : data.view.drop i = l
  induction fields, l using unmarshalFields.induct generalizing i with
  | case1 fields id b0 b1 rest _ hlt =>
    rw [unmarshalFieldsFrom_header fields hl, if_pos hlt, unmarshalFields_cons, if_pos hlt]
  | case2 fields id b0 b1 rest _ hge ih =>
    rw [unmarshalFieldsFrom_header fields hl, if_neg hge, unmarshalFields_cons, if_neg hge]
    exact ih _ (by rw [← List.drop_drop, ← List.drop_drop, hl]; rfl)
  | case3 fields l hshort =>
    have hlen : l.length < 3 := by
      match l, hshort with
      | [], _ | [_], _ | [_, _], _ => simp
      | _ :: _ :: _ :: _, h => exact absurd rfl (h _ _ _ _)
    rw [unmarshalFieldsFrom_short fields (hl ▸ hlen), unmarshalFields_short fields hlen]

theorem unmarshalFieldsFromBytes_eq (p : Payload) (data : Slice) :
    unmarshalFieldsFromBytes p data =
      (unmarshalFields p.fields data.view).map fun fields => { p with fields := fields } := by
  rw [unmarshalFieldsFromBytes, unmarshalFieldsFrom_eq, List.drop_zero]

/-- `UnmarshalBinary` on a command with a full header: the unchecked slice
`data[5:5+length]`, against the capacity, then the field loop. -/
theorem unmarshalBinary_of_ne_zero (p : Payload) {data : Slice} {id : UInt8} {rest : List UInt8}
    (hview : data.view = id :: rest) (hid : id ≠ 0) (hlen : 4 ≤ rest.length) :
    unmarshalBinary p data =
      (data.slice 5 ((5 + beNat (rest.take 4)) % 2 ^ 32) >>= unmarshalFieldsFromBytes { p with id := id }) := by
  have hdata : data.len = rest.length + 1 := by rw [← Slice.length_view, hview, List.length_cons]
  have hhdr : (data.backing.drop 1).take (5 - 1) = rest.take 4 := by
    rw [Slice.take_drop_backing (by omega), hview]; rfl
  rw [unmarshalBinary, if_neg (by omega)]
  simp only [Slice.index, index_of_drop (show data.view.drop 0 = id :: rest from hview), except_ok_bind, hid,
    if_false, if_neg (show ¬ data.len < 5 by omega),
    Slice.slice_of_le (show 5 ≤ data.cap from (show 5 ≤ data.len by omega).trans data.len_le) (by omega : 1 ≤ 5)]
  simp only [Slice.view, hhdr]

end Apns

end IMessageClient
