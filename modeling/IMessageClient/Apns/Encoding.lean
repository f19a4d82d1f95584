import IMessageClient.Apns.Binary
/-!
# APNS — what `ToBytes` writes, and what the decoders read back

`toBytes_eq` reads the write-pointer loop of `ToBytes` as a concatenation:
the id, the body length as a `uint32`, then `encodeField` of every field.
The loop invariant (`writeFields_after`) is that the bytes below the
pointer are final and those above it still zero.

From it, the decoders undo the encoder on every payload the format
carries (`Payload.Encodable`): the field loop (`unmarshalFields_encodeFields`),
the stream decoder with whatever follows the frame
(`unmarshalBinaryStream_toBytes`), and the slice decoder
(`unmarshalBinary_toBytes`), whose bound `5 + length` is a `uint32` sum.

`framed` is the layout the design describes, read off a frame's bytes.
`ToBytes` meets it exactly on payloads that fit (`framed_toBytes`): its
`uint16` and `uint32` length conversions drop the high bits of a longer
length. No decoder returns a value of `2^16` bytes or more
(`unmarshalBinaryStream_values_fit`), so such a payload is never read
back (`toBytes_framed_iff_fits`).
-/

namespace IMessageClient

namespace Apns

/-- One field on the wire: id, the value's length as a `uint16`, value. -/
def encodeField (f : Field) : List UInt8 :=
  f.id :: (putUint16 (f.value.length % 2 ^ 16) ++ f.value)

/-- The fields on the wire, in order. -/
def encodeFields (fields : List Field) : List UInt8 := (fields.map encodeField).flatten

@[simp] theorem encodeFields_nil : encodeFields [] = [] := rfl

@[simp] theorem encodeFields_cons (f : Field) (fields : List Field) :
    encodeFields (f :: fields) = encodeField f ++ encodeFields fields := rfl

@[simp] theorem length_encodeField (f : Field) : (encodeField f).length = 3 + f.value.length := by
  simp [encodeField]; omega

@[simp] theorem length_encodeFields (fields : List Field) :
    (encodeFields fields).length = bodyLength fields := by
  induction fields with
  | nil => rfl
  | cons f fields ih => simp [ih]

/-! ## The write pointer -/

/-- Setting the first unwritten byte. -/
theorem set_replicate_after {E : List UInt8} {i m n : Nat} (x : UInt8) (hi : i = E.length)
    (hm : m = n + 1) : (E ++ List.replicate m 0).set i x = E ++ [x] ++ List.replicate n 0 := by
  subst hi hm
  simp [List.set_append, List.replicate_succ]

/-- Copying at the first unwritten byte. -/
theorem copyAt_replicate_after {E src : List UInt8} {i m n : Nat} (hi : i = E.length)
    (hm : m = src.length + n) :
    copyAt (E ++ List.replicate m 0) i src = E ++ src ++ List.replicate n 0 := by
  subst hi hm
  rw [copyAt, List.take_left' rfl, List.drop_append, List.drop_replicate, Nat.add_sub_cancel_left]

/-- **The loop invariant of `ToBytes`.** With the bytes below the pointer
written and the body's worth of zeros above it, the field loop writes
exactly the encoded fields. -/
theorem writeFields_after (fields : List Field) :
    ∀ E : List UInt8,
      writeFields (E ++ List.replicate (bodyLength fields) 0) E.length fields =
        E ++ encodeFields fields := by
  induction fields with
  | nil => intro E; simp [writeFields]
  | cons f fields ih =>
    intro E
    have hstep : writeFields (E ++ List.replicate (bodyLength (f :: fields)) 0) E.length
        (f :: fields) = writeFields (E ++ encodeField f ++ List.replicate (bodyLength fields) 0)
          (E ++ encodeField f).length fields := by
      rw [writeFields, set_replicate_after (n := 2 + f.value.length + bodyLength fields) f.id rfl
          (by simp; omega),
        copyAt_replicate_after (n := f.value.length + bodyLength fields) (by simp) (by simp; omega),
        copyAt_replicate_after (n := bodyLength fields) (by simp) rfl]
      congr 1
      · simp [encodeField]
      · simp; omega
    rw [hstep, ih]
    simp

/-- **What `ToBytes` writes.** The id, the body length as a `uint32`, and
the encoded fields. -/
theorem toBytes_eq (p : Payload) :
    p.toBytes = p.id :: (putUint32 (bodyLength p.fields % 2 ^ 32) ++ encodeFields p.fields) := by
  have hset : (List.replicate (5 + bodyLength p.fields) (0 : UInt8)).set 0 p.id =
      [p.id] ++ List.replicate (4 + bodyLength p.fields) 0 :=
    set_replicate_after (E := []) p.id rfl (by omega)
  have hcopy : copyAt ([p.id] ++ List.replicate (4 + bodyLength p.fields) 0) 1
      (putUint32 (bodyLength p.fields % 2 ^ 32)) =
      [p.id] ++ putUint32 (bodyLength p.fields % 2 ^ 32) ++ List.replicate (bodyLength p.fields) 0 :=
    copyAt_replicate_after rfl (by simp)
  have h := writeFields_after p.fields ([p.id] ++ putUint32 (bodyLength p.fields % 2 ^ 32))
  simp only [Payload.toBytes, Nat.add_sub_cancel_left, hset, hcopy]
  simpa using h

@[simp] theorem length_toBytes (p : Payload) : p.toBytes.length = 5 + bodyLength p.fields := by
  simp [toBytes_eq]; omega

/-! ## Decoding what was encoded -/

/-- **A payload the wire format carries.** A command (id `0` is the
no-command sentinel), values that fit the 2-byte field length, and a body
that fits the 4-byte frame length. -/
structure Payload.Encodable (p : Payload) : Prop where
  id_ne_zero : p.id ≠ 0
  value_lt : ∀ f ∈ p.fields, f.value.length < 2 ^ 16
  bodyLength_lt : bodyLength p.fields < 2 ^ 32

/-- A frame on the wire: a payload the format carries. -/
structure Frame where
  payload : Payload
  encodable : payload.Encodable

/-- `io.ReadFull` of a prefix of the stream. -/
theorem readFull_prefix {a b : List UInt8} {n : Nat} (err : String) (h : a.length = n) :
    readFull ⟨a ++ b, err⟩ n = (.ok a, ⟨b, err⟩) := by
  subst h; exact readFull_append a b err

/-- One encoded field is one turn of the field loop. -/
theorem unmarshalFields_encodeField_append (acc : List Field) {f : Field}
    (hf : f.value.length < 2 ^ 16) (rest : List UInt8) :
    unmarshalFields acc (encodeField f ++ rest) = unmarshalFields (acc ++ [f]) rest := by
  have hlen : beNat [UInt8.ofNat (f.value.length % 2 ^ 16 / 256),
      UInt8.ofNat (f.value.length % 2 ^ 16)] = f.value.length := by
    rw [← putUint16, beNat_putUint16, Nat.mod_mod, Nat.mod_eq_of_lt hf]
  simp only [encodeField, putUint16, List.cons_append, List.nil_append, List.append_assoc]
  rw [unmarshalFields_cons, hlen, if_neg (by simp), List.take_left' rfl, List.drop_left' rfl]

/-- The field loop reads encoded fields back, after the receiver's. -/
theorem unmarshalFields_encodeFields (fields : List Field)
    (hv : ∀ f ∈ fields, f.value.length < 2 ^ 16) :
    ∀ acc : List Field, unmarshalFields acc (encodeFields fields) = .ok (acc ++ fields) := by
  induction fields with
  | nil => intro acc; simp [unmarshalFields_short]
  | cons f fields ih =>
    intro acc
    rw [encodeFields_cons, unmarshalFields_encodeField_append _ (hv f (List.mem_cons_self _ _)),
      ih (fun g hg => hv g (List.mem_cons_of_mem _ hg))]
    simp

/-- **The stream decoder undoes the encoder**, leaving what follows the
frame unread. -/
theorem unmarshalBinaryStream_toBytes {p : Payload} (hp : p.Encodable) (rest : List UInt8)
    (err : String) :
    unmarshalBinaryStream Payload.empty ⟨p.toBytes ++ rest, err⟩ = (.ok p, ⟨rest, err⟩) := by
  have hB : bodyLength p.fields % 2 ^ 32 = bodyLength p.fields := Nat.mod_eq_of_lt hp.bodyLength_lt
  rw [toBytes_eq, hB]
  simp only [unmarshalBinaryStream, List.cons_append, List.append_assoc, readFull_cons_one,
    List.headD_cons, Payload.empty, hp.id_ne_zero, if_false,
    readFull_prefix err (length_putUint32 _), beNat_putUint32, hB,
    readFull_prefix err (length_encodeFields p.fields), unmarshalFieldsFromBytes_eq, Slice.view_ofList,
    unmarshalFields_encodeFields _ hp.value_lt, List.nil_append]
  rfl

/-- **The slice decoder undoes the encoder** on the fresh slice `ToBytes`
returns, when the frame is shorter than `2^32` bytes and `5 + length` does
not wrap. -/
theorem unmarshalBinary_toBytes {p : Payload} (hp : p.Encodable)
    (h5 : 5 + bodyLength p.fields < 2 ^ 32) :
    unmarshalBinary Payload.empty (Slice.ofList p.toBytes) = .ok p := by
  have hB : bodyLength p.fields % 2 ^ 32 = bodyLength p.fields := Nat.mod_eq_of_lt hp.bodyLength_lt
  have hlen := length_toBytes p
  rw [toBytes_eq, hB] at hlen ⊢
  have hview : (Slice.ofList (p.id :: (putUint32 (bodyLength p.fields) ++ encodeFields p.fields))).view =
      p.id :: (putUint32 (bodyLength p.fields) ++ encodeFields p.fields) := Slice.view_ofList _
  rw [unmarshalBinary_of_ne_zero _ hview hp.id_ne_zero (by simp), List.take_left' (length_putUint32 _),
    beNat_putUint32, hB, Nat.mod_eq_of_lt h5,
    Slice.slice_of_le (by simp only [Slice.cap_ofList]; omega) (by omega), except_ok_bind,
    unmarshalFieldsFromBytes_eq]
  simp only [Slice.view, Slice.ofList, Payload.empty, List.drop_succ_cons, List.drop_zero,
    List.drop_left' (length_putUint32 _), Nat.add_sub_cancel_left, ← length_encodeFields, List.take_length]
  change Except.map _ (unmarshalFields [] (encodeFields p.fields)) = _
  rw [unmarshalFields_encodeFields _ hp.value_lt]
  rfl

/-! ## The framing law -/

/-- **The field layout the design describes**, read off a body: each field
as its id, two bytes holding its value's length big-endian, and the value,
with nothing after the last. -/
def fieldsFramed : List Field → List UInt8 → Bool
  | [], body => body.isEmpty
  | f :: fields, id :: b0 :: b1 :: rest =>
    id == f.id && beNat [b0, b1] == f.value.length && rest.take f.value.length == f.value &&
      fieldsFramed fields (rest.drop f.value.length)
  | _ :: _, _ => false

/-- **The frame layout the design describes**: the command id, four bytes
holding big-endian the number of bytes after them, then the fields. -/
def framed (p : Payload) : List UInt8 → Bool
  | id :: h0 :: h1 :: h2 :: h3 :: body =>
    id == p.id && beNat [h0, h1, h2, h3] == body.length && fieldsFramed p.fields body
  | _ => false

/-- The encoded fields are laid out as the design says exactly when every
value's length fits the 2-byte length. -/
theorem fieldsFramed_encodeFields (fields : List Field) :
    fieldsFramed fields (encodeFields fields) = true ↔ ∀ f ∈ fields, f.value.length < 2 ^ 16 := by
  induction fields with
  | nil => simp [fieldsFramed]
  | cons f fields ih =>
    have hlen : beNat [UInt8.ofNat (f.value.length % 2 ^ 16 / 256), UInt8.ofNat (f.value.length % 2 ^ 16)] =
        f.value.length % 2 ^ 16 := by
      rw [← putUint16, beNat_putUint16, Nat.mod_mod]
    have hbytes : encodeFields (f :: fields) =
        f.id :: UInt8.ofNat (f.value.length % 2 ^ 16 / 256) :: UInt8.ofNat (f.value.length % 2 ^ 16) ::
          (f.value ++ encodeFields fields) := rfl
    rw [hbytes, fieldsFramed, hlen, List.take_left' rfl, List.drop_left' rfl]
    simp [ih, Nat.mod_eq_iff_lt]

/-- **What `ToBytes` writes is laid out as the design says exactly when
it fits**: every value shorter than `2^16` bytes and the body shorter than
`2^32`. `ToBytes` writes `uint16(len(value))` and `uint32(length-5)`,
which drop the high bits of a longer one. -/
theorem framed_toBytes (p : Payload) :
    framed p p.toBytes = true ↔ (∀ f ∈ p.fields, f.value.length < 2 ^ 16) ∧ bodyLength p.fields < 2 ^ 32 := by
  have hhdr : ∀ v, beNat (putUint32 (v % 2 ^ 32)) = v % 2 ^ 32 := fun v => by
    rw [beNat_putUint32, Nat.mod_mod]
  rw [toBytes_eq]
  simp only [putUint32, List.cons_append, List.nil_append, framed] at hhdr ⊢
  simp only [hhdr, beq_self_eq_true, Bool.true_and, Bool.and_eq_true, beq_iff_eq, length_encodeFields,
    Nat.mod_eq_iff_lt (by decide : 2 ^ 32 ≠ 0), fieldsFramed_encodeFields]
  exact and_comm

/-! ## What the decoders can return -/

/-- Every value the field loop reads fits the 2-byte length it was read
under. -/
theorem unmarshalFields_values_fit {acc : List Field} {data : List UInt8} {fields : List Field}
    (h : unmarshalFields acc data = .ok fields) (hacc : ∀ f ∈ acc, f.value.length < 2 ^ 16) :
    ∀ f ∈ fields, f.value.length < 2 ^ 16 := by
  induction acc, data using unmarshalFields.induct with
  | case1 acc id b0 b1 rest _ hlt => rw [unmarshalFields_cons, if_pos hlt] at h; cases h
  | case2 acc id b0 b1 rest _ hge ih =>
    rw [unmarshalFields_cons, if_neg hge] at h
    refine ih h fun f hf => ?_
    rcases List.mem_append.1 hf with hf | hf
    · exact hacc f hf
    · rw [List.mem_singleton.1 hf, List.length_take]
      exact (min_le_left _ _).trans_lt (beNat_two_lt b0 b1)
  | case3 acc data hshort =>
    have hlen : data.length < 3 := by
      match data, hshort with
      | [], _ | [_], _ | [_, _], _ => simp
      | _ :: _ :: _ :: _, h => exact absurd rfl (h _ _ _ _)
    rw [unmarshalFields_short acc hlen] at h
    cases h
    exact hacc

theorem unmarshalFieldsFromBytes_values_fit {p q : Payload} {data : Slice}
    (h : unmarshalFieldsFromBytes p data = .ok q) (hp : ∀ f ∈ p.fields, f.value.length < 2 ^ 16) :
    ∀ f ∈ q.fields, f.value.length < 2 ^ 16 := by
  rw [unmarshalFieldsFromBytes_eq] at h
  cases hf : unmarshalFields p.fields data.view with
  | error e => simp [hf, Except.map] at h
  | ok fields =>
    simp only [hf, Except.map, Except.ok.injEq] at h
    subst h
    exact unmarshalFields_values_fit hf hp

/-- **The stream decoder returns only values under `2^16` bytes**, from
any bytes. -/
theorem unmarshalBinaryStream_values_fit {r : Reader} {q : Payload}
    (h : (unmarshalBinaryStream Payload.empty r).1 = .ok q) : ∀ f ∈ q.fields, f.value.length < 2 ^ 16 := by
  unfold unmarshalBinaryStream at h
  split at h
  · cases h
  dsimp only at h
  split at h
  · cases h; simp [Payload.empty]
  split at h
  · cases h
  split at h
  · cases h
  · exact unmarshalFieldsFromBytes_values_fit h (by simp [Payload.empty])

/-- **So does the slice decoder.** -/
theorem unmarshalBinary_values_fit {data : Slice} {q : Payload}
    (h : unmarshalBinary Payload.empty data = .ok q) : ∀ f ∈ q.fields, f.value.length < 2 ^ 16 := by
  unfold unmarshalBinary at h
  simp only [bind, Except.bind] at h
  repeat' split at h
  all_goals first
    | cases h; done
    | (cases h; simp [Payload.empty])
    | exact unmarshalFieldsFromBytes_values_fit h (by simp [Payload.empty])

/-- **The framing law holds exactly for payloads that fit, and a payload
that does not is never read back.** `ToBytes p` is laid out as the design
says iff every value is shorter than `2^16` bytes and the body shorter
than `2^32`; a payload with a longer value is returned by neither decoder,
from any bytes, so the frame `ToBytes` writes for it is misread. -/
theorem toBytes_framed_iff_fits (p : Payload) :
    (framed p p.toBytes = true ↔ (∀ f ∈ p.fields, f.value.length < 2 ^ 16) ∧ bodyLength p.fields < 2 ^ 32) ∧
      ((∃ f ∈ p.fields, 2 ^ 16 ≤ f.value.length) →
        (∀ r, (unmarshalBinaryStream Payload.empty r).1 ≠ .ok p) ∧
          ∀ data, unmarshalBinary Payload.empty data ≠ .ok p) := by
  refine ⟨framed_toBytes p, fun ⟨f, hf, hlong⟩ => ⟨fun r h => ?_, fun data h => ?_⟩⟩
  · exact absurd (unmarshalBinaryStream_values_fit h f hf) (not_lt.2 hlong)
  · exact absurd (unmarshalBinary_values_fit h f hf) (not_lt.2 hlong)

/-- A connect command with one field of `2^16` zero bytes, whose length
`ToBytes` writes as `00 00`. -/
def longValuePayload : Payload := ⟨commandConnect, [⟨1, List.replicate 65536 0⟩]⟩

theorem toBytes_framed_iff_fits_longValue :
    framed longValuePayload longValuePayload.toBytes = false ∧
      ∀ r, (unmarshalBinaryStream Payload.empty r).1 ≠ .ok longValuePayload := by
  have h := toBytes_framed_iff_fits longValuePayload
  have hmem : (⟨1, List.replicate 65536 0⟩ : Field) ∈ longValuePayload.fields := List.mem_singleton_self _
  have hlong : ¬ (List.replicate 65536 (0 : UInt8)).length < 2 ^ 16 := by
    rw [List.length_replicate]; exact lt_irrefl _
  refine ⟨?_, (h.2 ⟨_, hmem, not_lt.1 hlong⟩).1⟩
  cases hb : framed longValuePayload longValuePayload.toBytes
  · rfl
  · exact absurd ((h.1.1 hb).1 _ hmem) hlong

end Apns

end IMessageClient
