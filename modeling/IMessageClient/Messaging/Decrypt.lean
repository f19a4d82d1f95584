import IMessageClient.Common.Runtime
/-!
# Messaging — the decryption pipeline

`decrypt.go`'s four stages: `parseBody` splits the envelope
`[tag:1][bodyLen:2][body:bodyLen][sigLen:1][signature]`,
`decryptPairPayload` undoes the RSA-OAEP + AES-CTR "pair" scheme,
`maybeGUnzip` inflates a gzip stream, and `decryptMessage` runs the three
and decodes the property list.

The libraries the stages call are taken as given (`Primitives`): the AES-CTR
keystream of a key and IV, the gzip reader, and the plist decoder. A
private key is its OAEP decryption function.

`ParseBody` does its length arithmetic in `uint16`, the type of
`bodyLength`, so its sums wrap near `2^16`; at a declared body length of
`65533` or more the body slice has its bounds crossed and the runtime
panics (`parseBody_panics_of_wrap`). Below the wrap it is exactly the
envelope grammar with unbounded lengths (`parseBody_eq_envelope`).
-/

namespace IMessageClient

namespace Messaging

/-! ## `ParseBody` -/

/-- `ParsedBody`. -/
structure ParsedBody where
  tag : UInt8
  body : List UInt8
  signature : List UInt8
  deriving DecidableEq, Repr

/-- `ParseBody`. Every length sum is a `uint16` sum, reduced modulo `2^16`. -/
def parseBody (payload : List UInt8) : Except Fault ParsedBody := do
  if payload.length < 4 then
    throw (.error s!"too short payload (missing header, expected >4, got {payload.length})")
  let tag ← index payload 0
  let bodyLength := beNat ((payload.take 3).drop 1)
  let expectedLength := (3 + bodyLength + 1) % 2 ^ 16
  if payload.length < expectedLength then
    throw (.error
      s!"too short payload (missing body, expected >{expectedLength}, got {payload.length})")
  let body ← slice payload 3 ((3 + bodyLength) % 2 ^ 16)
  let signatureLength ← index payload ((3 + bodyLength) % 2 ^ 16)
  let expectedLength := (3 + bodyLength + 1 + signatureLength.toNat) % 2 ^ 16
  if payload.length < expectedLength then
    throw (.error
      s!"too short payload (missing signature, expected {expectedLength}, got {payload.length})")
  let signature ← slice payload ((3 + bodyLength + 1) % 2 ^ 16) payload.length
  return ⟨tag, body, signature⟩

/-- **A declared body length within three of `2^16` makes `ParseBody`
panic.** The check sum `3 + bodyLength + 1` wraps to `1 … 3`, below every
buffer it checks, and the body slice's high bound `3 + bodyLength` wraps
below its low bound `3`. -/
theorem parseBody_panics_of_wrap (payload : List UInt8) (hlen : 4 ≤ payload.length)
    (hL : 65533 ≤ beNat ((payload.take 3).drop 1)) :
    parseBody payload = .error (.panic
      s!"slice bounds out of range [3:{(3 + beNat ((payload.take 3).drop 1)) % 2 ^ 16}]") := by
  have hlt : beNat ((payload.take 3).drop 1) < 2 ^ 16 := by
    match payload, hlen with
    | _ :: b1 :: b2 :: _, _ => exact beNat_two_lt b1 b2
  have hs : slice payload 3 ((3 + beNat ((payload.take 3).drop 1)) % 2 ^ 16) = .error (.panic
      s!"slice bounds out of range [3:{(3 + beNat ((payload.take 3).drop 1)) % 2 ^ 16}]") := by
    rw [slice, if_pos (by omega), if_neg (by omega)]
    rfl
  simp only [parseBody, if_neg (show ¬ payload.length < 4 by omega), pure_bind,
    if_neg (show ¬ payload.length < (3 + beNat ((payload.take 3).drop 1) + 1) % 2 ^ 16 by omega),
    index_of_lt (show 0 < payload.length by omega), except_ok_bind, hs, except_error_bind]

/-- At the largest declared body length, on a four-byte buffer. -/
theorem parseBody_panics_at_ffff :
    parseBody [0, 0xFF, 0xFF, 0] = .error (.panic "slice bounds out of range [3:2]") :=
  parseBody_panics_of_wrap [0, 0xFF, 0xFF, 0] (by decide) (by decide)

/-- The envelope grammar `[tag:1][bodyLen:2][body:bodyLen][sigLen:1][signature]`
with unbounded lengths, as the spec reads it: the body is the `bodyLen`
bytes after the header, the signature everything after the length byte
that follows, and at least `sigLen` bytes must be there. -/
def envelope : List UInt8 → Option ParsedBody
  | tag :: l0 :: l1 :: rest =>
    match rest.drop (beNat [l0, l1]) with
    | sigLen :: signature =>
      if sigLen.toNat ≤ signature.length then some ⟨tag, rest.take (beNat [l0, l1]), signature⟩
      else none
    | [] => none
  | _ => none

theorem take_three_add (a b c : UInt8) (rest : List UInt8) (n : Nat) :
    (a :: b :: c :: rest).take (3 + n) = a :: b :: c :: rest.take n := by
  rw [Nat.add_comm]; rfl

theorem drop_three_add (a b c : UInt8) (rest : List UInt8) (n : Nat) :
    (a :: b :: c :: rest).drop (3 + n) = rest.drop n := by
  rw [Nat.add_comm]; rfl

/-- **Below the `uint16` wrap, `ParseBody` is the envelope grammar**: it
never panics, and it returns a body exactly when the grammar reads one, the
same one. -/
theorem parseBody_eq_envelope (payload : List UInt8)
    (hwrap : 4 + beNat ((payload.take 3).drop 1) +
      (payload.getD (3 + beNat ((payload.take 3).drop 1)) 0).toNat < 2 ^ 16) :
    (parseBody payload).toOption = envelope payload ∧ ∀ msg, parseBody payload ≠ .error (.panic msg) := by
  match payload, hwrap with
  | [], _ | [_], _ | [_, _], _ => exact ⟨rfl, fun _ h => by cases h⟩
  | [_, _, _], _ => exact ⟨by rw [envelope, List.drop_nil]; rfl, fun _ h => by cases h⟩
  | tag :: l0 :: l1 :: b :: rest, hwrap =>
    generalize hr : b :: rest = r at hwrap ⊢
    generalize hL : beNat [l0, l1] = L at hwrap
    have hlen : (tag :: l0 :: l1 :: r).length = 3 + r.length := by simp; omega
    have hr4 : ¬ 3 + r.length < 4 := by rw [← hr, List.length_cons]; omega
    simp only [List.take, List.drop, hL] at hwrap
    have hL16 : L < 2 ^ 16 := by omega
    have hmod : (3 + L + 1) % 2 ^ 16 = 3 + L + 1 := Nat.mod_eq_of_lt (by omega)
    simp only [parseBody, List.take, List.drop, hL, hlen, if_neg hr4, pure_bind, hmod,
      show index (tag :: l0 :: l1 :: r) 0 = .ok tag from rfl, except_ok_bind]
    by_cases hbody : r.length < L + 1
    · simp [if_pos (show 3 + r.length < 3 + L + 1 by omega), envelope, hL,
        List.drop_eq_nil_of_le (show r.length ≤ L by omega), Except.toOption]
    obtain ⟨sigLen, hsig⟩ : ∃ sigLen, r.drop L = sigLen :: r.drop (L + 1) :=
      ⟨_, List.drop_eq_getElem_cons (by omega)⟩
    have hdrop : (tag :: l0 :: l1 :: r).drop (3 + L) = sigLen :: r.drop (L + 1) := by
      rw [drop_three_add, hsig]
    have hS : (tag :: l0 :: l1 :: r).getD (3 + L) 0 = sigLen := by
      rw [List.getD_eq_getElem?_getD, ← List.head?_drop, hdrop]; rfl
    rw [hS] at hwrap
    have hmod3 : (3 + L) % 2 ^ 16 = 3 + L := Nat.mod_eq_of_lt (by omega)
    have hmodS : (3 + L + 1 + sigLen.toNat) % 2 ^ 16 = 3 + L + 1 + sigLen.toNat :=
      Nat.mod_eq_of_lt (by omega)
    have hbodySlice : slice (tag :: l0 :: l1 :: r) 3 (3 + L) = .ok (r.take L) := by
      rw [slice_of_le (by rw [hlen]; omega) (by omega), take_three_add]; rfl
    have hsigSlice : slice (tag :: l0 :: l1 :: r) (3 + L + 1) (3 + r.length) = .ok (r.drop (L + 1)) := by
      rw [slice_of_le (by omega) (by omega), ← hlen, List.take_length, Nat.add_assoc, drop_three_add]
    simp only [if_neg (show ¬ 3 + r.length < 3 + L + 1 by omega), hmod3, hbodySlice, except_ok_bind,
      index_of_drop hdrop, hmodS, hsigSlice, envelope, hL, hsig]
    by_cases hsigLen : 3 + r.length < 3 + L + 1 + sigLen.toNat
    · simp [hsigLen, Except.toOption, show ¬ sigLen.toNat ≤ r.length - (L + 1) by omega]
    · simp only [hsigLen, if_false, show sigLen.toNat ≤ (r.drop (L + 1)).length by simp; omega, if_true]
      exact ⟨rfl, fun _ h => nomatch h⟩

/-- A tag, a two-byte body, a signature length of one and its byte. -/
theorem parseBody_eq_envelope_small :
    4 + beNat (([7, 0, 2, 0xAA, 0xBB, 1, 0xCC].take 3).drop 1) +
        (([7, 0, 2, 0xAA, 0xBB, 1, 0xCC] : List UInt8).getD
          (3 + beNat (([7, 0, 2, 0xAA, 0xBB, 1, 0xCC].take 3).drop 1)) 0).toNat < 2 ^ 16 ∧
      (parseBody [7, 0, 2, 0xAA, 0xBB, 1, 0xCC]).toOption = envelope [7, 0, 2, 0xAA, 0xBB, 1, 0xCC] ∧
      ∀ msg, parseBody [7, 0, 2, 0xAA, 0xBB, 1, 0xCC] ≠ .error (.panic msg) :=
  ⟨by decide, parseBody_eq_envelope _ (by decide)⟩

/-! ## `DecryptPairPayload` -/

/-- `normalIV`: sixteen zero bytes. -/
def normalIV : List UInt8 := List.replicate 16 0

/-- `aes.NewCipher`: AES takes a 16-, 24- or 32-byte key. The block is kept
as its key. -/
def newCipher (key : List UInt8) : Except String (List UInt8) :=
  if key.length = 16 ∨ key.length = 24 ∨ key.length = 32 then .ok key
  else .error s!"crypto/aes: invalid key size {key.length}"

/-- `XORKeyStream`: each byte XORed with the keystream, from byte `i` of the
stream on. -/
def xorKeyStream (keystream : Nat → UInt8) (i : Nat) : List UInt8 → List UInt8
  | [] => []
  | b :: bs => (b ^^^ keystream i) :: xorKeyStream keystream (i + 1) bs

/-- `DecryptPairPayload`. `aesCTR key iv i` is byte `i` of the AES-CTR
keystream; `decryptOAEP` is the private key's RSA-OAEP(SHA-1) decryption.
The first 160 bytes carry the AES key and the start of the ciphertext. -/
def decryptPairPayload (aesCTR : List UInt8 → List UInt8 → Nat → UInt8)
    (decryptOAEP : List UInt8 → Except String (List UInt8)) (body : ParsedBody) :
    Except Fault (List UInt8) := do
  if body.body.length < 160 then
    throw (.error
      s!"too short payload (missing encryption key, expected >160, got {body.body.length})")
  let encryptedEncryptionKey ← slice body.body 0 160
  let actualEncryptedMessage ← slice body.body 160 body.body.length
  let decryptedEncryptionKey ← (decryptOAEP encryptedEncryptionKey).mapError
    fun err => .error s!"failed to decrypt encryption key: {err}"
  let key ← slice decryptedEncryptionKey 0 16
  let block ← (newCipher key).mapError fun err => .error s!"failed to create AES cipher: {err}"
  let decryptionInput :=
    (← slice decryptedEncryptionKey 16 decryptedEncryptionKey.length) ++ actualEncryptedMessage
  return xorKeyStream (aesCTR block normalIV) 0 decryptionInput

/-! ## `MaybeGUnzip` and `DecryptMessage` -/

/-- What `compress/gzip` makes of a stream: `gzip.NewReader` rejects the
header, `io.ReadAll` fails in the body, or the stream inflates. -/
inductive GzipResult where
  | headerError (err : String)
  | readError (err : String)
  | ok (data : List UInt8)

/-- `MaybeGUnzip`: data without the gzip magic `1f 8b` is returned as it is. -/
def maybeGUnzip (gunzip : List UInt8 → GzipResult) (data : List UInt8) :
    Except Fault (List UInt8) :=
  match data with
  | 0x1f :: 0x8b :: _ =>
    match gunzip data with
    | .headerError err => .error (.error s!"failed to create gzip reader: {err}")
    | .readError err => .error (.error s!"failed to decompress: {err}")
    | .ok decompressed => .ok decompressed
  | _ => .ok data

/-- `IMessagePayload`, the fields the session reads: `t`, `p`, `gid` and
`r` of the plist. -/
structure IMessagePayload where
  text : String
  participants : List String
  groupID : String
  messageUUID : String
  deriving DecidableEq, Repr

/-- The libraries the pipeline calls, taken as given. -/
structure Primitives where
  /-- Byte `i` of the AES-CTR keystream of a key from an IV. -/
  aesCTR : List UInt8 → List UInt8 → Nat → UInt8
  /-- `gzip.NewReader` then `io.ReadAll`. -/
  gunzip : List UInt8 → GzipResult
  /-- `plist.Unmarshal` into an `IMessagePayload`. -/
  plistUnmarshal : List UInt8 → Except String IMessagePayload

/-- `DecryptMessage`: the stages in order, the first failure wrapped with
its stage. -/
def decryptMessage (prim : Primitives) (privateKey : List UInt8 → Except String (List UInt8))
    (payload : List UInt8) : Except Fault IMessagePayload := do
  let parsed ← (parseBody payload).mapError (Fault.wrap "failed to parse body: ")
  let decrypted ← (decryptPairPayload prim.aesCTR privateKey parsed).mapError
    (Fault.wrap "failed to decrypt: ")
  let decompressed ← (maybeGUnzip prim.gunzip decrypted).mapError
    (Fault.wrap "failed to decompress: ")
  (prim.plistUnmarshal decompressed).mapError fun err => .error s!"failed to unmarshal plist: {err}"

end Messaging

end IMessageClient
