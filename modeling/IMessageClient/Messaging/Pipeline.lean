import IMessageClient.Messaging.PairEncryption
/-!
# Messaging — the pipeline, end to end

`ParseBody` reads a two-byte declared body length `L` and does its sums
in `uint16`. Its behaviour falls into three ranges of `L`:
* up to `65531` no sum wraps but the signature check's, and `ParseBody`
  reads the body and the signature (`parseBody_of_le`);
* at `65532` the check sum `3 + L + 1` wraps to `0`: a payload shorter than
  `2^16` bytes panics, a longer one returns the whole payload, header
  included, as the signature (`parseBody_signature_at_65532`);
* from `65533` on the body slice has its bounds crossed and `ParseBody`
  panics.

The signature check `3 + L + 1 + sigLen` wraps as well: once it reaches
`2^16` it is always passed, and a signature shorter than its length byte
is accepted (`parseBody_skips_signature_check`).

A sender's envelope (`sealEnvelope`, from the spec's layout) round-trips
through `ParseBody`, and with the pair scheme's sender through all of
`DecryptMessage` (`decryptMessage_pairEncrypt`): what reaches the gzip and
plist stages is the plaintext. `DecryptMessage` panics exactly where
`ParseBody` or `DecryptPairPayload` does; the gzip and plist stages never
panic (`decryptMessage_panics_iff`).
-/

namespace IMessageClient

namespace Messaging

/-! ## `ParseBody` by the declared length -/

section ThreeBytes

variable {tag l0 l1 : UInt8} {r : List UInt8}

theorem length_three_cons : (tag :: l0 :: l1 :: r).length = 3 + r.length := by
  simp only [List.length_cons]; omega

theorem declaredLength_eq : beNat ((List.take 3 (tag :: l0 :: l1 :: r)).drop 1) = beNat [l0, l1] := rfl

/-- The signature-length byte, when the body is there. -/
theorem drop_body_cons (hr : beNat [l0, l1] < r.length) :
    (tag :: l0 :: l1 :: r).drop (3 + beNat [l0, l1]) = r.getD (beNat [l0, l1]) 0 :: r.drop (beNat [l0, l1] + 1) := by
  rw [drop_three_add, List.drop_eq_getElem_cons hr, List.getD_eq_getElem?_getD, List.getElem?_eq_getElem hr,
    Option.getD_some]

/-- **`ParseBody` below the wrap of its body sum**, with the body and the
signature-length byte present: the (wrapping) signature check, then the
body, and everything after the length byte as the signature. -/
theorem parseBody_of_le (hL : beNat [l0, l1] ≤ 65531) (hr : beNat [l0, l1] < r.length) :
    parseBody (tag :: l0 :: l1 :: r) =
      if 3 + r.length < (3 + beNat [l0, l1] + 1 + (r.getD (beNat [l0, l1]) 0).toNat) % 2 ^ 16 then
        .error (.error s!"too short payload (missing signature, expected {
          (3 + beNat [l0, l1] + 1 + (r.getD (beNat [l0, l1]) 0).toNat) % 2 ^ 16}, got {3 + r.length})")
      else .ok ⟨tag, r.take (beNat [l0, l1]), r.drop (beNat [l0, l1] + 1)⟩ := by
  have hbody : slice (tag :: l0 :: l1 :: r) 3 (3 + beNat [l0, l1]) = .ok (r.take (beNat [l0, l1])) := by
    rw [slice_of_le (by rw [length_three_cons]; omega) (by omega), take_three_add]; rfl
  have hsigSlice : slice (tag :: l0 :: l1 :: r) (3 + beNat [l0, l1] + 1) (3 + r.length) =
      .ok (r.drop (beNat [l0, l1] + 1)) := by
    rw [← length_three_cons, slice_of_le le_rfl (by rw [length_three_cons]; omega), List.take_length,
      Nat.add_assoc, drop_three_add]
  simp only [parseBody, declaredLength_eq, length_three_cons, if_neg (show ¬ 3 + r.length < 4 by omega),
    pure_bind, show index (tag :: l0 :: l1 :: r) 0 = .ok tag from rfl, except_ok_bind,
    Nat.mod_eq_of_lt (show 3 + beNat [l0, l1] + 1 < 2 ^ 16 by omega),
    Nat.mod_eq_of_lt (show 3 + beNat [l0, l1] < 2 ^ 16 by omega),
    if_neg (show ¬ 3 + r.length < 3 + beNat [l0, l1] + 1 by omega), hbody, index_of_drop (drop_body_cons hr),
    hsigSlice]
  split <;> rfl

/-- **Below the wrap of its body sum `ParseBody` never panics**: each
slice is behind the check that covers it. -/
theorem parseBody_ne_panic_of_le (hL : beNat [l0, l1] ≤ 65531) (msg : String) :
    parseBody (tag :: l0 :: l1 :: r) ≠ .error (.panic msg) := by
  by_cases hr : beNat [l0, l1] < r.length
  · rw [parseBody_of_le hL hr]
    split <;> exact nofun
  · by_cases h4 : 3 + r.length < 4
    · simp only [parseBody, length_three_cons, if_pos h4]
      exact nofun
    simp only [parseBody, declaredLength_eq, length_three_cons, if_neg h4, pure_bind,
      show index (tag :: l0 :: l1 :: r) 0 = .ok tag from rfl, except_ok_bind,
      Nat.mod_eq_of_lt (show 3 + beNat [l0, l1] + 1 < 2 ^ 16 by omega),
      if_pos (show 3 + r.length < 3 + beNat [l0, l1] + 1 by omega)]
    exact nofun

/-- **At a declared body length of `65532`** the check sum `3 + L + 1`
wraps to `0`. On fewer than `2^16` bytes the body slice or the index of
the length byte is out of range; on more, the signature slice starts at
the wrapped `0`, and the signature is the whole payload. -/
theorem parseBody_at_65532 (hL : beNat [l0, l1] = 65532) :
    (r ≠ [] → 3 + r.length < 2 ^ 16 → ∃ msg, parseBody (tag :: l0 :: l1 :: r) = .error (.panic msg)) ∧
      (2 ^ 16 ≤ 3 + r.length →
        parseBody (tag :: l0 :: l1 :: r) = .ok ⟨tag, r.take 65532, tag :: l0 :: l1 :: r⟩) := by
  have hhead (h4 : ¬ 3 + r.length < 4) : parseBody (tag :: l0 :: l1 :: r) =
      (do
        let body ← slice (tag :: l0 :: l1 :: r) 3 65535
        let signatureLength ← index (tag :: l0 :: l1 :: r) 65535
        if 3 + r.length < signatureLength.toNat % 2 ^ 16 then
          throw (.error s!"too short payload (missing signature, expected {
            signatureLength.toNat % 2 ^ 16}, got {3 + r.length})")
        let signature ← slice (tag :: l0 :: l1 :: r) 0 (3 + r.length)
        return ⟨tag, body, signature⟩) := by
    simp only [parseBody, declaredLength_eq, hL, length_three_cons, if_neg h4, pure_bind,
      show index (tag :: l0 :: l1 :: r) 0 = .ok tag from rfl, except_ok_bind, Nat.reduceAdd, Nat.reducePow,
      Nat.reduceMod, Nat.add_mod_left]
    rw [if_neg (Nat.not_lt_zero _)]
  constructor
  · intro hr hlen
    rw [hhead (by cases r; exacts [absurd rfl hr, by simp; omega])]
    by_cases hs : 65535 ≤ 3 + r.length
    · obtain ⟨msg, hidx⟩ : ∃ msg, index (tag :: l0 :: l1 :: r) 65535 = .error (.panic msg) := by
        rw [index, dif_neg (by rw [length_three_cons]; omega)]
        exact ⟨_, rfl⟩
      rw [slice_of_le (by rw [length_three_cons]; omega) (by omega)]
      exact ⟨msg, by simp only [except_ok_bind, hidx, except_error_bind]⟩
    · obtain ⟨msg, hmsg⟩ : ∃ msg, slice (tag :: l0 :: l1 :: r) 3 65535 = .error (.panic msg) :=
        slice_isPanic.2 (by rw [length_three_cons]; omega)
      exact ⟨msg, by simp only [hmsg, except_error_bind]⟩
  · intro hlen
    have hsig (x : UInt8) : ¬ 3 + r.length < x.toNat % 2 ^ 16 := by
      have : x.toNat < 256 := UInt8.toNat_lt_size x
      omega
    rw [hhead (by omega), slice_of_le (by rw [length_three_cons]; omega) (by omega), except_ok_bind,
      index_of_lt (by rw [length_three_cons]; omega), except_ok_bind, if_neg (hsig _),
      ← length_three_cons, slice_of_le le_rfl (Nat.zero_le _), List.take_length, List.drop_zero,
      show 65535 = 3 + 65532 from rfl, take_three_add]
    rfl

/-- **From a declared body length of `65533` on, `ParseBody` panics**: the
body slice's high bound `3 + L` wraps below its low bound `3`. -/
theorem parseBody_isPanic_of_wrap (hL : 65533 ≤ beNat [l0, l1]) (hr : r ≠ []) :
    ∃ msg, parseBody (tag :: l0 :: l1 :: r) = .error (.panic msg) := by
  have hlt := beNat_two_lt l0 l1
  have hlen : 1 ≤ r.length := List.length_pos.2 hr
  obtain ⟨msg, hmsg⟩ : ∃ msg,
      slice (tag :: l0 :: l1 :: r) 3 ((3 + beNat [l0, l1]) % 2 ^ 16) = .error (.panic msg) :=
    slice_isPanic.2 (by omega)
  exact ⟨msg, by
    simp only [parseBody, declaredLength_eq, length_three_cons, if_neg (show ¬ 3 + r.length < 4 by omega),
      pure_bind, show index (tag :: l0 :: l1 :: r) 0 = .ok tag from rfl, except_ok_bind,
      if_neg (show ¬ 3 + r.length < (3 + beNat [l0, l1] + 1) % 2 ^ 16 by omega), hmsg, except_error_bind]⟩

end ThreeBytes

/-- **Where `ParseBody` panics**: on a payload of at least four bytes whose
declared body length is `65533` or more, or `65532` on fewer than `2^16`
bytes. -/
theorem parseBody_isPanic (payload : List UInt8) :
    (∃ msg, parseBody payload = .error (.panic msg)) ↔
      4 ≤ payload.length ∧ (65533 ≤ beNat ((payload.take 3).drop 1) ∨
        (beNat ((payload.take 3).drop 1) = 65532 ∧ payload.length < 2 ^ 16)) := by
  match payload with
  | [] | [_] | [_, _] | [_, _, _] => simp [parseBody]
  | tag :: l0 :: l1 :: b :: r =>
    rw [declaredLength_eq, length_three_cons]
    have hr : b :: r ≠ [] := List.cons_ne_nil _ _
    have hlt := beNat_two_lt l0 l1
    rcases Nat.lt_or_ge (beNat [l0, l1]) 65532 with hL | hL
    · simp only [show ¬ 65533 ≤ beNat [l0, l1] by omega, show beNat [l0, l1] ≠ 65532 by omega, false_and,
        or_self, and_false, iff_false, not_exists]
      exact parseBody_ne_panic_of_le (by omega)
    rcases Nat.eq_or_lt_of_le hL with hL | hL
    · have h := @parseBody_at_65532 tag l0 l1 (b :: r) hL.symm
      by_cases hlen : 3 + (b :: r).length < 2 ^ 16
      · exact iff_of_true (h.1 hr hlen) ⟨by simp only [List.length_cons]; omega, .inr ⟨hL.symm, hlen⟩⟩
      · rw [h.2 (by omega)]
        exact iff_of_false (by rintro ⟨_, ⟨⟩⟩) (by omega)
    · simp only [@parseBody_isPanic_of_wrap tag l0 l1 (b :: r) (by omega) hr, true_iff]
      exact ⟨by simp; omega, .inl (by omega)⟩

/-! ## The signature check -/

/-- **Once `3 + L + 1 + sigLen` reaches `2^16` the signature check is
passed, whatever is left**: below the body sum's wrap, a payload with its
body and its length byte returns everything after the length byte as the
signature, however much shorter than the length byte says. -/
theorem parseBody_skips_signature_check (tag l0 l1 : UInt8) (r : List UInt8) (hL : beNat [l0, l1] ≤ 65531)
    (hr : beNat [l0, l1] < r.length)
    (hwrap : 2 ^ 16 ≤ 4 + beNat [l0, l1] + (r.getD (beNat [l0, l1]) 0).toNat) :
    parseBody (tag :: l0 :: l1 :: r) = .ok ⟨tag, r.take (beNat [l0, l1]), r.drop (beNat [l0, l1] + 1)⟩ := by
  have hS : (r.getD (beNat [l0, l1]) 0).toNat < 256 := UInt8.toNat_lt_size _
  rw [parseBody_of_le hL hr, if_neg (by omega)]

/-- A body of `65531` bytes and a signature length of `255`, with no
signature byte after it. -/
theorem parseBody_skips_signature_check_empty :
    beNat [0xFF, 0xFB] ≤ 65531 ∧ beNat [0xFF, 0xFB] < (List.replicate 65532 (0xFF : UInt8)).length ∧
      2 ^ 16 ≤ 4 + beNat [0xFF, 0xFB] + ((List.replicate 65532 (0xFF : UInt8)).getD (beNat [0xFF, 0xFB]) 0).toNat ∧
      parseBody (7 :: 0xFF :: 0xFB :: List.replicate 65532 0xFF) =
        .ok ⟨7, (List.replicate 65532 0xFF).take (beNat [0xFF, 0xFB]),
          (List.replicate 65532 0xFF).drop (beNat [0xFF, 0xFB] + 1)⟩ :=
  have hL : beNat [0xFF, 0xFB] = 65531 := by decide
  have hr : beNat [0xFF, 0xFB] < (List.replicate 65532 (0xFF : UInt8)).length := by
    rw [List.length_replicate, hL]; decide
  have hwrap : 2 ^ 16 ≤ 4 + beNat [0xFF, 0xFB] +
      ((List.replicate 65532 (0xFF : UInt8)).getD (beNat [0xFF, 0xFB]) 0).toNat := by
    rw [List.getD_eq_getElem?_getD, List.getElem?_replicate, hL, if_pos (by decide)]; decide
  ⟨by rw [hL], hr, hwrap, parseBody_skips_signature_check 7 0xFF 0xFB _ (by rw [hL]) hr hwrap⟩

/-- **At a declared body length of `65532`, on `2^16` bytes or more,
`ParseBody` returns the whole payload as the signature**, header and body
included, whatever its length byte says. -/
theorem parseBody_signature_at_65532 (tag l0 l1 : UInt8) (r : List UInt8) (hL : beNat [l0, l1] = 65532)
    (hlen : 2 ^ 16 ≤ 3 + r.length) :
    parseBody (tag :: l0 :: l1 :: r) = .ok ⟨tag, r.take 65532, tag :: l0 :: l1 :: r⟩ :=
  (parseBody_at_65532 hL).2 hlen

/-- A header `FF FC` and `2^16 - 3` zero bytes. -/
theorem parseBody_signature_at_65532_zeros :
    beNat [0xFF, 0xFC] = 65532 ∧ 2 ^ 16 ≤ 3 + (List.replicate 65533 (0 : UInt8)).length ∧
      parseBody (7 :: 0xFF :: 0xFC :: List.replicate 65533 0) =
        .ok ⟨7, (List.replicate 65533 0).take 65532, 7 :: 0xFF :: 0xFC :: List.replicate 65533 0⟩ :=
  have hlen : 2 ^ 16 ≤ 3 + (List.replicate 65533 (0 : UInt8)).length := by
    rw [List.length_replicate]; decide
  ⟨by decide, hlen, parseBody_signature_at_65532 7 0xFF 0xFC _ (by decide) hlen⟩

/-! ## A sender's envelope -/

/-- The envelope a sender seals, from the spec's layout
`[tag:1][bodyLen:2][body][sigLen:1][signature]`. -/
def sealEnvelope (tag : UInt8) (body signature : List UInt8) : List UInt8 :=
  tag :: putUint16 body.length ++ body ++ UInt8.ofNat signature.length :: signature

/-- **`ParseBody` opens every sealed envelope** whose body leaves room for
the header below `2^16` and whose signature length fits its byte. -/
theorem parseBody_sealEnvelope (tag : UInt8) (body signature : List UInt8)
    (hbody : body.length + 4 < 2 ^ 16) (hsig : signature.length < 256) :
    parseBody (sealEnvelope tag body signature) = .ok ⟨tag, body, signature⟩ := by
  obtain ⟨l0, l1, hput⟩ : ∃ l0 l1, putUint16 body.length = [l0, l1] := ⟨_, _, rfl⟩
  have hL : beNat [l0, l1] = body.length := by
    rw [← hput, beNat_putUint16, Nat.mod_eq_of_lt (by omega)]
  have hS : (UInt8.ofNat signature.length).toNat = signature.length := by
    rw [toNat_uint8_ofNat, Nat.mod_eq_of_lt hsig]
  have hget : (body ++ UInt8.ofNat signature.length :: signature).getD body.length 0 =
      UInt8.ofNat signature.length := by
    rw [List.getD_eq_getElem?_getD, List.getElem?_append_right le_rfl, Nat.sub_self, List.getElem?_cons_zero,
      Option.getD_some]
  have hrest : (body ++ UInt8.ofNat signature.length :: signature).drop (body.length + 1) = signature := by
    rw [← List.singleton_append, ← List.append_assoc, List.drop_left' (by simp)]
  have hseal : sealEnvelope tag body signature = tag :: l0 :: l1 :: (body ++ UInt8.ofNat signature.length :: signature) := by
    simp only [sealEnvelope, hput, List.cons_append, List.nil_append, List.append_assoc]
  rw [hseal, parseBody_of_le (by omega) (by simp [hL]), hL, hget, hS, if_neg (by simp; omega), List.take_left, hrest]

/-! ## `DecryptMessage` -/

/-- The pair scheme's body is its 160-byte OAEP block and the ciphertext
after the first `min 100 |m|` bytes. -/
theorem length_pairEncrypt (aesCTR : List UInt8 → List UInt8 → Nat → UInt8) (kp : OaepKeyPair) (k : AesKey)
    (m : List UInt8) : (pairEncrypt aesCTR kp k m).length = 160 + (m.length - min 100 m.length) := by
  rw [pairEncrypt, List.length_append, kp.length_encrypt _ (by simp [k.length_bytes]; omega)]
  simp

theorem maybeGUnzip_ne_panic (gunzip : List UInt8 → GzipResult) (data : List UInt8) (msg : String) :
    maybeGUnzip gunzip data ≠ .error (.panic msg) := by
  unfold maybeGUnzip
  split
  · split <;> exact nofun
  · exact nofun

/-- **A message sealed by the pair scheme's sender decrypts to its
plaintext**: `DecryptMessage` on the envelope of `pairEncrypt m` is the gzip
and plist stages on `m`, for every key pair, AES key, tag and signature,
whenever the envelope's lengths fit its header. -/
theorem decryptMessage_pairEncrypt (prim : Primitives) (kp : OaepKeyPair) (k : AesKey) (m : List UInt8)
    (tag : UInt8) (signature : List UInt8) (hm : m.length + 64 < 2 ^ 16) (hsig : signature.length < 256) :
    decryptMessage prim kp.decrypt (sealEnvelope tag (pairEncrypt prim.aesCTR kp k m) signature) =
      (do
        let decompressed ← (maybeGUnzip prim.gunzip m).mapError (Fault.wrap "failed to decompress: ")
        (prim.plistUnmarshal decompressed).mapError fun err => .error s!"failed to unmarshal plist: {err}") := by
  have hbody : (pairEncrypt prim.aesCTR kp k m).length + 4 < 2 ^ 16 := by
    rw [length_pairEncrypt]; omega
  simp only [decryptMessage, parseBody_sealEnvelope tag _ signature hbody hsig,
    decryptPairPayload_of_pairEncrypt prim.aesCTR kp k m tag signature, except_mapError_ok, except_ok_bind]

/-- Libraries for running the pipeline: a zero keystream, no gzip, and a
plist decoder that prints the bytes into the text. -/
def Primitives.printing : Primitives := ⟨fun _ _ _ => 0, .ok, fun d => .ok ⟨toString d, [], "", ""⟩⟩

/-- A three-byte plaintext under the length-prefixed key pair. -/
theorem decryptMessage_pairEncrypt_small :
    ([1, 2, 3] : List UInt8).length + 64 < 2 ^ 16 ∧ ([] : List UInt8).length < 256 ∧
      decryptMessage Primitives.printing OaepKeyPair.lengthPrefixed.decrypt
          (sealEnvelope 0 (pairEncrypt Primitives.printing.aesCTR OaepKeyPair.lengthPrefixed
            ⟨List.replicate 16 0, rfl⟩ [1, 2, 3]) []) =
        (do
          let decompressed ← (maybeGUnzip Primitives.printing.gunzip [1, 2, 3]).mapError
            (Fault.wrap "failed to decompress: ")
          (Primitives.printing.plistUnmarshal decompressed).mapError
            fun err => .error s!"failed to unmarshal plist: {err}") :=
  ⟨by decide, by decide, decryptMessage_pairEncrypt Primitives.printing OaepKeyPair.lengthPrefixed
    ⟨List.replicate 16 0, rfl⟩ [1, 2, 3] 0 [] (by decide) (by decide)⟩

/-- **Where `DecryptMessage` panics**: exactly where `ParseBody` does (a
declared body length of `65533` or more, or `65532` on fewer than `2^16`
bytes), or where `DecryptPairPayload` does on what it parsed. The gzip and
plist stages never panic. -/
theorem decryptMessage_panics_iff (prim : Primitives) (privateKey : List UInt8 → Except String (List UInt8))
    (payload : List UInt8) :
    (∃ msg, decryptMessage prim privateKey payload = .error (.panic msg)) ↔
      (4 ≤ payload.length ∧ (65533 ≤ beNat ((payload.take 3).drop 1) ∨
        (beNat ((payload.take 3).drop 1) = 65532 ∧ payload.length < 2 ^ 16))) ∨
      ∃ parsed, parseBody payload = .ok parsed ∧
        ∃ msg, decryptPairPayload prim.aesCTR privateKey parsed = .error (.panic msg) := by
  rw [← parseBody_isPanic]
  unfold decryptMessage
  rcases hp : parseBody payload with (msg | msg) | parsed
  · simp
  · simp
  have hok (msg : String) : (Except.ok parsed : Except Fault ParsedBody) ≠ .error (.panic msg) := nofun
  simp only [except_mapError_ok, except_ok_bind, hok, exists_false, false_or, Except.ok.injEq, exists_eq_left']
  rcases hd : decryptPairPayload prim.aesCTR privateKey parsed with (msg | msg) | decrypted
  · simp
  · simp
  refine iff_of_false ?_ (by simp)
  rintro ⟨msg, h⟩
  simp only [except_mapError_ok, except_ok_bind] at h
  rcases hz : maybeGUnzip prim.gunzip decrypted with f | decompressed <;> rw [hz] at h
  · cases f with
    | error err => cases h
    | panic m => exact maybeGUnzip_ne_panic _ _ m hz
  · simp only [except_mapError_ok, except_ok_bind] at h
    cases hu : prim.plistUnmarshal decompressed <;> rw [hu] at h <;> cases h

end Messaging

end IMessageClient
