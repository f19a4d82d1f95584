import IMessageClient.Messaging.Decrypt
/-!
# Messaging — the pair scheme, end to end

A sender of the pair scheme encrypts the plaintext with AES-CTR from a zero
IV, moves the first `n = min 100 |c|` ciphertext bytes into the RSA-OAEP
block after the 16-byte AES key, and sends the 160-byte OAEP ciphertext and
the rest of `c` (`pairEncrypt`, from the spec's words; the client has no
sender). `decryptPairPayload_pairEncrypt` proves that `DecryptPairPayload`
recovers every plaintext, for every OAEP key pair and AES key: the block's
tail and the raw tail rejoin into `c`, and one keystream pass undoes it.

The scheme's own layout always puts 16 key bytes in the block, but OAEP
takes any message up to its capacity, and `DecryptPairPayload` slices
`[:16]` without a check: a block shorter than that panics
(`decryptPairPayload_panics_iff`).
-/

namespace IMessageClient

namespace Messaging

/-- **An RSA-OAEP(SHA-1) key pair of a 1280-bit modulus**, as the pair
scheme sees it: a message of at most `160 - 2·20 - 2 = 118` bytes encrypts
to 160 bytes, which decryption inverts. -/
structure OaepKeyPair where
  encrypt : List UInt8 → List UInt8
  decrypt : List UInt8 → Except String (List UInt8)
  length_encrypt : ∀ m : List UInt8, m.length ≤ 118 → (encrypt m).length = 160
  decrypt_encrypt : ∀ m : List UInt8, m.length ≤ 118 → decrypt (encrypt m) = .ok m

/-- An AES-128 key. -/
structure AesKey where
  bytes : List UInt8
  length_bytes : bytes.length = 16

/-- The pair scheme's sender, from the spec: `c = CTR(k, 0^16, m)`,
`n = min 100 |c|`, body `OAEP(k ++ c[:n]) ++ c[n:]`. -/
def pairEncrypt (aesCTR : List UInt8 → List UInt8 → Nat → UInt8) (kp : OaepKeyPair)
    (k : AesKey) (m : List UInt8) : List UInt8 :=
  let c := xorKeyStream (aesCTR k.bytes (List.replicate 16 0)) 0 m
  kp.encrypt (k.bytes ++ c.take (min 100 c.length)) ++ c.drop (min 100 c.length)

/-! ## The keystream -/

theorem xor_xor_cancel (a b : UInt8) : a ^^^ b ^^^ b = a := by
  cases a; cases b
  show UInt8.mk _ = _
  congr 1
  exact (BitVec.xor_assoc _ _ _).trans (by rw [BitVec.xor_self, BitVec.xor_zero])

@[simp] theorem length_xorKeyStream (ks : Nat → UInt8) (m : List UInt8) :
    ∀ i, (xorKeyStream ks i m).length = m.length := by
  induction m with
  | nil => intro i; rfl
  | cons b m ih => intro i; simp [xorKeyStream, ih]

/-- **One keystream pass undoes another** from the same counter. -/
theorem xorKeyStream_xorKeyStream (ks : Nat → UInt8) (m : List UInt8) :
    ∀ i, xorKeyStream ks i (xorKeyStream ks i m) = m := by
  induction m with
  | nil => intro i; rfl
  | cons b m ih => intro i; simp [xorKeyStream, ih, xor_xor_cancel]

/-! ## Decryption inverts the sender -/

/-- The IV `DecryptPairPayload` counts from is the sender's zero IV. -/
theorem normalIV_eq_zero : normalIV = List.replicate 16 0 := rfl

/-- `DecryptPairPayload` on a body whose OAEP block decrypts: the key is the
block's first 16 bytes, and the input the rest of the block, then the raw
tail. -/
theorem decryptPairPayload_of_decrypt (aesCTR : List UInt8 → List UInt8 → Nat → UInt8)
    {decryptOAEP : List UInt8 → Except String (List UInt8)} {block rest key tail : List UInt8}
    (tag : UInt8) (signature : List UInt8) (hblock : block.length = 160)
    (hdec : decryptOAEP block = .ok (key ++ tail)) (hkey : key.length = 16) :
    decryptPairPayload aesCTR decryptOAEP ⟨tag, block ++ rest, signature⟩ =
      .ok (xorKeyStream (aesCTR key normalIV) 0 (tail ++ rest)) := by
  have hlen : ¬ (block ++ rest).length < 160 := by simp; omega
  have hk : slice (key ++ tail) 0 16 = .ok key := by
    rw [slice_of_le (by simp; omega) (by omega), List.take_left' hkey, List.drop_zero]
  have ht : slice (key ++ tail) 16 (key ++ tail).length = .ok tail := by
    rw [slice_of_le le_rfl (by simp; omega), List.take_length, List.drop_left' hkey]
  have hc : newCipher key = .ok key := by simp [newCipher, hkey]
  simp only [decryptPairPayload, hlen, if_false, pure_bind,
    slice_of_le (by simp; omega : 160 ≤ (block ++ rest).length) (by omega : 0 ≤ 160),
    slice_of_le le_rfl (by simp; omega : 160 ≤ (block ++ rest).length), except_ok_bind,
    List.take_left' hblock, List.drop_zero, List.drop_left' hblock, List.take_length, hdec,
    except_mapError_ok, hk, hc, ht]
  rfl

/-- The sender's body decrypts to its plaintext. -/
theorem decryptPairPayload_of_pairEncrypt (aesCTR : List UInt8 → List UInt8 → Nat → UInt8)
    (kp : OaepKeyPair) (k : AesKey) (m : List UInt8) (tag : UInt8) (signature : List UInt8) :
    decryptPairPayload aesCTR kp.decrypt ⟨tag, pairEncrypt aesCTR kp k m, signature⟩ = .ok m := by
  have hmsg : (k.bytes ++ (xorKeyStream (aesCTR k.bytes (List.replicate 16 0)) 0 m).take
      (min 100 (xorKeyStream (aesCTR k.bytes (List.replicate 16 0)) 0 m).length)).length ≤ 118 := by
    simp [k.length_bytes]; omega
  rw [pairEncrypt, decryptPairPayload_of_decrypt aesCTR tag signature (kp.length_encrypt _ hmsg)
    (kp.decrypt_encrypt _ hmsg) k.length_bytes, List.take_append_drop, normalIV_eq_zero,
    xorKeyStream_xorKeyStream]

/-- **Pair decryption inverts pair encryption**, for every key pair, AES key
and plaintext. -/
theorem decryptPairPayload_pairEncrypt (aesCTR : List UInt8 → List UInt8 → Nat → UInt8)
    (kp : OaepKeyPair) (k : AesKey) (m : List UInt8) (tag : UInt8) (signature : List UInt8) :
    decryptPairPayload aesCTR kp.decrypt ⟨tag, pairEncrypt aesCTR kp k m, signature⟩ = .ok m :=
  decryptPairPayload_of_pairEncrypt aesCTR kp k m tag signature

/-! ## A short OAEP block -/

/-- **Where `DecryptPairPayload` panics**: on a body of at least 160 bytes
whose OAEP block decrypts to fewer than 16 bytes. Every other slice is
checked first. -/
theorem decryptPairPayload_panics_iff (aesCTR : List UInt8 → List UInt8 → Nat → UInt8)
    (decryptOAEP : List UInt8 → Except String (List UInt8)) (body : ParsedBody) :
    (∃ msg, decryptPairPayload aesCTR decryptOAEP body = .error (.panic msg)) ↔
      160 ≤ body.body.length ∧ ∃ dk, decryptOAEP (body.body.take 160) = .ok dk ∧ dk.length < 16 := by
  by_cases hlen : body.body.length < 160
  · simp [decryptPairPayload, hlen, Nat.not_le.2 hlen]
  have hslices : ∀ {α : Type} (f : List UInt8 → List UInt8 → Except Fault α),
      (do let a ← slice body.body 0 160; let b ← slice body.body 160 body.body.length; f a b) =
        f (body.body.take 160) (body.body.drop 160) := by
    intro α f
    rw [slice_of_le (by omega) (by omega), slice_of_le le_rfl (by omega)]
    simp [List.take_length]
  simp only [decryptPairPayload, hlen, if_false, pure_bind, hslices]
  cases hdec : decryptOAEP (body.body.take 160) with
  | error err => simp [Nat.le_of_not_lt hlen]
  | ok dk =>
    by_cases hdk : dk.length < 16
    · simp [slice, Nat.not_le.2 hdk, Nat.le_of_not_lt hlen, hdk]
    · have hc : newCipher (dk.take 16) = .ok (dk.take 16) := by
        simp [newCipher]; omega
      simp [slice_of_le (by omega : 16 ≤ dk.length), slice_of_le le_rfl (by omega : 16 ≤ dk.length),
        hc, hdk]

/-- **A valid OAEP plaintext shorter than an AES key makes
`DecryptPairPayload` panic**, whoever holds the public key can send one. -/
theorem decryptPairPayload_panics_on_short_block (aesCTR : List UInt8 → List UInt8 → Nat → UInt8)
    (kp : OaepKeyPair) (m rest : List UInt8) (hm : m.length < 16) (tag : UInt8)
    (signature : List UInt8) :
    decryptPairPayload aesCTR kp.decrypt ⟨tag, kp.encrypt m ++ rest, signature⟩ =
      .error (.panic s!"slice bounds out of range [:16] with capacity {m.length}") := by
  have hblock := kp.length_encrypt m (by omega)
  have hlen : ¬ (kp.encrypt m ++ rest).length < 160 := by simp; omega
  simp only [decryptPairPayload, hlen, if_false, pure_bind,
    slice_of_le (by simp; omega : 160 ≤ (kp.encrypt m ++ rest).length) (by omega : 0 ≤ 160),
    slice_of_le le_rfl (by simp; omega : 160 ≤ (kp.encrypt m ++ rest).length), except_ok_bind,
    List.take_left' hblock, List.drop_zero, kp.decrypt_encrypt m (by omega), except_mapError_ok]
  simp only [slice, if_neg (Nat.not_le.2 hm), except_error_bind]
  rfl

/-- A key pair for running the model: the "ciphertext" is the message's
length, the message, and zeros up to 160 bytes. -/
def OaepKeyPair.lengthPrefixed : OaepKeyPair where
  encrypt m := UInt8.ofNat m.length :: (m ++ List.replicate (159 - m.length) 0)
  decrypt
    | n :: c => .ok (c.take n.toNat)
    | [] => .error "crypto/rsa: decryption error"
  length_encrypt m hm := by simp; omega
  decrypt_encrypt m hm := by simp [Nat.mod_eq_of_lt (by omega : m.length < 256)]

/-- The empty OAEP plaintext. -/
theorem decryptPairPayload_panics_on_empty_block :
    decryptPairPayload (fun _ _ _ => 0) OaepKeyPair.lengthPrefixed.decrypt
        ⟨0, OaepKeyPair.lengthPrefixed.encrypt [] ++ [], []⟩ =
      .error (.panic "slice bounds out of range [:16] with capacity 0") :=
  decryptPairPayload_panics_on_short_block _ _ [] [] (by decide) 0 []

end Messaging

end IMessageClient
