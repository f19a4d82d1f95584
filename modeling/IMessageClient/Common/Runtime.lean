import Mathlib.Data.List.Basic
import Mathlib.Algebra.Order.Ring.Nat
import Mathlib.Algebra.Group.Int
/-!
# The Go runtime, as far as the client reads it

A Go call ends in one of three ways: it returns, it returns a non-nil
`error`, or the runtime panics. `Fault` names the two abnormal ends, so a
fallible call is `Except Fault α`. An error is kept by its `Error()` text,
which is what `fmt.Errorf("...: %w", err)` composes (`Fault.wrap`).

A byte slice is a `Slice`: the backing array from its first element to
its capacity, and its length. `s[lo:hi]` checks `hi` against the capacity,
so it can reach past the length (`Slice.slice`); `s[i]` checks `i` against
the length (`Slice.index`). Where a slice's capacity is its length, as for
one fresh from `make`, a slice is its list of bytes (`slice`, `index`,
and `slice_eq_ofList` for the link). `Reader` is an `io.Reader` that delivers its bytes and
then reports one error, and `readFull` is `io.ReadFull` on it. `beNat`,
`putUint16` and `putUint32` are the big-endian codec of `encoding/binary`.
-/

namespace IMessageClient

/-- How a Go call ends abnormally. -/
inductive Fault where
  /-- It returns a non-nil `error` with this text. -/
  | error (msg : String)
  /-- The runtime panics. -/
  | panic (msg : String)
  deriving DecidableEq, Repr

@[simp] theorem except_ok_bind {α β : Type} (a : α) (f : α → Except Fault β) :
    (Except.ok a >>= f) = f a := rfl

@[simp] theorem except_error_bind {α β : Type} (e : Fault) (f : α → Except Fault β) :
    (Except.error e >>= f) = .error e := rfl

@[simp] theorem except_throw {α : Type} (e : Fault) : (throw e : Except Fault α) = .error e := rfl

@[simp] theorem except_fmap_ok {α β : Type} (f : α → β) (a : α) :
    (f <$> (Except.ok a : Except Fault α)) = .ok (f a) := rfl

@[simp] theorem except_fmap_error {α β : Type} (f : α → β) (e : Fault) :
    (f <$> (Except.error e : Except Fault α)) = .error e := rfl

@[simp] theorem except_map_ok {α β : Type} (f : α → β) (a : α) :
    (Except.ok a : Except Fault α).map f = .ok (f a) := rfl

@[simp] theorem except_map_error {α β : Type} (f : α → β) (e : Fault) :
    (Except.error e : Except Fault α).map f = .error e := rfl

@[simp] theorem except_mapError_ok {ε ε' α : Type} (f : ε → ε') (a : α) :
    (Except.ok a : Except ε α).mapError f = .ok a := rfl

@[simp] theorem except_mapError_error {ε ε' α : Type} (f : ε → ε') (e : ε) :
    (Except.error e : Except ε α).mapError f = .error (f e) := rfl

namespace Fault

/-- `fmt.Errorf(pre + "%w", err)`. A panic unwinds past the wrapper. -/
def wrap (pre : String) : Fault → Fault
  | error msg => error (pre ++ msg)
  | panic msg => panic msg

@[simp] theorem wrap_error (pre msg : String) : wrap pre (error msg) = error (pre ++ msg) := rfl

@[simp] theorem wrap_panic (pre msg : String) : wrap pre (panic msg) = panic msg := rfl

end Fault

/-! ## Slices -/

/-- `data[lo:hi]` on a slice whose capacity is its length. The runtime checks
the high bound against the capacity first. -/
def slice (data : List UInt8) (lo hi : Nat) : Except Fault (List UInt8) :=
  if hi ≤ data.length then
    if lo ≤ hi then .ok ((data.take hi).drop lo)
    else .error (.panic s!"slice bounds out of range [{lo}:{hi}]")
  else .error (.panic s!"slice bounds out of range [:{hi}] with capacity {data.length}")

/-- `data[i]`. -/
def index (data : List UInt8) (i : Nat) : Except Fault UInt8 :=
  if h : i < data.length then .ok data[i]
  else .error (.panic s!"index out of range [{i}] with length {data.length}")

theorem slice_of_le {data : List UInt8} {lo hi : Nat} (hhi : hi ≤ data.length) (hlo : lo ≤ hi) :
    slice data lo hi = .ok ((data.take hi).drop lo) := by
  simp [slice, hhi, hlo]

/-- A slice is in range exactly when its bounds are. -/
theorem slice_isPanic {data : List UInt8} {lo hi : Nat} :
    (∃ msg, slice data lo hi = .error (.panic msg)) ↔ ¬ (lo ≤ hi ∧ hi ≤ data.length) := by
  unfold slice
  by_cases hhi : hi ≤ data.length <;> by_cases hlo : lo ≤ hi <;> simp [hhi, hlo]

theorem index_of_lt {data : List UInt8} {i : Nat} (h : i < data.length) :
    index data i = .ok data[i] := by
  simp [index, h]

/-- Indexing reads the head of what follows the index. -/
theorem index_of_drop {data rest : List UInt8} {i : Nat} {x : UInt8} (h : data.drop i = x :: rest) :
    index data i = .ok x := by
  have hi : i < data.length := by
    by_contra hc
    rw [List.drop_eq_nil_of_le (by omega)] at h
    cases h
  rw [List.drop_eq_getElem_cons hi] at h
  injection h with h1
  rw [index_of_lt hi, h1]

/-! ## Slices with a capacity -/

/-- **A Go byte slice**: the backing array from the slice's first element to
its capacity, and its length, which never passes the capacity. -/
structure Slice where
  backing : List UInt8
  len : Nat
  len_le : len ≤ backing.length

namespace Slice

/-- A slice whose capacity is its length, as one fresh from `make` is. -/
def ofList (data : List UInt8) : Slice := ⟨data, data.length, le_rfl⟩

/-- `cap(s)`. -/
def cap (s : Slice) : Nat := s.backing.length

/-- The bytes the slice holds, `s[0:len(s)]`. -/
def view (s : Slice) : List UInt8 := s.backing.take s.len

/-- `s[lo:hi]`. The runtime checks `hi` against the capacity, not the
length: the result may hold bytes past the length of `s`. -/
def slice (s : Slice) (lo hi : Nat) : Except Fault Slice :=
  if hhi : hi ≤ s.cap then
    if lo ≤ hi then .ok ⟨s.backing.drop lo, hi - lo, by rw [List.length_drop]; exact Nat.sub_le_sub_right hhi lo⟩
    else .error (.panic s!"slice bounds out of range [{lo}:{hi}]")
  else .error (.panic s!"slice bounds out of range [:{hi}] with capacity {s.cap}")

/-- `s[i]`, checked against the length. -/
def index (s : Slice) (i : Nat) : Except Fault UInt8 := IMessageClient.index s.view i

@[simp] theorem view_ofList (data : List UInt8) : (ofList data).view = data := List.take_length _

@[simp] theorem cap_ofList (data : List UInt8) : (ofList data).cap = data.length := rfl

@[simp] theorem length_view (s : Slice) : s.view.length = s.len := by
  simp [view, s.len_le]

theorem slice_of_le {s : Slice} {lo hi : Nat} (hhi : hi ≤ s.cap) (hlo : lo ≤ hi) :
    s.slice lo hi = .ok ⟨s.backing.drop lo, hi - lo, by rw [List.length_drop]; exact Nat.sub_le_sub_right hhi lo⟩ := by
  simp [slice, hhi, hlo]

/-- Below the length, the backing array holds the bytes of the slice. -/
theorem take_drop_backing {s : Slice} {lo n : Nat} (h : lo + n ≤ s.len) :
    (s.backing.drop lo).take n = (s.view.drop lo).take n := by
  rw [view, List.drop_take, List.take_take, Nat.min_eq_left (by omega)]

/-- A slice is in range exactly when its bounds are, against the capacity. -/
theorem slice_isPanic {s : Slice} {lo hi : Nat} :
    (∃ msg, s.slice lo hi = .error (.panic msg)) ↔ ¬ (lo ≤ hi ∧ hi ≤ s.cap) := by
  unfold slice
  by_cases hhi : hi ≤ s.cap <;> by_cases hlo : lo ≤ hi <;> simp [hhi, hlo]

/-- A slice followed by a call that never panics panics exactly when the
slice is out of range. -/
theorem slice_bind_isPanic {α : Type} {s : Slice} {lo hi : Nat} {f : Slice → Except Fault α}
    (hf : ∀ x msg, f x ≠ .error (.panic msg)) :
    (∃ msg, (s.slice lo hi >>= f) = .error (.panic msg)) ↔ ¬ (lo ≤ hi ∧ hi ≤ s.cap) := by
  unfold slice
  by_cases hhi : hi ≤ s.cap <;> by_cases hlo : lo ≤ hi <;> simp [hhi, hlo, hf]

end Slice

/-- On a slice whose capacity is its length, `slice` is `Slice.slice` read
through the bytes it holds. -/
theorem slice_eq_ofList (data : List UInt8) (lo hi : Nat) :
    slice data lo hi = ((Slice.ofList data).slice lo hi).map Slice.view := by
  by_cases hhi : hi ≤ data.length <;> by_cases hlo : lo ≤ hi
  · rw [Slice.slice_of_le (s := Slice.ofList data) hhi hlo]
    simp [slice, hhi, hlo, Except.map, Slice.view, Slice.ofList, List.drop_take]
  all_goals simp [slice, Slice.slice, Slice.cap, Slice.ofList, hhi, hlo, Except.map]

/-! ## Readers -/

/-- An `io.Reader` over one byte stream: it delivers `bytes`, then reports
`err` on every later read (`io.EOF` at a clean end of stream). -/
structure Reader where
  bytes : List UInt8
  err : String
  deriving DecidableEq, Repr

/-- `io.EOF`'s text. -/
def eof : String := "EOF"

/-- `io.ReadFull(r, buf)` with `len(buf) = n`. When the stream runs dry first,
what was left is consumed, and a partial read that met `io.EOF` reports
`io.ErrUnexpectedEOF`. -/
def readFull (r : Reader) (n : Nat) : Except Fault (List UInt8) × Reader :=
  if n ≤ r.bytes.length then (.ok (r.bytes.take n), { r with bytes := r.bytes.drop n })
  else (.error (.error (if r.bytes ≠ [] ∧ r.err = eof then "unexpected EOF" else r.err)),
    { r with bytes := [] })

@[simp] theorem readFull_append (a b : List UInt8) (err : String) :
    readFull ⟨a ++ b, err⟩ a.length = (.ok a, ⟨b, err⟩) := by
  simp [readFull]

@[simp] theorem readFull_zero (r : Reader) : readFull r 0 = (.ok [], r) := by
  simp [readFull]

/-- Reading one byte. -/
theorem readFull_cons_one (x : UInt8) (l : List UInt8) (err : String) :
    readFull ⟨x :: l, err⟩ 1 = (.ok [x], ⟨l, err⟩) := by
  simp [readFull]

/-- Reading from a drained stream reports the stream's own error. -/
@[simp] theorem readFull_nil (err : String) {n : Nat} (hn : 0 < n) :
    readFull ⟨[], err⟩ n = (.error (.error err), ⟨[], err⟩) := by
  simp [readFull, Nat.not_le.2 hn]

/-! ## Big-endian integers -/

/-- `binary.BigEndian.Uint16` and `Uint32`, on a slice of exactly two or
four bytes. -/
def beNat (b : List UInt8) : Nat := b.foldl (fun acc x => acc * 256 + x.toNat) 0

/-- `binary.BigEndian.PutUint16` of a `uint16` value. -/
def putUint16 (v : Nat) : List UInt8 := [UInt8.ofNat (v / 256), UInt8.ofNat v]

/-- `binary.BigEndian.PutUint32` of a `uint32` value. -/
def putUint32 (v : Nat) : List UInt8 :=
  [UInt8.ofNat (v / 2 ^ 24), UInt8.ofNat (v / 2 ^ 16), UInt8.ofNat (v / 2 ^ 8), UInt8.ofNat v]

@[simp] theorem length_putUint16 (v : Nat) : (putUint16 v).length = 2 := rfl

@[simp] theorem length_putUint32 (v : Nat) : (putUint32 v).length = 4 := rfl

/-- A byte conversion keeps the value modulo `256`. -/
@[simp] theorem toNat_uint8_ofNat (n : Nat) : (UInt8.ofNat n).toNat = n % 256 := rfl

theorem beNat_two (a b : UInt8) : beNat [a, b] = a.toNat * 256 + b.toNat := by
  simp [beNat]

theorem beNat_four (a b c d : UInt8) :
    beNat [a, b, c, d] = ((a.toNat * 256 + b.toNat) * 256 + c.toNat) * 256 + d.toNat := by
  simp [beNat]

/-- Decoding what `PutUint16` wrote gives the value back, modulo `2^16`. -/
@[simp] theorem beNat_putUint16 (v : Nat) : beNat (putUint16 v) = v % 2 ^ 16 := by
  simp only [putUint16, beNat_two, toNat_uint8_ofNat]
  omega

@[simp] theorem beNat_putUint32 (v : Nat) : beNat (putUint32 v) = v % 2 ^ 32 := by
  simp only [putUint32, beNat_four, toNat_uint8_ofNat]
  omega

theorem beNat_two_lt (a b : UInt8) : beNat [a, b] < 2 ^ 16 := by
  have := a.toNat_lt_size; have := b.toNat_lt_size
  simp only [beNat_two, UInt8.size] at *
  omega

end IMessageClient
