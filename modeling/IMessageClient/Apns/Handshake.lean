import IMessageClient.Apns.Connection
import IMessageClient.Apns.Encoding
/-!
# APNS — what `Connect` takes from the connect-ack

`Connect` ends by reading one reply frame and, through
`ConnectAckCommand.FromPayload`, deciding whether the courier accepted it
and what it adopts. `ackRefused`, `ackToken` and `ackSize` state the rule
in the design's words, over the first value of each field
(`Payload.firstValue`, apart from `FindField`): refused when the reply is
not a connect-ack or the first status value starts with a non-zero byte;
on acceptance, a non-empty first token value replaces the token, and a
size field's first value, read big-endian from its first two bytes,
replaces the size when it has two bytes and is non-zero.

`connectAck_of_refused` and `connectAck_of_accepted` prove `connectAck`
against them, over every reply: any fields, duplicate ids, values of any
length. `connect_adopts_ack` lifts this to `Connect` once the dial, the
nonce, the signature, the write and the read of the reply have succeeded.
-/

namespace IMessageClient

namespace Apns

/-- **The design's refusal rule**: the reply is not a connect-ack, or its
first status value starts with a non-zero byte. -/
def ackRefused (reply : Payload) : Bool :=
  reply.id != commandConnectAck ||
    match reply.firstValue 1 with
    | b :: _ => b != 0
    | [] => false

/-- **The design's token rule**: the first token value, when it is not
empty. -/
def ackToken (reply : Payload) (token : List UInt8) : List UInt8 :=
  match reply.firstValue 3 with
  | [] => token
  | value => value

/-- **The design's size rule**: the big-endian value of the first two
bytes of the field's first value, when it has two bytes and is not zero;
the current size otherwise. -/
def ackSize (reply : Payload) (fieldID : UInt8) (size : Nat) : Nat :=
  match reply.firstValue fieldID with
  | b0 :: b1 :: _ => if b0.toNat * 256 + b1.toNat = 0 then size else b0.toNat * 256 + b1.toNat
  | _ => size

/-- The sizes `Connect` adopts are the design's. -/
theorem ackSize_eq (reply : Payload) (fieldID : UInt8) (size : Nat) :
    (if 0 < readUint16Field reply fieldID then readUint16Field reply fieldID else size) =
      ackSize reply fieldID size := by
  unfold ackSize readUint16Field
  rw [Payload.findField_eq_firstValue]
  rcases reply.firstValue fieldID with _ | ⟨b0, _ | ⟨b1, _⟩⟩ <;> simp only [lt_irrefl, if_false]
  rw [beNat_two]
  split_ifs <;> omega

/-- The token `Connect` adopts is the design's. -/
theorem ackToken_eq (reply : Payload) (token : List UInt8) :
    (if reply.findField 3 ≠ [] then reply.findField 3 else token) = ackToken reply token := by
  unfold ackToken
  rw [Payload.findField_eq_firstValue]
  split <;> simp_all

namespace Connection

variable {σ : Type} (c : Connection σ) {reply : Payload}

/-- **A refused reply changes nothing** and fails `Connect`. -/
theorem connectAck_of_refused (h : ackRefused reply = true) :
    (c.connectAck reply).1 = c ∧ (c.connectAck reply).2.isSome := by
  unfold connectAck
  unfold ackRefused at h
  by_cases hid : reply.id = commandConnectAck
  · have hstatus : (ConnectAckCommand.fromPayload reply).status ≠ [] ∧
        (ConnectAckCommand.fromPayload reply).status.headD 0 ≠ 0 := by
      simp only [ConnectAckCommand.fromPayload, Payload.findField_eq_firstValue]
      split at h <;> simp_all
    simp only [hid, ne_eq, not_true_eq_false, if_false, hstatus, not_false_eq_true, and_self, if_true,
      Option.isSome_some]
  · simp [hid]

/-- **An accepted reply** sets the token and the two sizes by the design's
rules, and touches nothing else. -/
theorem connectAck_of_accepted (h : ackRefused reply = false) :
    c.connectAck reply = ({ c with
      token := ackToken reply c.token
      maxMessageSize := ackSize reply 4 c.maxMessageSize
      maxLargeMessageSize := ackSize reply 8 c.maxLargeMessageSize }, none) := by
  unfold ackRefused at h
  have hid : reply.id = commandConnectAck := by simp_all
  have hstatus : ¬ ((ConnectAckCommand.fromPayload reply).status ≠ [] ∧
      (ConnectAckCommand.fromPayload reply).status.headD 0 ≠ 0) := by
    simp only [ConnectAckCommand.fromPayload, Payload.findField_eq_firstValue]
    split at h <;> simp_all
  simp only [connectAck, hid, ne_eq, not_true_eq_false, if_false, hstatus]
  simp only [ConnectAckCommand.fromPayload, ← ackSize_eq, ← ackToken_eq, ne_eq]

/-- `write` on an open socket whose next write succeeds. -/
theorem write_of_next_ok {sock : Socket} (hconn : c.conn = some sock) (hopen : sock.closed = false)
    (hok : ∀ err, sock.writeFailures.head? ≠ some (some err)) (data : List UInt8) :
    c.write data = ({ c with conn := some { sock with writeFailures := sock.writeFailures.tail } },
      [.write sock.id data], none) := by
  rcases hws : sock.writeFailures with _ | ⟨_ | err, rest⟩
  · obtain ⟨_, _, _, _⟩ := sock
    obtain ⟨_, _, _, conn, _, _, _⟩ := c
    dsimp only at hconn hopen hws ⊢
    subst hconn hopen hws
    rfl
  · simp [write, hconn, hopen, hws]
  · exact absurd (by simp [hws]) (hok err)

/-- **`Connect` up to the reply**: with the key, the certificate and a
token, a dial, a nonce, a signature, a write and a read that all succeed,
`Connect` ends in `connectAck` on the reply, on the connection with the
socket stored. -/
theorem connect_of_reply (sha1 : List UInt8 → List UInt8) (env : ConnectEnv)
    {privateKey : List UInt8 → Except String (List UInt8)} {deviceCert : List UInt8} {sock : Socket}
    {nonce signature : List UInt8}
    (hkey : c.privateKey = some privateKey) (hcert : c.deviceCert = some deviceCert) (htoken : c.token ≠ [])
    (hdial : env.dial s!"{env.hostNum}-{courierHostname}:{courierPort}" = .ok sock)
    (hnonce : env.nonce = .ok nonce) (hsign : privateKey (sha1 (nonce.set 0 0)) = .ok signature)
    (hwrite : ∀ err, sock.writeFailures.head? ≠ some (some err))
    (hread : (unmarshalBinaryStream Payload.empty sock.reader).1 = .ok reply) :
    ∃ sock' evs, connect sha1 env c =
      (({ c with conn := some sock' }.connectAck reply).1, evs, ({ c with conn := some sock' }.connectAck reply).2) := by
  have hw := write_of_next_ok { c with conn := some sock } rfl (env.dial_open _ _ hdial) hwrite
  simp only [hkey, hcert] at hw
  rcases hu : unmarshalBinaryStream Payload.empty sock.reader with ⟨result, reader⟩
  rw [hu] at hread
  subst hread
  simp only [connect, hkey, hcert, htoken, if_false, hdial, hnonce, hsign, hw, readPayload, hu]
  exact ⟨_, _, rfl⟩

/-- **`Connect` adopts the connect-ack as the design says**, for every
reply frame. Once the dial, the nonce, the signature, the write and the
read of the reply have succeeded, `Connect` fails exactly when the reply is
refused; then the token and both sizes are as they were, and otherwise they
are the reply's by the design's rules. -/
theorem connect_adopts_ack (sha1 : List UInt8 → List UInt8) (env : ConnectEnv)
    {privateKey : List UInt8 → Except String (List UInt8)} {deviceCert : List UInt8} {sock : Socket}
    {nonce signature : List UInt8}
    (hkey : c.privateKey = some privateKey) (hcert : c.deviceCert = some deviceCert) (htoken : c.token ≠ [])
    (hdial : env.dial s!"{env.hostNum}-{courierHostname}:{courierPort}" = .ok sock)
    (hnonce : env.nonce = .ok nonce) (hsign : privateKey (sha1 (nonce.set 0 0)) = .ok signature)
    (hwrite : ∀ err, sock.writeFailures.head? ≠ some (some err))
    (hread : (unmarshalBinaryStream Payload.empty sock.reader).1 = .ok reply) :
    let r := connect sha1 env c
    r.2.2.isSome = ackRefused reply ∧
      (r.1.token, r.1.maxMessageSize, r.1.maxLargeMessageSize) =
        if ackRefused reply then (c.token, c.maxMessageSize, c.maxLargeMessageSize)
        else (ackToken reply c.token, ackSize reply 4 c.maxMessageSize, ackSize reply 8 c.maxLargeMessageSize) := by
  obtain ⟨sock', evs, h⟩ := connect_of_reply c sha1 env hkey hcert htoken hdial hnonce hsign hwrite hread
  simp only [h]
  cases hr : ackRefused reply with
  | false => simp [connectAck_of_accepted _ hr]
  | true =>
    obtain ⟨hc, herr⟩ := connectAck_of_refused { c with conn := some sock' } hr
    simp [hc, herr]

/-- An accepted connect-ack: status `00`, a new token `07 07` (a second
token field after it), a message size of `0x1234` and a large message size
of `0x4000`, neither the default. -/
def acceptingAck : Payload :=
  ⟨commandConnectAck, [⟨1, [0]⟩, ⟨3, [7, 7]⟩, ⟨4, [0x12, 0x34]⟩, ⟨3, [9]⟩, ⟨8, [0x40, 0]⟩]⟩

/-- A courier that answers with `acceptingAck`. -/
def acceptingCourier : ConnectEnv where
  hostNum := 1
  dial _ := .ok ⟨0, ⟨acceptingAck.toBytes, "EOF"⟩, [], false⟩
  dial_open _ _ h := by cases h; rfl
  nonce := .ok (List.replicate 20 1)

theorem connect_adopts_ack_accepting :
    let r := connect (fun _ => []) acceptingCourier
      (newConnection (some fun _ => .ok []) (some []) [1] : Connection Unit)
    r.2.2.isSome = ackRefused acceptingAck ∧
      (r.1.token, r.1.maxMessageSize, r.1.maxLargeMessageSize) =
        if ackRefused acceptingAck then ([1], 4 * 1024, 15 * 1024)
        else (ackToken acceptingAck [1], ackSize acceptingAck 4 (4 * 1024), ackSize acceptingAck 8 (15 * 1024)) :=
  have hp : acceptingAck.Encodable := ⟨by decide, by decide, by decide⟩
  have hread : (unmarshalBinaryStream Payload.empty ⟨acceptingAck.toBytes, "EOF"⟩).1 = .ok acceptingAck := by
    simpa using congrArg Prod.fst (unmarshalBinaryStream_toBytes hp [] "EOF")
  connect_adopts_ack _ _ _ rfl rfl (by decide) rfl rfl rfl (by simp) hread

end Connection

end Apns

end IMessageClient
