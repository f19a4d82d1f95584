import IMessageClient.Apns.Binary
/-!
# APNS — the commands

The command structs of `commands.go` and their conversions to and from a
`Payload`. A command read from a frame keeps only the fields the connection
reads; a size field is a big-endian `uint16` taken from the first two
bytes of the field's first occurrence, and `0` when it has fewer
(`readUint16Field`).
-/

namespace IMessageClient

namespace Apns

/-- `BaseConnectionFlags`. -/
def baseConnectionFlags : Nat := 0b1000001

/-- `RootConnection`. -/
def rootConnection : Nat := 0b100

/-- `ConnectionFlag.ToBytes`: the flags as a big-endian `uint32`. -/
def connectionFlagToBytes (flags : Nat) : List UInt8 := putUint32 (flags % 2 ^ 32)

/-- The flags `Connect` sends, `00 00 00 45` on the wire. -/
example : connectionFlagToBytes (baseConnectionFlags ||| rootConnection) = [0, 0, 0, 0x45] := by
  decide

/-- `ConnectCommand`. -/
structure ConnectCommand where
  deviceToken : List UInt8
  state : List UInt8
  flags : Nat
  cert : List UInt8
  nonce : List UInt8
  signature : List UInt8

/-- `ConnectCommand.ToPayload`. -/
def ConnectCommand.toPayload (c : ConnectCommand) : Payload :=
  ⟨commandConnect, [⟨1, c.deviceToken⟩, ⟨2, c.state⟩, ⟨5, connectionFlagToBytes c.flags⟩,
    ⟨12, c.cert⟩, ⟨13, c.nonce⟩, ⟨14, c.signature⟩]⟩

/-- A `uint16` size field: `uint16(val[0])<<8 | uint16(val[1])` of the
field's first value when it has two bytes, `0` otherwise. -/
def readUint16Field (p : Payload) (fieldID : UInt8) : Nat :=
  match p.findField fieldID with
  | b0 :: b1 :: _ => beNat [b0, b1]
  | _ => 0

/-- `ConnectAckCommand`, the fields `Connect` reads. -/
structure ConnectAckCommand where
  status : List UInt8
  token : List UInt8
  maxMessageSize : Nat
  largeMessageSize : Nat

/-- `ConnectAckCommand.FromPayload` into a fresh command. -/
def ConnectAckCommand.fromPayload (p : Payload) : ConnectAckCommand where
  status := p.findField 1
  token := p.findField 3
  maxMessageSize := readUint16Field p 4
  largeMessageSize := readUint16Field p 8

/-- `FilterTopicsCommand`: the token, and the SHA-1 hash of each topic. -/
structure FilterTopicsCommand where
  token : List UInt8
  topics : List (List UInt8)

/-- `FilterTopicsCommand.ToPayload`: every topic under field id `2`. -/
def FilterTopicsCommand.toPayload (f : FilterTopicsCommand) : Payload :=
  ⟨commandFilterTopics, ⟨1, f.token⟩ :: f.topics.map fun topic => ⟨2, topic⟩⟩

/-- `SetStateCommand`. -/
structure SetStateCommand where
  state : UInt8
  fieldTwo : Nat

/-- `SetStateCommand.ToPayload`: `FieldTwo` as four big-endian bytes. -/
def SetStateCommand.toPayload (s : SetStateCommand) : Payload :=
  ⟨commandSetState, [⟨1, [s.state]⟩, ⟨2, putUint32 (s.fieldTwo % 2 ^ 32)⟩]⟩

/-- `IncomingSendMessageCommand`, the fields `ReadLoop` reads. -/
structure IncomingSendMessageCommand where
  topic : List UInt8
  payload : List UInt8

/-- `IncomingSendMessageCommand.FromPayload`. -/
def IncomingSendMessageCommand.fromPayload (p : Payload) : IncomingSendMessageCommand where
  topic := p.findField 2
  payload := p.findField 3

/-- `KeepAliveCommand.ToPayload`. -/
def keepAlivePayload : Payload := ⟨commandKeepAlive, []⟩

/-- The keep-alive frame on the wire, `0C 00 00 00 00`. -/
theorem keepAlivePayload_toBytes : keepAlivePayload.toBytes = [12, 0, 0, 0, 0] := by decide

end Apns

end IMessageClient
