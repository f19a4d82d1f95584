import IMessageClient.Common.Runtime
import IMessageClient.Apns.Binary
import IMessageClient.Apns.Encoding
import IMessageClient.Apns.Framing
import IMessageClient.Apns.Commands
import IMessageClient.Apns.Connection
import IMessageClient.Apns.ReadLoop
import IMessageClient.Apns.Lifecycle
import IMessageClient.Apns.Handshake
import IMessageClient.Apns.Wire
import IMessageClient.Messaging.Decrypt
import IMessageClient.Messaging.PairEncryption
import IMessageClient.Messaging.Pipeline
import IMessageClient.Messaging.Store
import IMessageClient.Messaging.Session
import IMessageClient.Messaging.Unread
import IMessageClient.Messaging.Queue
import IMessageClient.Ids.Http
import IMessageClient.Messaging.HandshakeReal
import IMessageClient.Messaging.Client
import IMessageClient.Messaging.Receive
import IMessageClient.Cmd.Commands
import IMessageClient.Messaging.FileStore
