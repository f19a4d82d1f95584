import IMessageClient.Ids.Http
import IMessageClient.Apns.Wire
/-!
# Messaging — the real handshaker

`RealHandshaker.Handshake` checks the registration data, generates the
IDS and push keys, registers with IDS (`Ids.register`), takes the ID
certificate of the first user of the first service, and builds the APNS
connection with the push key. The outside world's part (the key
generators, `uuid.New`, the plist codec, SHA-1, base64, the HTTP client
and the certificate parser) is a `HandshakeEnv`.

The device fields of the IDS config fall back to a default when empty,
and `IDSOSVersion` joins them. The APNS connection is
built with a nil certificate and an empty token, to take the token from the
connect-ack; but `Connect` refuses a connection without a certificate
before it dials, so no run of that connection ever dials, writes or reads
(`handshake_connection_idle`).
-/

namespace IMessageClient

/-! ## `config` -/

namespace Config

/-- `config.DeviceInfo`, the fields `Handshake` reads. -/
structure DeviceInfo where
  hardwareVersion : String
  softwareName : String
  softwareVersion : String
  softwareBuildID : String
  deriving DecidableEq, Repr

/-- `config.RegistrationData`, the fields the client reads; `ValidUntil` in
Unix seconds. -/
structure RegistrationData where
  validationData : List UInt8
  validUntil : Int
  deviceInfo : DeviceInfo
  deriving DecidableEq, Repr

/-- `IsExpired` at the time `now`: a nil registration is expired. -/
def RegistrationData.isExpired (now : Int) : Option RegistrationData → Bool
  | none => true
  | some r => decide (r.validUntil < now)

/-- What `Session`'s `Connect` reads of a registration at the time `now`. -/
def RegistrationData.toSession (now : Int) (r : RegistrationData) : Messaging.RegistrationData :=
  ⟨r.validationData, RegistrationData.isExpired now (some r)⟩

end Config

/-! ## `ids.Config` and the register request -/

namespace Ids

/-- `ids.Config`, the fields `Handshake` sets; the ID certificates by user
id, each as the parsed certificate's raw bytes. -/
structure Config where
  profileID : String
  authIDCertPairs : List (String × List UInt8)
  pushKey : RsaKey
  /-- `IDSEncryptionKey`, as its OAEP decryption. -/
  idsEncryptionKey : List UInt8 → Except String (List UInt8)
  deviceUUID : List UInt8
  hardwareVersion : String
  softwareName : String
  softwareVersion : String
  softwareBuildID : String

/-- `Config.IDSOSVersion`: name, version and build, each defaulted when
empty. -/
def Config.idsOSVersion (c : Config) : String :=
  let name := if c.softwareName = "" then "macOS" else c.softwareName
  let version := if c.softwareVersion = "" then "13.4.1" else c.softwareVersion
  let build := if c.softwareBuildID = "" then "22F82" else c.softwareBuildID
  s!"{name},{version},{build}"

/-- `DeviceName`. -/
def deviceName : String := "imessage-client"

/-- `PrivateDeviceData`. -/
structure PrivateDeviceData where
  ap : String
  d : String
  dt : Int
  gt : String
  h : String
  m : String
  p : String
  softwareBuild : String
  softwareName : String
  softwareVersion : String
  s : String
  t : String
  uuid : List UInt8
  v : String
  deriving DecidableEq, Repr

/-- `RegisterReq`, without its services. -/
structure RegisterReq where
  deviceName : String
  hardwareVersion : String
  language : String
  osVersion : String
  softwareVersion : String
  privateDeviceData : PrivateDeviceData
  validationData : List UInt8
  deriving DecidableEq, Repr

end Ids

namespace Messaging

/-! ## `RealHandshaker.Handshake` -/

/-- `buildRegisterRequest`, without the services. -/
def buildRegisterRequest (reg : Config.RegistrationData) (cfg : Ids.Config) : Ids.RegisterReq where
  deviceName := Ids.deviceName
  hardwareVersion := cfg.hardwareVersion
  language := "en-US"
  osVersion := cfg.idsOSVersion
  softwareVersion := cfg.softwareBuildID
  privateDeviceData := ⟨"0", "", 1, "0", "1", "0", "0", cfg.softwareBuildID, cfg.softwareName,
    cfg.softwareVersion, "0", "0", cfg.deviceUUID, "1"⟩
  validationData := reg.validationData

/-- `handshakeState`, every field `Handshake` sets. -/
structure HandshakeResult (σ : Type) where
  validationData : List UInt8
  deviceInfo : Config.DeviceInfo
  idsConfig : Ids.Config
  apnsConn : Apns.Connection σ

/-- What the session reads of it. -/
def HandshakeResult.toHandshakeState {σ : Type} (r : HandshakeResult σ) : HandshakeState :=
  ⟨some r.idsConfig.idsEncryptionKey⟩

/-- What the outside world does in one `Handshake`. -/
structure HandshakeEnv where
  /-- `ecdsa.GenerateKey` of the IDS signing key, which nothing reads. -/
  idsSigningKey : Except String Unit
  /-- `rsa.GenerateKey` of the IDS encryption key, as its OAEP decryption. -/
  idsEncryptionKey : Except String (List UInt8 → Except String (List UInt8))
  /-- `rsa.GenerateKey` of the push key. -/
  pushKey : Except String Ids.RsaKey
  /-- `rsa.GenerateKey` of the auth key, which nothing reads. -/
  authPrivateKey : Except String Unit
  /-- `uuid.New()`. -/
  deviceUUID : List UInt8
  sha1 : List UInt8 → List UInt8
  base64 : List UInt8 → String
  /-- `plist.Marshal` of a register request. -/
  marshal : Ids.RegisterReq → Except String (List UInt8)
  http : Ids.HttpEnv
  /-- `ids.ParseCertificate`, a certificate as its raw bytes. -/
  parseCertificate : List UInt8 → Except String (List UInt8)

/-- The IDS config before registration: the keys, and the device fields
with their defaults. -/
def handshakeConfig (reg : Config.RegistrationData) (idsEncryptionKey : List UInt8 → Except String (List UInt8))
    (pushKey : Ids.RsaKey) (deviceUUID : List UInt8) : Ids.Config :=
  let hardwareVersion := reg.deviceInfo.hardwareVersion
  let softwareName := reg.deviceInfo.softwareName
  let softwareVersion := reg.deviceInfo.softwareVersion
  let softwareBuildID := reg.deviceInfo.softwareBuildID
  { profileID := ""
    authIDCertPairs := []
    pushKey := pushKey
    idsEncryptionKey := idsEncryptionKey
    deviceUUID := deviceUUID
    hardwareVersion := if hardwareVersion = "" then "MacBookPro18,1" else hardwareVersion
    softwareName := if softwareName = "" then "macOS" else softwareName
    softwareVersion := if softwareVersion = "" then "13.4.1" else softwareVersion
    softwareBuildID := if softwareBuildID = "" then "22F82" else softwareBuildID }

/-- `RealHandshaker.Handshake`: the register request it sent, if any, and
what it returns. -/
def handshake {σ : Type} (env : HandshakeEnv) (reg : Option Config.RegistrationData) :
    Option Ids.Request × Except String (HandshakeResult σ) :=
  match reg with
  | none => (none, .error errInvalidRegistrationData)
  | some reg =>
    if reg.validationData = [] then (none, .error errInvalidRegistrationData)
    else
      match env.idsSigningKey, env.idsEncryptionKey, env.pushKey, env.authPrivateKey with
      | .error err, _, _, _ => (none, .error s!"failed to generate IDS signing key: {err}")
      | .ok _, .error err, _, _ => (none, .error s!"failed to generate IDS encryption key: {err}")
      | .ok _, .ok _, .error err, _ => (none, .error s!"failed to generate push key: {err}")
      | .ok _, .ok _, .ok _, .error err => (none, .error s!"failed to generate auth private key: {err}")
      | .ok _, .ok idsEncryptionKey, .ok pushKey, .ok _ =>
        let cfg := handshakeConfig reg idsEncryptionKey pushKey env.deviceUUID
        let registerReq := buildRegisterRequest reg cfg
        match Ids.register env.sha1 env.base64 env.http (env.marshal registerReq) registerReq.softwareVersion
            pushKey with
        | (sent, .error err) => (sent, .error s!"IDS registration failed: {err}")
        | (sent, .ok registerResp) =>
          match registerResp.services with
          | [] => (sent, .error "no services in registration response")
          | service :: _ =>
            match service.users with
            | [] => (sent, .error "no users in registration response")
            | user :: _ =>
              match user.cert with
              | none => (sent, .error "no ID certificate in registration response")
              | some cert =>
                match env.parseCertificate cert with
                | .error err => (sent, .error s!"failed to parse ID certificate: {err}")
                | .ok idCert =>
                  let pushToken : List UInt8 := []
                  let cfg := { cfg with
                    authIDCertPairs := (user.userID, idCert) :: cfg.authIDCertPairs.filter (·.1 != user.userID)
                    profileID := user.userID }
                  let apnsConn := Apns.newConnection (some (pushKey.signPKCS1v15 .sha1)) none pushToken
                  (sent, .ok ⟨reg.validationData, reg.deviceInfo, cfg, apnsConn⟩)

/-! ## What a successful handshake returns -/

section Handshake

variable {σ : Type} {env : HandshakeEnv} {reg : Option Config.RegistrationData} {st : HandshakeResult σ}

/-- **A successful handshake**: the registration had validation data, the
keys were generated, and the config is the one built from them, with the
first user's certificate and profile id; the APNS connection has the push
key, no certificate and no token. -/
theorem handshake_of_ok (h : (handshake env reg).2 = .ok st) :
    ∃ r idsEncryptionKey pushKey userID idCert, reg = some r ∧ r.validationData ≠ [] ∧
      env.idsEncryptionKey = .ok idsEncryptionKey ∧ env.pushKey = .ok pushKey ∧
      st.idsConfig = { handshakeConfig r idsEncryptionKey pushKey env.deviceUUID with
        authIDCertPairs := [(userID, idCert)], profileID := userID } ∧
      st.apnsConn = Apns.newConnection (some (pushKey.signPKCS1v15 .sha1)) none [] := by
  unfold handshake at h
  split at h
  · cases h
  rename_i r
  split at h
  · cases h
  rename_i hval
  split at h <;> try cases h
  rename_i _ encKey pushKey _ _ henc hpush _
  dsimp only at h
  iterate 5 (split at h; · cases h)
  cases h
  exact ⟨r, encKey, pushKey, _, _, rfl, hval, henc, hpush, rfl, rfl⟩

/-- **The APNS connection of a successful handshake never does anything**:
it has no certificate and no token, so every run of `Connect`, `Filter`,
`SetState`, `ReadLoop` and `Close` on it leaves it and the handler's state
as they were, with no dial, no write and no message. -/
theorem handshake_connection_idle (h : (handshake env reg).2 = .ok st) :
    st.apnsConn.conn = none ∧ st.apnsConn.deviceCert = none ∧ st.apnsConn.token = [] ∧
      ∀ (sha1 : List UInt8 → List UInt8) (calls : List Apns.Call) (s : σ),
        Apns.run sha1 calls (st.apnsConn, s) = ((st.apnsConn, s), []) := by
  obtain ⟨_, _, _, _, _, -, -, -, -, -, hconn⟩ := handshake_of_ok h
  rw [hconn]
  exact ⟨rfl, rfl, rfl, fun sha1 calls s => Apns.run_idle_of_blocked sha1 calls _ s rfl (.inr (.inl rfl))⟩

end Handshake

/-- A registration server that accepts every request and assigns one user
a certificate, and keys that always generate. -/
def acceptingIDS : HandshakeEnv where
  idsSigningKey := .ok ()
  idsEncryptionKey := .ok fun _ => .ok []
  pushKey := .ok ⟨fun _ _ => .ok [1]⟩
  authPrivateKey := .ok ()
  deviceUUID := List.replicate 16 0
  sha1 _ := List.replicate 20 0
  base64 _ := "AQ=="
  marshal _ := .ok [0]
  http := ⟨fun _ => .ok ⟨200, [0], none⟩, fun _ => .ok ⟨"", 0, [⟨[⟨"P:1", some [3]⟩]⟩]⟩⟩
  parseCertificate cert := .ok cert

/-- A registration with validation data and no device information. -/
def bareRegistration : Config.RegistrationData := ⟨[1], 0, ⟨"", "", "", ""⟩⟩

theorem handshake_connection_idle_accepting :
    ∃ st : HandshakeResult Unit, (handshake acceptingIDS (some bareRegistration)).2 = .ok st ∧
      st.apnsConn.conn = none ∧ st.apnsConn.deviceCert = none ∧ st.apnsConn.token = [] ∧
      ∀ (sha1 : List UInt8 → List UInt8) (calls : List Apns.Call) (s : Unit),
        Apns.run sha1 calls (st.apnsConn, s) = ((st.apnsConn, s), []) :=
  let ⟨st, h⟩ : ∃ st : HandshakeResult Unit, (handshake acceptingIDS (some bareRegistration)).2 = .ok st :=
    ⟨_, rfl⟩
  ⟨st, h, handshake_connection_idle h⟩

end Messaging

end IMessageClient
