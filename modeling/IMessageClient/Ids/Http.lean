import IMessageClient.Messaging.Session
/-!
# IDS — the signed registration request

`Register` marshals its request, sets the protocol headers, signs the
request with the push key (`signRequest`) and sends it once. The signature
is over `createSigningPayload`: the method, a newline, the URL, a newline
and the body. A Go string is its bytes; the two constants `Register` sends
are ASCII (`goBytes`). The libraries are taken as given: the plist codec,
SHA-1, base64 and the HTTP client (`HttpEnv`). An RSA key is its
`SignPKCS1v15` function, for each hash id it may be asked to name.

Two newline-free strings and a body have one signing payload
(`createSigningPayload_injective`), so the signature `Register` puts in
`X-Push-Sig` commits to the method, the URL and the body it sends.
-/

namespace IMessageClient

namespace Ids

/-! ## The signing payload -/

/-- A Go string constant, as its bytes; exact for ASCII text. -/
def goBytes (s : String) : List UInt8 := s.toList.map fun c => UInt8.ofNat c.toNat

/-- `createSigningPayload`: `method "\n" url "\n" body`. -/
def createSigningPayload (method url body : List UInt8) : List UInt8 :=
  method ++ [10] ++ url ++ [10] ++ body

/-- A newline after a newline-free prefix marks where the prefix ends. -/
theorem append_newline_inj {a a' x x' : List UInt8} (ha : 10 ∉ a) (ha' : 10 ∉ a')
    (h : a ++ 10 :: x = a' ++ 10 :: x') : a = a' ∧ x = x' := by
  induction a generalizing a' with
  | nil =>
    cases a' with
    | nil => exact ⟨rfl, List.cons.inj h |>.2⟩
    | cons b a' => exact absurd ((List.cons.inj h).1 ▸ List.mem_cons_self _ _) ha'
  | cons b a ih =>
    cases a' with
    | nil => exact absurd ((List.cons.inj h).1 ▸ List.mem_cons_self _ _) ha
    | cons b' a' =>
      obtain ⟨hb, ht⟩ := List.cons.inj h
      obtain ⟨rfl, rfl⟩ := ih (fun hm => ha (List.mem_cons_of_mem _ hm))
        (fun hm => ha' (List.mem_cons_of_mem _ hm)) ht
      exact ⟨hb ▸ rfl, rfl⟩

theorem createSigningPayload_eq (method url body : List UInt8) :
    createSigningPayload method url body = method ++ 10 :: (url ++ 10 :: body) := by
  simp [createSigningPayload]

/-- **The signing payload determines the request it signs**: for methods
and URLs without a newline, two requests have one signing payload only when
their methods, URLs and bodies are equal. -/
theorem createSigningPayload_injective {method url method' url' : List UInt8} (body body' : List UInt8)
    (hm : 10 ∉ method) (hu : 10 ∉ url) (hm' : 10 ∉ method') (hu' : 10 ∉ url') :
    createSigningPayload method url body = createSigningPayload method' url' body' ↔
      method = method' ∧ url = url' ∧ body = body' := by
  constructor
  · intro h
    rw [createSigningPayload_eq, createSigningPayload_eq] at h
    obtain ⟨hmethod, hrest⟩ := append_newline_inj hm hm' h
    obtain ⟨hurl, hbody⟩ := append_newline_inj hu hu' hrest
    exact ⟨hmethod, hurl, hbody⟩
  · rintro ⟨rfl, rfl, rfl⟩
    rfl

/-! ## `Register` -/

/-- `http.MethodPost`. -/
def methodPost : List UInt8 := goBytes "POST"

/-- `idsRegisterURL`. -/
def idsRegisterURL : List UInt8 :=
  goBytes "https://identity.ess.apple.com/WebObjects/TDIdentityService.woa/wa/register"

/-- `ProtocolVersion`. -/
def protocolVersion : String := "1640"

/-- Two requests to the register endpoint with different bodies. -/
theorem createSigningPayload_injective_register :
    10 ∉ methodPost ∧ 10 ∉ idsRegisterURL ∧
      (createSigningPayload methodPost idsRegisterURL [1] = createSigningPayload methodPost idsRegisterURL [2] ↔
        methodPost = methodPost ∧ idsRegisterURL = idsRegisterURL ∧ [1] = ([2] : List UInt8)) :=
  ⟨by decide, by decide, createSigningPayload_injective [1] [2] (by decide) (by decide) (by decide) (by decide)⟩

/-- The hash id `rsa.SignPKCS1v15` is given: `0` for a prehashed message
signed as it is, or SHA-1. -/
inductive CryptoHash where
  | none
  | sha1
  deriving DecidableEq, Repr

/-- An RSA private key, as `rsa.SignPKCS1v15` with it. -/
structure RsaKey where
  signPKCS1v15 : CryptoHash → List UInt8 → Except String (List UInt8)

/-- An `http.Request`: its method, URL, body, and the headers set on it,
the latest first. -/
structure Request where
  method : List UInt8
  url : List UInt8
  body : List UInt8
  header : List (String × String)
  deriving DecidableEq, Repr

/-- `Header.Set`: the key's value replaced. -/
def Request.setHeader (req : Request) (key value : String) : Request :=
  { req with header := (key, value) :: req.header.filter fun kv => kv.1 != key }

/-- `signRequest`: the SHA-1 of the signing payload, signed with the push
key under hash id `0`, in `X-Push-Sig` as base64, and an empty
`X-Push-Token`. -/
def signRequest (sha1 : List UInt8 → List UInt8) (base64 : List UInt8 → String) (req : Request)
    (body : List UInt8) (pushKey : RsaKey) : Except String Request := do
  let signingPayload := createSigningPayload req.method req.url body
  let hashed := sha1 signingPayload
  let signature ← (pushKey.signPKCS1v15 .none hashed).mapError fun err => s!"failed to sign payload: {err}"
  let req := req.setHeader "X-Push-Sig" (base64 signature)
  return req.setHeader "X-Push-Token" ""

/-- An `http.Response`: its status code, what `io.ReadAll` reads of its
body, and the error that read ends with. -/
structure Response where
  statusCode : Nat
  body : List UInt8
  readError : Option String

/-- `RegisterRespServiceUser`, the fields `Handshake` reads; a nil `Cert`
is `none`. -/
structure RegisterRespServiceUser where
  userID : String
  cert : Option (List UInt8)

/-- `RegisterRespService`, the field `Handshake` reads. -/
structure RegisterRespService where
  users : List RegisterRespServiceUser

/-- `RegisterResp`, the fields `Register` and `Handshake` read. -/
structure RegisterResp where
  message : String
  status : Int
  services : List RegisterRespService

/-- What the outside world does in one `Register`. -/
structure HttpEnv where
  /-- `client.Do`: the response to a request, or an error. -/
  send : Request → Except String Response
  /-- `plist.Unmarshal` into a `RegisterResp`. -/
  unmarshal : List UInt8 → Except String RegisterResp

/-- `Register`: the request it sent, if any, and what it returns.
`marshal` is `plist.Marshal` of the request, `softwareVersion` its
`SoftwareVersion`. -/
def register (sha1 : List UInt8 → List UInt8) (base64 : List UInt8 → String) (env : HttpEnv)
    (marshal : Except String (List UInt8)) (softwareVersion : String) (pushKey : RsaKey) :
    Option Request × Except String RegisterResp :=
  match marshal with
  | .error err => (none, .error s!"failed to marshal register request: {err}")
  | .ok body =>
    let httpReq : Request := ⟨methodPost, idsRegisterURL, body, []⟩
    let httpReq := httpReq.setHeader "Content-Type" "application/x-apple-plist"
    let httpReq := httpReq.setHeader "X-Protocol-Version" protocolVersion
    let httpReq := httpReq.setHeader "User-Agent" s!"com.apple.invitation-registration [{softwareVersion}]"
    match signRequest sha1 base64 httpReq body pushKey with
    | .error err => (none, .error s!"failed to sign request: {err}")
    | .ok httpReq =>
      match env.send httpReq with
      | .error err => (some httpReq, .error s!"failed to send register request: {err}")
      | .ok resp =>
        if resp.statusCode ≠ 200 then
          (some httpReq, .error
            s!"register request failed with status {resp.statusCode}: {Messaging.Session.goString resp.body}")
        else
          match resp.readError with
          | some err => (some httpReq, .error s!"failed to read response body: {err}")
          | none =>
            match env.unmarshal resp.body with
            | .error err => (some httpReq, .error s!"failed to unmarshal register response: {err}")
            | .ok registerResp =>
              if registerResp.status ≠ 0 then
                (some httpReq, .error
                  s!"registration failed with status {registerResp.status}: {registerResp.message}")
              else (some httpReq, .ok registerResp)

end Ids

end IMessageClient
