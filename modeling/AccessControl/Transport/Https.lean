import AccessControl.File.Volume
import AccessControl.Json.Reader
import AccessControl.Text.Base64
import AccessControl.Transport.Service
import AccessControl.Trust.Certificate
import AccessControl.Trust.Pem

namespace AccessControl

def maxResponseBytes : Nat := 1048576

def jsonMediaType : String := "application/json"

namespace Attempt

def url (a : Attempt) : String :=
  a.endpoint.url a.config

-- The fields that vouch for the sender: those of the URL come first.
def authorization (a : Attempt) (url : Http.Url) : String :=
  let bearer := "Bearer " ++ a.config.apiToken
  match url.credentials? with
  | some (user, password) =>
    "Basic " ++ String.ofList (Base64.encode (Utf8.encodeString (user ++ ":" ++ password))) ++ ", " ++
      bearer
  | none => bearer

def request (a : Attempt) (url : Http.Url) : Http.Request :=
  let body := a.payload.compact
  { method := "POST"
    target := url.target
    headers :=
      [("accept", jsonMediaType), ("authorization", a.authorization url),
        ("content-length", toString (Utf8.length body)), ("content-type", jsonMediaType),
        ("host", url.authority), ("user-agent", a.config.userAgent),
        (RequestId.header, a.call.requestId.text)]
    body }

end Attempt

def maxUrl : Nat := 65534

-- The URL as failures name it: without what it says of the sender.
def shownUrl (url : Http.Url) : String :=
  (if url.credentials?.isSome then url.withoutCredentials else url).text

-- Reads the authorities that a configuration names. Not to be able to is an error, never a reason to
-- trust others instead.
def readAuthorities (file : Volume.Reader) (path : String) (id : RequestId) :
    Except AccessError (List Bytes) :=
  match file path with
  | .error e => .error (.config ("failed to read CA bundle " ++ path ++ ": " ++ e.message) id)
  | .ok pem =>
    match Pem.certificates? pem with
    | none => .error (.config ("invalid CA bundle " ++ path ++ ": builder error") id)
    | some certificates => .ok certificates

def checkSender (file : Volume.Reader) (c : Config) (id : RequestId) : Except AccessError Unit := do
  let authorities ← match c.validateSsl, c.caBundlePath with
    | true, some path => readAuthorities file path id
    | _, _ => .ok []
  if Http.isHeaderText c.userAgent && authorities.all Certificate.isWellFormed then .ok ()
  else .error (.unexpected "http client build failed: builder error" id)

def readResponse (a : Attempt) (r : Http.Response) : Run σ (Except AccessError Json) := do
  let id := a.call.requestId
  match r.read maxResponseBytes with
  | .error e =>
    let failure : TransportFailure := match e with
      | .tooLarge => .other "response exceeds size limit"
      | .broken => .other "failed to read response: request or response body error"
      | .timedOut => .timedOut
    return .error (.ofTransport failure a.config.timeout id)
  | .ok body =>
    a.config.log .debug "response_received" a.call
      ("HTTP " ++ toString r.status ++ ", " ++ toString body.length ++ " bytes")
    let text := Utf8.decodeStringLossy body
    if r.status ≠ 200 then return .error (.ofStatus r.status (some text) id)
    return (Json.read body).mapError fun e =>
      { kind := .network, message := "invalid JSON response: " ++ e.message,
        answer := some ⟨r.status, some text⟩, requestId := id }

def deliver (service : Service σ) (a : Attempt) (url : Http.Url) :
    Run σ (Except AccessError Json) := do
  let fail (f : TransportFailure) : Run σ (Except AccessError Json) :=
    return .error (.ofTransport f a.config.timeout a.call.requestId)
  let detail := "error sending request for url (" ++ shownUrl url ++ ")"
  match ← service.deliver url (a.request url) with
  | .refused => fail (.connect detail)
  | .failed => fail (.other detail)
  | .timedOut => fail .timedOut
  | .response r => readResponse a r

namespace Transport

-- The one transport that sends anything. Its timeouts are those within which a moment can be reckoned: of
-- one of 2 ^ 63 seconds or more nothing is said here.
def https (file : Volume.Reader) (service : Service σ) : Transport σ where
  send a := do
    let c := a.config
    let id := a.call.requestId
    if !c.validateSsl then
      c.log .warn "tls_verification_disabled" a.call
        "TLS certificate verification is disabled for this request"
    match checkSender file c id with
    | .error e => return .error e
    | .ok () =>
      if c.isCleartext then
        c.log .warn "cleartext_transport" a.call ("sending request over cleartext HTTP to " ++ a.url)
      c.log .debug "request_sent" a.call ("POST " ++ a.url)
      match Http.Url.read? a.url, Http.isHeaderText c.apiToken with
      | some url, true =>
        let shown := shownUrl url
        -- with no time at all, nothing gets as far as a request
        if c.timeout = 0 then return .error (.ofTransport .timedOut c.timeout id)
        if maxUrl < shown.length || !url.host.canBeAsked then
          return .error (.ofTransport (.other ("builder error for url (" ++ shown ++ ")")) c.timeout id)
        deliver service a url
      | _, _ => return .error (.ofTransport (.other "builder error") c.timeout id)

end Transport
end AccessControl
