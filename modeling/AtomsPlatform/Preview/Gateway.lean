import AtomsPlatform.Lib.Assignments
import AtomsPlatform.Lib.Url
import AtomsPlatform.Preview.RoundTrip

/-!
# The preview gateway

The server in front of previews: the host of a request carries a ticket, the ticket names a session, and the
request is forwarded to the target of that session with the headers of the target. A WebSocket upgrade takes
the same way. `serve_stays_on_target` says where a request can go, and with which headers.
-/

namespace AtomsPlatform.Preview.Gateway
open Assignments
attribute [local instance] Splitting.lawfulBEq_text

section Headers

/-- The name of a header in lower case. Names are tokens, so their characters are of ASCII. -/
def lower (name : String) : String :=
  String.ofList (name.toList.map Char.toLower)

/-- The value of a header, or of a header that is kept line by line. -/
inductive HeaderValue where
  | single :
    (value : Utf16) → HeaderValue
  | many :
    (values : List Utf16) → HeaderValue
deriving DecidableEq, Repr

/-- Source `IncomingHttpHeaders`, the properties in their order. A name that is a number comes earlier in
    the object, but it has only one spelling. -/
abbrev IncomingHttpHeaders : Type :=
  List (String × HeaderValue)

/-- Assigning a value to `__proto__` leaves an object as it is, if the value is a string. -/
def protoName : String :=
  "__proto__"

/-- `headers[name] = value` -/
def setProperty (headers : IncomingHttpHeaders) (header : String × HeaderValue) : IncomingHttpHeaders :=
  if header.1 = protoName then headers else assign headers header.1 header.2

/-- A request as it arrives. -/
structure IncomingMessage where
  url : Option String
  method : Option String
  rawHeaders : List (String × Utf16)
deriving DecidableEq, Repr

/-- How the server joins the lines of one header: its name in lower case, its value so far, and the line. -/
abbrev JoinLines : Type :=
  String → Option HeaderValue → Utf16 → HeaderValue

/-- One line of the headers that arrive. -/
def addHeaderLine (join : JoinLines) (headers : IncomingHttpHeaders) (line : String × Utf16) :
    IncomingHttpHeaders :=
  setProperty headers (lower line.1, join (lower line.1) (headers.lookup (lower line.1)) line.2)

/-- `request.headers`: the names are in lower case. -/
def IncomingMessage.headers (join : JoinLines) (message : IncomingMessage) : IncomingHttpHeaders :=
  message.rawHeaders.foldl (addHeaderLine join) []

/-- The value of a header that has one line. -/
def headerOf (headers : IncomingHttpHeaders) (name : String) : Option Utf16 :=
  match headers.lookup name with
  | some (.single value) => some value
  | _ => none

/-- Source `hopByHopHeaders`. -/
def hopByHopHeaders : List String :=
  ["connection", "keep-alive", "proxy-authenticate", "proxy-authorization", "te", "trailer",
    "transfer-encoding", "upgrade"]

end Headers

section Target

/-- Source `PreviewTarget`, as its schema leaves it. The schema copies the record of headers by assignments,
    so none of them has the name `__proto__`. -/
structure PreviewTarget where
  sessionId : String
  upstreamUrl : String
  requestHeaders : List (String × Utf16)
  proper : ∀ header ∈ requestHeaders, header.1 ≠ protoName

/-- The errors of a request: source `GatewayRequestError`, or any other one. -/
inductive GatewayError where
  | gatewayRequest :
    (statusCode : Nat) → (message : String) → GatewayError
  | other
deriving DecidableEq, Repr

/-- Source `PreviewGatewayOptions`, with the clock of the signer, the parsers of hosts and the lines that the
    server joins. Reading the store may throw. -/
structure PreviewGatewayOptions where
  primitives : Primitives
  signer : PreviewTicketSigner
  now : Int
  store : String → Except Unit (Option PreviewTarget)
  hosts : Whatwg.HostParsers
  join : JoinLines

/-- Source `resolveTarget`. -/
def resolveTarget (options : PreviewGatewayOptions) (host : Option Utf16) :
    Except GatewayError PreviewTarget :=
  match host with
  | none => .error (.gatewayRequest 401 "Missing host")
  | some host =>
    match options.signer.verifyHost options.primitives options.now host with
    | .error (.expiredTicket _) => .error (.gatewayRequest 410 "Invalid preview ticket")
    | .error (.invalidHost _) => .error (.gatewayRequest 401 "Invalid preview ticket")
    | .error (.invalidSignature _) => .error (.gatewayRequest 401 "Invalid preview ticket")
    | .error .zod => .error .other
    | .ok ticket =>
      match options.store ticket.sessionId with
      | .error _ => .error .other
      | .ok none => .error (.gatewayRequest 404 "Preview session not found")
      | .ok (some target) =>
        if target.sessionId ≠ ticket.sessionId then
          .error (.gatewayRequest 404 "Preview session not found")
        else .ok target

/-- Whether a path is in origin form. -/
def isOriginForm (path : List Char) : Bool :=
  ['/'].isPrefixOf path && !(['/', '/'].isPrefixOf path) && !(['/', '\\'].isPrefixOf path)

/-- Source `upstreamRequestUrl`. -/
def upstreamRequestUrl (hosts : Whatwg.HostParsers) (requestUrl : Option String)
    (target : PreviewTarget) : Except GatewayError Whatwg.Url :=
  let path := (requestUrl.getD "/").toList
  if isOriginForm path = false then .error (.gatewayRequest 400 "Invalid preview request")
  else
    match Whatwg.parse hosts target.upstreamUrl.toList with
    | none => .error .other
    | some upstream =>
      match Whatwg.resolve hosts upstream path with
      | none => .error .other
      | some url =>
        if url.origin ≠ upstream.origin then .error (.gatewayRequest 400 "Invalid preview request")
        else .ok url

/-- The headers that the gateway passes on, and its own. -/
def passedHeaders (incoming : IncomingHttpHeaders) (originalHost : Option Utf16)
    (upstreamHost : List Char) : IncomingHttpHeaders :=
  let headers := (incoming.filter fun header => lower header.1 ∉ hopByHopHeaders).foldl setProperty []
  let headers := setProperty headers ("host", .single (Utf16.ofString (String.ofList upstreamHost)))
  let headers := setProperty headers ("x-forwarded-host", .single (originalHost.getD []))
  setProperty headers ("x-forwarded-proto", .single (Utf16.ofString "https"))

/-- The headers of a target, as they are assigned. -/
def PreviewTarget.entries (target : PreviewTarget) : IncomingHttpHeaders :=
  target.requestHeaders.map fun header => (header.1, .single header.2)

/-- Source `requestHeaders`. -/
def requestHeaders (incoming : IncomingHttpHeaders) (target : PreviewTarget) (originalHost : Option Utf16)
    (upstreamHost : List Char) : IncomingHttpHeaders :=
  target.entries.foldl setProperty (passedHeaders incoming originalHost upstreamHost)

end Target

section Forwarding

/-- A request to an upstream, with the headers that were set for it. -/
structure OutgoingRequest where
  url : Whatwg.Url
  method : String
  headers : IncomingHttpHeaders
deriving DecidableEq, Repr

/-- What the upstream receives under a name, in any spelling: the header that was set last. -/
def OutgoingRequest.received (request : OutgoingRequest) (name : String) : Option HeaderValue :=
  latest lower (lower name) request.headers

/-- The characters of tokens. -/
def isTokenCharacter (c : Char) : Bool :=
  c.isAlphanum || c ∈ "^_`-!#$%&'*+.|~".toList

/-- Names of headers that can be set. -/
def isHeaderName (name : String) : Bool :=
  name.toList ≠ [] && name.toList.all isTokenCharacter

/-- Values of headers that can be set. -/
def isHeaderText (value : Utf16) : Bool :=
  value.all fun u => u.toNat = 9 || (0x20 ≤ u.toNat && u.toNat ≤ 0xFF && u.toNat ≠ 0x7F)

def HeaderValue.isValid : HeaderValue → Bool
  | .single value => isHeaderText value
  | .many values => values.all isHeaderText

/-- `httpRequest(url, { method, headers })`, or `httpsRequest` for its protocol. It throws for another
    protocol, and for a header that cannot be set. -/
def transport (url : Whatwg.Url) (method : Option String) (headers : IncomingHttpHeaders) :
    Except GatewayError OutgoingRequest :=
  if url.protocol ∉ ["http:".toList, "https:".toList] then .error .other
  else if headers.any fun header => !isHeaderName header.1 || !header.2.isValid then .error .other
  else .ok ⟨url, method.getD "GET", headers⟩

variable (options : PreviewGatewayOptions) (message : IncomingMessage)

/-- The request that the server forwards. -/
def proxyRequest : Except GatewayError OutgoingRequest := do
  let incoming := message.headers options.join
  let host := headerOf incoming "host"
  let target ← resolveTarget options host
  let upstreamUrl ← upstreamRequestUrl options.hosts message.url target
  transport upstreamUrl message.method (requestHeaders incoming target host upstreamUrl.hostAndPort)

/-- The headers of an upgrade. -/
def upgradeHeaders (incoming headers : IncomingHttpHeaders) : IncomingHttpHeaders :=
  let headers := setProperty headers ("connection", .single (Utf16.ofString "Upgrade"))
  setProperty headers
    ("upgrade", (incoming.lookup "upgrade").getD (.single (Utf16.ofString "websocket")))

/-- Source `proxyUpgrade`, until the request is sent. -/
def proxyUpgrade : Except GatewayError OutgoingRequest := do
  let incoming := message.headers options.join
  let host := headerOf incoming "host"
  let target ← resolveTarget options host
  let upstreamUrl ← upstreamRequestUrl options.hosts message.url target
  let headers := requestHeaders incoming target host upstreamUrl.hostAndPort
  transport upstreamUrl message.method (upgradeHeaders incoming headers)

/-- Source `publicErrorMessage`. -/
def publicErrorMessage (statusCode : Nat) : String :=
  if statusCode = 400 then "Invalid preview request"
  else if statusCode = 401 then "Invalid preview URL"
  else if statusCode = 404 then "Preview not found"
  else if statusCode = 410 then "Preview expired"
  else "Preview gateway error"

/-- Source `statusText`. -/
def statusText (statusCode : Nat) : String :=
  if statusCode = 400 then "Bad Request"
  else if statusCode = 401 then "Unauthorized"
  else if statusCode = 404 then "Not Found"
  else if statusCode = 410 then "Gone"
  else "Bad Gateway"

/-- The status of an error. -/
def GatewayError.statusCode (unexpected : Nat) : GatewayError → Nat
  | .gatewayRequest statusCode _ => statusCode
  | .other => unexpected

/-- What the gateway does with a request: it is healthy, it answers with an error, or it forwards. -/
inductive Answer where
  | healthy
  | failed :
    (statusCode : Nat) → (message : String) → Answer
  | forwarded :
    OutgoingRequest → Answer
deriving DecidableEq, Repr

/-- The events of the server that it has a listener for. -/
inductive ServerEvent where
  | request
  | upgrade
deriving DecidableEq, Repr

/-- The listeners of source `buildPreviewGateway`. -/
def serve : ServerEvent → Answer
  | .request =>
    if message.url = some "/healthz" then .healthy
    else
      match proxyRequest options message with
      | .error error => .failed (error.statusCode 500) (publicErrorMessage (error.statusCode 500))
      | .ok request => .forwarded request
  | .upgrade =>
    match proxyUpgrade options message with
    | .error error => .failed (error.statusCode 502) (statusText (error.statusCode 502))
    | .ok request => .forwarded request

end Forwarding

section Property
variable (options : PreviewGatewayOptions) (message : IncomingMessage)

/-- The host of a request carries the ticket of a session, signed, and not expired. -/
def CarriesTicket (sessionId : String) : Prop :=
  ∃ host time label, headerOf (message.headers options.join) "host" = some host ∧
    normalizeHost options.primitives host = options.signer.host label ∧
    IssuedLabel options.primitives options.signer options.now sessionId time label

/-- The headers that the gateway sets itself on upgrades. -/
def upgradeNames : List String :=
  ["connection", "upgrade"]

/-- A request stays on the target of its ticket: it goes to the origin of the target, a header of the target
    arrives with a value that the target has for it, and none of the connection to the client does. -/
structure StaysOnTarget (event : ServerEvent) (request : OutgoingRequest) (target : PreviewTarget) :
    Prop where
  ticket : CarriesTicket options message target.sessionId
  stored : options.store target.sessionId = .ok (some target)
  origin : ∃ upstream, Whatwg.parse options.hosts target.upstreamUrl.toList = some upstream ∧
    request.url.origin = upstream.origin ∧ upstream.origin ≠ none
  headers : ∀ header ∈ target.requestHeaders, (event = .upgrade → lower header.1 ∉ upgradeNames) →
    ∃ other ∈ target.requestHeaders, lower other.1 = lower header.1 ∧
      request.received header.1 = some (.single other.2)
  hopByHop : event = .request → ∀ name value, lower name ∈ hopByHopHeaders →
    request.received name = some value →
      ∃ header ∈ target.requestHeaders, lower header.1 = lower name ∧ value = .single header.2

end Property

section Copied
variable {headers added all : IncomingHttpHeaders} {header other : String × HeaderValue}
  {name spelling : String}

@[simp]
lemma lower_lower : lower (lower name) = lower name := by
  rw [lower, lower, String.toList_ofList, List.map_map]
  exact congrArg String.ofList (List.map_congr_left fun c _ => Whatwg.toLower_toLower)

lemma mem_setProperty (mem : other ∈ setProperty headers header) : other = header ∨ other ∈ headers := by
  rw [setProperty] at mem
  split at mem
  · exact .inr mem
  · exact mem_assign mem

lemma mem_copied (mem : other ∈ added.foldl setProperty headers) : other ∈ added ∨ other ∈ headers := by
  induction added generalizing headers with
  | nil => exact .inr mem
  | cons header added ih =>
    rcases ih mem with later | before
    · exact .inl (List.mem_cons_of_mem _ later)
    · rcases mem_setProperty before with rfl | there
      · exact .inl List.mem_cons_self
      · exact .inr there

/-- The names of the headers that arrive are in lower case. -/
lemma headers_lower {join : JoinLines} {message : IncomingMessage} (mem : header ∈ message.headers join) :
    lower header.1 = header.1 := by
  have lines (rawHeaders : List (String × Utf16)) (before : IncomingHttpHeaders)
      (lowered : ∀ header ∈ before, lower header.1 = header.1) :
      ∀ header ∈ rawHeaders.foldl (addHeaderLine join) before, lower header.1 = header.1 := by
    induction rawHeaders generalizing before with
    | nil => exact lowered
    | cons line rawHeaders ih =>
      apply ih
      intro header mem
      rcases mem_setProperty mem with rfl | there
      · exact lower_lower
      · exact lowered header there
  exact lines message.rawHeaders [] (fun _ none => by cases none) header mem

lemma latest_setProperty_ne (different : lower header.1 ≠ spelling) :
    latest lower spelling (setProperty headers header) = latest lower spelling headers := by
  rw [setProperty]
  split
  · rfl
  · exact latest_assign_ne different

/-- What is read under a name is one of some headers. -/
def ReadFrom (all : IncomingHttpHeaders) (spelling : String) (headers : IncomingHttpHeaders) : Prop :=
  ∃ header ∈ all, lower header.1 = spelling ∧ latest lower spelling headers = some header.2

lemma ReadFrom.setProperty (read : ReadFrom all spelling headers) (mem : header ∈ all) :
    ReadFrom all spelling (setProperty headers header) := by
  obtain ⟨old, inside, same, found⟩ := read
  rw [Gateway.setProperty]
  split
  · exact ⟨old, inside, same, found⟩
  · by_cases is : lower header.1 = spelling
    · have either : latest lower spelling (assign headers header.1 header.2) = some header.2 ∨
          latest lower spelling (assign headers header.1 header.2) = latest lower spelling headers :=
        latest_assign_cases
      rcases either with now | before
      · exact ⟨header, mem, is, now⟩
      · exact ⟨old, inside, same, before.trans found⟩
    · exact ⟨old, inside, same, (latest_assign_ne is).trans found⟩

lemma ReadFrom.copied (read : ReadFrom all spelling headers) (among : ∀ header ∈ added, header ∈ all) :
    ReadFrom all spelling (added.foldl Gateway.setProperty headers) := by
  induction added generalizing headers with
  | nil => exact read
  | cons header added ih =>
    exact ih (read.setProperty (among header List.mem_cons_self))
      fun other mem => among other (List.mem_cons_of_mem _ mem)

/-- Headers that are copied over others are read, whatever their spelling, if the others are in lower
    case. -/
lemma readFrom_copied (proper : ∀ header ∈ added, header.1 ≠ protoName)
    (lowered : ∀ header ∈ headers, lower header.1 = header.1) (among : ∀ header ∈ added, header ∈ all)
    (mem : header ∈ added) : ReadFrom all (lower header.1) (added.foldl setProperty headers) := by
  -- until the name comes up, the properties that have it have it in lower case
  have plain : ∀ other ∈ headers, lower other.1 = lower header.1 → other.1 = lower header.1 :=
    fun other inside same => (lowered other inside).symm.trans same
  clear lowered
  induction added generalizing headers with
  | nil => cases mem
  | cons first added ih =>
    have later := fun other mem => among other (List.mem_cons_of_mem first mem)
    by_cases is : lower first.1 = lower header.1
    · have now : latest lower (lower header.1) (setProperty headers first) = some first.2 := by
        rw [setProperty, if_neg (proper first List.mem_cons_self), ← is]
        apply latest_assign_self
        intro here other inside same
        obtain ⟨old, there, named⟩ := List.mem_map.mp here
        have spelled : first.1 = lower header.1 := by
          rw [← named]
          exact plain old there (named ▸ is)
        rw [spelled]
        exact plain other inside (same.trans is)
      have read : ReadFrom all (lower header.1) (setProperty headers first) :=
        ⟨first, among first List.mem_cons_self, is, now⟩
      exact read.copied later
    · have mem : header ∈ added := by
        rcases List.mem_cons.mp mem with rfl | mem
        · exact absurd rfl is
        · exact mem
      refine ih (fun other mem => proper other (List.mem_cons_of_mem _ mem)) later mem ?_
      intro other inside same
      rcases mem_setProperty inside with rfl | there
      · exact absurd same is
      · exact plain other there same

end Copied

section Forwarded
variable {options : PreviewGatewayOptions} {message : IncomingMessage} {target : PreviewTarget}
  {host : Option Utf16} {url : Whatwg.Url} {request : OutgoingRequest} {incoming : IncomingHttpHeaders}
  {upstreamHost : List Char} {name : String} {value : HeaderValue} {header : String × HeaderValue}

/-- The target of a ticket. -/
lemma resolveTarget_ok (resolved : resolveTarget options host = .ok target) :
    ∃ text time label, host = some text ∧
      normalizeHost options.primitives text = options.signer.host label ∧
      IssuedLabel options.primitives options.signer options.now target.sessionId time label ∧
      options.store target.sessionId = .ok (some target) := by
  unfold resolveTarget at resolved
  split at resolved
  · cases resolved
  · rename_i text
    split at resolved
    · cases resolved
    · cases resolved
    · cases resolved
    · cases resolved
    · rename_i ticket verified
      split at resolved
      · cases resolved
      · cases resolved
      · rename_i found stored
        split at resolved
        · cases resolved
        · rename_i same
          rw [ne_eq, not_not] at same
          cases resolved
          obtain ⟨label, whole, issued⟩ := verifyHost_ok verified
          rw [same]
          exact ⟨text, ticket.expiresAt, label, rfl, whole, issued, stored⟩

lemma upstreamRequestUrl_ok {hosts : Whatwg.HostParsers} {requestUrl : Option String}
    (resolved : upstreamRequestUrl hosts requestUrl target = .ok url) :
    ∃ upstream, Whatwg.parse hosts target.upstreamUrl.toList = some upstream ∧
      url.origin = upstream.origin := by
  rw [upstreamRequestUrl] at resolved
  split at resolved
  · cases resolved
  · split at resolved
    · cases resolved
    · rename_i upstream parsed
      split at resolved
      · cases resolved
      · split at resolved
        · cases resolved
        · rename_i same
          cases resolved
          exact ⟨upstream, parsed, not_not.mp same⟩

/-- A request is sent as it is, and to an origin. -/
lemma transport_ok {method : Option String} {headers : IncomingHttpHeaders}
    (sent : transport url method headers = .ok request) :
    request.url = url ∧ request.headers = headers ∧ url.origin ≠ none := by
  rw [transport] at sent
  split at sent
  · cases sent
  · rename_i web
    split at sent
    · cases sent
    · cases sent
      refine ⟨rfl, rfl, ?_⟩
      rw [not_not] at web
      have scheme : url.scheme = "http".toList ∨ url.scheme = "https".toList := by
        rcases List.mem_cons.mp web with http | web
        · exact .inl (List.append_cancel_right http)
        · exact .inr (List.append_cancel_right (List.mem_singleton.mp web))
      rw [Whatwg.Url.origin]
      rcases scheme with http | https
      · rw [http]
        nofun
      · rw [https]
        nofun

/-- The names of the headers that the gateway sets for every request. -/
def gatewayNames : List String :=
  ["host", "x-forwarded-host", "x-forwarded-proto"]

lemma gatewayNames_lower : ∀ name ∈ gatewayNames, lower name = name ∧ name ∉ hopByHopHeaders := by
  decide

lemma mem_passedHeaders (mem : header ∈ passedHeaders incoming host upstreamHost) :
    (header ∈ incoming ∧ lower header.1 ∉ hopByHopHeaders) ∨ header.1 ∈ gatewayNames := by
  rw [passedHeaders] at mem
  rcases mem_setProperty mem with rfl | mem
  · exact .inr (List.mem_cons_of_mem _ (List.mem_cons_of_mem _ List.mem_cons_self))
  · rcases mem_setProperty mem with rfl | mem
    · exact .inr (List.mem_cons_of_mem _ List.mem_cons_self)
    · rcases mem_setProperty mem with rfl | mem
      · exact .inr List.mem_cons_self
      · rcases mem_copied mem with kept | none
        · obtain ⟨arrived, keep⟩ := List.mem_filter.mp kept
          exact .inl ⟨arrived, of_decide_eq_true keep⟩
        · cases none

/-- A header of the connection to the client is not passed on. -/
lemma mem_requestHeaders (mem : header ∈ requestHeaders incoming target host upstreamHost)
    (hop : lower header.1 ∈ hopByHopHeaders) : header ∈ target.entries := by
  rcases mem_copied mem with own | passed
  · exact own
  · rcases mem_passedHeaders passed with ⟨-, keep⟩ | gateway
    · exact absurd hop keep
    · obtain ⟨lowered, keep⟩ := gatewayNames_lower header.1 gateway
      exact absurd (lowered ▸ hop) keep

/-- The headers of the target are read, whatever arrived. -/
lemma readFrom_requestHeaders (lowered : ∀ header ∈ incoming, lower header.1 = header.1)
    (mem : header ∈ target.entries) :
    ReadFrom target.entries (lower header.1) (requestHeaders incoming target host upstreamHost) := by
  refine readFrom_copied ?_ ?_ (fun _ mem => mem) mem
  · intro header mem
    obtain ⟨own, mem, is⟩ := List.mem_map.mp mem
    rw [← is]
    exact target.proper own mem
  · intro header mem
    rcases mem_passedHeaders mem with ⟨arrived, -⟩ | gateway
    · exact lowered header arrived
    · exact (gatewayNames_lower header.1 gateway).1

/-- An upgrade sets two headers more. -/
lemma ReadFrom.upgraded {all headers : IncomingHttpHeaders} (read : ReadFrom all name headers)
    (other : name ∉ upgradeNames) : ReadFrom all name (upgradeHeaders incoming headers) := by
  obtain ⟨own, inside, same, found⟩ := read
  have lowered : ∀ name ∈ upgradeNames, lower name = name := by
    decide
  refine ⟨own, inside, same, ?_⟩
  rw [upgradeHeaders, latest_setProperty_ne, latest_setProperty_ne]
  · exact found
  · intro is
    rw [lowered _ List.mem_cons_self] at is
    exact other (is ▸ List.mem_cons_self)
  · intro is
    rw [lowered _ (List.mem_cons_of_mem _ List.mem_cons_self)] at is
    exact other (is ▸ List.mem_cons_of_mem _ List.mem_cons_self)

end Forwarded

section Serve
variable {options : PreviewGatewayOptions} {message : IncomingMessage} {target : PreviewTarget}
  {url : Whatwg.Url} {request : OutgoingRequest} {event : ServerEvent}

/-- The headers that are sent for an event. -/
def sentHeaders (event : ServerEvent) (incoming headers : IncomingHttpHeaders) : IncomingHttpHeaders :=
  match event with
  | .request => headers
  | .upgrade => upgradeHeaders incoming headers

lemma bind_ok {α β ε : Type} {x : Except ε α} {f : α → Except ε β} {b : β} (ok : x >>= f = .ok b) :
    ∃ a, x = .ok a ∧ f a = .ok b := by
  cases x with
  | error error => cases ok
  | ok a => exact ⟨a, rfl, ok⟩

/-- What is forwarded was resolved and sent. -/
lemma serve_forwarded (forwarded : serve options message event = .forwarded request) :
    ∃ target url, resolveTarget options (headerOf (message.headers options.join) "host") = .ok target ∧
      upstreamRequestUrl options.hosts message.url target = .ok url ∧
      transport url message.method (sentHeaders event (message.headers options.join)
        (requestHeaders (message.headers options.join) target
          (headerOf (message.headers options.join) "host") url.hostAndPort)) = .ok request := by
  cases event with
  | request =>
    rw [serve] at forwarded
    split at forwarded
    · cases forwarded
    · cases sent : proxyRequest options message with
      | error error =>
        rw [sent] at forwarded
        cases forwarded
      | ok request =>
        rw [sent] at forwarded
        cases forwarded
        obtain ⟨target, resolved, sent⟩ := bind_ok sent
        obtain ⟨url, addressed, sent⟩ := bind_ok sent
        exact ⟨target, url, resolved, addressed, sent⟩
  | upgrade =>
    rw [serve] at forwarded
    cases sent : proxyUpgrade options message with
    | error error =>
      rw [sent] at forwarded
      cases forwarded
    | ok request =>
      rw [sent] at forwarded
      cases forwarded
      obtain ⟨target, resolved, sent⟩ := bind_ok sent
      obtain ⟨url, addressed, sent⟩ := bind_ok sent
      exact ⟨target, url, resolved, addressed, sent⟩

lemma serve_healthy_iff :
    serve options message event = .healthy ↔ event = .request ∧ message.url = some "/healthz" := by
  cases event with
  | request =>
    rw [serve]
    by_cases probe : message.url = some "/healthz"
    · rw [if_pos probe]
      exact ⟨fun _ => ⟨rfl, probe⟩, fun _ => rfl⟩
    · rw [if_neg probe]
      refine ⟨fun healthy => ?_, fun both => absurd both.2 probe⟩
      cases sent : proxyRequest options message with
      | error error =>
        rw [sent] at healthy
        cases healthy
      | ok request =>
        rw [sent] at healthy
        cases healthy
  | upgrade =>
    rw [serve]
    refine ⟨fun healthy => ?_, fun both => by cases both.1⟩
    cases sent : proxyUpgrade options message with
    | error error =>
      rw [sent] at healthy
      cases healthy
    | ok request =>
      rw [sent] at healthy
      cases healthy

end Serve

/-- Apart from the health probe, every request is refused with an error or stays on the target of its
    ticket. -/
theorem serve_stays_on_target (options : PreviewGatewayOptions) (message : IncomingMessage)
    (event : ServerEvent) :
    (serve options message event = .healthy ↔ event = .request ∧ message.url = some "/healthz") ∧
    ∀ request, serve options message event = .forwarded request →
      ∃ target, StaysOnTarget options message event request target := by
  refine ⟨?_, ?_⟩
  · exact serve_healthy_iff
  · intro request forwarded
    obtain ⟨target, url, resolved, addressed, sent⟩ := serve_forwarded forwarded
    obtain ⟨text, time, label, arrived, whole, issued, stored⟩ := resolveTarget_ok resolved
    obtain ⟨upstream, parsed, same⟩ := upstreamRequestUrl_ok addressed
    obtain ⟨rfl, headers, origin⟩ := transport_ok sent
    refine ⟨target, ⟨text, time, label, arrived, whole, issued⟩, stored,
      ⟨upstream, parsed, same, same ▸ origin⟩, ?_, ?_⟩
    · intro header mem other
      have read : ReadFrom target.entries (lower header.1) request.headers := by
        rw [headers]
        have inside : (header.1, HeaderValue.single header.2) ∈ target.entries :=
          List.mem_map.mpr ⟨header, mem, rfl⟩
        have passed : ReadFrom target.entries (lower (header.1, HeaderValue.single header.2).1)
            (requestHeaders (message.headers options.join) target
              (headerOf (message.headers options.join) "host") request.url.hostAndPort) :=
          readFrom_requestHeaders (fun _ => headers_lower) inside
        cases event with
        | request => exact passed
        | upgrade => exact passed.upgraded (other rfl)
      obtain ⟨entry, inside, spelled, found⟩ := read
      obtain ⟨own, mem, is⟩ := List.mem_map.mp inside
      cases is
      exact ⟨own, mem, spelled, found⟩
    · intro plain name value hop found
      cases plain
      obtain ⟨spelling, inside, same⟩ := latest_mem found
      rw [headers] at inside
      obtain ⟨own, mem, is⟩ := List.mem_map.mp (mem_requestHeaders inside (same ▸ hop))
      cases is
      exact ⟨own, mem, same, rfl⟩

section Scenario

/-- A gateway whose store has one target; of several lines of a header the first one counts. -/
def exampleGateway (target : PreviewTarget) : PreviewGatewayOptions where
  primitives := nodePrimitives
  signer := exampleSigner
  now := 500
  store _ := .ok (some target)
  hosts := Whatwg.asciiHosts
  join _ before line := before.getD (.single line)

/-- A target of the session with headers. -/
def exampleTarget (requestHeaders : List (String × Utf16))
    (proper : ∀ header ∈ requestHeaders, header.1 ≠ protoName) : PreviewTarget where
  sessionId := exampleSession
  upstreamUrl := "http://a.b"
  requestHeaders := requestHeaders
  proper := proper

/-- A request with the ticket of a label. -/
def exampleMessage (label : Utf16) : IncomingMessage where
  url := some "/"
  method := some "GET"
  rawHeaders := [("Host", exampleSigner.host label)]

/-- The address that the requests of the example are forwarded to. -/
def exampleUrl : Whatwg.Url where
  scheme := "http".toList
  host := some "a.b".toList
  path := .segments [[]]

variable {label : Utf16} {target : PreviewTarget} {headers : List (String × Utf16)}
  {proper : ∀ header ∈ headers, header.1 ≠ protoName} {event : ServerEvent} {request : OutgoingRequest}

lemma exampleSession_verified : ∃ label,
    exampleSigner.verifyHost nodePrimitives 500 (exampleSigner.host label) = .ok ⟨exampleSession, 1000⟩ ∧
      isHeaderText (exampleSigner.host label) = true := by
  obtain ⟨label, -, issued⟩ := exampleSession_issued
  have lowered : exampleSession.toList.map Char.toLower = exampleSession.toList := by decide
  refine ⟨label, ?_, ?_⟩
  · rw [issued.verifyHost (by decide), lowered, String.ofList_toList, if_pos rfl]
  · have plain : ∀ u ∈ hyphen :: base36.symbols, isHeaderText [u] = true :=
      List.all_iff_forall_prop.mp (by decide)
    have domain : isHeaderText (dot :: exampleSigner.baseDomain) = true := by decide
    have front : isHeaderText label = true := by
      refine List.all_eq_true.mpr fun u mem => ?_
      have one := plain u (List.mem_cons.mpr (issued.dnsLabel.2.1 u mem))
      rw [isHeaderText, List.all_cons, List.all_nil, Bool.and_true] at one
      exact one
    rw [PreviewTicketSigner.host, isHeaderText, List.all_append, Bool.and_eq_true]
    exact ⟨front, domain⟩

lemma exampleMessage_headers : (exampleMessage label).headers (exampleGateway target).join =
    [("host", .single (exampleSigner.host label))] := by
  have lowered : lower "Host" = "host" := by decide
  simp [IncomingMessage.headers, exampleMessage, addHeaderLine, lowered, setProperty, protoName, assign,
    exampleGateway]

lemma exampleUrl_resolved :
    upstreamRequestUrl Whatwg.asciiHosts (some "/") (exampleTarget headers proper) = .ok exampleUrl := by
  have parsed : Whatwg.parse Whatwg.asciiHosts "http://a.b".toList = some exampleUrl := by decide
  have resolved : Whatwg.resolve Whatwg.asciiHosts exampleUrl "/".toList = some exampleUrl := by
    decide
  have originForm : isOriginForm "/".toList = true := by decide
  rw [upstreamRequestUrl, Option.getD_some, originForm, if_neg Bool.true_eq_false.mp, exampleTarget, parsed]
  dsimp only
  rw [resolved]
  exact if_neg (not_not.mpr rfl)

/-- The headers that are passed on with the ticket of a label. -/
def exampleHeaders (label : Utf16) : IncomingHttpHeaders :=
  [("host", .single (Utf16.ofString "a.b")), ("x-forwarded-host", .single (exampleSigner.host label)),
    ("x-forwarded-proto", .single (Utf16.ofString "https"))]

lemma exampleHeaders_passed : passedHeaders [("host", .single (exampleSigner.host label))]
    (some (exampleSigner.host label)) exampleUrl.hostAndPort = exampleHeaders label := by
  have lowered : lower "host" = "host" := by decide
  have place : String.ofList exampleUrl.hostAndPort = "a.b" := by decide
  simp [passedHeaders, lowered, hopByHopHeaders, setProperty, protoName, assign, place, replace, exampleHeaders]

/-- A request with a ticket is forwarded to its target. -/
lemma example_forwarded
    (verified : exampleSigner.verifyHost nodePrimitives 500 (exampleSigner.host label) =
      .ok ⟨exampleSession, 1000⟩)
    (sent : transport exampleUrl (some "GET") (sentHeaders event
      [("host", .single (exampleSigner.host label))]
      ((exampleTarget headers proper).entries.foldl setProperty (exampleHeaders label))) = .ok request) :
    serve (exampleGateway (exampleTarget headers proper)) (exampleMessage label) event =
      .forwarded request := by
  have resolved : resolveTarget (exampleGateway (exampleTarget headers proper))
      (some (exampleSigner.host label)) = .ok (exampleTarget headers proper) := by
    unfold resolveTarget
    show (match exampleSigner.verifyHost nodePrimitives 500 (exampleSigner.host label) with
      | .error (.expiredTicket _) => _
      | .error (.invalidHost _) => _
      | .error (.invalidSignature _) => _
      | .error .zod => _
      | .ok ticket => _) = _
    rw [verified]
    exact if_neg (not_not.mpr rfl)
  have arrived : headerOf [("host", HeaderValue.single (exampleSigner.host label))] "host" =
      some (exampleSigner.host label) := rfl
  cases event with
  | request =>
    have forwarded : proxyRequest (exampleGateway (exampleTarget headers proper)) (exampleMessage label) =
        .ok request := by
      rw [proxyRequest, exampleMessage_headers, arrived, resolved]
      show (upstreamRequestUrl Whatwg.asciiHosts (some "/") (exampleTarget headers proper) >>= _) = _
      rw [exampleUrl_resolved]
      show transport exampleUrl (some "GET") (requestHeaders _ _ _ _) = _
      rw [requestHeaders, exampleHeaders_passed]
      exact sent
    have proxied : (exampleMessage label).url ≠ some "/healthz" := by
      show some "/" ≠ some "/healthz"
      decide
    rw [serve, if_neg proxied, forwarded]
  | upgrade =>
    have forwarded : proxyUpgrade (exampleGateway (exampleTarget headers proper)) (exampleMessage label) =
        .ok request := by
      rw [proxyUpgrade, exampleMessage_headers, arrived, resolved]
      show (upstreamRequestUrl Whatwg.asciiHosts (some "/") (exampleTarget headers proper) >>= _) = _
      rw [exampleUrl_resolved]
      show transport exampleUrl (some "GET") (upgradeHeaders _ (requestHeaders _ _ _ _)) = _
      rw [requestHeaders, exampleHeaders_passed]
      exact sent
    rw [serve, forwarded]

lemma example_sent {added : IncomingHttpHeaders} (text : isHeaderText (exampleSigner.host label) = true)
    (valid : (added.any fun header => !isHeaderName header.1 || !header.2.isValid) = false) :
    transport exampleUrl (some "GET") (exampleHeaders label ++ added) =
      .ok ⟨exampleUrl, "GET", exampleHeaders label ++ added⟩ := by
  have web : exampleUrl.protocol ∈ ["http:".toList, "https:".toList] := by decide
  have names : ∀ name ∈ gatewayNames, isHeaderName name = true := by decide
  have texts : isHeaderText (Utf16.ofString "a.b") = true ∧ isHeaderText (Utf16.ofString "https") = true := by
    decide
  have passed : ((exampleHeaders label).any fun header => !isHeaderName header.1 || !header.2.isValid) =
      false := by
    simp [exampleHeaders, HeaderValue.isValid, text, texts, names "host" (by decide),
      names "x-forwarded-host" (by decide), names "x-forwarded-proto" (by decide)]
  rw [transport, if_neg (not_not.mpr web), List.any_append, passed, valid]
  rfl

/-- A target with one header in two spellings. -/
def spelledTarget : PreviewTarget :=
  exampleTarget [("x-token", Utf16.ofString "a"), ("X-Token", Utf16.ofString "b")] (by decide)

/-- A target with a header of the connection. -/
def closingTarget : PreviewTarget :=
  exampleTarget [("connection", Utf16.ofString "close")] (by decide)

/-- What an upgrade sets. -/
def exampleUpgrade : IncomingHttpHeaders :=
  [("connection", .single (Utf16.ofString "Upgrade")), ("upgrade", .single (Utf16.ofString "websocket"))]

/-- The gateway answers its health probe itself; of two spellings of one header of a target the later one
    arrives; and on an upgrade the connection is that of the gateway. -/
theorem probe_spellings_and_upgrades :
    (∃ options message, serve options message .request = .healthy) ∧
    (∃ label, ∃ request,
      serve (exampleGateway spelledTarget) (exampleMessage label) .request = .forwarded request ∧
        request.received "x-token" ≠ some (.single (Utf16.ofString "a"))) ∧
    ∃ label, ∃ request,
      serve (exampleGateway closingTarget) (exampleMessage label) .upgrade = .forwarded request ∧
        request.received "connection" ≠ some (.single (Utf16.ofString "close")) := by
  obtain ⟨label, verified, text⟩ := exampleSession_verified
  refine ⟨⟨exampleGateway spelledTarget, ⟨some "/healthz", none, []⟩, ?_⟩, ⟨label, ?_⟩, label, ?_⟩
  · exact serve_healthy_iff.mpr ⟨rfl, rfl⟩
  · refine ⟨⟨exampleUrl, "GET", exampleHeaders label ++ spelledTarget.entries⟩,
      example_forwarded verified ?_, ?_⟩
    · have added : spelledTarget.entries.foldl setProperty (exampleHeaders label) =
          exampleHeaders label ++ spelledTarget.entries := by
        simp [spelledTarget, exampleTarget, PreviewTarget.entries, setProperty, protoName, assign,
          exampleHeaders]
      show transport exampleUrl (some "GET") (spelledTarget.entries.foldl setProperty _) = _
      rw [added]
      exact example_sent text (by decide)
    · rw [OutgoingRequest.received, latest_append]
      have later : latest lower (lower "x-token") spelledTarget.entries =
          some (.single (Utf16.ofString "b")) := by
        decide
      rw [later, Option.some_or]
      decide
  · refine ⟨⟨exampleUrl, "GET", exampleHeaders label ++ exampleUpgrade⟩,
      example_forwarded verified ?_, ?_⟩
    · have added : sentHeaders .upgrade [("host", .single (exampleSigner.host label))]
          (closingTarget.entries.foldl setProperty (exampleHeaders label)) =
          exampleHeaders label ++ exampleUpgrade := by
        simp [closingTarget, exampleTarget, PreviewTarget.entries, setProperty, protoName, assign, replace,
          sentHeaders, upgradeHeaders, exampleHeaders, exampleUpgrade, List.lookup]
      show transport exampleUrl (some "GET")
        (sentHeaders .upgrade _ (closingTarget.entries.foldl setProperty _)) = _
      rw [added]
      exact example_sent text (by decide)
    · rw [OutgoingRequest.received, latest_append]
      have later : latest lower (lower "connection") exampleUpgrade =
          some (.single (Utf16.ofString "Upgrade")) := by
        decide
      rw [later, Option.some_or]
      decide

end Scenario

end AtomsPlatform.Preview.Gateway
