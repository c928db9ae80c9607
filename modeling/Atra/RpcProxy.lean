import Atra.History
import Atra.Json
import Atra.Redaction
import Atra.Registry
/-!
# RpcProxy — the gateway's read-only JSON-RPC proxy, its cache and its scrub

A request is refused in the gateway's own words, answered from the cache, or forwarded to the chain's upstream.  What a keyed
upstream answered is scrubbed of the upstream's URL and of its key parts; what the cache replays and what the gateway's own
words quote is not.  A key part that is apart from the gateway's own words reaches a client exactly where one of these
quotes it.
-/
namespace Atra.RpcProxy

open Js Redaction

def MAX_BATCH : Nat := 20

/-- Hard-coded on purpose: nothing in a request can choose where it goes. -/
def publicUrl : ChainId → Text
  | .base => text "https://mainnet.base.org"
  | .bsc => text "https://bsc-dataseed.bnbchain.org"
  | .robinhood => text "https://rpc.mainnet.chain.robinhood.com"
  | .solana => text "https://api.mainnet-beta.solana.com"

def EVM_READ_METHODS : List String :=
  ["eth_call", "eth_getBalance", "eth_blockNumber", "eth_getTransactionReceipt", "eth_getTransactionCount", "eth_gasPrice",
   "eth_feeHistory", "eth_estimateGas", "eth_getLogs", "eth_chainId", "net_version"]

def SOLANA_READ_METHODS : List String :=
  ["getBalance", "getAccountInfo", "getTokenAccountsByOwner", "getLatestBlockhash", "getSignatureStatuses", "getTransaction",
   "getSlot", "getGenesisHash", "getMinimumBalanceForRentExemption", "simulateTransaction"]

/-- Refused by name: anything that broadcasts, signs or moves funds. -/
def REFUSED_METHODS : List String :=
  ["eth_sendRawTransaction", "eth_sendTransaction", "eth_sendPrivateTransaction", "eth_sign", "eth_signTransaction",
   "eth_signTypedData", "eth_signTypedData_v3", "eth_signTypedData_v4", "personal_sign", "sendTransaction",
   "sendRawTransaction", "requestAirdrop"]

def CACHE_TTL_SECONDS : List (String × Nat) :=
  [("eth_chainId", 30), ("net_version", 30), ("getGenesisHash", 30), ("getMinimumBalanceForRentExemption", 30),
   ("eth_gasPrice", 10), ("eth_feeHistory", 10), ("eth_getLogs", 10), ("getTransaction", 10), ("eth_blockNumber", 5),
   ("eth_call", 5), ("eth_getBalance", 5), ("getBalance", 5), ("getAccountInfo", 5), ("getTokenAccountsByOwner", 5),
   ("getSlot", 5), ("getLatestBlockhash", 5)]

/-- What `new URL(text)` reads of a URL. -/
structure Url where
  protocol : String
  href : Text
  pathname : Text
  searchValues : List Text

/-- The secrets of the deployment, and what the platform and the schema library compute. -/
structure Env where
  secrets : ChainId → Option Text
  parseUrl : Text → Option Url
  sha256Hex : Text → Text
  issue : Json → Text

/-! ## The upstream and the scrub -/

/-- The upstream for a chain, and whether it is keyed; a malformed secret falls back to the public endpoint. -/
def upstreamUrl (env : Env) (chain : ChainId) : Text × Bool :=
  match (env.secrets chain).filter fun configured => (trim configured).length > 0 with
  | none => (publicUrl chain, false)
  | some configured =>
    match env.parseUrl (trim configured) with
    | some parsed =>
      if parsed.protocol = "https:" ∨ parsed.protocol = "http:" then (parsed.href, true) else (publicUrl chain, false)
    | none => (publicUrl chain, false)

def lastSegment (pathname : Text) : Option Text := ((pathname.splitOn 47).filter fun segment => segment ≠ []).getLast?

/-- The parts of a URL that look like a key: the tail of the path and the query values, of at least sixteen units. -/
def keyLike (env : Env) (url : Text) : List Text :=
  match env.parseUrl url with
  | none => []
  | some parsed => ((lastSegment parsed.pathname).toList ++ parsed.searchValues).filter fun part => part.length ≥ 16

def UPSTREAM : Text := text "[upstream]"

def REDACTED : Text := text "[redacted]"

/-- Remove a keyed upstream URL, and its key-looking parts, from a text that is about to leave the gateway. -/
def scrubUpstream (env : Env) (out url : Text) : Text :=
  (keyLike env url).foldl (fun out part => replaceAll part REDACTED out) (replaceAll url UPSTREAM out)

/-- What no response may contain: the URL and the parts of it that are scrubbed. -/
def keyParts (env : Env) (url : Text) : List Text := url :: keyLike env url

/-! ## Requests -/

structure RpcRequest where
  method : Text
  params : Option Json
  id : Option Json

/-- `params`: an array or an object. -/
def isParams : Json → Bool
  | .arr _ | .obj _ => true
  | _ => false

/-- `id`: a text of at most 128 units, a number or null. -/
def isRpcId : Json → Bool
  | .str s => s.length ≤ 128
  | .int _ | .real _ | .null => true
  | _ => false

def isVersion : Json → Bool
  | .str s => s = text "2.0"
  | _ => false

def parseRequest (item : Json) : Option RpcRequest :=
  match (item.get (text "jsonrpc")).filter isVersion, item.get (text "method") with
  | some _, some (.str method) =>
    if 1 ≤ method.length ∧ method.length ≤ 64 ∧ (item.get (text "params")).all isParams ∧ (item.get (text "id")).all isRpcId then
      some ⟨method, item.get (text "params"), item.get (text "id")⟩
    else none
  | _, _ => none

def oneOf (methods : List String) (method : Text) : Bool := methods.any fun m => text m = method

inductive MethodVerdict where
  | ok | refused | notAllowed
deriving DecidableEq

def checkMethod (chain : ChainId) (method : Text) : MethodVerdict :=
  if oneOf REFUSED_METHODS method then .refused
  else
    match chainFamily chain with
    | .evm => if oneOf EVM_READ_METHODS method then .ok else .notAllowed
    | .solana => if oneOf SOLANA_READ_METHODS method then .ok else .notAllowed

def cacheKey (env : Env) (chain : ChainId) (request : RpcRequest) : Text :=
  env.sha256Hex (text chain.name ++ 58 :: (request.method ++ 58 :: stringify (request.params.getD (.arr []))))

def cacheTtl (method : Text) : Nat := ((CACHE_TTL_SECONDS.find? fun entry => text entry.1 = method).map Prod.snd).getD 0

/-! ## Answers -/

inductive Auth where
  | authorized | notConfigured | noToken | unknownToken | scopeMissing
deriving DecidableEq

/-- The burst limiter and the daily quota. -/
inductive Guard where
  | allowed
  | rateLimited
  | quotaExceeded (limit used : Nat) (windowStart resetAt : Text) (retryAfter : Nat)

inductive UpstreamResult where
  | ok (body : Json)
  /-- With the number of its Retry-After header, as it is printed. -/
  | rateLimited (retryAfter : Text)
  | http (status : Nat)
  | unreachable
  | notJson
  | tooLarge

/-- A response in the gateway's own words, with what it quotes. -/
inductive Refusal where
  | notConfigured | noToken | unknownToken | scopeMissing
  | unknownChain (chain : Text)
  | notJson | emptyBatch
  | batchTooLarge (received : Nat)
  | invalidRequest (index : Nat) (issue : Text)
  | methodRefused (chain : ChainId) (method : Text)
  | methodNotAllowed (chain : ChainId) (method : Text)
  | rateLimited
  | quotaExceeded (limit used : Nat) (windowStart resetAt : Text) (retryAfter : Nat)
  | upstreamRateLimited (chain : ChainId) (retryAfter : Text)
  | upstreamError (chain : ChainId) (status : Nat)
  | upstreamTooLarge (chain : ChainId)
  | upstreamNotJson (chain : ChainId)
  | upstreamUnreachable (chain : ChainId)

inductive Reply where
  | refused (refusal : Refusal)
  /-- A result from the cache, under the request's own id. -/
  | hit (id result : Json)
  | relayed (body : Text)

def own (s : String) : Piece Nat := .own (text s)

def number (n : Nat) : Piece Nat := .quoted (text (toString n))

/-- The problem document; the extra members come with a comma before each. -/
def problem (status code title : String) (detail extra : List (Piece Nat)) : List (Piece Nat) :=
  own ("\x7b\"type\":\"https://atra.local/errors/" ++ code ++ "\",\"title\":\"" ++ title ++ "\",\"status\":" ++ status ++
      ",\"detail\":\"") ::
    detail ++ own ("\",\"code\":\"" ++ code ++ "\"") :: extra ++ [own "\x7d"]

/-- A quoted text as the content of a JSON string. -/
def quotedText (s : Text) : Piece Nat := .quoted (escapeAll s)

def chainMember (chain : ChainId) : Piece Nat := own (",\"chain\":\"" ++ chain.name ++ "\"")

def Refusal.pieces : Refusal → List (Piece Nat)
  | .notConfigured => problem "503" "not_configured" "Service unavailable" [own "the gateway is not configured"] []
  | .noToken => problem "401" "unauthorized" "Unauthorized" [own "a valid installation token is required"] []
  | .unknownToken =>
    problem "401" "unauthorized" "Unauthorized" [own "the installation token is unknown, expired or revoked"] []
  | .scopeMissing =>
    problem "403" "scope_missing" "Forbidden" [own "this token does not carry the \\\"rpc\\\" scope"] [own ",\"scope\":\"rpc\""]
  | .unknownChain chain =>
    problem "404" "unknown_chain" "Not found" [own "the gateway proxies base, bsc, robinhood and solana"]
      [own ",\"chain\":\"", quotedText chain, own "\""]
  | .notJson => problem "400" "not_json" "Bad request" [own "the body is not JSON"] []
  | .emptyBatch => problem "400" "empty_batch" "Bad request" [own "a batch must contain at least one request"] []
  | .batchTooLarge received =>
    problem "400" "batch_too_large" "Bad request" [own "a batch may contain at most 20 requests"]
      [own ",\"max\":20,\"received\":", number received]
  | .invalidRequest index issue =>
    problem "400" "invalid_request" "Bad request" [own "request ", number index, own " is not a JSON-RPC 2.0 request"]
      [own ",\"index\":", number index, own ",\"issue\":\"", quotedText issue, own "\""]
  | .methodRefused chain method =>
    problem "403" "method_refused" "Forbidden" [quotedText method,
        own (" is refused: the gateway never broadcasts or signs. The runtime broadcasts through its own RPC connection.")]
      [own ",\"method\":\"", quotedText method, own "\"", chainMember chain]
  | .methodNotAllowed chain method =>
    problem "403" "method_not_allowed" "Forbidden"
      [quotedText method, own (" is not on the read-only allowlist for " ++ chain.name)]
      [own ",\"method\":\"", quotedText method, own "\"", chainMember chain]
  | .rateLimited =>
    problem "429" "rate_limited" "Too many requests" [own "too many requests in a short window; retry after 10 s"]
      [own ",\"retryAfterSeconds\":10"]
  | .quotaExceeded limit used windowStart resetAt retryAfter =>
    problem "429" "quota_exceeded" "Quota exceeded"
      [own "the rpc quota of ", number limit, own " requests per UTC day is exhausted; it resets at ", quotedText resetAt]
      [own ",\"quota\":\"rpc\",\"limit\":", number limit, own ",\"used\":", number used,
        own ",\"window\":\"utc_day\",\"windowStart\":\"", quotedText windowStart, own "\",\"resetAt\":\"", quotedText resetAt,
        own "\",\"retryAfterSeconds\":", number retryAfter]
  | .upstreamRateLimited chain retryAfter =>
    problem "503" "upstream_rate_limited" "Service unavailable"
      [own ("the " ++ chain.name ++ " upstream is rate limiting; retry later or configure your own RPC URL")]
      [own ",\"retryAfterSeconds\":", .quoted retryAfter, chainMember chain]
  | .upstreamError chain status =>
    problem "502" "upstream_error" "Bad gateway" [own ("the " ++ chain.name ++ " upstream answered HTTP "), number status]
      [chainMember chain, own ",\"upstreamStatus\":", number status]
  | .upstreamTooLarge chain =>
    problem "502" "upstream_too_large" "Bad gateway"
      [own ("the " ++ chain.name ++ " upstream answered with more than 2 MB; narrow the request")]
      [chainMember chain, own ",\"maxBytes\":2097152"]
  | .upstreamNotJson chain =>
    problem "502" "upstream_unreachable" "Bad gateway" [own ("the " ++ chain.name ++ " upstream did not answer with JSON")]
      [chainMember chain]
  | .upstreamUnreachable chain =>
    problem "502" "upstream_unreachable" "Bad gateway" [own ("the " ++ chain.name ++ " upstream did not answer within 10 s")]
      [chainMember chain]

def hitPieces (id result : Json) : List (Piece Nat) :=
  [own "\x7b\"jsonrpc\":\"2.0\",\"id\":", .quoted (stringify id), own ",\"result\":", .quoted (stringify result), own "\x7d"]

def Reply.body : Reply → Text
  | .refused refusal => (compose refusal.pieces).text
  | .hit id result => (compose (hitPieces id result)).text
  | .relayed body => body

/-! ## Serving -/

def readRequests (env : Env) (body : Option Json) : Except Refusal (Bool × List RpcRequest) := do
  let parsed ← match body with
    | none => throw .notJson
    | some parsed => pure parsed
  let (isBatch, rawItems) := match parsed with
    | .arr items => (true, items)
    | item => (false, [item])
  if rawItems.length = 0 then throw .emptyBatch
  if rawItems.length > MAX_BATCH then throw (.batchTooLarge rawItems.length)
  let requests ← rawItems.zipIdx.mapM fun (item, index) =>
    match parseRequest item with
    | some request => pure request
    | none => throw (.invalidRequest index (env.issue item))
  pure (isBatch, requests)

/-- The first method that is not on the list refuses the whole request. -/
def checkMethods (chain : ChainId) (requests : List RpcRequest) : Except Refusal Unit :=
  requests.forM fun request =>
    match checkMethod chain request.method with
    | .ok => pure ()
    | .refused => throw (.methodRefused chain request.method)
    | .notAllowed => throw (.methodNotAllowed chain request.method)

/-- The last reply of the upstream under a number. -/
def replyUnder (body : Json) (index : Nat) : Option Json :=
  let list := match body with
    | .arr items => items
    | item => [item]
  list.reverse.find? fun reply =>
    match reply.get (text "id") with
    | some (.int n) => n = index
    | _ => false

def replyFor (id : Json) (reply : Option Json) : Json :=
  let envelope := fun member value => Json.obj [(text "jsonrpc", .str (text "2.0")), (text "id", id), (text member, value)]
  match reply with
  | none =>
    envelope "error" (.obj [(text "code", .int (-32603)),
      (text "message", .str (text "the upstream returned no response for this request"))])
  | some reply =>
    match reply.get (text "error") with
    | some error => envelope "error" error
    | none => envelope "result" ((reply.get (text "result")).getD .null)

/-- The cache of one data centre, and the writes that are not through yet. -/
structure Cache where
  stored : List (Text × Json)
  writes : List (Text × Json)

/-- A POST, with what authentication, the guard and the upstream answer to it. -/
structure Post where
  chain : Text
  auth : Auth
  body : Option Json
  guard : Guard
  upstream : UpstreamResult

def chainOf (name : Text) : Option ChainId := CHAIN_IDS.find? fun chain => text chain.name = name

def authorize : Auth → Except Refusal Unit
  | .authorized => pure ()
  | .notConfigured => throw .notConfigured
  | .noToken => throw .noToken
  | .unknownToken => throw .unknownToken
  | .scopeMissing => throw .scopeMissing

def guardProxy : Guard → Except Refusal Unit
  | .allowed => pure ()
  | .rateLimited => throw .rateLimited
  | .quotaExceeded limit used windowStart resetAt retryAfter =>
    throw (.quotaExceeded limit used windowStart resetAt retryAfter)

/-- The checks a request passes before the cache and the upstream see it. -/
def accept (env : Env) (p : Post) : Except Refusal (ChainId × Bool × List RpcRequest) := do
  authorize p.auth
  let chain ← match chainOf p.chain with
    | some chain => pure chain
    | none => throw (.unknownChain (p.chain.take 32))
  let (isBatch, requests) ← readRequests env p.body
  checkMethods chain requests
  guardProxy p.guard
  pure (chain, isBatch, requests)

theorem accept_ok {env : Env} {p : Post} {chain : ChainId} {isBatch : Bool} {requests : List RpcRequest}
    (h : accept env p = .ok (chain, isBatch, requests)) :
    chainOf p.chain = some chain ∧ readRequests env p.body = .ok (isBatch, requests) := by
  unfold accept at h
  obtain ⟨_, -, h⟩ := bind_ok.1 h
  cases hc : chainOf p.chain with
  | none =>
    rw [hc] at h
    cases h
  | some chain' =>
    rw [hc] at h
    obtain ⟨_, hpure, h⟩ := bind_ok.1 h
    obtain ⟨⟨isBatch', requests'⟩, hread, h⟩ := bind_ok.1 h
    obtain ⟨_, -, h⟩ := bind_ok.1 h
    obtain ⟨_, -, h⟩ := bind_ok.1 h
    obtain ⟨rfl, hrest⟩ := Prod.mk.inj (pure_ok.1 h)
    obtain ⟨rfl, rfl⟩ := Prod.mk.inj hrest
    exact ⟨congrArg some (pure_ok.1 hpure), hread⟩

/-- The request whose answer may be cached, with its key: single requests only, idempotent methods only. -/
def cacheable (env : Env) (chain : ChainId) (isBatch : Bool) (requests : List RpcRequest) : Option (RpcRequest × Text) :=
  if isBatch then none
  else (requests.head?.filter fun single => cacheTtl single.method > 0).map fun single => (single, cacheKey env chain single)

def fromUpstream (chain : ChainId) : UpstreamResult → Except Refusal Json
  | .ok body => pure body
  | .rateLimited retryAfter => throw (.upstreamRateLimited chain retryAfter)
  | .http status => throw (.upstreamError chain status)
  | .tooLarge => throw (.upstreamTooLarge chain)
  | .notJson => throw (.upstreamNotJson chain)
  | .unreachable => throw (.upstreamUnreachable chain)

/-- The result that is written to the cache: the value itself, as the upstream gave it. -/
def resultOf (reply : Json) : Option Json :=
  (reply.get (text "result")).filter fun result =>
    match result with
    | .null => false
    | _ => true

/-- Ask the upstream, queue the cache write and relay what it answered. -/
def forward (env : Env) (chain : ChainId) (isBatch : Bool) (requests : List RpcRequest) (upstream : UpstreamResult) :
    Except Refusal (Reply × Option (Text × Json)) := do
  let body ← fromUpstream chain upstream
  let replies := requests.zipIdx.map fun (request, index) => replyFor (request.id.getD .null) (replyUnder body index)
  let write := (cacheable env chain isBatch requests).bind fun (_, key) =>
    (replies.head?.bind resultOf).map fun result => (key, result)
  let out := stringify (if isBatch then .arr replies else replies.headD .null)
  let (url, keyed) := upstreamUrl env chain
  pure (.relayed (if keyed then scrubUpstream env out url else out), write)

def serve (env : Env) (c : Cache) (p : Post) : Reply × Option (Text × Json) :=
  match accept env p with
  | .error refusal => (.refused refusal, none)
  | .ok (chain, isBatch, requests) =>
    match (cacheable env chain isBatch requests).bind fun (single, key) => (c.stored.lookup key).map fun hit => (single, hit) with
    | some (single, hit) => (.hit (single.id.getD .null) hit, none)
    | none =>
      match forward env chain isBatch requests p.upstream with
      | .error refusal => (.refused refusal, none)
      | .ok answer => answer

/-! ## Runs -/

inductive Event where
  | post (p : Post)
  /-- A queued write goes through. -/
  | write (i : Nat)
  /-- An entry expires, is evicted or was never readable. -/
  | evict (key : Text)

def step (env : Env) (c : Cache) : Event → Cache
  | .post p => { c with writes := c.writes ++ (serve env c p).2.toList }
  | .write i =>
    match c.writes[i]? with
    | some entry => ⟨entry :: c.stored, c.writes.eraseIdx i⟩
    | none => c
  | .evict key => { c with stored := c.stored.filter fun entry => entry.1 ≠ key }

end Atra.RpcProxy
