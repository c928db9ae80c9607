import Atra.Money
import Atra.RpcProxy
/-!
# RpcReplies — what a forwarded post is answered with

The requests of an accepted post are those of its body, in its order, and the reply to the `i`-th carries that request's id
and what an upstream reply numbered `i` says, whatever else the upstream sent; without one it is the gateway's own error.
-/
namespace Atra.RpcProxy

open Js Money

/-! ## The requests of a body -/

/-- The requests a body asks: each item of an array, or the body itself. -/
inductive Requested : Json → Bool → List RpcRequest → Prop
  | batch {items : List Json} {requests : List RpcRequest} (h : items.map parseRequest = requests.map some) :
    Requested (.arr items) true requests
  | single {item : Json} {request : RpcRequest} (hne : ∀ items, item ≠ .arr items) (h : parseRequest item = some request) :
    Requested item false [request]

theorem map_parse_of_mapM {f : Json × Nat → Except Refusal RpcRequest}
    (hf : ∀ item index request, f (item, index) = .ok request → parseRequest item = some request) {items : List Json}
    {requests : List RpcRequest} {k : Nat} (h : (items.zipIdx k).mapM f = .ok requests) :
    items.map parseRequest = requests.map some := by
  induction items generalizing k requests with
  | nil =>
    obtain rfl : [] = requests := Except.ok.inj h
    rfl
  | cons item items ih =>
    rw [List.zipIdx_cons, List.mapM_cons] at h
    obtain ⟨request, hrequest, h⟩ := bind_ok.1 h
    obtain ⟨rest, hrest, h⟩ := bind_ok.1 h
    obtain rfl := pure_ok.1 h
    rw [List.map_cons, List.map_cons, hf _ _ _ hrequest, ih hrest]

/-- The items of a body, and whether they came as a batch. -/
def bodyItems : Json → Bool × List Json
  | .arr items => (true, items)
  | item => (false, [item])

def checkItems (env : Env) (isBatch : Bool) (rawItems : List Json) : Except Refusal (Bool × List RpcRequest) := do
  if rawItems.length = 0 then throw .emptyBatch
  if rawItems.length > MAX_BATCH then throw (.batchTooLarge rawItems.length)
  let requests ← rawItems.zipIdx.mapM fun (item, index) =>
    match parseRequest item with
    | some request => pure request
    | none => throw (.invalidRequest index (env.issue item))
  pure (isBatch, requests)

theorem readRequests_some (env : Env) (parsed : Json) :
    readRequests env (some parsed) = checkItems env (bodyItems parsed).1 (bodyItems parsed).2 := by
  cases parsed with
  | null => rfl
  | bool b => rfl
  | int n => rfl
  | real printed => rfl
  | str s => rfl
  | arr items => rfl
  | obj members => rfl

theorem checkItems_ok {env : Env} {isBatch isBatch' : Bool} {rawItems : List Json} {requests : List RpcRequest}
    (h : checkItems env isBatch rawItems = .ok (isBatch', requests)) :
    isBatch' = isBatch ∧ rawItems.map parseRequest = requests.map some := by
  have hf : ∀ item index request,
      (match parseRequest item with
      | some request => pure request
      | none => throw (.invalidRequest index (env.issue item)) : Except Refusal RpcRequest) = .ok request →
        parseRequest item = some request := by
    intro item index request hok
    cases hitem : parseRequest item with
    | none =>
      rw [hitem] at hok
      cases hok
    | some found =>
      rw [hitem] at hok
      rw [Except.ok.inj hok]
  unfold checkItems at h
  by_cases hempty : rawItems.length = 0
  · rw [if_pos hempty] at h
    cases h
  · rw [if_neg hempty] at h
    by_cases hlarge : rawItems.length > MAX_BATCH
    · rw [if_pos hlarge] at h
      cases h
    · rw [if_neg hlarge] at h
      obtain ⟨found, hmap, h⟩ := bind_ok.1 h
      obtain ⟨rfl, rfl⟩ := Prod.mk.inj (pure_ok.1 h)
      exact ⟨rfl, map_parse_of_mapM hf hmap⟩

theorem requested_of_ok {env : Env} {body : Option Json} {isBatch : Bool} {requests : List RpcRequest}
    (h : readRequests env body = .ok (isBatch, requests)) : ∃ parsed, body = some parsed ∧ Requested parsed isBatch requests := by
  cases body with
  | none => cases h
  | some parsed =>
    rw [readRequests_some] at h
    obtain ⟨rfl, hmap⟩ := checkItems_ok h
    refine ⟨parsed, rfl, ?_⟩
    have hsingle : (bodyItems parsed) = (false, [parsed]) → (∀ items, parsed ≠ .arr items) →
        Requested parsed (bodyItems parsed).1 requests := by
      intro hitems hne
      rw [hitems] at hmap ⊢
      cases requests with
      | nil => cases hmap
      | cons request rest =>
        obtain ⟨hrequest, hrest⟩ := List.cons.inj hmap
        obtain rfl := List.map_eq_nil_iff.1 hrest.symm
        exact .single hne hrequest
    cases parsed with
    | null => exact hsingle rfl (by rintro items ⟨⟩)
    | bool b => exact hsingle rfl (by rintro items ⟨⟩)
    | int n => exact hsingle rfl (by rintro items ⟨⟩)
    | real printed => exact hsingle rfl (by rintro items ⟨⟩)
    | str s => exact hsingle rfl (by rintro items ⟨⟩)
    | arr items => exact .batch hmap
    | obj members => exact hsingle rfl (by rintro items ⟨⟩)

/-! ## Accepted posts -/

variable {env : Env} {p : Post} {chain : ChainId} {isBatch : Bool} {requests : List RpcRequest}

theorem requested_of_accept (h : accept env p = .ok (chain, isBatch, requests)) :
    chainOf p.chain = some chain ∧ ∃ body, p.body = some body ∧ Requested body isBatch requests := by
  obtain ⟨hchain, hread⟩ := accept_ok h
  exact ⟨hchain, requested_of_ok hread⟩

/-! ## Replies -/

/-- A JSON-RPC reply. -/
def envelope (id : Json) (member : String) (value : Json) : Json :=
  .obj [(text "jsonrpc", .str (text "2.0")), (text "id", id), (text member, value)]

/-- The error of a request the upstream did not answer. -/
def noResponse : Json :=
  .obj [(text "code", .int (-32603)), (text "message", .str (text "the upstream returned no response for this request"))]

/-- The replies in what the upstream sent: its elements, or the one it is. -/
def upstreamReplies : Json → List Json
  | .arr items => items
  | item => [item]

def Numbered (i : Nat) (reply : Json) : Prop := reply.get (text "id") = some (.int i)

/-- **A reply under an id** that says what an upstream reply numbered `i` says, or that there was none. -/
inductive AnswerTo (upstream : Json) (i : Nat) (id : Json) : Json → Prop
  | error {up error : Json} (hup : up ∈ upstreamReplies upstream) (hnumber : Numbered i up)
    (h : up.get (text "error") = some error) : AnswerTo upstream i id (envelope id "error" error)
  | result {up : Json} (hup : up ∈ upstreamReplies upstream) (hnumber : Numbered i up)
    (h : up.get (text "error") = none) :
    AnswerTo upstream i id (envelope id "result" ((up.get (text "result")).getD .null))
  | missing (h : ∀ up ∈ upstreamReplies upstream, ¬ Numbered i up) : AnswerTo upstream i id (envelope id "error" noResponse)

/-- One reply to each request, in their order, under its own id. -/
structure Answers (upstream : Json) (requests : List RpcRequest) (replies : List Json) : Prop where
  length : replies.length = requests.length
  each : ∀ i request, requests[i]? = some request →
    ∃ reply, replies[i]? = some reply ∧ AnswerTo upstream i (request.id.getD .null) reply

/-- The number an upstream reply is filed under. -/
def isNumbered (i : Nat) (reply : Json) : Bool :=
  match reply.get (text "id") with
  | some (.int n) => n = i
  | _ => false

theorem isNumbered_iff {i : Nat} {reply : Json} : isNumbered i reply = true ↔ Numbered i reply := by
  unfold isNumbered Numbered
  constructor
  · intro h
    split at h
    · rename_i n hid
      rw [hid, of_decide_eq_true h]
    · cases h
  · intro h
    rw [h]
    exact decide_eq_true rfl

theorem replyUnder_eq (upstream : Json) (i : Nat) :
    replyUnder upstream i = (upstreamReplies upstream).reverse.find? (isNumbered i) := by
  cases upstream <;> rfl

theorem replyFor_some (id up : Json) : replyFor id (some up) = match up.get (text "error") with
    | some error => envelope id "error" error
    | none => envelope id "result" ((up.get (text "result")).getD .null) := rfl

/-- **What a request is replied to** is what the upstream says under its number. -/
theorem answerTo_replyFor (upstream : Json) (i : Nat) (id : Json) :
    AnswerTo upstream i id (replyFor id (replyUnder upstream i)) := by
  rw [replyUnder_eq]
  cases hreply : (upstreamReplies upstream).reverse.find? (isNumbered i) with
  | none =>
    rw [List.find?_eq_none] at hreply
    exact .missing fun up hup hnumber => hreply up (List.mem_reverse.2 hup) (isNumbered_iff.2 hnumber)
  | some up =>
    have hup := List.mem_reverse.1 (List.mem_of_find?_eq_some hreply)
    have hnumber := isNumbered_iff.1 (List.find?_some hreply)
    rw [replyFor_some]
    cases herror : up.get (text "error") with
    | none => exact .result hup hnumber herror
    | some error => exact .error hup hnumber herror

def repliesTo (upstream : Json) (requests : List RpcRequest) : List Json :=
  requests.zipIdx.map fun (request, index) => replyFor (request.id.getD .null) (replyUnder upstream index)

/-- The text of the replies, scrubbed where the upstream is keyed. -/
def relayedText (env : Env) (chain : ChainId) (isBatch : Bool) (replies : List Json) : Text :=
  let out := stringify (if isBatch then .arr replies else replies.headD .null)
  if (upstreamUrl env chain).2 then scrubUpstream env out (upstreamUrl env chain).1 else out

/-- What is queued for the cache after a single request was forwarded. -/
def queued (env : Env) (chain : ChainId) (isBatch : Bool) (requests : List RpcRequest) (upstream : Json) :
    Option (Text × Json) :=
  (cacheable env chain isBatch requests).bind fun (_, key) =>
    ((repliesTo upstream requests).head?.bind resultOf).map fun result => (key, result)

theorem forward_ok {upstream : UpstreamResult} {body : Json} (h : upstream = .ok body) :
    forward env chain isBatch requests upstream =
      .ok (.relayed (relayedText env chain isBatch (repliesTo body requests)), queued env chain isBatch requests body) := by
  rw [h]
  rfl

theorem forward_error {upstream : UpstreamResult} (h : ∀ body, upstream ≠ .ok body) :
    ∃ refusal, forward env chain isBatch requests upstream = .error refusal := by
  cases upstream with
  | ok body => exact absurd rfl (h body)
  | rateLimited retryAfter => exact ⟨_, rfl⟩
  | http status => exact ⟨_, rfl⟩
  | unreachable => exact ⟨_, rfl⟩
  | notJson => exact ⟨_, rfl⟩
  | tooLarge => exact ⟨_, rfl⟩

end Atra.RpcProxy
