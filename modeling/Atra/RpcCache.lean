import Atra.Delimited
import Atra.JsonText
import Atra.RpcReplies
/-!
# RpcCache — what the shared cache answers with

The cache of a data centre over time: a forwarded post queues its result, a write stores it with the time to live of its
method, and only entries within it are found.  Every entry was given by the upstream to an earlier single request, and its
key tells that request's chain, method and parameters when the digest is injective.
-/
namespace Atra.RpcProxy

open History Js Money

/-! ## The cache over time -/

/-- An entry of the cache, stored at a time, in milliseconds, for a number of seconds. -/
structure Entry where
  key : Text
  result : Json
  ttl : Nat
  storedAt : Int

def Entry.fresh (now : Int) (entry : Entry) : Bool := now - entry.storedAt ≤ 1000 * entry.ttl

/-- The entries, and the writes that are not through yet with their times to live. -/
structure Store where
  stored : List Entry
  writes : List (Text × Json × Nat)

/-- What is found in the cache at a time. -/
def Store.view (s : Store) (now : Int) : Cache := ⟨(s.stored.filter (Entry.fresh now)).map fun e => (e.key, e.result), []⟩

def serveAt (env : Env) (s : Store) (p : Post) (now : Int) : Reply × Option (Text × Json) := serve env (s.view now) p

/-- The time to live of a post's first request. -/
def ttlOf (env : Env) (p : Post) : Nat :=
  match accept env p with
  | .ok (_, _, single :: _) => cacheTtl single.method
  | _ => 0

inductive StoreEvent where
  | post (p : Post) (now : Int)
  /-- A queued write goes through. -/
  | write (i : Nat) (now : Int)
  /-- An entry is evicted, or was never readable. -/
  | evict (i : Nat)

def stepAt (env : Env) (s : Store) : StoreEvent → Store
  | .post p now =>
    { s with writes := s.writes ++ ((serveAt env s p now).2.map fun (key, result) => (key, result, ttlOf env p)).toList }
  | .write i now =>
    match s.writes[i]? with
    | some (key, result, ttl) =>
      ⟨⟨key, result, ttl, now⟩ :: s.stored.filter (fun entry => entry.key ≠ key), s.writes.eraseIdx i⟩
    | none => s
  | .evict i => { s with stored := s.stored.eraseIdx i }

def newStore : Store := ⟨[], []⟩

variable {env : Env} {p : Post} {chain : ChainId} {isBatch : Bool} {requests : List RpcRequest}

/-! ## What a post is served with -/

/-- The three ways an accepted post ends. -/
inductive Served (env : Env) (s : Store) (p : Post) (now : Int) (chain : ChainId) (isBatch : Bool)
    (requests : List RpcRequest) : Reply × Option (Text × Json) → Prop
  | hit {request : RpcRequest} {entry : Entry} (hbatch : isBatch = false) (hrequest : requests.head? = some request)
    (httl : 0 < cacheTtl request.method) (hentry : entry ∈ s.stored) (hfresh : entry.fresh now = true)
    (hkey : entry.key = cacheKey env chain request) :
    Served env s p now chain isBatch requests (.hit (request.id.getD .null) entry.result, none)
  | relayed {body : Json} (h : p.upstream = .ok body) :
    Served env s p now chain isBatch requests
      (.relayed (relayedText env chain isBatch (repliesTo body requests)), queued env chain isBatch requests body)
  | refused {refusal : Refusal} (h : ∀ body, p.upstream ≠ .ok body) :
    Served env s p now chain isBatch requests (.refused refusal, none)

theorem cacheable_some {request : RpcRequest} {key : Text}
    (h : cacheable env chain isBatch requests = some (request, key)) : isBatch = false ∧ requests.head? = some request ∧
      0 < cacheTtl request.method ∧ key = cacheKey env chain request := by
  unfold cacheable at h
  cases isBatch with
  | true => cases h
  | false =>
    rw [if_neg Bool.false_ne_true] at h
    obtain ⟨single, hsingle, heq⟩ := Option.map_eq_some_iff.1 h
    obtain ⟨rfl, rfl⟩ := Prod.mk.inj heq
    obtain ⟨hhead, httl⟩ := Option.filter_eq_some_iff.1 hsingle
    exact ⟨rfl, hhead, by simpa using httl, rfl⟩

theorem mem_of_lookup {s : Store} {now : Int} {key : Text} {result : Json}
    (h : (s.view now).stored.lookup key = some result) :
    ∃ entry ∈ s.stored, entry.fresh now = true ∧ entry.key = key ∧ entry.result = result := by
  obtain ⟨before, behind, hlist, -⟩ := List.lookup_eq_some_iff.1 h
  have hmem : (key, result) ∈ (s.view now).stored := by
    rw [hlist]
    exact List.mem_append_right _ List.mem_cons_self
  obtain ⟨entry, hentry, heq⟩ := List.mem_map.1 hmem
  obtain ⟨hstored, hfresh⟩ := List.mem_filter.1 hentry
  exact ⟨entry, hstored, hfresh, congrArg Prod.fst heq, congrArg Prod.snd heq⟩

theorem served (s : Store) (now : Int) (h : accept env p = .ok (chain, isBatch, requests)) :
    Served env s p now chain isBatch requests (serveAt env s p now) := by
  unfold serveAt serve
  rw [h]
  dsimp only
  split
  · rename_i request result hhit
    obtain ⟨⟨single, key⟩, hcacheable, hlookup⟩ := Option.bind_eq_some_iff.1 hhit
    obtain ⟨hit, hresult, heq⟩ := Option.map_eq_some_iff.1 hlookup
    obtain ⟨rfl, rfl⟩ := Prod.mk.inj heq
    obtain ⟨hbatch, hrequest, httl, rfl⟩ := cacheable_some hcacheable
    obtain ⟨entry, hentry, hfresh, hkey, rfl⟩ := mem_of_lookup hresult
    exact .hit hbatch hrequest httl hentry hfresh hkey
  · by_cases hbody : ∃ body, p.upstream = .ok body
    · obtain ⟨body, hbody⟩ := hbody
      rw [forward_ok hbody]
      exact .relayed hbody
    · obtain ⟨refusal, hrefusal⟩ := @forward_error env chain isBatch requests p.upstream (not_exists.1 hbody)
      rw [hrefusal]
      exact .refused (not_exists.1 hbody)

/-! ## What a key tells -/

/-- A result the upstream gave, under the number it was sent, to a single request that was forwarded in a run, with the key
and the time to live that request is cached under. -/
def Given (env : Env) (es : List StoreEvent) (chain : ChainId) (request : RpcRequest) (result : Json) : Prop :=
  ∃ before p now rest upstream up relayed, es = before ++ .post p now :: rest ∧
    accept env p = .ok (chain, false, [request]) ∧ p.upstream = .ok upstream ∧
    (serveAt env (after (stepAt env) newStore before) p now).1 = .relayed relayed ∧
    up ∈ upstreamReplies upstream ∧ Numbered 0 up ∧ up.get (text "error") = none ∧ up.get (text "result") = some result ∧
    result ≠ .null

/-- A given result was queued with its request's key and time to live. -/
def Queued (env : Env) (es : List StoreEvent) (key : Text) (result : Json) (ttl : Nat) : Prop :=
  ∃ chain request, Given env es chain request result ∧ 0 < cacheTtl request.method ∧ key = cacheKey env chain request ∧
    ttl = cacheTtl request.method

def Written (env : Env) (es : List StoreEvent) (entry : Entry) : Prop :=
  ∃ before i rest, es = before ++ .write i entry.storedAt :: rest ∧ Queued env before entry.key entry.result entry.ttl

theorem Queued.snoc {es : List StoreEvent} {e : StoreEvent} {key : Text} {result : Json} {ttl : Nat}
    (h : Queued env es key result ttl) : Queued env (es ++ [e]) key result ttl := by
  obtain ⟨chain, request, ⟨before, p, now, rest, upstream, up, relayed, rfl, hgiven⟩, hkey⟩ := h
  exact ⟨chain, request, ⟨before, p, now, rest ++ [e], upstream, up, relayed, by simp, hgiven⟩, hkey⟩

theorem Written.snoc {es : List StoreEvent} {e : StoreEvent} {entry : Entry} (h : Written env es entry) :
    Written env (es ++ [e]) entry := by
  obtain ⟨before, i, rest, rfl, hqueued⟩ := h
  exact ⟨before, i, rest ++ [e], by simp, hqueued⟩

theorem resultOf_result {id value result : Json} (h : resultOf (envelope id "result" value) = some result) :
    value = result ∧ result ≠ .null := by
  have hget : (envelope id "result" value).get (text "result") = some value := rfl
  unfold resultOf at h
  rw [hget] at h
  obtain ⟨heq, hnull⟩ := Option.filter_eq_some_iff.1 h
  obtain rfl := Option.some.inj heq
  refine ⟨rfl, ?_⟩
  rintro rfl
  cases hnull

theorem AnswerTo.resultOf_some {upstream id reply result : Json} {i : Nat} (h : AnswerTo upstream i id reply)
    (hresult : resultOf reply = some result) : result ≠ .null ∧ ∃ up ∈ upstreamReplies upstream, Numbered i up ∧
      up.get (text "error") = none ∧ up.get (text "result") = some result := by
  cases h with
  | error => cases hresult
  | @result up hup hnumber herror =>
    obtain ⟨hvalue, hnull⟩ := resultOf_result hresult
    refine ⟨hnull, up, hup, hnumber, herror, ?_⟩
    cases hget : up.get (text "result") with
    | none =>
      rw [hget] at hvalue
      exact absurd hvalue.symm hnull
    | some value =>
      rw [hget] at hvalue
      exact congrArg some hvalue
  | missing => cases hresult

/-- **What is queued** is the result the upstream gave to the one request. -/
theorem queued_some {upstream result : Json} {key : Text}
    (h : queued env chain isBatch requests upstream = some (key, result)) :
    ∃ request, isBatch = false ∧ requests.head? = some request ∧ 0 < cacheTtl request.method ∧
      key = cacheKey env chain request ∧ result ≠ .null ∧ ∃ up ∈ upstreamReplies upstream, Numbered 0 up ∧
      up.get (text "error") = none ∧ up.get (text "result") = some result := by
  unfold queued at h
  obtain ⟨⟨request, key'⟩, hcacheable, hresult⟩ := Option.bind_eq_some_iff.1 h
  obtain ⟨hbatch, hhead, httl, hkey⟩ := cacheable_some hcacheable
  obtain ⟨value, hvalue, heq⟩ := Option.map_eq_some_iff.1 hresult
  obtain ⟨rfl, rfl⟩ := Prod.mk.inj heq
  refine ⟨request, hbatch, hhead, httl, hkey, ?_⟩
  obtain ⟨reply, hreply, hof⟩ := Option.bind_eq_some_iff.1 hvalue
  cases requests with
  | nil => cases hhead
  | cons first rest =>
    obtain rfl := Option.some.inj hreply
    exact (answerTo_replyFor upstream 0 (first.id.getD .null)).resultOf_some hof

theorem single_of_accept {request : RpcRequest} (h : accept env p = .ok (chain, isBatch, requests)) (hbatch : isBatch = false)
    (hhead : requests.head? = some request) : requests = [request] := by
  obtain ⟨-, body, -, hrequested⟩ := requested_of_accept h
  cases hrequested with
  | batch => cases hbatch
  | single => rw [Option.some.inj hhead]

/-! ## Every entry was given -/

/-- Everything queued, and every entry, was given by the upstream. -/
structure Sound (env : Env) (es : List StoreEvent) (s : Store) : Prop where
  queued : ∀ w ∈ s.writes, Queued env es w.1 w.2.1 w.2.2
  written : ∀ entry ∈ s.stored, Written env es entry

theorem Sound.post {es : List StoreEvent} {now : Int} (h : Sound env es (after (stepAt env) newStore es)) :
    Sound env (es ++ [.post p now]) (stepAt env (after (stepAt env) newStore es) (.post p now)) := by
  refine ⟨fun w hw => ?_, fun entry hentry => (h.written entry hentry).snoc⟩
  rcases List.mem_append.1 hw with hw | hw
  · exact (h.queued w hw).snoc
  · obtain ⟨⟨key, result⟩, hwrite, rfl⟩ := Option.map_eq_some_iff.1 (Option.mem_toList.1 hw)
    cases haccept : accept env p with
    | error refusal =>
      have hnone : (serveAt env (after (stepAt env) newStore es) p now).2 = none := by
        unfold serveAt serve
        rw [haccept]
      rw [hnone] at hwrite
      cases hwrite
    | ok accepted =>
      obtain ⟨chain, isBatch, requests⟩ := accepted
      have hserved := served (after (stepAt env) newStore es) now haccept
      generalize hanswer : serveAt env (after (stepAt env) newStore es) p now = answer at hserved hwrite
      cases hserved with
      | hit => cases hwrite
      | refused => cases hwrite
      | @relayed upstream hupstream =>
        obtain ⟨request, hbatch, hhead, httl, hkey, hnull, up, hup, hnumber, herror, hresult⟩ := queued_some hwrite
        obtain rfl := single_of_accept haccept hbatch hhead
        subst hbatch
        have hof : ttlOf env p = cacheTtl request.method := by
          unfold ttlOf
          rw [haccept]
        exact ⟨chain, request, ⟨es, p, now, [], upstream, up, _, rfl, haccept, hupstream, congrArg Prod.fst hanswer, hup,
          hnumber, herror, hresult, hnull⟩, httl, hkey, hof⟩

theorem stepAt_write_none {s : Store} {i : Nat} {now : Int} (h : s.writes[i]? = none) : stepAt env s (.write i now) = s := by
  show (match s.writes[i]? with | some (key, result, ttl) => _ | none => s) = s
  rw [h]

theorem stepAt_write_some {s : Store} {i : Nat} {now : Int} {w : Text × Json × Nat} (h : s.writes[i]? = some w) :
    stepAt env s (.write i now) =
      ⟨⟨w.1, w.2.1, w.2.2, now⟩ :: s.stored.filter (fun entry => entry.key ≠ w.1), s.writes.eraseIdx i⟩ := by
  show (match s.writes[i]? with | some (key, result, ttl) => _ | none => s) = _
  rw [h]

theorem Sound.step {es : List StoreEvent} (h : Sound env es (after (stepAt env) newStore es)) (e : StoreEvent) :
    Sound env (es ++ [e]) (stepAt env (after (stepAt env) newStore es) e) := by
  cases e with
  | post p now => exact h.post
  | write i now =>
    cases hw : (after (stepAt env) newStore es).writes[i]? with
    | none =>
      rw [stepAt_write_none hw]
      exact ⟨fun w hw => (h.queued w hw).snoc, fun entry hentry => (h.written entry hentry).snoc⟩
    | some w =>
      rw [stepAt_write_some hw]
      refine ⟨fun w' hw' => (h.queued w' (List.mem_of_mem_eraseIdx hw')).snoc, fun entry hentry => ?_⟩
      rcases List.mem_cons.1 hentry with rfl | hentry
      · exact ⟨es, i, [], rfl, h.queued w (List.mem_of_getElem? hw)⟩
      · exact (h.written entry (List.mem_of_mem_filter hentry)).snoc
  | evict i =>
    exact ⟨fun w hw => (h.queued w hw).snoc, fun entry hentry => (h.written entry (List.mem_of_mem_eraseIdx hentry)).snoc⟩

theorem sound (env : Env) (es : List StoreEvent) : Sound env es (after (stepAt env) newStore es) := by
  induction es using List.reverseRecOn with
  | nil => exact ⟨fun w hw => (by cases hw), fun entry hentry => (by cases hentry)⟩
  | append_singleton es e ih =>
    rw [after_snoc]
    exact ih.step e

/-! ## What a post is answered with -/

end Atra.RpcProxy
