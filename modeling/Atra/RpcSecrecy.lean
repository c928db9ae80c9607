import Atra.RpcProxy
/-!
# RpcSecrecy — where a keyed upstream's URL can reach a client

The scrub keeps the URL and its key parts out of everything that is relayed, whatever the upstream answers.  Outside the scrub
a response is the gateway's own words around what it quotes: a cached result, a request's id, a refused method, a number of
the upstream's.  A run keeps the URL secret exactly when none of these holds a part of it.
-/
namespace Atra.RpcProxy

open Js Redaction

/-- What a response quotes without scrubbing it. -/
def Reply.quoted : Reply → List Text
  | .refused refusal => (compose refusal.pieces).quoted
  | .hit id result => [stringify id, stringify result]
  | .relayed _ => []

/-- The response to the event quotes no text that has a part of that URL. -/
def Quiet (env : Env) (c : Cache) : Event → Prop
  | .post p => ∀ chain url, chainOf p.chain = some chain → upstreamUrl env chain = (url, true) →
      ∀ part ∈ keyParts env url, ∀ q ∈ (serve env c p).1.quoted, ¬ part <:+: q
  | _ => True

variable {env : Env} {c : Cache} {p : Post} {part url out : Text}

end Atra.RpcProxy
