import Atra.GatewayPairing
import Atra.LiveProcess
/-!
# TelegramPairing — the runtime's own record of who may command it

The codes the dashboard issued, by hash, and the one link.  A code is consumed by the bot's own transport (`verify`) or by the
gateway's word (`confirmFromGateway`); either refuses an account other than the one on file, and the link goes by `unpair` alone.
-/
namespace Atra

inductive TransportKind where
  | gateway | direct
deriving DecidableEq, Repr

structure TelegramLink extends TelegramIdentity where
  transport : TransportKind
  pairedAt : Int
deriving DecidableEq, Repr

/-- A row of `telegram_pair_codes`. -/
structure PairCodeRow where
  codeHash : String
  transport : TransportKind
  createdAt : Int
  expiresAt : Int
  usedAt : Option Int
  invalidatedAt : Option Int
deriving DecidableEq, Repr

/-- The codes and the link of an installation. -/
structure Pairing where
  codes : Table PairCodeRow.codeHash
  link : Option TelegramLink

def PAIR_CODE_TTL_MS : Int := 5 * 60 * 1000

/-- `toUpperCase` of JavaScript, beside what the runtime takes from its host. -/
structure TextHost extends Host where
  toUpperCase : String → String

namespace PairingService

def noCodes : Pairing := ⟨.empty, none⟩

def pendingRow (r : PairCodeRow) : Bool := r.usedAt.isNone && r.invalidatedAt.isNone

def invalidate (now : Int) (r : PairCodeRow) : PairCodeRow :=
  { r with invalidatedAt := if pendingRow r then some now else r.invalidatedAt }

def retire (codes : Table PairCodeRow.codeHash) (now : Int) : Table PairCodeRow.codeHash :=
  codes.update (invalidate now) fun _ => rfl

def isCodeChar (c : Char) : Bool := ('A' ≤ c && c ≤ 'Z') || ('2' ≤ c && c ≤ '9')

/-- What the operator typed, in upper case with its dash, if it can be a code. -/
def normalizePairCode (host : TextHost) (input : String) : Option String :=
  let compact := (host.toUpperCase (String.ofList (Live.jsTrim input.toList))).toList.filter fun c =>
    c ≠ '-' && !Live.isJsSpace c
  if compact.length = 8 ∧ compact.all isCodeChar then some (String.ofList (compact.take 4 ++ '-' :: compact.drop 4))
  else none

def hashPairCode (host : TextHost) (code : String) : String :=
  host.sha256 (String.ofList ((host.toUpperCase code).toList.erase '-'))

/-- Issue a code, of which only the hash is kept; refused while a link exists. -/
def issue (p : Pairing) (transport : TransportKind) (codeHash : String) (now : Int) : Result Pairing :=
  match p.link with
  | some existing => throw ⟨.telegramAlreadyPaired, "Telegram is already paired with " ++ existing.displayName ++
      ". Unpair from the dashboard before pairing another account."⟩
  | none =>
    let retired := retire p.codes now
    if (retired.get codeHash).isSome then
      throw ⟨.internal, "UNIQUE constraint failed: telegram_pair_codes.code_hash"⟩
    else
      let issued := retired.put ⟨codeHash, transport, now, now + PAIR_CODE_TTL_MS, none, none⟩
      pure { p with codes := issued.keep fun r => !(r.expiresAt < now - 24 * 60 * 60 * 1000) }

/-- The unused code that expires last, to be offered again. -/
def pending (p : Pairing) (now : Int) : Option PairCodeRow :=
  ((p.codes.rows.filter fun r => pendingRow r && decide (now < r.expiresAt)).insertionSort
    fun a b => b.expiresAt ≤ a.expiresAt).head?

def writeLink (p : Pairing) (identity : TelegramIdentity) (transport : TransportKind) (pairedAt : Int) : Pairing :=
  { p with link := some { identity with displayName := jsSlice 128 identity.displayName, transport, pairedAt } }

/-- A link to another account than the one that asks. -/
def linkedElsewhere (p : Pairing) (identity : TelegramIdentity) : Bool :=
  p.link.any fun l => l.userId != identity.userId

inductive Refusal where
  | malformed | unknown | expired | used | superseded | alreadyPaired
deriving DecidableEq, Repr

/-- Why no row was consumed. -/
def refusalOf (p : Pairing) (codeHash : String) : Refusal :=
  match p.codes.get codeHash with
  | none => .unknown
  | some row => if row.usedAt.isSome then .used else if row.invalidatedAt.isSome then .superseded else .expired

/-- A code sent to the runtime's own bot: consumed, and its sender linked. -/
def verify (host : TextHost) (p : Pairing) (code : String) (identity : TelegramIdentity) (transport : TransportKind)
    (now : Int) : Pairing × Option Refusal :=
  match normalizePairCode host code with
  | none => (p, some .malformed)
  | some normalized =>
    let codeHash := hashPairCode host normalized
    if linkedElsewhere p identity then (p, some .alreadyPaired)
    else match (p.codes.get codeHash).filter fun r => pendingRow r && decide (now < r.expiresAt) with
      | none => (p, some (refusalOf p codeHash))
      | some row => (writeLink { p with codes := p.codes.put { row with usedAt := some now } } identity transport now, none)

def consume (now : Int) (r : PairCodeRow) : PairCodeRow :=
  { r with usedAt := if pendingRow r && decide (now < r.expiresAt) then some now else r.usedAt }

/-- The gateway says who paired: the pending code is consumed, and they are linked. -/
def confirmFromGateway (p : Pairing) (identity : TelegramIdentity) (pairedAt now : Int) : Pairing :=
  if linkedElsewhere p identity then p
  else writeLink { p with codes := p.codes.update (consume now) fun _ => rfl } identity .gateway pairedAt

def unpair (p : Pairing) (now : Int) : Pairing := { codes := retire p.codes now, link := none }

end PairingService
end Atra
