import Atra.History
import Atra.Table
/-!
# GatewayPairing — pairing codes and Telegram links on the gateway

The two tables of the gateway and its statements on them, each atomic.  Redeeming a code takes four of them: the code is
consumed, the installation's link is read, the user's other links are read, and the link is written on what was read.  Any
number of redemptions run at once, between them the frames that offer and revoke codes (`step`).
-/
namespace Atra

structure TelegramIdentity where
  userId : Int
  chatId : Int
  displayName : String
deriving DecidableEq, Repr

namespace Gateway

/-- A row of `pair_codes`. -/
structure PairCode where
  codeHash : String
  installId : String
  expiresAt : Int
  usedAt : Option Int
  createdAt : Int
deriving DecidableEq, Repr

/-- A row of `tg_links`. -/
structure LinkRow where
  installId : String
  telegram : TelegramIdentity
  pairedAt : Int
deriving DecidableEq, Repr

structure D1 where
  pairCodes : Table PairCode.codeHash
  tgLinks : Table LinkRow.installId

def D1.empty : D1 := ⟨.empty, .empty⟩

def PAIR_OFFER_MAX_TTL_MS : Int := 10 * 60000

/-! ## The statements -/

def withoutUnused (db : D1) (installId : String) : Table PairCode.codeHash :=
  db.pairCodes.keep fun c => !(c.installId == installId && c.usedAt.isNone)

/-- Store an offered code in place of the installation's unused one; a hash another installation still offers is refused. -/
def storePairOffer (db : D1) (installId stored : String) (expiresAt now : Int) : D1 × Option Int :=
  let clamped := min expiresAt (now + PAIR_OFFER_MAX_TTL_MS)
  let offered : PairCode := { codeHash := stored, installId, expiresAt := clamped, usedAt := none, createdAt := now }
  let codes := withoutUnused db installId
  match codes.get stored with
  | none => ({ db with pairCodes := codes.put offered }, some clamped)
  | some held =>
    if held.usedAt.isSome ∨ held.expiresAt ≤ now then ({ db with pairCodes := codes.put offered }, some clamped)
    else ({ db with pairCodes := codes }, none)

/-- Consume a code that is unused and not expired, and name its installation. -/
def consumePairCode (db : D1) (stored : String) (now : Int) : D1 × Option String :=
  match db.pairCodes.get stored with
  | none => (db, none)
  | some c =>
    if c.usedAt.isNone ∧ now < c.expiresAt then
      ({ db with pairCodes := db.pairCodes.put { c with usedAt := some now } }, some c.installId)
    else (db, none)

def getLinkByInstall (db : D1) (installId : String) : Option LinkRow := db.tgLinks.get installId

def othersOf (db : D1) (userId : Int) (installId : String) : List String :=
  (db.tgLinks.rows.filter fun l => l.telegram.userId = userId ∧ l.installId ≠ installId).map LinkRow.installId

/-- The batch of `linkTelegram`: the link is written, and where others were found the user's others are removed. -/
def writeLink (db : D1) (installId : String) (telegram : TelegramIdentity) (displaced : List String) (now : Int) : D1 :=
  let links := db.tgLinks.put ⟨installId, telegram, now⟩
  { db with tgLinks :=
      if displaced.isEmpty then links
      else links.keep fun l => !(l.telegram.userId == telegram.userId && l.installId != installId) }

def unlinkInstall (db : D1) (installId : String) : D1 :=
  { pairCodes := withoutUnused db installId, tgLinks := db.tgLinks.delete installId }

/-- Housekeeping: used codes, and those expired for a day. -/
def purgeStale (db : D1) (now : Int) : D1 :=
  { db with pairCodes := db.pairCodes.keep fun c => !(c.usedAt.isSome || c.expiresAt < now - 24 * 60 * 60000) }

/-! ## Redemptions -/

/-- How far a redemption is. -/
inductive Stage where
  | consumed
  /-- The installation had no link of another user when it was read. -/
  | checked
  | selected (displaced : List String)
deriving DecidableEq, Repr

/-- A `/pair` update whose code was consumed. -/
structure Redemption where
  id : Nat
  installId : String
  telegram : TelegramIdentity
  now : Int
  stage : Stage
deriving DecidableEq, Repr

structure State where
  db : D1
  redemptions : Table Redemption.id
  clock : Int

def start (clock : Int) : State := ⟨.empty, .empty, clock⟩

/-- What happens next; the times are those the caller read before its statement was carried out. -/
inductive Event where
  | tick (ms : Nat)
  | offer (installId codeHash : String) (expiresAt now : Int)
  | redeem (id : Nat) (telegram : TelegramIdentity) (codeHash : String) (now : Int)
  /-- The next statement of a redemption is carried out. -/
  | advance (id : Nat)
  /-- The worker of a redemption is gone, or a statement failed. -/
  | abandon (id : Nat)
  | unlink (installId : String)
  | purge (now : Int)
deriving DecidableEq, Repr

def advance (s : State) (r : Redemption) : State :=
  match r.stage with
  | .consumed => match getLinkByInstall s.db r.installId with
    | none => { s with redemptions := s.redemptions.put { r with stage := .checked } }
    | some existing =>
      if existing.telegram.userId ≠ r.telegram.userId then { s with redemptions := s.redemptions.delete r.id }
      else { s with redemptions := s.redemptions.put { r with stage := .checked } }
  | .checked =>
    { s with redemptions := s.redemptions.put { r with stage := .selected (othersOf s.db r.telegram.userId r.installId) } }
  | .selected displaced =>
    { s with db := writeLink s.db r.installId r.telegram displaced r.now, redemptions := s.redemptions.delete r.id }

section
-- what the gateway keeps of a code's hash
variable (storedPairHash : String → String)

/-- One event; one that cannot happen leaves the state as it is. -/
def step (s : State) : Event → State
  | .tick ms => { s with clock := s.clock + ms }
  | .offer installId codeHash expiresAt now =>
    if now ≤ s.clock ∧ now < expiresAt then
      { s with db := (storePairOffer s.db installId (storedPairHash codeHash) expiresAt now).1 }
    else s
  | .redeem id telegram codeHash now =>
    if now ≤ s.clock ∧ s.redemptions.get id = none then
      match consumePairCode s.db (storedPairHash codeHash) now with
      | (_, none) => s
      | (db, some installId) =>
        { s with db, redemptions := s.redemptions.put ⟨id, installId, telegram, now, .consumed⟩ }
    else s
  | .advance id => match s.redemptions.get id with
    | none => s
    | some r => advance s r
  | .abandon id => { s with redemptions := s.redemptions.delete id }
  | .unlink installId => { s with db := unlinkInstall s.db installId }
  | .purge now => if now ≤ s.clock then { s with db := purgeStale s.db now } else s

end

end Gateway
end Atra
