import Atra.History
import Atra.Registry
import Atra.UniqueRows
/-!
# Sessions — who is signed in, and who may act

A session is started with a password and lives twelve hours; a re-authentication token is granted with a password too, to one
session for one purpose, and lives five minutes.  Only their hashes are stored.  A sensitive action is carried out for a
request that came under a live session and spends such a token: `acts_authorized` says just when, over whole runs of the
service in which requests wait between their steps.
-/
namespace Atra
namespace Auth

open History

def SESSION_TTL_MS : Int := 12 * 60 * 60 * 1000
def REAUTH_TTL_MS : Int := 5 * 60 * 1000

inductive ReauthPurpose where
  | walletExport | walletWithdraw | modeLive | emergencyClear | authPassword | settingsReset | settingsSecret
deriving DecidableEq, Repr

structure SessionRow where
  id : String
  tokenHash : String
  createdAt : Int
  expiresAt : Int
  lastSeenAt : Int
  revokedAt : Option Int
deriving DecidableEq, Repr

structure ReauthRow where
  id : String
  tokenHash : String
  sessionId : String
  purpose : ReauthPurpose
  createdAt : Int
  expiresAt : Int
  usedAt : Option Int
deriving DecidableEq, Repr

structure Session where
  id : String
  createdAt : Int
  expiresAt : Int
deriving DecidableEq, Repr

/-- A session with the bearer value, which is not stored. -/
structure IssuedSession extends Session where
  token : String
deriving DecidableEq, Repr

/-- The two tables of tokens. -/
structure AuthDb where
  sessions : UniqueRows SessionRow.id SessionRow.tokenHash
  reauthTokens : UniqueRows ReauthRow.id ReauthRow.tokenHash

/-- Why a sensitive action is refused. -/
inductive ReauthRefusal where
  | reauthRequired | reauthInvalid
deriving DecidableEq, Repr

def ReauthRefusal.message : ReauthRefusal → String
  | .reauthRequired => "This action requires re-authentication"
  | .reauthInvalid => "Re-authentication has expired or was already used"

variable (host : Host)

/-- A session is kept as long as one of its tokens refers to it. -/
def pruneExpired (db : AuthDb) (now : Int) : AuthDb :=
  let reauthTokens := db.reauthTokens.keep fun r => now < r.expiresAt
  { reauthTokens
    sessions := db.sessions.keep fun r => now < r.expiresAt || reauthTokens.rows.any (·.sessionId = r.id) }

/-- Start a session, under a fresh id and random text; the insert throws where either is taken. -/
def createSession (db : AuthDb) (now : Int) (id random : String) : AuthDb × Option IssuedSession :=
  let token := "atra_" ++ random
  let pruned := pruneExpired db now
  match pruned.sessions.insert ⟨id, host.sha256 token, now, now + SESSION_TTL_MS, now, none⟩ with
  | none => (pruned, none)
  | some sessions => ({ pruned with sessions }, some ⟨⟨id, now, now + SESSION_TTL_MS⟩, token⟩)

def touchSession (db : AuthDb) (now : Int) (id : String) : AuthDb :=
  let sessions := db.sessions.update (fun r => if r.id = id then { r with lastSeenAt := now } else r)
    (fun r => by split <;> rfl) (fun r => by split <;> rfl)
  { db with sessions }

/-- The live session of a bearer token. -/
def resolveSession (db : AuthDb) (now : Int) (token : Option String) : AuthDb × Option Session :=
  match token.filter (· ≠ "") with
  | none => (db, none)
  | some text =>
    match db.sessions.find (host.sha256 text) with
    | none => (db, none)
    | some row =>
      if row.revokedAt.isSome then (db, none)
      else if row.expiresAt ≤ now then (db, none)
      else (touchSession db now row.id, some ⟨row.id, row.createdAt, row.expiresAt⟩)

def revokeWhere (p : SessionRow → Bool) (db : AuthDb) (now : Int) : AuthDb :=
  let sessions := db.sessions.update (fun r => if p r && r.revokedAt.isNone then { r with revokedAt := some now } else r)
    (fun r => by split <;> rfl) (fun r => by split <;> rfl)
  { db with sessions }

def revokeSession (db : AuthDb) (now : Int) (id : String) : AuthDb := revokeWhere (fun r => r.id = id) db now
def revokeAllSessions (db : AuthDb) (now : Int) : AuthDb := revokeWhere (fun _ => true) db now

/-- `issueReauthToken` once its password is verified; the insert throws where the session is gone, or the id or the token is
taken. -/
def insertReauthToken (db : AuthDb) (now : Int) (sessionId : String) (purpose : ReauthPurpose) (id random : String) :
    Option AuthDb :=
  if db.sessions.rows.any (·.id = sessionId) then
    (db.reauthTokens.insert ⟨id, host.sha256 ("reauth_" ++ random), sessionId, purpose, now, now + REAUTH_TTL_MS, none⟩).map
      fun reauthTokens => { db with reauthTokens }
  else none

/-- A token is spendable for its own purpose and session, once, before it expires. -/
def ReauthRow.spendable (r : ReauthRow) (hash : String) (purpose : ReauthPurpose) (sessionId : String) (now : Int) : Bool :=
  r.tokenHash = hash && r.purpose = purpose && r.sessionId = sessionId && r.usedAt.isNone && now < r.expiresAt

def markUsed (db : AuthDb) (now : Int) (hash : String) (purpose : ReauthPurpose) (sessionId : String) : AuthDb :=
  let reauthTokens := db.reauthTokens.update
    (fun r => if r.spendable hash purpose sessionId now then { r with usedAt := some now } else r)
    (fun r => by split <;> rfl) (fun r => by split <;> rfl)
  { db with reauthTokens }

/-- One statement checks a token and marks it used. -/
def consumeReauthToken (db : AuthDb) (now : Int) (token : Option String) (purpose : ReauthPurpose) (sessionId : String) :
    Except ReauthRefusal AuthDb :=
  match token.filter (· ≠ "") with
  | none => throw .reauthRequired
  | some text =>
    let hash := host.sha256 text
    if db.reauthTokens.rows.any (·.spendable hash purpose sessionId now) then
      return markUsed db now hash purpose sessionId
    else throw .reauthInvalid

/-! ## The service -/

/-- The tables, the sessions that the requests so far came under, and the clock. -/
structure AuthState where
  db : AuthDb
  requests : List Session
  clock : Int

/-- What happens to the service.  A request is named by its number among those that came under a session; what it does later,
once its body is read or its password is verified, is an event of its own. -/
inductive AuthEvent where
  | tick (ms : Nat)
  | login (id random : String)
  | request (cookie : Option String)
  | logout (r : Nat)
  | reauth (r : Nat) (purpose : ReauthPurpose) (verified : Bool) (id random : String)
  | act (r : Nat) (token : Option String) (purpose : ReauthPurpose)
  | passwordChanged
deriving DecidableEq, Repr

/-- The session a token is issued to, and what issuing it leaves; none where it is not issued. -/
def issued (s : AuthState) : AuthEvent → Option (Session × AuthDb)
  | .reauth r purpose verified id random => s.requests[r]?.bind fun session =>
    (if verified then insertReauthToken host s.db s.clock session.id purpose id random else none).map fun db => (session, db)
  | _ => none

/-- The session a sensitive action is carried out for, and what it leaves; none where it is refused. -/
def granted (s : AuthState) : AuthEvent → Option (Session × AuthDb)
  | .act r token purpose => s.requests[r]?.bind fun session =>
    match consumeReauthToken host s.db s.clock token purpose session.id with
    | .ok db => some (session, db)
    | .error _ => none
  | _ => none

def authStep (s : AuthState) : AuthEvent → AuthState
  | .tick ms => { s with clock := s.clock + ms }
  | .login id random => { s with db := (createSession host s.db s.clock id random).1 }
  | .request cookie =>
    let (db, session) := resolveSession host s.db s.clock cookie
    { s with db, requests := s.requests ++ session.toList }
  | .logout r =>
    match s.requests[r]? with
    | none => s
    | some session => { s with db := revokeSession s.db s.clock session.id }
  | e@(.reauth ..) => { s with db := ((issued host s e).map (·.2)).getD s.db }
  | e@(.act ..) => { s with db := ((granted host s e).map (·.2)).getD s.db }
  | .passwordChanged => { s with db := revokeAllSessions s.db s.clock }

def served (clock : Int) (es : List AuthEvent) : AuthState := after (authStep host) ⟨⟨.empty, .empty⟩, [], clock⟩ es

/-! ## What holds of a run -/

/-- A sign-in started the session, within twelve hours of an instant. -/
def Starts (clock : Int) (hash sid : String) (deadline : Int) (pre : List AuthEvent) (e : AuthEvent) : Prop :=
  ∃ random, e = .login sid random ∧ host.sha256 ("atra_" ++ random) = hash ∧
    (createSession host (served host clock pre).db (served host clock pre).clock sid random).2.isSome = true ∧
    deadline < (served host clock pre).clock + SESSION_TTL_MS

/-- The session is signed out, or every session is revoked. -/
def Revokes (sid : String) (s : AuthState) (e : AuthEvent) : Prop :=
  e = .passwordChanged ∨ ∃ r session, e = .logout r ∧ s.requests[r]? = some session ∧ session.id = sid

/-- A token was issued to the session for a purpose, within five minutes of an instant. -/
def Confirms (clock : Int) (hash sid : String) (purpose : ReauthPurpose) (deadline : Int) (pre : List AuthEvent)
    (e : AuthEvent) : Prop :=
  ∃ r id random session db, e = .reauth r purpose true id random ∧ host.sha256 ("reauth_" ++ random) = hash ∧
    issued host (served host clock pre) e = some (session, db) ∧ session.id = sid ∧
    deadline < (served host clock pre).clock + REAUTH_TTL_MS

/-- An action is carried out on a token. -/
def Spends (hash : String) (s : AuthState) (e : AuthEvent) : Prop :=
  ∃ r text purpose, e = .act r (some text) purpose ∧ host.sha256 text = hash ∧ (granted host s e).isSome = true

/-! ## Sessions in the tables -/

section
variable {host} {db : AuthDb} {now deadline : Int} {hash sid id random : String}

/-- An unrevoked session that outlives an instant. -/
def LiveSession (hash sid : String) (deadline : Int) (db : AuthDb) : Prop :=
  ∃ r ∈ db.sessions.rows, r.id = sid ∧ r.tokenHash = hash ∧ r.revokedAt = none ∧ deadline < r.expiresAt

/-- What rewrites the rows of the sessions one by one, and what becomes of a live one. -/
theorem liveSession_update {f : SessionRow → SessionRow} {hk : ∀ r, (f r).id = r.id} {hm : ∀ r, (f r).tokenHash = r.tokenHash}
    (he : ∀ r, (f r).expiresAt = r.expiresAt) : LiveSession hash sid deadline { db with sessions := db.sessions.update f hk hm } ↔
      ∃ r ∈ db.sessions.rows, r.id = sid ∧ r.tokenHash = hash ∧ (f r).revokedAt = none ∧ deadline < r.expiresAt := by
  unfold LiveSession
  constructor
  · rintro ⟨_, hx, hid, hhash, hrevoked, hexpires⟩
    obtain ⟨r, hr, rfl⟩ := (UniqueRows.mem_update hk hm).1 hx
    rw [hk] at hid
    rw [hm] at hhash
    rw [he] at hexpires
    exact ⟨r, hr, hid, hhash, hrevoked, hexpires⟩
  · rintro ⟨r, hr, hid, hhash, hrevoked, hexpires⟩
    refine ⟨f r, ?_, (hk r).trans hid, (hm r).trans hhash, hrevoked, (he r).symm ▸ hexpires⟩
    exact (UniqueRows.mem_update hk hm).2 ⟨r, hr, rfl⟩

theorem liveSession_touch : LiveSession hash sid deadline (touchSession db now id) ↔ LiveSession hash sid deadline db := by
  unfold touchSession
  rw [liveSession_update fun r => by split <;> rfl]
  have h : ∀ r : SessionRow, (if r.id = id then { r with lastSeenAt := now } else r).revokedAt = r.revokedAt :=
    fun r => by split <;> rfl
  simp only [h]
  rfl

theorem liveSession_revoke {p : SessionRow → Bool} : LiveSession hash sid deadline (revokeWhere p db now) ↔
    ∃ r ∈ db.sessions.rows, r.id = sid ∧ r.tokenHash = hash ∧ r.revokedAt = none ∧ deadline < r.expiresAt ∧ p r = false := by
  unfold revokeWhere
  rw [liveSession_update fun r => by split <;> rfl]
  have h : ∀ r : SessionRow, (if p r && r.revokedAt.isNone then { r with revokedAt := some now } else r).revokedAt = none ↔
      r.revokedAt = none ∧ p r = false := by
    intro r
    cases hp : p r <;> cases hr : r.revokedAt <;> simp [hr]
  simp only [h]
  constructor
  · rintro ⟨r, hr, hid, hhash, ⟨hrevoked, hp⟩, hexpires⟩
    exact ⟨r, hr, hid, hhash, hrevoked, hexpires, hp⟩
  · rintro ⟨r, hr, hid, hhash, hrevoked, hexpires, hp⟩
    exact ⟨r, hr, hid, hhash, ⟨hrevoked, hp⟩, hexpires⟩

theorem liveSession_revokeSession : LiveSession hash sid deadline (revokeSession db now id) ↔
    LiveSession hash sid deadline db ∧ id ≠ sid := by
  unfold revokeSession
  rw [liveSession_revoke]
  constructor
  · rintro ⟨r, hr, rfl, hhash, hrevoked, hexpires, hp⟩
    exact ⟨⟨r, hr, rfl, hhash, hrevoked, hexpires⟩, fun h => by simp [h] at hp⟩
  · rintro ⟨⟨r, hr, rfl, hhash, hrevoked, hexpires⟩, hne⟩
    exact ⟨r, hr, rfl, hhash, hrevoked, hexpires, by simpa using Ne.symm hne⟩

theorem not_liveSession_revokeAll : ¬ LiveSession hash sid deadline (revokeAllSessions db now) := by
  unfold revokeAllSessions
  rw [liveSession_revoke]
  rintro ⟨r, -, -, -, -, -, hp⟩
  cases hp

/-- **Pruning drops no session that outlives the clock.** -/
theorem liveSession_prune (db : AuthDb) (hnow : now ≤ deadline) :
    LiveSession hash sid deadline (pruneExpired db now) ↔ LiveSession hash sid deadline db := by
  unfold LiveSession pruneExpired
  simp only [UniqueRows.mem_keep]
  constructor
  · rintro ⟨r, ⟨hr, -⟩, h⟩
    exact ⟨r, hr, h⟩
  · rintro ⟨r, hr, hid, hhash, hrevoked, hexpires⟩
    have hkept : now < r.expiresAt := by omega
    exact ⟨r, ⟨hr, by simp [hkept]⟩, hid, hhash, hrevoked, hexpires⟩

theorem liveSession_create (hnow : now ≤ deadline) : LiveSession hash sid deadline (createSession host db now id random).1 ↔
    (id = sid ∧ host.sha256 ("atra_" ++ random) = hash ∧ (createSession host db now id random).2.isSome = true ∧
      deadline < now + SESSION_TTL_MS) ∨ LiveSession hash sid deadline db := by
  rw [← liveSession_prune db hnow]
  unfold createSession
  dsimp only
  split
  · simp
  · rename_i sessions hinsert
    obtain ⟨-, -, hrows⟩ := UniqueRows.insert_eq_some hinsert
    unfold LiveSession
    simp only [hrows, List.mem_append, List.mem_singleton]
    constructor
    · rintro ⟨r, hr | rfl, hid, hhash, hrevoked, hexpires⟩
      · exact .inr ⟨r, hr, hid, hhash, hrevoked, hexpires⟩
      · exact .inl ⟨hid, hhash, rfl, hexpires⟩
    · rintro (⟨hid, hhash, -, hexpires⟩ | ⟨r, hr, h⟩)
      · exact ⟨_, .inr rfl, hid, hhash, rfl, hexpires⟩
      · exact ⟨r, .inl hr, h⟩

/-- **A bearer token resolves to its live session**, and to none other. -/
theorem resolveSession_iff {token : Option String} :
    (∃ session, (resolveSession host db now token).2 = some session ∧ session.id = sid) ↔
      ∃ text, token = some text ∧ text ≠ "" ∧ LiveSession (host.sha256 text) sid now db := by
  unfold resolveSession LiveSession
  split
  · rename_i hnone
    constructor
    · rintro ⟨_, h, -⟩
      cases h
    · rintro ⟨text, rfl, hne, -⟩
      simp [Option.filter, hne] at hnone
  · rename_i text hsome
    obtain ⟨rfl, hne⟩ := Option.filter_eq_some_iff.1 hsome
    have hone : ∀ P : String → Prop, (∃ t, some text = some t ∧ t ≠ "" ∧ P t) ↔ P text := fun P =>
      ⟨fun ⟨t, ht, _, h⟩ => Option.some.inj ht ▸ h, fun h => ⟨text, rfl, by simpa using hne, h⟩⟩
    rw [hone fun t => ∃ r ∈ db.sessions.rows, r.id = sid ∧ r.tokenHash = host.sha256 t ∧ r.revokedAt = none ∧
      now < r.expiresAt]
    split
    · rename_i hfind
      constructor
      · rintro ⟨_, h, -⟩
        cases h
      · rintro ⟨r, hr, -, hhash, -⟩
        rw [UniqueRows.find_eq_some.2 ⟨hr, hhash⟩] at hfind
        cases hfind
    · rename_i row hfind
      obtain ⟨hrow, hhash⟩ := UniqueRows.find_eq_some.1 hfind
      -- the row found is the only one with the hash
      have hrows : (∃ r ∈ db.sessions.rows, r.id = sid ∧ r.tokenHash = host.sha256 text ∧ r.revokedAt = none ∧
          now < r.expiresAt) ↔ row.id = sid ∧ row.revokedAt = none ∧ now < row.expiresAt := by
        constructor
        · rintro ⟨r, hr, hid, hhash', h⟩
          obtain rfl := UniqueRows.eq_of_mark hr hrow (hhash'.trans hhash.symm)
          exact ⟨hid, h⟩
        · rintro ⟨hid, h⟩
          exact ⟨row, hrow, hid, hhash, h⟩
      rw [hrows]
      cases hrevoked : row.revokedAt with
      | some t => simp
      | none =>
        by_cases hexpired : row.expiresAt ≤ now
        · simp [hexpired]
        · simp only [Option.isSome_none, Bool.false_eq_true, if_false, hexpired, Option.some.injEq, exists_eq_left', true_and]
          constructor
          · exact fun h => ⟨h, by omega⟩
          · exact fun h => h.1

theorem liveSession_resolve {token : Option String} :
    LiveSession hash sid deadline (resolveSession host db now token).1 ↔ LiveSession hash sid deadline db := by
  unfold resolveSession
  split
  · rfl
  · split
    · rfl
    · split
      · rfl
      · split
        · rfl
        · exact liveSession_touch

/-! ## Tokens in the tables -/

variable {purpose : ReauthPurpose}

/-- An unused token for a purpose of a session that outlives an instant. -/
def Spendable (hash sid : String) (purpose : ReauthPurpose) (deadline : Int) (db : AuthDb) : Prop :=
  ∃ r ∈ db.reauthTokens.rows, r.spendable hash purpose sid deadline = true

theorem spendable_iff {r : ReauthRow} : r.spendable hash purpose sid deadline = true ↔
    r.tokenHash = hash ∧ r.purpose = purpose ∧ r.sessionId = sid ∧ r.usedAt = none ∧ deadline < r.expiresAt := by
  unfold ReauthRow.spendable
  simp only [Bool.and_eq_true, decide_eq_true_eq, Option.isNone_iff_eq_none, and_assoc]

theorem spendable_prune (db : AuthDb) (hnow : now ≤ deadline) :
    Spendable hash sid purpose deadline (pruneExpired db now) ↔ Spendable hash sid purpose deadline db := by
  unfold Spendable pruneExpired
  simp only [UniqueRows.mem_keep, decide_eq_true_eq]
  constructor
  · rintro ⟨r, ⟨hr, -⟩, h⟩
    exact ⟨r, hr, h⟩
  · rintro ⟨r, hr, h⟩
    have := (spendable_iff.1 h).2.2.2.2
    exact ⟨r, ⟨hr, by omega⟩, h⟩

theorem createSession_tokens : (createSession host db now id random).1.reauthTokens = (pruneExpired db now).reauthTokens := by
  unfold createSession
  dsimp only
  split <;> rfl

theorem resolveSession_tokens {token : Option String} :
    (resolveSession host db now token).1.reauthTokens = db.reauthTokens := by
  unfold resolveSession
  split
  · rfl
  · split
    · rfl
    · split
      · rfl
      · split <;> rfl

theorem insertReauthToken_eq_some {db' : AuthDb} (h : insertReauthToken host db now sid purpose id random = some db') :
    db'.sessions = db.sessions ∧ db'.reauthTokens.rows = db.reauthTokens.rows ++
      [⟨id, host.sha256 ("reauth_" ++ random), sid, purpose, now, now + REAUTH_TTL_MS, none⟩] := by
  unfold insertReauthToken at h
  split at h
  · obtain ⟨tokens, hinsert, rfl⟩ := Option.map_eq_some_iff.1 h
    exact ⟨rfl, (UniqueRows.insert_eq_some hinsert).2.2⟩
  · cases h

/-- **A token is consumed where it is spendable.** -/
theorem consumeReauthToken_ok {db' : AuthDb} {token : Option String} :
    consumeReauthToken host db now token purpose sid = .ok db' ↔ ∃ text, token = some text ∧ text ≠ "" ∧
      Spendable (host.sha256 text) sid purpose now db ∧ markUsed db now (host.sha256 text) purpose sid = db' := by
  unfold consumeReauthToken Spendable
  split
  · rename_i hnone
    constructor
    · intro h
      cases h
    · rintro ⟨text, rfl, hne, -⟩
      simp [Option.filter, hne] at hnone
  · rename_i text hsome
    obtain ⟨rfl, hne⟩ := Option.filter_eq_some_iff.1 hsome
    dsimp only
    split
    · rename_i hany
      obtain ⟨r, hr, hspendable⟩ := List.any_eq_true.1 hany
      constructor
      · intro h
        exact ⟨text, rfl, by simpa using hne, ⟨r, hr, hspendable⟩, Except.ok.inj h⟩
      · rintro ⟨_, ⟨⟩, -, -, h⟩
        exact congrArg Except.ok h
    · rename_i hany
      constructor
      · intro h
        cases h
      · rintro ⟨_, ⟨⟩, -, ⟨r, hr, hspendable⟩, -⟩
        exact absurd (List.any_eq_true.2 ⟨r, hr, hspendable⟩) hany

/-- **A token that was marked used is spendable no more**, and no other is touched. -/
theorem spendable_markUsed {hash' sid' : String} {purpose' : ReauthPurpose}
    (h : Spendable hash' sid' purpose' now db) :
    Spendable hash sid purpose deadline (markUsed db now hash' purpose' sid') ↔
      Spendable hash sid purpose deadline db ∧ hash' ≠ hash := by
  obtain ⟨r₀, hr₀, hspendable⟩ := h
  obtain ⟨hhash₀, hpurpose₀, hsid₀, hunused₀, hexpires₀⟩ := spendable_iff.1 hspendable
  unfold Spendable markUsed
  simp only [UniqueRows.mem_update]
  constructor
  · rintro ⟨_, ⟨r, hr, rfl⟩, h⟩
    split at h
    · have := (spendable_iff.1 h).2.2.2.1
      cases this
    · rename_i hnot
      refine ⟨⟨r, hr, h⟩, fun heq => hnot ?_⟩
      -- the row with the hash is the one that was used
      obtain rfl := UniqueRows.eq_of_mark hr hr₀ ((spendable_iff.1 h).1.trans (heq ▸ hhash₀.symm))
      exact hspendable
  · rintro ⟨⟨r, hr, h⟩, hne⟩
    refine ⟨r, ⟨r, hr, if_neg fun hused => hne ?_⟩, h⟩
    exact (spendable_iff.1 hused).1.symm.trans (spendable_iff.1 h).1

end

/-! ## One event -/

section
variable {host} {s : AuthState} {e : AuthEvent} {hash sid : String} {purpose : ReauthPurpose} {deadline : Int}

theorem clock_authStep (s : AuthState) (e : AuthEvent) : s.clock ≤ (authStep host s e).clock := by
  cases e with
  | tick ms =>
    show s.clock ≤ s.clock + ms
    omega
  | logout r =>
    unfold authStep
    dsimp only
    split <;> exact le_refl _
  | _ => exact le_refl _

theorem issued_iff {r : Nat} {verified : Bool} {id random : String} {out : Session × AuthDb} :
    issued host s (.reauth r purpose verified id random) = some out ↔ s.requests[r]? = some out.1 ∧ verified = true ∧
      insertReauthToken host s.db s.clock out.1.id purpose id random = some out.2 := by
  unfold issued
  rw [Option.bind_eq_some_iff]
  simp only [Option.map_eq_some_iff]
  constructor
  · rintro ⟨session, hr, db, hdb, rfl⟩
    split at hdb
    · rename_i hverified
      exact ⟨hr, hverified, hdb⟩
    · cases hdb
  · rintro ⟨hr, hverified, hdb⟩
    exact ⟨out.1, hr, out.2, by rw [if_pos hverified]; exact hdb, rfl⟩

theorem issued_sessions {out : Session × AuthDb} (h : issued host s e = some out) : out.2.sessions = s.db.sessions := by
  cases e with
  | reauth r purpose verified id random => exact (insertReauthToken_eq_some (issued_iff.1 h).2.2).1
  | _ => cases h

theorem granted_iff {r : Nat} {token : Option String} {out : Session × AuthDb} :
    granted host s (.act r token purpose) = some out ↔ s.requests[r]? = some out.1 ∧ ∃ text, token = some text ∧ text ≠ "" ∧
      Spendable (host.sha256 text) out.1.id purpose s.clock s.db ∧
      markUsed s.db s.clock (host.sha256 text) purpose out.1.id = out.2 := by
  unfold granted
  rw [Option.bind_eq_some_iff]
  constructor
  · rintro ⟨session, hr, h⟩
    split at h
    · rename_i db hdb
      obtain rfl := Option.some.inj h
      exact ⟨hr, consumeReauthToken_ok.1 hdb⟩
    · cases h
  · rintro ⟨hr, h⟩
    exact ⟨out.1, hr, by rw [consumeReauthToken_ok.2 h]⟩

theorem granted_sessions {out : Session × AuthDb} (h : granted host s e = some out) : out.2.sessions = s.db.sessions := by
  cases e with
  | act r token purpose =>
    obtain ⟨-, text, -, -, -, hout⟩ := granted_iff.1 h
    rw [← hout]
    rfl
  | _ => cases h

/-- **A session is live after an event** that starts it, or where it was and is not revoked. -/
theorem liveSession_authStep (hclock : s.clock ≤ deadline) : LiveSession hash sid deadline (authStep host s e).db ↔
    (∃ random, e = .login sid random ∧ host.sha256 ("atra_" ++ random) = hash ∧
      (createSession host s.db s.clock sid random).2.isSome = true ∧ deadline < s.clock + SESSION_TTL_MS) ∨
    LiveSession hash sid deadline s.db ∧ ¬ Revokes sid s e := by
  -- what is no sign-in and revokes nothing keeps the sessions
  have hkept : (∀ random, e ≠ .login sid random) → ¬ Revokes sid s e →
      (LiveSession hash sid deadline (authStep host s e).db ↔ LiveSession hash sid deadline s.db) →
      (LiveSession hash sid deadline (authStep host s e).db ↔ (∃ random, e = .login sid random ∧
        host.sha256 ("atra_" ++ random) = hash ∧ (createSession host s.db s.clock sid random).2.isSome = true ∧
        deadline < s.clock + SESSION_TTL_MS) ∨ LiveSession hash sid deadline s.db ∧ ¬ Revokes sid s e) := by
    intro hlogin hrevokes hsame
    rw [hsame]
    exact ⟨fun h => .inr ⟨h, hrevokes⟩, fun h => h.elim (fun ⟨random, he, _⟩ => absurd he (hlogin random)) (·.1)⟩
  have hsessions : ∀ {db : AuthDb}, db.sessions = s.db.sessions →
      (LiveSession hash sid deadline db ↔ LiveSession hash sid deadline s.db) := by
    intro db h
    unfold LiveSession
    rw [h]
  cases e with
  | tick ms => exact hkept (fun _ => by simp) (by simp [Revokes]) (Iff.rfl)
  | login id random =>
    show LiveSession hash sid deadline (createSession host s.db s.clock id random).1 ↔ _
    rw [liveSession_create hclock]
    refine or_congr ?_ (by simp [Revokes])
    constructor
    · rintro ⟨rfl, h⟩
      exact ⟨random, rfl, h⟩
    · rintro ⟨_, ⟨⟩, h⟩
      exact ⟨rfl, h⟩
  | request cookie => exact hkept (fun _ => by simp) (by simp [Revokes]) liveSession_resolve
  | logout r =>
    unfold authStep
    dsimp only
    split
    · rename_i hnone
      have hno : ¬ Revokes sid s (.logout r) := by
        rintro (h | ⟨r', session, ⟨⟩, hr, -⟩)
        · cases h
        · rw [hnone] at hr
          cases hr
      simp [hno]
    · rename_i session hr
      have hrevokes : Revokes sid s (.logout r) ↔ session.id = sid := by
        constructor
        · rintro (h | ⟨r', session', ⟨⟩, hr', hid⟩)
          · cases h
          · rw [Option.some.inj (hr.symm.trans hr')]
            exact hid
        · exact fun hid => .inr ⟨r, session, rfl, hr, hid⟩
      rw [liveSession_revokeSession, hrevokes]
      simp
  | reauth r purpose verified id random =>
    refine hkept (fun _ => by simp) (by simp [Revokes]) ?_
    unfold authStep
    dsimp only
    cases hi : issued host s (.reauth r purpose verified id random) with
    | none => rfl
    | some out => exact hsessions (issued_sessions hi)
  | act r token purpose =>
    refine hkept (fun _ => by simp) (by simp [Revokes]) ?_
    unfold authStep
    dsimp only
    cases hg : granted host s (.act r token purpose) with
    | none => rfl
    | some out => exact hsessions (granted_sessions hg)
  | passwordChanged =>
    have hrevokes : Revokes sid s .passwordChanged := .inl rfl
    have hdead : ¬ LiveSession hash sid deadline (authStep host s .passwordChanged).db := not_liveSession_revokeAll
    simp [hrevokes, hdead]

/-- **A token is spendable after an event** that issues it, or where it was and is not spent. -/
theorem spendable_authStep (hclock : s.clock ≤ deadline) : Spendable hash sid purpose deadline (authStep host s e).db ↔
    (∃ r id random session db, e = .reauth r purpose true id random ∧ host.sha256 ("reauth_" ++ random) = hash ∧
      issued host s e = some (session, db) ∧ session.id = sid ∧ deadline < s.clock + REAUTH_TTL_MS) ∨
    Spendable hash sid purpose deadline s.db ∧ ¬ Spends host hash s e := by
  -- what neither issues nor spends a token keeps the tokens
  have hkept : (∀ r id random, e ≠ .reauth r purpose true id random) → ¬ Spends host hash s e →
      (Spendable hash sid purpose deadline (authStep host s e).db ↔ Spendable hash sid purpose deadline s.db) →
      (Spendable hash sid purpose deadline (authStep host s e).db ↔ (∃ r id random session db,
        e = .reauth r purpose true id random ∧ host.sha256 ("reauth_" ++ random) = hash ∧
        issued host s e = some (session, db) ∧ session.id = sid ∧ deadline < s.clock + REAUTH_TTL_MS) ∨
        Spendable hash sid purpose deadline s.db ∧ ¬ Spends host hash s e) := by
    intro hreauth hspends hsame
    rw [hsame]
    exact ⟨fun h => .inr ⟨h, hspends⟩, fun h => h.elim (fun ⟨r, id, random, _, _, he, _⟩ => absurd he (hreauth r id random)) (·.1)⟩
  have htokens : ∀ {db : AuthDb}, db.reauthTokens = s.db.reauthTokens →
      (Spendable hash sid purpose deadline db ↔ Spendable hash sid purpose deadline s.db) := by
    intro db h
    unfold Spendable
    rw [h]
  cases e with
  | tick ms => exact hkept (fun _ _ _ => by simp) (by simp [Spends]) Iff.rfl
  | login id random =>
    refine hkept (fun _ _ _ => by simp) (by simp [Spends]) ?_
    show Spendable hash sid purpose deadline (createSession host s.db s.clock id random).1 ↔ _
    rw [← spendable_prune s.db hclock]
    unfold Spendable
    rw [createSession_tokens]
  | request cookie => exact hkept (fun _ _ _ => by simp) (by simp [Spends]) (htokens resolveSession_tokens)
  | logout r =>
    refine hkept (fun _ _ _ => by simp) (by simp [Spends]) ?_
    unfold authStep
    dsimp only
    split <;> rfl
  | reauth r purpose' verified id random =>
    unfold authStep
    dsimp only
    have hspends : ¬ Spends host hash s (.reauth r purpose' verified id random) := by simp [Spends]
    cases hi : issued host s (.reauth r purpose' verified id random) with
    | none => simp [hspends]
    | some out =>
      obtain ⟨hr, hverified, hdb⟩ := issued_iff.1 hi
      obtain ⟨-, hrows⟩ := insertReauthToken_eq_some hdb
      show Spendable hash sid purpose deadline out.2 ↔ _
      unfold Spendable
      simp only [hrows, List.mem_append, List.mem_singleton]
      constructor
      · rintro ⟨x, hx | rfl, h⟩
        · exact .inr ⟨⟨x, hx, h⟩, hspends⟩
        · obtain ⟨hhash, rfl, hsid, -, hexpires⟩ := spendable_iff.1 h
          rw [hverified]
          exact .inl ⟨r, id, random, out.1, out.2, rfl, hhash, rfl, hsid, hexpires⟩
      · rintro (⟨_, _, _, session, db, ⟨⟩, hhash, hout, hsid, hexpires⟩ | ⟨⟨x, hx, h⟩, -⟩)
        · obtain rfl := Option.some.inj hout
          exact ⟨_, .inr rfl, spendable_iff.2 ⟨hhash, rfl, hsid, rfl, hexpires⟩⟩
        · exact ⟨x, .inl hx, h⟩
  | act r token purpose' =>
    unfold authStep
    dsimp only
    cases hg : granted host s (.act r token purpose') with
    | none =>
      have hspends : ¬ Spends host hash s (.act r token purpose') := by
        rintro ⟨r', text, purpose'', heq, -, h⟩
        rw [hg] at h
        cases h
      simp [hspends]
    | some out =>
      obtain ⟨-, text, rfl, -, hspendable, hout⟩ := granted_iff.1 hg
      have hspends : Spends host hash s (.act r (some text) purpose') ↔ host.sha256 text = hash := by
        constructor
        · rintro ⟨_, _, _, ⟨⟩, h, -⟩
          exact h
        · exact fun h => ⟨r, text, purpose', rfl, h, by rw [hg]; rfl⟩
      show Spendable hash sid purpose deadline out.2 ↔ _
      rw [← hout, spendable_markUsed hspendable, hspends]
      simp
  | passwordChanged => exact hkept (fun _ _ _ => by simp) (by simp [Spends]) Iff.rfl

end

/-! ## Whole runs -/

section
variable {host} {clock deadline : Int} {es : List AuthEvent} {hash sid : String} {purpose : ReauthPurpose}

theorem served_snoc {e : AuthEvent} : served host clock (es ++ [e]) = authStep host (served host clock es) e := after_snoc

/-- **A session is live just where a sign-in started it and nothing revoked it since.** -/
theorem liveSession_served (hdeadline : (served host clock es).clock ≤ deadline) :
    LiveSession hash sid deadline (served host clock es).db ↔
      Since (authStep host) (Starts host clock hash sid deadline) (Revokes sid) ⟨⟨.empty, .empty⟩, [], clock⟩ es := by
  refine since_iff (P := fun s => LiveSession hash sid deadline s.db) (Q := fun s => s.clock ≤ deadline) ?_
    (fun s e h => (clock_authStep s e).trans h) (fun pre e h => ?_) hdeadline
  · rintro ⟨r, hr, -⟩
    cases hr
  · exact liveSession_authStep ((clock_authStep _ e).trans h)

/-- **A token is spendable just where it was issued and not spent since.** -/
theorem spendable_served (hdeadline : (served host clock es).clock ≤ deadline) :
    Spendable hash sid purpose deadline (served host clock es).db ↔
      Since (authStep host) (Confirms host clock hash sid purpose deadline) (Spends host hash) ⟨⟨.empty, .empty⟩, [], clock⟩ es := by
  refine since_iff (P := fun s => Spendable hash sid purpose deadline s.db) (Q := fun s => s.clock ≤ deadline) ?_
    (fun s e h => (clock_authStep s e).trans h) (fun pre e h => ?_) hdeadline
  · rintro ⟨r, hr, -⟩
    cases hr
  · exact spendable_authStep ((clock_authStep _ e).trans h)

/-- The session a request comes under; none for any other event. -/
def arrives (host : Host) (s : AuthState) : AuthEvent → Option Session
  | .request cookie => (resolveSession host s.db s.clock cookie).2
  | _ => none

theorem requests_authStep {s : AuthState} {e : AuthEvent} :
    (authStep host s e).requests = s.requests ++ (arrives host s e).toList := by
  cases e with
  | request cookie => rfl
  | logout r =>
    unfold authStep arrives
    dsimp only
    split <;> simp
  | _ => exact (List.append_nil _).symm

/-- A request with a number comes under the session it came under, whatever happened since. -/
theorem requests_served {r : Nat} {session : Session} : (served host clock es).requests[r]? = some session ↔
    ∃ pre e post, es = pre ++ e :: post ∧ (served host clock pre).requests.length = r ∧
      arrives host (served host clock pre) e = some session := by
  induction es using List.reverseRecOn with
  | nil =>
    constructor
    · intro h
      cases h
    · rintro ⟨pre, e, post, heq, -⟩
      exact (List.append_ne_nil_of_right_ne_nil _ (List.cons_ne_nil _ _) heq.symm).elim
  | append_singleton es e ih =>
    have hlast : (served host clock (es ++ [e])).requests[r]? = some session ↔
        (served host clock es).requests[r]? = some session ∨
          (served host clock es).requests.length = r ∧ arrives host (served host clock es) e = some session := by
      rw [served_snoc, requests_authStep]
      cases ha : arrives host (served host clock es) e with
      | none => simp
      | some x =>
        rcases Nat.lt_trichotomy r (served host clock es).requests.length with hr | hr | hr
        · rw [Option.toList_some, List.getElem?_append_left hr]
          simp [Nat.ne_of_gt hr]
        · subst hr
          simp
        · have hnone : (served host clock es).requests[r]? = none := List.getElem?_eq_none (by omega)
          rw [List.getElem?_eq_none (by simp; omega), hnone]
          simp [Nat.ne_of_lt hr]
    rw [hlast, ih]
    constructor
    · rintro (⟨pre, e', post, rfl, h⟩ | h)
      · exact ⟨pre, e', post ++ [e], by simp, h⟩
      · exact ⟨es, e, [], rfl, h⟩
    · rintro ⟨pre, e', post, heq, h⟩
      rcases snoc_split heq with ⟨rfl, rfl⟩ | ⟨rest, rfl⟩
      · exact .inr h
      · exact .inl ⟨pre, e', rest, rfl, h⟩

/-- The request with a number came with the token of a session that a password had started within twelve hours, and that
nothing had revoked. -/
def SignedIn (host : Host) (clock : Int) (es : List AuthEvent) (r : Nat) (sid : String) : Prop :=
  ∃ pre cookie post, es = pre ++ .request (some cookie) :: post ∧ cookie ≠ "" ∧ (served host clock pre).requests.length = r ∧
    Since (authStep host) (Starts host clock (host.sha256 cookie) sid (served host clock pre).clock) (Revokes sid)
      ⟨⟨.empty, .empty⟩, [], clock⟩ pre

theorem signedIn_iff {r : Nat} : SignedIn host clock es r sid ↔
    ∃ session, (served host clock es).requests[r]? = some session ∧ session.id = sid := by
  simp only [requests_served]
  constructor
  · rintro ⟨pre, cookie, post, rfl, hne, hr, hsince⟩
    obtain ⟨session, hsession, hid⟩ := resolveSession_iff.2 ⟨cookie, rfl, hne, (liveSession_served le_rfl).2 hsince⟩
    exact ⟨session, ⟨pre, .request (some cookie), post, rfl, hr, hsession⟩, hid⟩
  · rintro ⟨session, ⟨pre, e, post, rfl, hr, harrives⟩, hid⟩
    cases e with
    | request cookie =>
      obtain ⟨text, rfl, hne, hlive⟩ := resolveSession_iff.1 ⟨session, harrives, hid⟩
      exact ⟨pre, text, post, rfl, hne, hr, (liveSession_served le_rfl).1 hlive⟩
    | _ => cases harrives

/-! ## Passwords and actions -/

/-- The tokens of a session for a purpose that are not used. -/
def unspent (sid : String) (purpose : ReauthPurpose) (db : AuthDb) : Nat :=
  db.reauthTokens.rows.countP fun r => r.sessionId = sid && r.purpose = purpose && r.usedAt.isNone

/-- The tokens an event issues to a session for a purpose: one, or none. -/
def issuedTo (host : Host) (sid : String) (purpose : ReauthPurpose) (s : AuthState) (e : AuthEvent) : Nat :=
  match e with
  | .reauth _ p _ _ _ => if p = purpose && (issued host s e).any (·.1.id = sid) then 1 else 0
  | _ => 0

/-- The actions an event carries out for a session and a purpose: one, or none. -/
def grantedTo (host : Host) (sid : String) (purpose : ReauthPurpose) (s : AuthState) (e : AuthEvent) : Nat :=
  match e with
  | .act _ _ p => if p = purpose && (granted host s e).any (·.1.id = sid) then 1 else 0
  | _ => 0

theorem unspent_markUsed (sid : String) (purpose : ReauthPurpose) {db : AuthDb} {now : Int} {sid' : String}
    {purpose' : ReauthPurpose} (h : Spendable hash sid' purpose' now db) :
    unspent sid purpose (markUsed db now hash purpose' sid') + (if purpose' = purpose ∧ sid' = sid then 1 else 0) ≤
      unspent sid purpose db := by
  obtain ⟨r₀, hr₀, hspendable⟩ := h
  obtain ⟨-, hpurpose, hsid, hunused, -⟩ := spendable_iff.1 hspendable
  -- a row that is marked used counts no more, and no other row changes
  have hp : ∀ x : ReauthRow, ((if x.spendable hash purpose' sid' now then { x with usedAt := some now } else x).sessionId = sid &&
      (if x.spendable hash purpose' sid' now then { x with usedAt := some now } else x).purpose = purpose &&
      (if x.spendable hash purpose' sid' now then { x with usedAt := some now } else x).usedAt.isNone) = true →
      (x.sessionId = sid && x.purpose = purpose && x.usedAt.isNone) = true := by
    intro x hx
    split at hx
    · simp at hx
    · exact hx
  unfold unspent markUsed
  split
  · rename_i heq
    refine Nat.succ_le_of_lt (UniqueRows.countP_update_lt hp hr₀ ?_ ?_)
    · simp [hpurpose, hsid, hunused, heq]
    · simp [hspendable]
  · exact UniqueRows.countP_update_le _ hp

theorem unspent_authStep (host : Host) (sid : String) (purpose : ReauthPurpose) (s : AuthState) (e : AuthEvent) :
    unspent sid purpose (authStep host s e).db + grantedTo host sid purpose s e ≤
      unspent sid purpose s.db + issuedTo host sid purpose s e := by
  have htokens : ∀ {db : AuthDb}, db.reauthTokens = s.db.reauthTokens → unspent sid purpose db = unspent sid purpose s.db := by
    intro db h
    unfold unspent
    rw [h]
  cases e with
  | tick ms => exact le_refl _
  | login id random =>
    refine Nat.add_le_add_right ?_ 0
    show unspent sid purpose (createSession host s.db s.clock id random).1 ≤ _
    unfold unspent
    rw [createSession_tokens]
    exact List.Sublist.countP_le List.filter_sublist
  | request cookie => exact le_of_eq (congrArg (· + 0) (htokens resolveSession_tokens))
  | logout r =>
    unfold authStep
    dsimp only
    split <;> exact le_refl _
  | reauth r purpose' verified id random =>
    unfold authStep issuedTo grantedTo
    dsimp only
    cases hi : issued host s (.reauth r purpose' verified id random) with
    | none => simp
    | some out =>
      obtain ⟨-, hrows⟩ := insertReauthToken_eq_some (issued_iff.1 hi).2.2
      show unspent sid purpose out.2 + 0 ≤ _
      unfold unspent
      rw [hrows, List.countP_append, List.countP_singleton]
      simp [and_comm]
  | act r token purpose' =>
    unfold authStep issuedTo grantedTo
    dsimp only
    cases hg : granted host s (.act r token purpose') with
    | none => simp
    | some out =>
      obtain ⟨-, text, -, -, hspendable, hout⟩ := granted_iff.1 hg
      have h := unspent_markUsed sid purpose hspendable
      rw [hout] at h
      simpa using h
  | passwordChanged => exact le_refl _

/-- **Who may act.**  After any run, a sensitive action is carried out just where its request came with the token of a session
that a password had started within twelve hours and nothing had revoked, and it spends a token that the password was given for
within five minutes, to that session and for that purpose, and that nothing has spent; and over the run no session acted for
a purpose more often than its password was given for it. -/
theorem acts_authorized (host : Host) (clock : Int) (es : List AuthEvent) :
    (∀ r token purpose, (granted host (served host clock es) (.act r token purpose)).isSome = true ↔
      ∃ sid text, token = some text ∧ text ≠ "" ∧ SignedIn host clock es r sid ∧
        Since (authStep host) (Confirms host clock (host.sha256 text) sid purpose (served host clock es).clock)
          (Spends host (host.sha256 text)) ⟨⟨.empty, .empty⟩, [], clock⟩ es) ∧
    ∀ sid purpose, tally (authStep host) (grantedTo host sid purpose) ⟨⟨.empty, .empty⟩, [], clock⟩ es ≤
      tally (authStep host) (issuedTo host sid purpose) ⟨⟨.empty, .empty⟩, [], clock⟩ es := by
  constructor
  · intro r token purpose
    rw [Option.isSome_iff_exists]
    constructor
    · rintro ⟨out, h⟩
      obtain ⟨hr, text, htoken, hne, hspendable, -⟩ := granted_iff.1 h
      exact ⟨out.1.id, text, htoken, hne, signedIn_iff.2 ⟨out.1, hr, rfl⟩, (spendable_served le_rfl).1 hspendable⟩
    · rintro ⟨sid, text, htoken, hne, hsigned, hsince⟩
      obtain ⟨session, hr, rfl⟩ := signedIn_iff.1 hsigned
      exact ⟨(session, markUsed _ _ (host.sha256 text) purpose session.id),
        granted_iff.2 ⟨hr, text, htoken, hne, (spendable_served le_rfl).2 hsince, rfl⟩⟩
  · intro sid purpose
    have h : unspent sid purpose (served host clock es).db +
        tally (authStep host) (grantedTo host sid purpose) ⟨⟨.empty, .empty⟩, [], clock⟩ es ≤
          tally (authStep host) (issuedTo host sid purpose) ⟨⟨.empty, .empty⟩, [], clock⟩ es := by
      induction es using List.reverseRecOn with
      | nil => exact le_refl 0
      | append_singleton es e ih =>
        rw [served_snoc, tally_snoc, tally_snoc]
        have hstep := unspent_authStep host sid purpose (served host clock es) e
        unfold served at hstep ih ⊢
        omega
    omega

end

end Auth
end Atra
