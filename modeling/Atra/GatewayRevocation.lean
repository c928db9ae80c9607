import Atra.History
import Atra.Table
/-!
# GatewayRevocation — revoked installations and their sockets

A token is read when a socket is asked for and the socket is accepted several awaits later; a revocation marks the tokens and
then closes the sockets.  The sweep looks at heartbeats alone.  So an installation is off the hub after its revocation in the
runs in which the hub was reached, and no socket was accepted on a token revoked meanwhile (`Guarded`).
-/
namespace Atra
namespace Gateway

open History

/-- A row of `install_tokens`. -/
structure TokenRow where
  tokenHash : String
  installId : String
  scopes : List String
  expiresAt : Option Int
  revokedAt : Option Int
deriving DecidableEq, Repr

/-- A socket of the hub and what is attached to it. -/
structure Socket where
  id : Nat
  installId : String
  connectedAt : Int
  hello : Bool
  lastPong : Option Int
  isOpen : Bool
deriving DecidableEq, Repr

/-- An upgrade that authenticated, and how far it is. -/
inductive UpgradeStage where
  | authenticated | rateLimited | charged
deriving DecidableEq, Repr

structure Upgrade where
  id : Nat
  tokenHash : String
  installId : String
  stage : UpgradeStage
deriving DecidableEq, Repr

/-- A revocation whose installation is known, and how far it is. -/
inductive RevokeStage where
  | known | marked | closed
deriving DecidableEq, Repr

structure Revocation where
  id : Nat
  installId : String
  now : Int
  stage : RevokeStage
deriving DecidableEq, Repr

/-- The tokens, the hub's sockets and the calls in flight. -/
structure Traffic where
  tokens : Table TokenRow.tokenHash
  sockets : Table Socket.id
  upgrades : Table Upgrade.id
  revocations : Table Revocation.id
  clock : Int

def noTraffic (clock : Int) : Traffic := ⟨.empty, .empty, .empty, .empty, clock⟩

def HEARTBEAT_STALE_MS : Int := 3 * 30000 + 30000
def HELLO_GRACE_MS : Int := 30000

/-! ## The hub -/

def closeSocket (w : Socket) : Socket := { w with isOpen := false }

def closeWhere (p : Socket → Bool) (sockets : Table Socket.id) : Table Socket.id :=
  sockets.update (fun w => if p w then closeSocket w else w) fun w => by
    split
    · rfl
    · rfl

def closeSockets (sockets : Table Socket.id) (installId : String) : Table Socket.id :=
  closeWhere (fun w => w.installId == installId) sockets

/-- `Hub.fetch`: the new socket supersedes the installation's others. -/
def acceptSocket (s : Traffic) (id : Nat) (installId : String) : Traffic :=
  { s with sockets := (closeSockets s.sockets installId).put ⟨id, installId, s.clock, false, none, true⟩ }

/-- A socket whose heartbeat stopped, or that never said hello. -/
def isDead (now : Int) (w : Socket) : Bool :=
  decide (HEARTBEAT_STALE_MS < now - max (w.lastPong.getD 0) w.connectedAt) ||
    (!w.hello && decide (HELLO_GRACE_MS < now - w.connectedAt))

/-- `Hub.alarm`. -/
def sweep (s : Traffic) : Traffic := { s with sockets := closeWhere (isDead s.clock) s.sockets }

/-- The newest open socket of an installation that completed hello. -/
def liveSocket (s : Traffic) (installId : String) : Option Socket :=
  (s.sockets.rows.filter fun w => w.installId = installId ∧ w.isOpen ∧ w.hello).foldl
    (fun best w => if best.all fun b => decide (b.connectedAt < w.connectedAt) then some w else best) none

def handlesFrame (s : Traffic) (id : Nat) : Bool := (s.sockets.get id).any Socket.isOpen

/-! ## The worker -/

def authenticateInstallToken (tokens : Table TokenRow.tokenHash) (tokenHash : String) (now : Int) : Option TokenRow :=
  (tokens.get tokenHash).filter fun row => row.revokedAt.isNone && row.expiresAt.all fun t => decide (now < t)

def revokeToken (installId : String) (now : Int) (row : TokenRow) : TokenRow :=
  { row with revokedAt := if row.installId = installId ∧ row.revokedAt = none then some now else row.revokedAt }

def revokeTokens (tokens : Table TokenRow.tokenHash) (installId : String) (now : Int) : Table TokenRow.tokenHash :=
  tokens.update (revokeToken installId now) fun _ => rfl

inductive TrafficEvent where
  | tick (ms : Nat)
  | mint (tokenHash installId : String) (scopes : List String) (expiresAt : Option Int)
  /-- `GET /v1/ws` with a token. -/
  | upgrade (id : Nat) (tokenHash : String) (now : Int)
  /-- What an upgrade waited for is there: the rate limit, the quota, and then the hub. -/
  | proceed (id : Nat) (allowed : Bool)
  | drop (id : Nat)
  /-- `POST /v1/admin/installs/{id}/revoke`. -/
  | revoke (id : Nat) (installId : String) (now : Int)
  /-- The next await of a revocation is over; the hub may not have been reached. -/
  | advanceRevoke (id : Nat) (reached : Bool)
  | sweep
  | hello (socket : Nat)
  | pong (socket : Nat)
  | lost (socket : Nat)
deriving DecidableEq, Repr

/-- The next part of an upgrade. -/
def proceed (s : Traffic) (u : Upgrade) : Traffic :=
  match u.stage with
  | .authenticated => { s with upgrades := s.upgrades.put { u with stage := .rateLimited } }
  | .rateLimited => { s with upgrades := s.upgrades.put { u with stage := .charged } }
  | .charged => acceptSocket { s with upgrades := s.upgrades.delete u.id } u.id u.installId

/-- The next part of a revocation: the tokens are marked, the sockets closed if the hub is reached, and it returns. -/
def advanceRevoke (s : Traffic) (r : Revocation) (reached : Bool) : Traffic :=
  match r.stage with
  | .known => { s with
      tokens := revokeTokens s.tokens r.installId r.now, revocations := s.revocations.put { r with stage := .marked } }
  | .marked => { s with
      sockets := if reached then closeSockets s.sockets r.installId else s.sockets
      revocations := s.revocations.put { r with stage := .closed } }
  | .closed => { s with revocations := s.revocations.delete r.id }

def startUpgrade (s : Traffic) (id : Nat) (tokenHash : String) (row : TokenRow) : Traffic :=
  if row.scopes.contains "telegram" then
    { s with upgrades := s.upgrades.put ⟨id, tokenHash, row.installId, .authenticated⟩ }
  else s

def touch (socket : Nat) (hello : Bool) (pong : Option Int) (w : Socket) : Socket :=
  if w.id = socket ∧ w.isOpen then { w with hello := w.hello || hello, lastPong := pong.or w.lastPong } else w

theorem touch_kept (socket : Nat) (hello : Bool) (pong : Option Int) (w : Socket) :
    (touch socket hello pong w).id = w.id ∧ (touch socket hello pong w).installId = w.installId ∧
      (touch socket hello pong w).isOpen = w.isOpen := by
  unfold touch
  split
  · exact ⟨rfl, rfl, rfl⟩
  · exact ⟨rfl, rfl, rfl⟩

def touchSocket (s : Traffic) (socket : Nat) (hello : Bool) (pong : Option Int) : Traffic :=
  { s with sockets := s.sockets.update (touch socket hello pong) fun w => (touch_kept socket hello pong w).1 }

/-- One event; one that cannot happen leaves the state as it is. -/
def trafficStep (s : Traffic) : TrafficEvent → Traffic
  | .tick ms => { s with clock := s.clock + ms }
  | .mint tokenHash installId scopes expiresAt =>
    if (s.tokens.get tokenHash).isSome then s
    else { s with tokens := s.tokens.put ⟨tokenHash, installId, scopes, expiresAt, none⟩ }
  | .upgrade id tokenHash now =>
    if now ≤ s.clock ∧ s.upgrades.get id = none ∧ s.sockets.get id = none then
      match authenticateInstallToken s.tokens tokenHash now with
      | none => s
      | some row => startUpgrade s id tokenHash row
    else s
  | .proceed id allowed => match s.upgrades.get id with
    | none => s
    | some u => if allowed then proceed s u else { s with upgrades := s.upgrades.delete id }
  | .drop id => { s with upgrades := s.upgrades.delete id }
  | .revoke id installId now =>
    if now ≤ s.clock ∧ s.revocations.get id = none ∧ s.tokens.rows.any (fun row => row.installId == installId) then
      { s with revocations := s.revocations.put ⟨id, installId, now, .known⟩ }
    else s
  | .advanceRevoke id reached => match s.revocations.get id with
    | none => s
    | some r => advanceRevoke s r reached
  | .sweep => sweep s
  | .hello socket => touchSocket s socket true none
  | .pong socket => touchSocket s socket false (some s.clock)
  | .lost socket => { s with sockets := s.sockets.delete socket }

/-! ## What a revocation is for -/

/-- A revocation of an installation returns in this step. -/
def RevokeReturns (s : Traffic) (e : TrafficEvent) (installId : String) : Prop :=
  ∃ id reached r, e = .advanceRevoke id reached ∧ s.revocations.get id = some r ∧ r.stage = .closed ∧
    r.installId = installId

def Mints (e : TrafficEvent) (installId : String) : Prop :=
  ∃ tokenHash scopes expiresAt, e = .mint tokenHash installId scopes expiresAt

/-- The installation is off the hub: no socket of it is open, none of its frames is handled, and no command reaches it. -/
structure Offline (s : Traffic) (installId : String) : Prop where
  sockets : ∀ id w, s.sockets.get id = some w → w.installId = installId → w.isOpen = false
  frames : ∀ id w, s.sockets.get id = some w → w.installId = installId → handlesFrame s id = false
  commands : liveSocket s installId = none

/-- Once a revocation has returned, and a sweep has run with no token minted for it, the installation is off the hub. -/
def Effective (t0 : Int) (es : List TrafficEvent) : Prop :=
  ∀ pre e mid post, es = pre ++ e :: mid ++ post → ∀ installId,
    RevokeReturns (after trafficStep (noTraffic t0) pre) e installId → (∀ x ∈ mid, ¬ Mints x installId) → .sweep ∈ mid →
    Offline (after trafficStep (noTraffic t0) (pre ++ e :: mid)) installId

/-- A step that cannot leave a revoked installation on the hub: a revocation reaches the hub, a socket is accepted on a token
that still stands, and no token is minted for an installation while it is being revoked. -/
structure Guarded (s : Traffic) (e : TrafficEvent) : Prop where
  reaches : ∀ id r, e = .advanceRevoke id false → s.revocations.get id = some r → r.stage ≠ .marked
  stands : ∀ id u row, e = .proceed id true → s.upgrades.get id = some u → u.stage = .charged →
    s.tokens.get u.tokenHash = some row → row.revokedAt = none
  mints : ∀ installId id r, Mints e installId → s.revocations.get id = some r → r.installId = installId → r.stage = .known

/-! ## What holds along guarded runs -/

/-- Every token of an installation is revoked. -/
def Dead (s : Traffic) (installId : String) : Prop :=
  ∀ k row, s.tokens.get k = some row → row.installId = installId → row.revokedAt ≠ none

/-- No socket of an installation is open. -/
def Gone (s : Traffic) (installId : String) : Prop :=
  ∀ k w, s.sockets.get k = some w → w.installId = installId → w.isOpen = false

/-- The calls in flight are about what is stored: an upgrade has the token it was authenticated by, a revocation has done what
it is past. -/
structure Grounded (s : Traffic) : Prop where
  upgrades : ∀ k u, s.upgrades.get k = some u → ∃ row, s.tokens.get u.tokenHash = some row ∧ row.installId = u.installId
  marked : ∀ k r, s.revocations.get k = some r → r.stage ≠ .known → Dead s r.installId
  closed : ∀ k r, s.revocations.get k = some r → r.stage = .closed → Gone s r.installId

section
variable {s : Traffic} {e : TrafficEvent} {installId : String}

theorem get_closeWhere {sockets : Table Socket.id} {p : Socket → Bool} {k : Nat} {w : Socket}
    (h : (closeWhere p sockets).get k = some w) : ∃ w₀, sockets.get k = some w₀ ∧ w.installId = w₀.installId ∧
      (w.isOpen = true → w₀.isOpen = true ∧ p w₀ = false) := by
  unfold closeWhere at h
  rw [Table.get_update] at h
  obtain ⟨w₀, hw₀, rfl⟩ := Option.map_eq_some_iff.1 h
  refine ⟨w₀, hw₀, ?_⟩
  by_cases hp : p w₀ = true
  · rw [if_pos hp]
    exact ⟨rfl, fun ho => by cases ho⟩
  · rw [if_neg hp]
    exact ⟨rfl, fun ho => ⟨ho, by simpa using hp⟩⟩

/-- **What a step does to the tokens**: one is minted, or those of an installation marked. -/
theorem tokens_step (s : Traffic) (e : TrafficEvent) : (trafficStep s e).tokens = s.tokens ∨
    (∃ tokenHash i scopes expiresAt, e = .mint tokenHash i scopes expiresAt ∧ s.tokens.get tokenHash = none ∧
      (trafficStep s e).tokens = s.tokens.put ⟨tokenHash, i, scopes, expiresAt, none⟩) ∨
    ∃ i now, (trafficStep s e).tokens = revokeTokens s.tokens i now := by
  cases e with
  | tick ms => exact .inl rfl
  | mint tokenHash i scopes expiresAt =>
    unfold trafficStep
    dsimp only
    cases hg : s.tokens.get tokenHash with
    | some row => exact .inl rfl
    | none => exact .inr (.inl ⟨tokenHash, i, scopes, expiresAt, rfl, hg, rfl⟩)
  | upgrade id tokenHash now =>
    unfold trafficStep
    dsimp only
    split
    · split
      · exact .inl rfl
      · unfold startUpgrade
        split
        · exact .inl rfl
        · exact .inl rfl
    · exact .inl rfl
  | proceed id allowed =>
    unfold trafficStep
    dsimp only
    split
    · exact .inl rfl
    · split
      · unfold proceed
        split
        · exact .inl rfl
        · exact .inl rfl
        · exact .inl rfl
      · exact .inl rfl
  | drop id => exact .inl rfl
  | revoke id i now =>
    unfold trafficStep
    dsimp only
    split
    · exact .inl rfl
    · exact .inl rfl
  | advanceRevoke id reached =>
    unfold trafficStep
    dsimp only
    split
    · exact .inl rfl
    · rename_i r _
      unfold advanceRevoke
      split
      · exact .inr (.inr ⟨r.installId, r.now, rfl⟩)
      · exact .inl rfl
      · exact .inl rfl
  | sweep => exact .inl rfl
  | hello socket => exact .inl rfl
  | pong socket => exact .inl rfl
  | lost socket => exact .inl rfl

theorem get_revokeTokens {tokens : Table TokenRow.tokenHash} {i : String} {now : Int} (k : String) :
    (revokeTokens tokens i now).get k = (tokens.get k).map (revokeToken i now) := Table.get_update ..

theorem token_kept {k : String} {row : TokenRow} (h : s.tokens.get k = some row) (e : TrafficEvent) :
    ∃ row', (trafficStep s e).tokens.get k = some row' ∧ row'.installId = row.installId := by
  rcases tokens_step s e with hsame | ⟨tokenHash, i, scopes, expiresAt, -, hnone, hput⟩ | ⟨i, now, hmarked⟩
  · exact ⟨row, by rw [hsame]; exact h, rfl⟩
  · refine ⟨row, ?_, rfl⟩
    have hne : k ≠ tokenHash := by
      rintro rfl
      rw [hnone] at h
      cases h
    rw [hput, Table.get_put, if_neg hne]
    exact h
  · refine ⟨revokeToken i now row, ?_, rfl⟩
    rw [hmarked, get_revokeTokens, h]
    rfl

/-- **Revoked tokens stay revoked** where none is minted. -/
theorem Dead.step (h : Dead s installId) (hm : ¬ Mints e installId) : Dead (trafficStep s e) installId := by
  intro k row hk hi
  rcases tokens_step s e with hsame | ⟨tokenHash, i, scopes, expiresAt, he, -, hput⟩ | ⟨i, now, hmarked⟩
  · rw [hsame] at hk
    exact h k row hk hi
  · rw [hput, Table.get_put] at hk
    split at hk
    · obtain rfl := Option.some.inj hk
      exact absurd ⟨tokenHash, scopes, expiresAt, by rw [he, ← hi]⟩ hm
    · exact h k row hk hi
  · rw [hmarked, get_revokeTokens] at hk
    obtain ⟨row₀, hrow₀, rfl⟩ := Option.map_eq_some_iff.1 hk
    have hnone := h k row₀ hrow₀ hi
    show (if row₀.installId = i ∧ row₀.revokedAt = none then some now else row₀.revokedAt) ≠ none
    rw [if_neg fun hc => hnone hc.2]
    exact hnone

/-- A socket that a step leaves open was open before. -/
def WasOpen (s : Traffic) (w : Socket) : Prop :=
  ∃ k w₀, s.sockets.get k = some w₀ ∧ w.installId = w₀.installId ∧ w₀.isOpen = true

theorem wasOpen_closeWhere {p : Socket → Bool} {k : Nat} {w : Socket} (h : (closeWhere p s.sockets).get k = some w)
    (ho : w.isOpen = true) : WasOpen s w := by
  obtain ⟨w₀, hw₀, hi, hopen⟩ := get_closeWhere h
  exact ⟨k, w₀, hw₀, hi, (hopen ho).1⟩

theorem wasOpen_touch {socket : Nat} {hello : Bool} {pong : Option Int} {k : Nat} {w : Socket}
    (h : (touchSocket s socket hello pong).sockets.get k = some w) (ho : w.isOpen = true) : WasOpen s w := by
  unfold touchSocket at h
  dsimp only at h
  rw [Table.get_update] at h
  obtain ⟨w₀, hw₀, rfl⟩ := Option.map_eq_some_iff.1 h
  obtain ⟨-, hi, hopen⟩ := touch_kept socket hello pong w₀
  exact ⟨k, w₀, hw₀, hi, hopen.symm.trans ho⟩

/-- **Where an open socket comes from**: it was open, or an upgrade was accepted. -/
theorem socket_step {k : Nat} {w : Socket} (h : (trafficStep s e).sockets.get k = some w) (ho : w.isOpen = true) :
    WasOpen s w ∨ ∃ id u, e = .proceed id true ∧ s.upgrades.get id = some u ∧ u.stage = .charged ∧
      w.installId = u.installId := by
  have hsame : s.sockets.get k = some w → WasOpen s w := fun hw => ⟨k, w, hw, rfl, ho⟩
  unfold trafficStep at h
  cases e with
  | tick ms => exact .inl (hsame h)
  | mint tokenHash i scopes expiresAt =>
    dsimp only at h
    split at h
    · exact .inl (hsame h)
    · exact .inl (hsame h)
  | upgrade id tokenHash now =>
    dsimp only at h
    split at h
    · split at h
      · exact .inl (hsame h)
      · unfold startUpgrade at h
        split at h
        · exact .inl (hsame h)
        · exact .inl (hsame h)
    · exact .inl (hsame h)
  | proceed id allowed =>
    dsimp only at h
    cases hu : s.upgrades.get id with
    | none =>
      rw [hu] at h
      exact .inl (hsame h)
    | some u =>
      rw [hu] at h
      cases allowed with
      | false => exact .inl (hsame h)
      | true =>
        dsimp only at h
        rw [if_pos rfl] at h
        unfold proceed at h
        cases hstage : u.stage with
        | authenticated =>
          rw [hstage] at h
          exact .inl (hsame h)
        | rateLimited =>
          rw [hstage] at h
          exact .inl (hsame h)
        | charged =>
          rw [hstage] at h
          unfold acceptSocket at h
          dsimp only at h
          rw [Table.get_put] at h
          split at h
          · obtain rfl := Option.some.inj h
            exact .inr ⟨id, u, rfl, hu, hstage, rfl⟩
          · exact .inl (wasOpen_closeWhere h ho)
  | drop id => exact .inl (hsame h)
  | revoke id i now =>
    dsimp only at h
    split at h
    · exact .inl (hsame h)
    · exact .inl (hsame h)
  | advanceRevoke id reached =>
    dsimp only at h
    split at h
    · exact .inl (hsame h)
    · unfold advanceRevoke at h
      split at h
      · exact .inl (hsame h)
      · dsimp only at h
        split at h
        · exact .inl (wasOpen_closeWhere h ho)
        · exact .inl (hsame h)
      · exact .inl (hsame h)
  | sweep => exact .inl (wasOpen_closeWhere h ho)
  | hello socket => exact .inl (wasOpen_touch h ho)
  | pong socket => exact .inl (wasOpen_touch h ho)
  | lost socket =>
    dsimp only at h
    rw [Table.get_delete] at h
    split at h
    · cases h
    · exact .inl (hsame h)

/-- **An installation off the hub stays off it** while its tokens are revoked. -/
theorem Gone.step (h : Gone s installId) (hdead : Dead s installId) (hs : Grounded s) (hg : Guarded s e) :
    Gone (trafficStep s e) installId := by
  intro k w hw hi
  by_contra hne
  rcases socket_step hw (by simpa using hne) with ⟨k₀, w₀, hw₀, hi₀, ho⟩ | ⟨id, u, he, hu, hstage, hiu⟩
  · rw [h k₀ w₀ hw₀ (hi₀.symm.trans hi)] at ho
    cases ho
  · obtain ⟨row, hrow, hirow⟩ := hs.upgrades id u hu
    exact hdead u.tokenHash row hrow (hirow.trans (hiu.symm.trans hi)) (hg.stands id u row he hu hstage hrow)

/-- The token an upgrade was authenticated by is stored. -/
def Authenticated (s : Traffic) (u : Upgrade) : Prop :=
  ∃ row, s.tokens.get u.tokenHash = some row ∧ row.installId = u.installId

theorem upgrade_step {k : Nat} {u : Upgrade} (h : (trafficStep s e).upgrades.get k = some u) :
    (∃ k₀ u₀, s.upgrades.get k₀ = some u₀ ∧ u.tokenHash = u₀.tokenHash ∧ u.installId = u₀.installId) ∨ Authenticated s u := by
  have hsame : s.upgrades.get k = some u →
      ∃ k₀ u₀, s.upgrades.get k₀ = some u₀ ∧ u.tokenHash = u₀.tokenHash ∧ u.installId = u₀.installId :=
    fun hu => ⟨k, u, hu, rfl, rfl⟩
  have hdelete : ∀ id, (s.upgrades.delete id).get k = some u → s.upgrades.get k = some u := fun id hu => by
    rw [Table.get_delete] at hu
    split at hu
    · cases hu
    · exact hu
  unfold trafficStep at h
  cases e with
  | mint tokenHash i scopes expiresAt =>
    dsimp only at h
    split at h
    · exact .inl (hsame h)
    · exact .inl (hsame h)
  | upgrade id tokenHash now =>
    dsimp only at h
    split at h
    · cases ha : authenticateInstallToken s.tokens tokenHash now with
      | none =>
        rw [ha] at h
        exact .inl (hsame h)
      | some row =>
        rw [ha] at h
        dsimp only at h
        unfold startUpgrade at h
        split at h
        · dsimp only at h
          rw [Table.get_put] at h
          split at h
          · obtain rfl := Option.some.inj h
            exact .inr ⟨row, (Option.filter_eq_some_iff.1 ha).1, rfl⟩
          · exact .inl (hsame h)
        · exact .inl (hsame h)
    · exact .inl (hsame h)
  | proceed id allowed =>
    dsimp only at h
    cases hu : s.upgrades.get id with
    | none =>
      rw [hu] at h
      exact .inl (hsame h)
    | some u₀ =>
      rw [hu] at h
      have hnext : ∀ stage, (s.upgrades.put { u₀ with stage }).get k = some u →
          ∃ k₀ u₀, s.upgrades.get k₀ = some u₀ ∧ u.tokenHash = u₀.tokenHash ∧ u.installId = u₀.installId := by
        intro stage hput
        rw [Table.get_put] at hput
        split at hput
        · obtain rfl := Option.some.inj hput
          exact ⟨id, u₀, hu, rfl, rfl⟩
        · exact hsame hput
      cases allowed with
      | false => exact .inl (hsame (hdelete id h))
      | true =>
        dsimp only at h
        rw [if_pos rfl] at h
        unfold proceed at h
        split at h
        · exact .inl (hnext _ h)
        · exact .inl (hnext _ h)
        · exact .inl (hsame (hdelete u₀.id h))
  | drop id => exact .inl (hsame (hdelete id h))
  | revoke id i now =>
    dsimp only at h
    split at h
    · exact .inl (hsame h)
    · exact .inl (hsame h)
  | advanceRevoke id reached =>
    dsimp only at h
    split at h
    · exact .inl (hsame h)
    · unfold advanceRevoke at h
      split at h
      · exact .inl (hsame h)
      · exact .inl (hsame h)
      · exact .inl (hsame h)
  | tick ms => exact .inl (hsame h)
  | sweep => exact .inl (hsame h)
  | hello socket => exact .inl (hsame h)
  | pong socket => exact .inl (hsame h)
  | lost socket => exact .inl (hsame h)

/-- **A revocation after a step**: as it was, begun, or past its marking or its closing, which the step did. -/
theorem revocation_step {k : Nat} {r : Revocation} (h : (trafficStep s e).revocations.get k = some r) :
    s.revocations.get k = some r ∨ r.stage = .known ∨
      (r.stage = .marked ∧ (trafficStep s e).tokens = revokeTokens s.tokens r.installId r.now) ∨
      (r.stage = .closed ∧ ∃ id reached r₀, e = .advanceRevoke id reached ∧ s.revocations.get id = some r₀ ∧
        r₀.stage = .marked ∧ r₀.installId = r.installId ∧
        (reached = true → (trafficStep s e).sockets = closeSockets s.sockets r.installId)) := by
  cases e with
  | mint tokenHash i scopes expiresAt =>
    unfold trafficStep at h
    dsimp only at h
    split at h
    · exact .inl h
    · exact .inl h
  | upgrade id tokenHash now =>
    unfold trafficStep at h
    dsimp only at h
    split at h
    · split at h
      · exact .inl h
      · unfold startUpgrade at h
        split at h
        · exact .inl h
        · exact .inl h
    · exact .inl h
  | proceed id allowed =>
    unfold trafficStep at h
    dsimp only at h
    split at h
    · exact .inl h
    · split at h
      · unfold proceed at h
        split at h
        · exact .inl h
        · exact .inl h
        · exact .inl h
      · exact .inl h
  | revoke id i now =>
    unfold trafficStep at h
    dsimp only at h
    split at h
    · dsimp only at h
      rw [Table.get_put] at h
      split at h
      · obtain rfl := Option.some.inj h
        exact .inr (.inl rfl)
      · exact .inl h
    · exact .inl h
  | advanceRevoke id reached =>
    cases hr : s.revocations.get id with
    | none =>
      unfold trafficStep at h
      dsimp only at h
      rw [hr] at h
      exact .inl h
    | some r₀ =>
      have hstep : trafficStep s (.advanceRevoke id reached) = advanceRevoke s r₀ reached := by
        unfold trafficStep
        dsimp only
        rw [hr]
      rw [hstep] at h ⊢
      unfold advanceRevoke at h ⊢
      cases hstage : r₀.stage with
      | known =>
        rw [hstage] at h
        dsimp only at h ⊢
        rw [Table.get_put] at h
        split at h
        · obtain rfl := Option.some.inj h
          exact .inr (.inr (.inl ⟨rfl, rfl⟩))
        · exact .inl h
      | marked =>
        rw [hstage] at h
        dsimp only at h ⊢
        rw [Table.get_put] at h
        split at h
        · obtain rfl := Option.some.inj h
          exact .inr (.inr (.inr ⟨rfl, id, reached, r₀, rfl, hr, hstage, rfl, fun ht => by rw [if_pos ht]⟩))
        · exact .inl h
      | closed =>
        rw [hstage] at h
        dsimp only at h
        rw [Table.get_delete] at h
        split at h
        · cases h
        · exact .inl h
  | tick ms => exact .inl h
  | drop id => exact .inl h
  | sweep => exact .inl h
  | hello socket => exact .inl h
  | pong socket => exact .inl h
  | lost socket => exact .inl h

theorem dead_of_revoked {t : Traffic} {now : Int} (h : t.tokens = revokeTokens s.tokens installId now) :
    Dead t installId := by
  intro k row hk hi
  rw [h, get_revokeTokens] at hk
  obtain ⟨row₀, -, rfl⟩ := Option.map_eq_some_iff.1 hk
  replace hi : row₀.installId = installId := hi
  show (if row₀.installId = installId ∧ row₀.revokedAt = none then some now else row₀.revokedAt) ≠ none
  by_cases hnone : row₀.revokedAt = none
  · rw [if_pos ⟨hi, hnone⟩]
    exact Option.some_ne_none _
  · rw [if_neg fun hc => hnone hc.2]
    exact hnone

theorem gone_of_closed {t : Traffic} (h : t.sockets = closeSockets s.sockets installId) : Gone t installId := by
  intro k w hk hi
  rw [h] at hk
  obtain ⟨w₀, -, hi₀, hopen⟩ := get_closeWhere hk
  by_contra hne
  have hp := (hopen (by simpa using hne)).2
  rw [← hi₀, hi, beq_self_eq_true] at hp
  cases hp

/-- **What calls in flight rest on is kept by guarded steps.** -/
theorem Grounded.step (h : Grounded s) (hg : Guarded s e) : Grounded (trafficStep s e) where
  upgrades := by
    intro k u hu
    have hauth : ∃ row, s.tokens.get u.tokenHash = some row ∧ row.installId = u.installId := by
      rcases upgrade_step hu with ⟨k₀, u₀, hu₀, ht, hi⟩ | hauth
      · rw [ht, hi]
        exact h.upgrades k₀ u₀ hu₀
      · exact hauth
    obtain ⟨row, hrow, hi⟩ := hauth
    obtain ⟨row', hrow', hi'⟩ := token_kept hrow e
    exact ⟨row', hrow', hi'.trans hi⟩
  marked := by
    intro k r hr hstage
    rcases revocation_step hr with hbefore | hknown | ⟨-, htokens⟩ | ⟨-, id, reached, r₀, he, hr₀, hstage₀, hi, -⟩
    · exact (h.marked k r hbefore hstage).step fun hm => hstage (hg.mints _ k r hm hbefore rfl)
    · exact absurd hknown hstage
    · exact dead_of_revoked htokens
    · have hdead := h.marked id r₀ hr₀ (by rw [hstage₀]; decide)
      rw [hi] at hdead
      refine hdead.step ?_
      rintro ⟨_, _, _, hmint⟩
      rw [he] at hmint
      cases hmint
  closed := by
    intro k r hr hstage
    rcases revocation_step hr with hbefore | hknown | ⟨hmarked, -⟩ | ⟨-, id, reached, r₀, he, hr₀, hstage₀, -, hclosed⟩
    · exact (h.closed k r hbefore hstage).step (h.marked k r hbefore (by rw [hstage]; decide)) h hg
    · rw [hstage] at hknown
      cases hknown
    · rw [hstage] at hmarked
      cases hmarked
    · cases reached with
      | true => exact gone_of_closed (hclosed rfl)
      | false => exact absurd hstage₀ (hg.reaches id r₀ he hr₀)

/-- An installation without an open socket is off the hub. -/
theorem Gone.offline (h : Gone s installId) : Offline s installId where
  sockets := h
  frames := by
    intro id w hw hi
    unfold handlesFrame
    rw [hw, Option.any_some]
    exact h id w hw hi
  commands := by
    unfold liveSocket
    rw [List.filter_eq_nil_iff.2 fun w hw => ?_]
    · rfl
    · have hclosed : w.installId = installId → w.isOpen = false := h w.id w (Table.get_key_of_mem hw)
      rw [decide_eq_true_eq]
      rintro ⟨hi, ho, -⟩
      rw [hclosed hi] at ho
      cases ho

end

section
variable {t0 : Int} {es : List TrafficEvent}

theorem grounded_after (h : Along trafficStep Guarded (noTraffic t0) es) : Grounded (after trafficStep (noTraffic t0) es) := by
  induction es using List.reverseRecOn with
  | nil =>
    refine ⟨fun k u hu => ?_, fun k r hr => ?_, fun k r hr => ?_⟩
    · cases hu
    · cases hr
    · cases hr
  | append_singleton es e ih =>
    obtain ⟨hpre, he⟩ := along_snoc.1 h
    rw [after_snoc]
    exact (ih hpre).step he

/-- **A revoked installation is off the hub, in every run whose steps are guarded.** -/
theorem revocation_effective (t0 : Int) (es : List TrafficEvent) (h : Along trafficStep Guarded (noTraffic t0) es) :
    Effective t0 es := by
  intro pre e mid post hes installId ⟨id, reached, r, he, hr, hstage, hi⟩ hmints _
  have hguarded := along_iff.1 h
  have hgrounded : ∀ p q, es = p ++ q → Grounded (after trafficStep (noTraffic t0) p) := fun p q hpq =>
    grounded_after (along_iff.2 fun p' x q' hp => hguarded p' x (q' ++ q) (by rw [hpq, hp]; simp))
  have hs := hgrounded pre (e :: mid ++ post) (by rw [hes]; simp)
  have hdead₀ : Dead (after trafficStep (noTraffic t0) pre) installId := by
    rw [← hi]
    exact hs.marked id r hr (by rw [hstage]; decide)
  have hgone₀ : Gone (after trafficStep (noTraffic t0) pre) installId := by
    rw [← hi]
    exact hs.closed id r hr hstage
  -- the revocation has done its work before it returns; what comes after it keeps that
  have hkeeps : ∀ m rest, mid = m ++ rest → Dead (after trafficStep (noTraffic t0) (pre ++ e :: m)) installId ∧
      Gone (after trafficStep (noTraffic t0) (pre ++ e :: m)) installId := by
    intro m
    induction m using List.reverseRecOn with
    | nil =>
      intro rest _
      rw [after_snoc]
      have hstep := hguarded pre e (mid ++ post) (by rw [hes]; simp)
      have hnot : ¬ Mints e installId := by
        rintro ⟨_, _, _, hm⟩
        rw [he] at hm
        cases hm
      exact ⟨hdead₀.step hnot, hgone₀.step hdead₀ hs hstep⟩
    | append_singleton m x ih =>
      intro rest hm
      obtain ⟨hdead, hgone⟩ := ih (x :: rest) (by rw [hm]; simp)
      have hsplit : pre ++ e :: (m ++ [x]) = (pre ++ e :: m) ++ [x] := by simp
      rw [hsplit, after_snoc]
      have hx : x ∈ mid := by
        rw [hm]
        simp
      have hstep := hguarded (pre ++ e :: m) x (rest ++ post) (by rw [hes, hm]; simp)
      have hground := hgrounded (pre ++ e :: m) (x :: (rest ++ post)) (by rw [hes, hm]; simp)
      exact ⟨hdead.step (hmints x hx), hgone.step hdead hground hstep⟩
  exact (hkeeps mid [] (by simp)).2.offline

end

/-! ### A revocation with a socket open, and with an upgrade in flight -/

/-- A socket is accepted and says hello, and then its installation is revoked. -/
def revokedOpen : List TrafficEvent :=
  [.mint "t1" "install-1" ["telegram"] none, .upgrade 1 "t1" 1000000, .proceed 1 true, .proceed 1 true, .proceed 1 true,
   .hello 1, .revoke 2 "install-1" 1000000, .advanceRevoke 2 true, .advanceRevoke 2 true, .advanceRevoke 2 true, .sweep]

theorem guarded_quiet {s : Traffic} {e : TrafficEvent} (hm : ∀ installId, ¬ Mints e installId)
    (ha : ∀ id, e ≠ .advanceRevoke id false) (hp : ∀ id, e ≠ .proceed id true) : Guarded s e :=
  ⟨fun id _ he => absurd he (ha id), fun id _ _ he => absurd he (hp id), fun i _ _ h => absurd h (hm i)⟩

theorem guarded_proceed {s : Traffic} {id : Nat} (h : ∀ row ∈ s.tokens.rows, row.revokedAt = none) :
    Guarded s (.proceed id true) where
  reaches := by
    intro _ _ he
    cases he
  stands := fun _ u row _ _ _ hrow => h row (Table.mem_of_get hrow)
  mints := by
    rintro i _ _ ⟨_, _, _, hm⟩
    cases hm

theorem revocation_effective_open : Effective 1000000 revokedOpen := by
  refine revocation_effective 1000000 revokedOpen ?_
  have hquiet : ∀ {s : Traffic} {e : TrafficEvent}, e ∈ revokedOpen.drop 5 → Guarded s e := by
    intro s e he
    refine guarded_quiet ?_ ?_ ?_
    · rintro i ⟨_, _, _, rfl⟩
      simp [revokedOpen] at he
    · rintro id rfl
      simp [revokedOpen] at he
    · rintro id rfl
      simp [revokedOpen] at he
  have hmint : Guarded (noTraffic 1000000) (.mint "t1" "install-1" ["telegram"] none) := by
    refine ⟨fun _ _ he => ?_, fun _ _ _ he => ?_, fun _ _ r _ hr => ?_⟩
    · cases he
    · cases he
    · cases hr
  have hupgrade : ∀ s : Traffic, Guarded s (.upgrade 1 "t1" 1000000) := by
    intro s
    refine guarded_quiet ?_ (fun _ he => ?_) fun _ he => ?_
    · rintro i ⟨_, _, _, hm⟩
      cases hm
    · cases he
    · cases he
  refine ⟨hmint, hupgrade _, guarded_proceed ?_, guarded_proceed ?_, guarded_proceed ?_, hquiet (by decide),
    hquiet (by decide), hquiet (by decide), hquiet (by decide), hquiet (by decide), hquiet (by decide), trivial⟩
  · decide +kernel
  · decide +kernel
  · decide +kernel

/-- An upgrade authenticates, the installation is revoked, and the upgrade goes on. -/
def overtaken : List TrafficEvent :=
  [.mint "t1" "install-1" ["telegram"] none, .upgrade 1 "t1" 1000000, .revoke 2 "install-1" 1000000, .advanceRevoke 2 true,
   .advanceRevoke 2 true, .advanceRevoke 2 true, .proceed 1 true, .proceed 1 true, .proceed 1 true, .hello 1, .sweep]

/-- **The sweep leaves the socket of a revoked installation open**: the upgrade was accepted after the revocation. -/
theorem overtaken_not_effective : ¬ Effective 1000000 overtaken := by
  intro h
  have hreturns : RevokeReturns (after trafficStep (noTraffic 1000000) (overtaken.take 5)) (.advanceRevoke 2 true)
      "install-1" := ⟨2, true, ⟨2, "install-1", 1000000, .closed⟩, rfl, by decide +kernel, rfl, rfl⟩
  have hnomint : ∀ x ∈ overtaken.drop 6, ¬ Mints x "install-1" := by
    rintro x hx ⟨_, _, _, rfl⟩
    simp [overtaken] at hx
  have hoff := h (overtaken.take 5) (.advanceRevoke 2 true) (overtaken.drop 6) [] rfl "install-1" hreturns
    hnomint (by decide)
  have hopen := hoff.sockets 1 ⟨1, "install-1", 1000000, true, none, true⟩ (by decide +kernel) rfl
  cases hopen

end Gateway
end Atra
