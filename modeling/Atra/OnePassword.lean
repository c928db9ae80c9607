import Atra.Registry
import Atra.VaultHistory
/-!
# OnePassword — setup, sign-in and the change of password

One password opens the dashboard and the vault.  Its two rows are written by two services one after the other: setup inserts the
credential and then the header, a change of password rewraps the header and then rehashes the credential.  Between the two
writes of a request the rows disagree; they agree again in the runs in which no request is stopped there and none writes
while another is there (`Undisturbed`).
-/
namespace Atra
namespace Auth

open Money Buffers History Vault

structure CredentialRow where
  algorithm : String
  salt : Bytes
  hash : Bytes
  memoryKib : Nat
  iterations : Nat
  parallelism : Nat
deriving DecidableEq, Repr

structure ThrottleRow where
  failures : List Int
  lockedUntil : Option Int
deriving DecidableEq, Repr

def LOGIN_FAILURE_LIMIT : Nat := 5
def LOGIN_FAILURE_WINDOW_MS : Int := 15 * 60 * 1000
def LOGIN_LOCKOUT_MS : Int := 5 * 60 * 1000

/-- Charge an attempt before its derivation, unless the throttle has tripped. -/
def beginAttempt (throttle : ThrottleRow) (now : Int) : Result ThrottleRow :=
  if throttle.lockedUntil.any (now < ·) then throw ⟨.rateLimited, "Too many failed password attempts"⟩
  else
    let failures := throttle.failures.filter (fun time => now - time < LOGIN_FAILURE_WINDOW_MS) ++ [now]
    if LOGIN_FAILURE_LIMIT ≤ failures.length then return ⟨[], some (now + LOGIN_LOCKOUT_MS)⟩ else return ⟨failures, none⟩

def assertPasswordStrength (password : String) : Result Unit :=
  if jsLength password < 12 then throw ⟨.schemaInvalid, "The password must be at least 12 characters"⟩
  else if 512 < jsLength password then throw ⟨.schemaInvalid, "The password is too long"⟩
  else pure ()

def hashWith (crypto : Crypto) (credential : CredentialRow) (password : String) : Bytes :=
  deriveKey crypto password credential.salt ⟨credential.memoryKib, credential.iterations, credential.parallelism⟩

/-- `verifyPassword`, its derivation done. -/
def verifies (crypto : Crypto) (credential : CredentialRow) (password : String) : Bool :=
  hashWith crypto credential password = credential.hash

/-- A request between two of its awaits; `call` is its call of the vault. -/
inductive Request where
  | settingPassword (password : String) (salt : Random SALT_LENGTH)
  | credentialSet (password : String)
  | initializing (call : Nat)
  | loggingIn (password : String) (credential : CredentialRow)
  | loggedIn (password : String)
  | unlocking (call : Nat)
  | rewrapping (current new : String) (call : Nat)
  | rewrapped (current new : String)
  | confirming (current new : String) (credential : CredentialRow)
  | rehashing (new : String) (salt : Random SALT_LENGTH)

/-- The rows, the vault with its calls, and the requests in flight by number. -/
structure Install where
  sys : VaultSystem
  credential : Option CredentialRow
  throttle : ThrottleRow
  requests : List (Option Request)

def newInstall : Install := ⟨newVault, none, ⟨[], none⟩, []⟩

/-- What a request finds when it goes on; `side` is what the audit and session statements on its way came to. -/
structure RequestWake where
  wake : Wake
  dek : Random KEY_LENGTH
  side : Result Unit

inductive InstallEvent where
  /-- `POST /setup`, where the request may come from another host. -/
  | setup (password : String) (localOnly : Result Unit) (salt : Random SALT_LENGTH)
  | login (password : String) (now : Int)
  /-- `POST /password`, where the session or the re-authentication may be refused. -/
  | password (current new : String) (granted : Result Unit) (now : Int)
  | wake (r : Nat) (w : RequestWake)
  /-- `POST /logout`, and the idle timer. -/
  | lock
  | crash

def requestAt (s : Install) (r : Nat) : Option Request := s.requests[r]?.join

section
variable (crypto : Crypto) (autolockMs : Int) (params : KdfParams)

/-- A request calls the vault and waits for it, unless the call throws. -/
def callVault (s : Install) (c : VaultCall) (now : Int) (waits : Nat → Request) : Install × Option Request :=
  ({ s with sys := vaultStep crypto autolockMs s.sys (.call c now) },
    match outcome crypto autolockMs s.sys (.call c now) with
    | none => some (waits s.sys.calls.length)
    | some _ => none)

/-- A request waits on while its call does. -/
def followUp (waits : Request) (next : Outcome → Option Request) : Option Outcome → Option Request
  | none => some waits
  | some o => next o

/-- The vault's call goes on, and the request with it when it has ended. -/
def wakeVault (s : Install) (call : Nat) (w : Wake) (waits : Request) (next : Outcome → Option Request) :
    Install × Option Request :=
  ({ s with sys := vaultStep crypto autolockMs s.sys (.wake call w) },
    followUp waits next (outcome crypto autolockMs s.sys (.wake call w)))

def afterRewrap (current new : String) : Outcome → Option Request
  | .rotated _ => some (.rewrapped current new)
  | _ => none

/-- The credential `setPassword` inserts, where there is none yet. -/
def insertCredential (s : Install) (password : String) (salt : Random SALT_LENGTH) (w : Wake) : Result CredentialRow := do
  w.kdf
  w.statement
  if s.credential.isSome then throw ⟨.internal, "UNIQUE constraint failed: auth_credential.id"⟩
  else return ⟨"argon2id", salt.1, deriveKey crypto password salt.1 params, params.memoryKib, params.iterations, params.parallelism⟩

def updateCredential (s : Install) (new : String) (salt : Random SALT_LENGTH) (w : Wake) : Result (Option CredentialRow) := do
  w.kdf
  w.statement
  return s.credential.map fun credential =>
    { credential with salt := salt.1, hash := deriveKey crypto new salt.1 params, memoryKib := params.memoryKib
                      iterations := params.iterations, parallelism := params.parallelism }

/-- The password of a sign-in is the right one: the count is cleared and a session issued. -/
def acceptLogin (credential : CredentialRow) (password : String) (w : RequestWake) : Result Unit := do
  w.wake.kdf
  if verifies crypto credential password then w.side
  else throw ⟨.invalidCredentials, "Incorrect password"⟩

/-- `changePassword` of the credential once the current password is hashed. -/
def confirmCurrent (credential : CredentialRow) (current new : String) (w : Wake) : Result Unit := do
  w.kdf
  if verifies crypto credential current then assertPasswordStrength new
  else throw ⟨.invalidCredentials, "The current password is incorrect"⟩

/-- What a request leaves as it goes on; a request that throws is over. -/
def advance (s : Install) (w : RequestWake) : Request → Install × Option Request
  | .settingPassword password salt => match insertCredential crypto params s password salt w.wake with
    | .error _ => (s, none)
    | .ok credential => ({ s with credential := some credential }, some (.credentialSet password))
  | .credentialSet password => match w.side with
    | .error _ => (s, none)
    | .ok () => callVault crypto autolockMs s (.initializeVault password params w.wake.salt w.dek) w.wake.now .initializing
  | .initializing call => wakeVault crypto autolockMs s call w.wake (.initializing call) fun _ => none
  | .loggingIn password credential => match acceptLogin crypto credential password w with
    | .error _ => (s, none)
    | .ok () => ({ s with throttle := ⟨[], none⟩ }, some (.loggedIn password))
  | .loggedIn password =>
    if isInitialized s.sys.vault then callVault crypto autolockMs s (.unlock password) w.wake.now .unlocking else (s, none)
  | .unlocking call => wakeVault crypto autolockMs s call w.wake (.unlocking call) fun _ => none
  | .rewrapping current new call =>
    wakeVault crypto autolockMs s call w.wake (.rewrapping current new call) (afterRewrap current new)
  | .rewrapped current new => (s, s.credential.map (.confirming current new))
  | .confirming current new credential => match confirmCurrent crypto credential current new w.wake with
    | .error _ => (s, none)
    | .ok () => (s, some (.rehashing new w.wake.salt))
  | .rehashing new salt => match updateCredential crypto params s new salt w.wake with
    | .error _ => (s, none)
    | .ok credential => ({ s with credential := credential }, none)

/-- The request is in flight from now, unless it was refused. -/
def enqueue (p : Install × Option Request) : Install :=
  match p.2 with
  | none => p.1
  | some request => { p.1 with requests := p.1.requests ++ [some request] }

/-- A text field of a body. -/
def withinLength (text : String) (min max : Nat) : Bool := min ≤ jsLength text && jsLength text ≤ max

def postSetup (s : Install) (password : String) (localOnly : Result Unit) (salt : Random SALT_LENGTH) : Install × Option Request :=
  match localOnly with
  | .error _ => (s, none)
  | .ok () =>
    if !withinLength password 1 512 || s.credential.isSome then (s, none)
    else match assertPasswordStrength password with
      | .error _ => (s, none)
      | .ok () => (s, some (.settingPassword password salt))

def postLogin (s : Install) (password : String) (now : Int) : Install × Option Request :=
  if !withinLength password 1 512 then (s, none)
  else match s.credential with
    | none => (s, none)
    | some credential => match beginAttempt s.throttle now with
      | .error _ => (s, none)
      | .ok throttle => ({ s with throttle := throttle }, some (.loggingIn password credential))

def postPassword (s : Install) (current new : String) (granted : Result Unit) (now : Int) : Install × Option Request :=
  if !withinLength current 1 512 || !withinLength new 12 512 then (s, none)
  else match granted with
    | .error _ => (s, none)
    | .ok () =>
      if isInitialized s.sys.vault then
        callVault crypto autolockMs s (.changePassword current new params) now (.rewrapping current new)
      else (s, s.credential.map (.confirming current new))

def installStep (s : Install) : InstallEvent → Install
  | .setup password localOnly salt => enqueue (postSetup s password localOnly salt)
  | .login password now => enqueue (postLogin s password now)
  | .password current new granted now => enqueue (postPassword crypto autolockMs params s current new granted now)
  | .wake r w => match requestAt s r with
    | none => s
    | some request =>
      let (next, frame) := advance crypto autolockMs params s w request
      { next with requests := s.requests.set r frame }
  | .lock => { s with sys := vaultStep crypto autolockMs s.sys (.call .lock 0) }
  | .crash => { s with sys := restartVault s.sys, requests := [] }

def installed (es : List InstallEvent) : Install := after (installStep crypto autolockMs params) newInstall es

end

/-! ## What one password is for -/

/-- `login` accepts a password. -/
def Accepts (crypto : Crypto) (s : Install) (password : String) : Prop :=
  ∃ credential, s.credential = some credential ∧ verifies crypto credential password = true

/-- `Vault.unlock` succeeds with a password. -/
def Opens (crypto : Crypto) (s : Install) (password : String) : Prop :=
  ∃ header dataKey, s.sys.vault.rows.header = some header ∧ header.version = VAULT_VERSION ∧ s.sys.memory.keys = [dataKey] ∧
    unwrap crypto header password = .ok dataKey

/-- Whenever a credential exists and no request is in flight, a password that signs in opens the vault. -/
def OnePassword (crypto : Crypto) (s : Install) : Prop :=
  s.credential.isSome = true → (∀ r, requestAt s r = none) → ∃ password, Accepts crypto s password ∧ Opens crypto s password

/-- A request stands between its two writes. -/
def halfDone : Request → Bool
  | .credentialSet _ | .initializing _ | .rewrapped _ _ | .confirming _ _ _ | .rehashing _ _ => true
  | _ => false

def GoesThrough (w : RequestWake) : Prop := w.wake.kdf = .ok () ∧ w.wake.statement = .ok () ∧ w.side = .ok ()

/-- A change of password is about to rewrap the header. -/
def aboutToRewrap (s : Install) : Request → Bool
  | .rewrapping _ _ call => match frameAt s.sys call with
    | some (.rewrapping _ _ _ _ _) => true
    | _ => false
  | _ => false

/-- The header still opens with a password. -/
def stillCurrent (crypto : Crypto) (s : Install) (current : String) : Bool :=
  s.sys.vault.rows.header.any fun header => (unwrap crypto header current).isOk

/-- Nothing stops a request between its two writes; a header is rewrapped while no other request is there, under the password
it still has; and no change of password begins while a credential waits for its vault. -/
def Undisturbed (crypto : Crypto) (s : Install) : InstallEvent → Prop
  | .crash => ∀ r request, requestAt s r = some request → halfDone request = false
  | .password _ _ _ _ => s.credential.isSome = true → isInitialized s.sys.vault = true
  | .wake r w => ∀ request, requestAt s r = some request →
    (halfDone request = true → GoesThrough w) ∧
    (∀ current new call, request = .rewrapping current new call → aboutToRewrap s request = true →
      (∀ r' other, requestAt s r' = some other → halfDone other = false) ∧ stillCurrent crypto s current = true)
  | _ => True

/-! ## What the vault's calls write -/

section
variable {crypto : Crypto} {autolockMs : Int} {v : VaultState} {s : VaultSystem} {f : Suspended} {k : Nat} {w : Wake}

def endOf : Progress → Option Outcome
  | .waits _ => none
  | .ends o => some o

theorem outcome_call (c : VaultCall) (now : Int) :
    outcome crypto autolockMs s (.call c now) = endOf (start crypto autolockMs s.vault now c).2 := by
  unfold outcome
  rw [show turn crypto autolockMs s (.call c now) = some (start crypto autolockMs s.vault now c) from rfl]
  obtain ⟨v, p⟩ := start crypto autolockMs s.vault now c
  cases p <;> rfl

theorem outcome_of_frame (hf : frameAt s k = some f) :
    outcome crypto autolockMs s (.wake k w) = endOf (resume crypto s.vault f w).2 := by
  unfold outcome
  rw [show turn crypto autolockMs s (.wake k w) = (frameAt s k).map fun frame => resume crypto s.vault frame w from rfl, hf,
    Option.map_some]
  obtain ⟨v, p⟩ := resume crypto s.vault f w
  cases p <;> rfl

theorem step_of_frame (hf : frameAt s k = some f) : vaultStep crypto autolockMs s (.wake k w) =
    ⟨(resume crypto s.vault f w).1, s.calls.set k (waiting (resume crypto s.vault f w).2),
      remember s.memory (resume crypto s.vault f w).2⟩ := by
  unfold vaultStep
  rw [show turn crypto autolockMs s (.wake k w) = (frameAt s k).map fun frame => resume crypto s.vault frame w from rfl, hf,
    Option.map_some]
  rfl

theorem start_password (crypto : Crypto) (autolockMs : Int) (v : VaultState) (now : Int) (c : VaultCall) (m : Memory) :
    (remember m (start crypto autolockMs v now c).2).password = m.password := by
  cases c with
  | initializeVault password params salt dek =>
    show (remember m (initializeVault v password params salt dek).2).password = _
    unfold initializeVault
    split <;> rfl
  | unlock password =>
    show (remember m (unlock v password).2).password = _
    unfold unlock
    split
    · rfl
    · split <;> rfl
  | changePassword current new params =>
    show (remember m (changePassword v current new params).2).password = _
    unfold changePassword
    split <;> rfl
  | verifyPassword password =>
    show (remember m (verifyPassword v password).2).password = _
    unfold verifyPassword
    split <;> rfl
  | putSecret kind label plaintext id nonce statement =>
    unfold start ended putSecret
    dsimp only
    rcases requireDek_cases autolockMs v now with ⟨-, hr⟩ | ⟨dek, -, -, hr⟩
    · rw [hr]
      rfl
    · rw [hr]
      dsimp only
      cases insertSecret crypto (touch v now) (read (touch v now).heap dek) kind label plaintext id nonce statement now <;> rfl
  | useSecret id =>
    unfold start ended useSecret
    dsimp only
    rcases requireDek_cases autolockMs v now with ⟨-, hr⟩ | ⟨dek, -, -, hr⟩
    · rw [hr]
      rfl
    · rw [hr]
      dsimp only
      cases openSecret crypto (touch v now) (read (touch v now).heap dek) id <;> rfl
  | lock => rfl
  | timer => rfl

theorem call_password (c : VaultCall) (now : Int) :
    (vaultStep crypto autolockMs s (.call c now)).memory.password = s.memory.password := by
  unfold vaultStep
  rw [show turn crypto autolockMs s (.call c now) = some (start crypto autolockMs s.vault now c) from rfl]
  exact start_password crypto autolockMs s.vault now c s.memory

theorem resume_initializing_ok {password : String} {params : KdfParams} {salt : Random SALT_LENGTH} {dek : Nat}
    (hkdf : w.kdf = .ok ()) (hstatement : w.statement = .ok ()) (hnone : v.rows.header = none) :
    ∃ dataKey, (resume crypto v (.initializing password params salt dek) w).2 = .ends (.initialized password dataKey) := by
  unfold resume
  rw [hkdf]
  dsimp only
  unfold initializing insertHeader
  have hno : isInitialized v = false := by
    unfold isInitialized
    rw [hnone]
    rfl
  rw [sealBox_eq _ length_deriveKey, hstatement, hno]
  exact ⟨_, rfl⟩

theorem resume_unlocking (password : String) (header : VaultHeaderRow) (m : Memory) :
    (∃ o, (resume crypto v (.unlocking password header) w).2 = .ends o) ∧
      (remember m (resume crypto v (.unlocking password header) w).2).password = m.password := by
  unfold resume
  cases w.kdf with
  | error e => exact ⟨⟨_, rfl⟩, rfl⟩
  | ok u =>
    dsimp only
    unfold unlocking
    cases unwrap crypto header password <;> exact ⟨⟨_, rfl⟩, rfl⟩

/-- **A change of password that read the header** throws, or awaits the new key. -/
theorem resume_opening (current new : String) (params : KdfParams) (header : VaultHeaderRow) :
    (∃ error, (resume crypto v (.opening current new params header) w).2 = .ends (.threw error)) ∨
    ∃ salt oldKek dek, (resume crypto v (.opening current new params header) w).2 =
      .waits (.rewrapping new params salt oldKek dek) := by
  unfold resume
  cases w.kdf with
  | error e => exact .inl ⟨e, rfl⟩
  | ok u =>
    dsimp only
    unfold opening
    cases unwrap crypto header current with
    | error e => exact .inl ⟨e, rfl⟩
    | ok dek => exact .inr ⟨_, _, _, rfl⟩

/-- **One that awaited the new key** throws, or it has rewrapped the header. -/
theorem resume_rewrapping (new : String) (params : KdfParams) (salt : Random SALT_LENGTH) (oldKek dek : Nat) :
    (∃ error, (resume crypto v (.rewrapping new params salt oldKek dek) w).2 = .ends (.threw error)) ∨
    (resume crypto v (.rewrapping new params salt oldKek dek) w).2 = .ends (.rotated new) := by
  unfold resume
  cases w.kdf with
  | error e => exact .inl ⟨e, rfl⟩
  | ok u =>
    dsimp only
    unfold rewrapping
    cases updateHeader crypto v new params salt (read v.heap dek) w with
    | error e => exact .inl ⟨e, rfl⟩
    | ok updated => exact .inr rfl

end

/-! ## The invariant -/

/-- A request's call of the vault waits where the request has it, and a new password that got in is strong enough. -/
def Tie (params : KdfParams) (s : VaultSystem) : Request → Prop
  | .initializing call => ∃ password salt dek, frameAt s call = some (.initializing password params salt dek)
  | .unlocking call => ∃ password header, frameAt s call = some (.unlocking password header)
  | .rewrapping current new call => assertPasswordStrength new = .ok () ∧
    ((∃ header, frameAt s call = some (.opening current new params header)) ∨
      ∃ salt oldKek dek, frameAt s call = some (.rewrapping new params salt oldKek dek))
  | .rewrapped _ new | .confirming _ new _ => assertPasswordStrength new = .ok ()
  | _ => True

def callOf : Request → Option Nat
  | .initializing call | .unlocking call | .rewrapping _ _ call => some call
  | _ => none

/-- The credential and the header are under one password, or neither is there. -/
def Agreed (crypto : Crypto) (s : Install) : Prop :=
  (s.credential = none ∧ s.sys.memory.password = none) ∨
  ∃ credential password, s.credential = some credential ∧ s.sys.memory.password = some password ∧
    verifies crypto credential password = true

/-- What the rows are while a request stands between its two writes. -/
def Between (crypto : Crypto) (s : Install) : Request → Prop
  | .credentialSet password => s.sys.memory.password = none ∧
    ∃ credential, s.credential = some credential ∧ verifies crypto credential password = true
  | .initializing call => s.sys.memory.password = none ∧ ∃ credential password params salt dek, s.credential = some credential ∧
    verifies crypto credential password = true ∧ frameAt s.sys call = some (.initializing password params salt dek)
  | .rewrapped current new => s.sys.memory.password = some new ∧
    ∃ credential, s.credential = some credential ∧ verifies crypto credential current = true
  | .confirming current new credential => s.sys.memory.password = some new ∧ s.credential = some credential ∧
    verifies crypto credential current = true
  | .rehashing new _ => s.sys.memory.password = some new ∧ s.credential.isSome = true
  | _ => False

/-- No request stands between its writes and the rows agree, or one does. -/
def Phase (crypto : Crypto) (s : Install) : Prop :=
  (Agreed crypto s ∧ ∀ r request, requestAt s r = some request → halfDone request = false) ∨
  ∃ r request, requestAt s r = some request ∧ halfDone request = true ∧ Between crypto s request ∧
    ∀ r' request', requestAt s r' = some request' → halfDone request' = true → r' = r

structure InStep (crypto : Crypto) (params : KdfParams) (s : Install) : Prop where
  sound : Sound crypto s.sys
  tie : ∀ r request, requestAt s r = some request → Tie params s.sys request
  apart : ∀ r r' request request' call, requestAt s r = some request → requestAt s r' = some request' →
    callOf request = some call → callOf request' = some call → r = r'
  phase : Phase crypto s

section
variable {crypto : Crypto} {autolockMs : Int} {params : KdfParams} {s s' : Install} {r : Nat} {request : Request}
  {next : Option Request} {w : RequestWake}

theorem Tie.kept {sys sys' : VaultSystem} (h : Tie params sys request)
    (hframe : ∀ call f, callOf request = some call → frameAt sys call = some f → frameAt sys' call = some f) :
    Tie params sys' request := by
  cases request with
  | initializing call =>
    obtain ⟨p, salt, dek, hf⟩ := h
    exact ⟨p, salt, dek, hframe call _ rfl hf⟩
  | unlocking call =>
    obtain ⟨p, header, hf⟩ := h
    exact ⟨p, header, hframe call _ rfl hf⟩
  | rewrapping current new call =>
    obtain ⟨hstrong, ⟨header, hf⟩ | ⟨salt, oldKek, dek, hf⟩⟩ := h
    · exact ⟨hstrong, .inl ⟨header, hframe call _ rfl hf⟩⟩
    · exact ⟨hstrong, .inr ⟨salt, oldKek, dek, hframe call _ rfl hf⟩⟩
  | rewrapped current new => exact h
  | confirming current new credential => exact h
  | settingPassword password salt => trivial
  | credentialSet password => trivial
  | loggingIn password credential => trivial
  | loggedIn password => trivial
  | rehashing new salt => trivial

theorem Tie.frame {sys : VaultSystem} {call : Nat} (h : Tie params sys request) (hcall : callOf request = some call) :
    ∃ f, frameAt sys call = some f := by
  cases request with
  | initializing c =>
    obtain rfl := Option.some.inj hcall
    obtain ⟨p, salt, dek, hf⟩ := h
    exact ⟨_, hf⟩
  | unlocking c =>
    obtain rfl := Option.some.inj hcall
    obtain ⟨p, header, hf⟩ := h
    exact ⟨_, hf⟩
  | rewrapping current new c =>
    obtain rfl := Option.some.inj hcall
    obtain ⟨-, ⟨header, hf⟩ | ⟨salt, oldKek, dek, hf⟩⟩ := h
    · exact ⟨_, hf⟩
    · exact ⟨_, hf⟩
  | _ => cases hcall

theorem Between.kept (h : Between crypto s request) (hcredential : s'.credential = s.credential)
    (hpassword : s'.sys.memory.password = s.sys.memory.password)
    (hframe : ∀ call f, callOf request = some call → frameAt s.sys call = some f → frameAt s'.sys call = some f) :
    Between crypto s' request := by
  cases request with
  | initializing call =>
    obtain ⟨hp, c, p, q, salt, dek, hc, hv, hf⟩ := h
    exact ⟨hpassword.trans hp, c, p, q, salt, dek, hcredential.trans hc, hv, hframe call _ rfl hf⟩
  | credentialSet password =>
    obtain ⟨hp, c, hc, hv⟩ := h
    exact ⟨hpassword.trans hp, c, hcredential.trans hc, hv⟩
  | rewrapped current new =>
    obtain ⟨hp, c, hc, hv⟩ := h
    exact ⟨hpassword.trans hp, c, hcredential.trans hc, hv⟩
  | confirming current new credential =>
    obtain ⟨hp, hc, hv⟩ := h
    exact ⟨hpassword.trans hp, hcredential.trans hc, hv⟩
  | rehashing new salt =>
    obtain ⟨hp, hc⟩ := h
    exact ⟨hpassword.trans hp, by rw [hcredential]; exact hc⟩
  | settingPassword password salt => exact h.elim
  | loggingIn password credential => exact h.elim
  | loggedIn password => exact h.elim
  | unlocking call => exact h.elim
  | rewrapping current new call => exact h.elim

theorem Between.credential (h : Between crypto s request) : s.credential ≠ none := by
  intro hno
  cases request with
  | initializing call =>
    obtain ⟨-, c, _, _, _, _, hc, -⟩ := h
    rw [hno] at hc
    cases hc
  | credentialSet password =>
    obtain ⟨-, c, hc, -⟩ := h
    rw [hno] at hc
    cases hc
  | rewrapped current new =>
    obtain ⟨-, c, hc, -⟩ := h
    rw [hno] at hc
    cases hc
  | confirming current new credential =>
    obtain ⟨-, hc, -⟩ := h
    rw [hno] at hc
    cases hc
  | rehashing new salt =>
    obtain ⟨-, hc⟩ := h
    rw [hno] at hc
    cases hc
  | settingPassword password salt => exact h
  | loggingIn password credential => exact h
  | loggedIn password => exact h
  | unlocking call => exact h
  | rewrapping current new call => exact h

/-- **One request goes on**, the others stay where they are. -/
theorem InStep.advance (h : InStep crypto params s) (hat : ∀ j, requestAt s' j = if j = r then next else requestAt s j)
    (hsound : Sound crypto s'.sys)
    (hframe : ∀ call f, (∀ q, requestAt s r = some q → callOf q ≠ some call) → frameAt s.sys call = some f →
      frameAt s'.sys call = some f)
    (htie : ∀ q, next = some q → Tie params s'.sys q)
    (hcall : ∀ q call, next = some q → callOf q = some call →
      (∃ q', requestAt s r = some q' ∧ callOf q' = some call) ∨ s.sys.calls.length ≤ call)
    (hphase : Phase crypto s') : InStep crypto params s' := by
  -- another request's call is not this one's
  have hother : ∀ j q call, j ≠ r → requestAt s j = some q → callOf q = some call → ∀ q', requestAt s r = some q' →
      callOf q' ≠ some call := fun j q call hj hq hc q' hq' hc' => hj (h.apart j r q q' call hq hq' hc hc')
  have hnext : ∀ j q call q', j ≠ r → requestAt s j = some q → callOf q = some call → next = some q' → callOf q' ≠ some call := by
    intro j q call q' hj hq hc hn hc'
    rcases hcall q' call hn hc' with ⟨q₀, hq₀, hc₀⟩ | hle
    · exact hother j q call hj hq hc q₀ hq₀ hc₀
    · obtain ⟨f, hf⟩ := (h.tie j q hq).frame hc
      exact absurd (lt_of_frameAt hf) (by omega)
  refine ⟨hsound, fun j q hq => ?_, fun j j' q q' call hq hq' hc hc' => ?_, hphase⟩
  · rw [hat] at hq
    by_cases hj : j = r
    · rw [if_pos hj] at hq
      exact htie q hq
    · rw [if_neg hj] at hq
      exact (h.tie j q hq).kept fun call f hc hf => hframe call f (hother j q call hj hq hc) hf
  · rw [hat] at hq hq'
    by_cases hj : j = r
    · rw [if_pos hj] at hq
      by_cases hj' : j' = r
      · rw [hj, hj']
      · rw [if_neg hj'] at hq'
        exact absurd hc (hnext j' q' call q hj' hq' hc' hq)
    · rw [if_neg hj] at hq
      by_cases hj' : j' = r
      · rw [if_pos hj'] at hq'
        exact absurd hc' (hnext j q call q' hj hq hc hq')
      · rw [if_neg hj'] at hq'
        exact h.apart j j' q q' call hq hq' hc hc'

/-- A step that writes neither row leaves the phase. -/
theorem InStep.phase_same (h : InStep crypto params s) (hat : ∀ j, requestAt s' j = if j = r then next else requestAt s j)
    (hcredential : s'.credential = s.credential) (hpassword : s'.sys.memory.password = s.sys.memory.password)
    (hframe : ∀ call f, (∀ q, requestAt s r = some q → callOf q ≠ some call) → frameAt s.sys call = some f →
      frameAt s'.sys call = some f)
    (hold : ∀ q, requestAt s r = some q → halfDone q = false) (hnew : ∀ q, next = some q → halfDone q = false) :
    Phase crypto s' := by
  rcases h.phase with ⟨hagreed, hnone⟩ | ⟨j, q, hq, hhalf, hbetween, hone⟩
  · refine .inl ⟨?_, fun j q hq => ?_⟩
    · rcases hagreed with ⟨hc, hp⟩ | ⟨c, p, hc, hp, hv⟩
      · exact .inl ⟨hcredential.trans hc, hpassword.trans hp⟩
      · exact .inr ⟨c, p, hcredential.trans hc, hpassword.trans hp, hv⟩
    · rw [hat] at hq
      by_cases hj : j = r
      · rw [if_pos hj] at hq
        exact hnew q hq
      · rw [if_neg hj] at hq
        exact hnone j q hq
  · have hj : j ≠ r := by
      rintro rfl
      rw [hold q hq] at hhalf
      cases hhalf
    refine .inr ⟨j, q, by rw [hat, if_neg hj]; exact hq, hhalf, ?_, fun j' q' hq' hhalf' => ?_⟩
    · refine hbetween.kept hcredential hpassword fun call f hc hf => hframe call f (fun q' hq' hc' => ?_) hf
      exact hj (h.apart j r q q' call hq hq' hc hc')
    · rw [hat] at hq'
      by_cases hj' : j' = r
      · rw [if_pos hj'] at hq'
        rw [hnew q' hq'] at hhalf'
        cases hhalf'
      · rw [if_neg hj'] at hq'
        exact hone j' q' hq' hhalf'

theorem InStep.between (h : InStep crypto params s) (hq : requestAt s r = some request) (hhalf : halfDone request = true) :
    Between crypto s request ∧ ∀ j q, j ≠ r → requestAt s j = some q → halfDone q = false := by
  rcases h.phase with ⟨-, hnone⟩ | ⟨j, q, hj, -, hbetween, hone⟩
  · rw [hnone r request hq] at hhalf
    cases hhalf
  · obtain rfl := hone r request hq hhalf
    rw [hq] at hj
    obtain rfl := Option.some.inj hj
    refine ⟨hbetween, fun j q hne hq' => ?_⟩
    cases hh : halfDone q with
    | false => rfl
    | true => exact absurd (hone j q hq' hh) hne

/-- A step into or along a request's two writes. -/
theorem phase_between (hat : ∀ j, requestAt s' j = if j = r then next else requestAt s j) (hnext : next = some request)
    (hhalf : halfDone request = true) (hbetween : Between crypto s' request)
    (hothers : ∀ j q, j ≠ r → requestAt s j = some q → halfDone q = false) : Phase crypto s' := by
  refine .inr ⟨r, request, by rw [hat, if_pos rfl]; exact hnext, hhalf, hbetween, fun j q hq hh => ?_⟩
  rw [hat] at hq
  by_cases hj : j = r
  · exact hj
  · rw [if_neg hj] at hq
    rw [hothers j q hj hq] at hh
    cases hh

theorem phase_agreed (hat : ∀ j, requestAt s' j = if j = r then none else requestAt s j) (hagreed : Agreed crypto s')
    (hothers : ∀ j q, j ≠ r → requestAt s j = some q → halfDone q = false) : Phase crypto s' := by
  refine .inl ⟨hagreed, fun j q hq => ?_⟩
  rw [hat] at hq
  by_cases hj : j = r
  · rw [if_pos hj] at hq
    cases hq
  · rw [if_neg hj] at hq
    exact hothers j q hj hq

theorem requestAt_enqueue (p : Install × Option Request) (j : Nat) :
    requestAt (enqueue p) j = if j = p.1.requests.length then p.2 else requestAt p.1 j := by
  obtain ⟨s, next⟩ := p
  unfold enqueue requestAt
  cases next with
  | none =>
    dsimp only
    by_cases hj : j = s.requests.length
    · rw [if_pos hj, hj, List.getElem?_eq_none (le_refl _)]
      rfl
    · rw [if_neg hj]
  | some q =>
    dsimp only
    by_cases hj : j = s.requests.length
    · rw [if_pos hj, hj]
      simp
    · rw [if_neg hj]
      rcases Nat.lt_or_ge j s.requests.length with hlt | hge
      · rw [List.getElem?_append_left hlt]
      · rw [List.getElem?_eq_none hge, List.getElem?_eq_none]
        rw [List.length_append, List.length_singleton]
        omega

theorem requestAt_set (hrequests : s'.requests = s.requests.set r next) (hr : r < s.requests.length) (j : Nat) :
    requestAt s' j = if j = r then next else requestAt s j := by
  unfold requestAt
  rw [hrequests, List.getElem?_set]
  by_cases hj : j = r
  · rw [if_pos hj, if_pos hj.symm, if_pos hr]
    cases next <;> rfl
  · rw [if_neg hj, if_neg (Ne.symm hj)]

theorem lt_of_requestAt (hq : requestAt s r = some request) : r < s.requests.length := by
  by_contra hge
  unfold requestAt at hq
  rw [List.getElem?_eq_none (Nat.le_of_not_lt hge)] at hq
  cases hq

theorem call_frame {sys : VaultSystem} {k : Nat} {f : Suspended} (hf : frameAt sys k = some f) (c : VaultCall) (now : Int) :
    frameAt (vaultStep crypto autolockMs sys (.call c now)) k = some f :=
  (frameAt_step (lt_of_frameAt hf) fun w h => by cases h).2.trans hf

theorem wake_frame {sys : VaultSystem} {k call : Nat} {f : Suspended} (hf : frameAt sys k = some f) (hne : k ≠ call) (w : Wake) :
    frameAt (vaultStep crypto autolockMs sys (.wake call w)) k = some f :=
  (frameAt_step (lt_of_frameAt hf) fun w' h => by cases h; exact hne rfl).2.trans hf

theorem frame_called {sys : VaultSystem} {c : VaultCall} {now : Int} {v : VaultState} {f : Suspended}
    (hstart : start crypto autolockMs sys.vault now c = (v, .waits f)) :
    frameAt (vaultStep crypto autolockMs sys (.call c now)) sys.calls.length = some f :=
  frameAt_called hstart fun _ => List.not_mem_nil

theorem start_waits {sys : VaultSystem} {c : VaultCall} {now : Int} (h : outcome crypto autolockMs sys (.call c now) = none) :
    ∃ v f, start crypto autolockMs sys.vault now c = (v, .waits f) := by
  rw [outcome_call] at h
  rcases hs : start crypto autolockMs sys.vault now c with ⟨v, p⟩
  rw [hs] at h
  cases p with
  | waits f => exact ⟨v, f, rfl⟩
  | ends o => cases h

theorem header_of_password {sys : VaultSystem} (h : Sound crypto sys) :
    (sys.memory.password = none ↔ sys.vault.rows.header = none) ∧
    ∀ password, sys.memory.password = some password → ∃ header dataKey, sys.vault.rows.header = some header ∧
      header.version = VAULT_VERSION ∧ sys.memory.keys = [dataKey] ∧ Wraps crypto header password dataKey := by
  rcases h.keySafe.header with ⟨hk, hp, hh⟩ | ⟨d, q, header, hk, hp, hh, hv, hw⟩
  · refine ⟨⟨fun _ => hh, fun _ => hp⟩, fun password hpass => ?_⟩
    rw [hp] at hpass
    cases hpass
  · refine ⟨⟨fun hno => ?_, fun hno => ?_⟩, fun password hpass => ?_⟩
    · rw [hp] at hno
      cases hno
    · rw [hh] at hno
      cases hno
    · rw [hp] at hpass
      obtain rfl := Option.some.inj hpass
      exact ⟨header, d, hh, hv, hk, hw⟩

theorem verifies_congr {credential : CredentialRow} {a b : String} (h : crypto.normalize a = crypto.normalize b) :
    verifies crypto credential a = verifies crypto credential b := by
  unfold verifies hashWith deriveKey
  rw [h]

/-! ## Requests that go on -/

theorem step_wake (hq : requestAt s r = some request) : installStep crypto autolockMs params s (.wake r w) =
    { (advance crypto autolockMs params s w request).1 with
      requests := s.requests.set r (advance crypto autolockMs params s w request).2 } := by
  unfold installStep
  dsimp only
  rw [hq]

/-- A request that goes on without the vault and writes neither row. -/
theorem InStep.aside (h : InStep crypto params s) (hq : requestAt s r = some request) (hrequests : s'.requests = s.requests.set r next)
    (hsys : s'.sys = s.sys) (hcredential : s'.credential = s.credential) (hhalf : halfDone request = false)
    (hnew : ∀ q, next = some q → halfDone q = false ∧ callOf q = none ∧ Tie params s.sys q) : InStep crypto params s' := by
  have hat := requestAt_set hrequests (lt_of_requestAt hq)
  have hframe : ∀ call f, (∀ q, requestAt s r = some q → callOf q ≠ some call) → frameAt s.sys call = some f →
      frameAt s'.sys call = some f := fun call f _ hf => by rw [hsys]; exact hf
  refine h.advance hat (by rw [hsys]; exact h.sound) hframe (fun q hn => by rw [hsys]; exact (hnew q hn).2.2) ?_ ?_
  · intro q call hn hc
    rw [(hnew q hn).2.1] at hc
    cases hc
  · refine h.phase_same hat hcredential (by rw [hsys]) hframe (fun q hq' => ?_) fun q hn => (hnew q hn).1
    rw [hq] at hq'
    obtain rfl := Option.some.inj hq'
    exact hhalf

theorem insertCredential_ok {password : String} {salt : Random SALT_LENGTH} {w : Wake} {credential : CredentialRow}
    (h : insertCredential crypto params s password salt w = .ok credential) :
    s.credential = none ∧ verifies crypto credential password = true := by
  unfold insertCredential at h
  obtain ⟨-, -, h⟩ := bind_ok.1 h
  obtain ⟨-, -, h⟩ := bind_ok.1 h
  by_cases hc : s.credential.isSome = true
  · rw [if_pos hc] at h
    cases h
  · rw [if_neg hc] at h
    obtain rfl := pure_ok.1 h
    exact ⟨by simpa using hc, decide_eq_true rfl⟩

theorem settingPassword_step {password : String} {salt : Random SALT_LENGTH} (h : InStep crypto params s)
    (hq : requestAt s r = some (.settingPassword password salt)) :
    InStep crypto params (installStep crypto autolockMs params s (.wake r w)) := by
  rw [step_wake hq]
  unfold advance
  dsimp only
  cases hi : insertCredential crypto params s password salt w.wake with
  | error e => exact h.aside hq rfl rfl rfl rfl fun q hn => by cases hn
  | ok credential =>
    obtain ⟨hnone, hverifies⟩ := insertCredential_ok hi
    have hquiet : Agreed crypto s ∧ ∀ r request, requestAt s r = some request → halfDone request = false := by
      rcases h.phase with hquiet | ⟨_, _, _, _, hbetween, _⟩
      · exact hquiet
      · exact absurd hnone hbetween.credential
    have hpassword : s.sys.memory.password = none := by
      rcases hquiet.1 with ⟨-, hp⟩ | ⟨c, _, hc, -⟩
      · exact hp
      · rw [hnone] at hc
        cases hc
    have hat := fun j => @requestAt_set s { s with credential := some credential, requests := s.requests.set r (some (.credentialSet password)) }
      r (some (.credentialSet password)) rfl (lt_of_requestAt hq) j
    refine h.advance hat h.sound (fun _ _ _ hf => hf) ?_ ?_ ?_
    · intro q hn
      obtain rfl := Option.some.inj hn
      trivial
    · intro q call hn hc
      obtain rfl := Option.some.inj hn
      cases hc
    · exact phase_between hat rfl rfl ⟨hpassword, credential, rfl, hverifies⟩ fun j q _ hj => hquiet.2 j q hj

theorem callVault_some {c : VaultCall} {now : Int} {waits : Nat → Request} {q : Request}
    (hn : (callVault crypto autolockMs s c now waits).2 = some q) :
    q = waits s.sys.calls.length ∧ ∃ v f, start crypto autolockMs s.sys.vault now c = (v, .waits f) := by
  unfold callVault at hn
  dsimp only at hn
  cases ho : outcome crypto autolockMs s.sys (.call c now) with
  | none =>
    rw [ho] at hn
    exact ⟨(Option.some.inj hn).symm, start_waits ho⟩
  | some o =>
    rw [ho] at hn
    cases hn

/-- **A request that calls the vault**, with the phase it comes to. -/
theorem InStep.called (h : InStep crypto params s) {c : VaultCall} {now : Int} {waits : Nat → Request}
    (hat : ∀ j, requestAt s' j = if j = r then (callVault crypto autolockMs s c now waits).2 else requestAt s j)
    (hsys : s'.sys = vaultStep crypto autolockMs s.sys (.call c now))
    (htie : ∀ v f, start crypto autolockMs s.sys.vault now c = (v, .waits f) → Tie params s'.sys (waits s.sys.calls.length))
    (hcallOf : ∀ n, callOf (waits n) = some n) (hphase : Phase crypto s') : InStep crypto params s' := by
  refine h.advance hat (by rw [hsys]; exact h.sound.step _) (fun call f _ hf => ?_) (fun q hn => ?_) (fun q call hn hc => ?_) hphase
  · rw [hsys]
    exact call_frame hf c now
  · obtain ⟨rfl, v, f, hstart⟩ := callVault_some hn
    exact htie v f hstart
  · obtain ⟨rfl, -⟩ := callVault_some hn
    rw [hcallOf] at hc
    exact .inr (Option.some.inj hc).le

/-- **A request whose call of the vault goes on**, with the phase it comes to. -/
theorem InStep.woken (h : InStep crypto params s) {call : Nat} {w : Wake} (hq : requestAt s r = some request)
    (hc : callOf request = some call) (hat : ∀ j, requestAt s' j = if j = r then next else requestAt s j)
    (hsys : s'.sys = vaultStep crypto autolockMs s.sys (.wake call w)) (htie : ∀ q, next = some q → Tie params s'.sys q)
    (hnext : ∀ q c, next = some q → callOf q = some c → c = call) (hphase : Phase crypto s') : InStep crypto params s' := by
  refine h.advance hat (by rw [hsys]; exact h.sound.step _) (fun k f hother hf => ?_) htie (fun q c hn hc' => ?_) hphase
  · rw [hsys]
    refine wake_frame hf (fun hk => hother request hq ?_) w
    rw [hc, hk]
  · exact .inl ⟨request, hq, by rw [hc, hnext q c hn hc']⟩

theorem woken_frame {call : Nat} {w : Wake} (hq : requestAt s r = some request) (hc : callOf request = some call)
    (hsys : s'.sys = vaultStep crypto autolockMs s.sys (.wake call w)) (k : Nat) (f : Suspended)
    (hother : ∀ q, requestAt s r = some q → callOf q ≠ some k) (hf : frameAt s.sys k = some f) : frameAt s'.sys k = some f := by
  rw [hsys]
  refine wake_frame hf (fun hk => hother request hq ?_) w
  rw [hc, hk]

theorem wakeVault_eq {call : Nat} {w : Wake} {waits : Request} {after : Outcome → Option Request} {f : Suspended} {p : Progress}
    (hf : frameAt s.sys call = some f) (hp : (resume crypto s.sys.vault f w).2 = p) :
    (wakeVault crypto autolockMs s call w waits after).2 = followUp waits after (endOf p) ∧
    (vaultStep crypto autolockMs s.sys (.wake call w)).memory = remember s.sys.memory p ∧
    ∀ g, waiting p = some g → frameAt (vaultStep crypto autolockMs s.sys (.wake call w)) call = some g := by
  refine ⟨?_, ?_, fun g hg => ?_⟩
  · unfold wakeVault
    rw [outcome_of_frame hf, hp]
  · rw [step_of_frame hf, hp]
  · rw [step_of_frame hf, hp]
    exact (frameAt_set s.sys.calls _ _ call (lt_of_frameAt hf)).trans ((if_pos rfl).trans hg)

theorem credentialSet_step {password : String} (h : InStep crypto params s) (hq : requestAt s r = some (.credentialSet password))
    (hw : GoesThrough w) : InStep crypto params (installStep crypto autolockMs params s (.wake r w)) := by
  obtain ⟨⟨hpassword, credential, hcredential, hverifies⟩, hothers⟩ := h.between hq rfl
  have hnone : s.sys.vault.rows.header = none := (header_of_password h.sound).1.1 hpassword
  have hstart : ∃ v dek, start crypto autolockMs s.sys.vault w.wake.now (.initializeVault password params w.wake.salt w.dek) =
      (v, .waits (.initializing password params w.wake.salt dek)) := by
    unfold start initializeVault isInitialized
    rw [hnone]
    exact ⟨_, _, rfl⟩
  obtain ⟨v, dek, hstart⟩ := hstart
  have hframe := frame_called hstart
  rw [step_wake hq]
  unfold advance
  rw [hw.2.2]
  dsimp only
  have hnext : (callVault crypto autolockMs s (.initializeVault password params w.wake.salt w.dek) w.wake.now .initializing).2 =
      some (.initializing s.sys.calls.length) := by
    unfold callVault
    rw [outcome_call, hstart]
    rfl
  have hat := fun j => @requestAt_set s { (callVault crypto autolockMs s (.initializeVault password params w.wake.salt w.dek)
    w.wake.now .initializing).1 with requests := s.requests.set r (callVault crypto autolockMs s (.initializeVault password params
    w.wake.salt w.dek) w.wake.now .initializing).2 } r _ rfl (lt_of_requestAt hq) j
  refine h.called hat rfl (fun _ _ _ => ⟨password, w.wake.salt, dek, hframe⟩) (fun _ => rfl) ?_
  refine phase_between hat hnext rfl ?_ hothers
  exact ⟨(call_password _ _).trans hpassword, credential, password, params, w.wake.salt, dek, hcredential, hverifies, hframe⟩

theorem initializing_step {call : Nat} (h : InStep crypto params s) (hq : requestAt s r = some (.initializing call))
    (hw : GoesThrough w) : InStep crypto params (installStep crypto autolockMs params s (.wake r w)) := by
  obtain ⟨⟨hpassword, credential, password, ps, salt, dek, hcredential, hverifies, hf⟩, hothers⟩ := h.between hq rfl
  have hnone : s.sys.vault.rows.header = none := (header_of_password h.sound).1.1 hpassword
  obtain ⟨dataKey, hresume⟩ := @resume_initializing_ok crypto s.sys.vault w.wake password ps salt dek hw.1 hw.2.1 hnone
  obtain ⟨hnext, hmemory, -⟩ := @wakeVault_eq crypto autolockMs s call w.wake (.initializing call) (fun _ => none) _ _ hf hresume
  rw [step_wake hq]
  unfold advance
  dsimp only
  rw [hnext]
  have hat := fun j => @requestAt_set s { (wakeVault crypto autolockMs s call w.wake (.initializing call) fun _ => none).1 with
    requests := s.requests.set r none } r none rfl (lt_of_requestAt hq) j
  refine h.woken hq rfl hat rfl (fun q hn => by cases hn) (fun q c hn => by cases hn) (phase_agreed hat ?_ hothers)
  refine .inr ⟨credential, password, hcredential, ?_, hverifies⟩
  show (vaultStep crypto autolockMs s.sys (.wake call w.wake)).memory.password = some password
  rw [hmemory]
  rfl

theorem loggingIn_step {password : String} {credential : CredentialRow} (h : InStep crypto params s)
    (hq : requestAt s r = some (.loggingIn password credential)) :
    InStep crypto params (installStep crypto autolockMs params s (.wake r w)) := by
  rw [step_wake hq]
  unfold advance
  dsimp only
  cases acceptLogin crypto credential password w with
  | error e => exact h.aside hq rfl rfl rfl rfl fun q hn => by cases hn
  | ok u =>
    refine h.aside hq rfl rfl rfl rfl fun q hn => ?_
    obtain rfl := Option.some.inj hn
    exact ⟨rfl, rfl, trivial⟩

theorem loggedIn_step {password : String} (h : InStep crypto params s) (hq : requestAt s r = some (.loggedIn password)) :
    InStep crypto params (installStep crypto autolockMs params s (.wake r w)) := by
  rw [step_wake hq]
  unfold advance
  dsimp only
  by_cases hi : isInitialized s.sys.vault = true
  · rw [if_pos hi]
    have hat := fun j => @requestAt_set s { (callVault crypto autolockMs s (.unlock password) w.wake.now .unlocking).1 with
      requests := s.requests.set r (callVault crypto autolockMs s (.unlock password) w.wake.now .unlocking).2 } r _ rfl
      (lt_of_requestAt hq) j
    refine h.called hat rfl (fun v f hstart => ?_) (fun _ => rfl) ?_
    · have hnone : outcome crypto autolockMs s.sys (.call (.unlock password) w.wake.now) = none := by
        rw [outcome_call, hstart]
        rfl
      obtain ⟨header, _, _, _, _, hwaits⟩ := unlock_waits h.sound.keySafe hnone
      exact ⟨password, header, frame_called hwaits⟩
    · refine h.phase_same hat rfl (call_password _ _) (fun k f _ hf => call_frame hf _ _) (fun q hq' => ?_) fun q hn => ?_
      · rw [hq] at hq'
        obtain rfl := Option.some.inj hq'
        rfl
      · obtain ⟨rfl, -⟩ := callVault_some hn
        rfl
  · rw [if_neg hi]
    exact h.aside hq rfl rfl rfl rfl fun q hn => by cases hn

theorem unlocking_step {call : Nat} (h : InStep crypto params s) (hq : requestAt s r = some (.unlocking call)) :
    InStep crypto params (installStep crypto autolockMs params s (.wake r w)) := by
  obtain ⟨password, header, hf⟩ := h.tie r _ hq
  obtain ⟨⟨o, hresume⟩, hpassword⟩ := @resume_unlocking crypto s.sys.vault w.wake password header s.sys.memory
  obtain ⟨hnext, hmemory, -⟩ := @wakeVault_eq crypto autolockMs s call w.wake (.unlocking call) (fun _ => none) _ _ hf hresume
  rw [step_wake hq]
  unfold advance
  dsimp only
  rw [hnext]
  have hat := fun j => @requestAt_set s { (wakeVault crypto autolockMs s call w.wake (.unlocking call) fun _ => none).1 with
    requests := s.requests.set r none } r none rfl (lt_of_requestAt hq) j
  refine h.woken hq rfl hat rfl (fun q hn => by cases hn) (fun q c hn => by cases hn) ?_
  refine h.phase_same hat rfl ?_ (fun k f hother hf' => woken_frame hq rfl rfl k f hother hf') (fun q hq' => ?_) fun q hn => ?_
  · show (vaultStep crypto autolockMs s.sys (.wake call w.wake)).memory.password = _
    rw [hmemory, ← hresume]
    exact hpassword
  · rw [hq] at hq'
    obtain rfl := Option.some.inj hq'
    rfl
  · cases hn

theorem current_of_stillCurrent {sys : VaultSystem} {current password : String} (h : Sound crypto sys)
    (hpassword : sys.memory.password = some password)
    (hstill : (sys.vault.rows.header.any fun header => (unwrap crypto header current).isOk) = true) :
    crypto.normalize current = crypto.normalize password := by
  obtain ⟨header, dataKey, hheader, -, -, hwraps⟩ := (header_of_password h).2 password hpassword
  rw [hheader] at hstill
  cases hu : unwrap crypto header current with
  | ok d => exact (hwraps.unwrap_iff.1 hu).1
  | error e =>
    rw [show (some header).any (fun header => (unwrap crypto header current).isOk) = (unwrap crypto header current).isOk from rfl,
      hu] at hstill
    cases hstill

/-- A change of password whose call ends by throwing, or goes on waiting. -/
theorem rewrapping_aside {current new : String} {call : Nat} {f : Suspended} {p : Progress} (h : InStep crypto params s)
    (hq : requestAt s r = some (.rewrapping current new call)) (hf : frameAt s.sys call = some f)
    (hp : (resume crypto s.sys.vault f w.wake).2 = p)
    (hcase : (∃ error, p = .ends (.threw error)) ∨ ∃ salt oldKek dek, p = .waits (.rewrapping new params salt oldKek dek)) :
    InStep crypto params (installStep crypto autolockMs params s (.wake r w)) := by
  obtain ⟨hnext, hmemory, hframe⟩ := @wakeVault_eq crypto autolockMs s call w.wake (.rewrapping current new call)
    (afterRewrap current new) _ _ hf hp
  have hstrong := (h.tie r _ hq).1
  have hwaits : ∀ q, followUp (.rewrapping current new call) (afterRewrap current new) (endOf p) = some q →
      q = .rewrapping current new call ∧ ∃ salt oldKek dek, p = .waits (.rewrapping new params salt oldKek dek) := by
    intro q hn
    rcases hcase with ⟨error, rfl⟩ | ⟨salt, oldKek, dek, rfl⟩
    · cases hn
    · exact ⟨(Option.some.inj hn).symm, salt, oldKek, dek, rfl⟩
  rw [step_wake hq]
  unfold advance
  dsimp only
  rw [hnext]
  have hat := fun j => @requestAt_set s { (wakeVault crypto autolockMs s call w.wake (.rewrapping current new call)
    (afterRewrap current new)).1 with requests := s.requests.set r (followUp (.rewrapping current new call)
    (afterRewrap current new) (endOf p)) } r _ rfl (lt_of_requestAt hq) j
  refine h.woken hq rfl hat rfl (fun q hn => ?_) (fun q c hn hc => ?_) ?_
  · obtain ⟨rfl, salt, oldKek, dek, rfl⟩ := hwaits q hn
    exact ⟨hstrong, .inr ⟨salt, oldKek, dek, hframe _ rfl⟩⟩
  · obtain ⟨rfl, -⟩ := hwaits q hn
    exact (Option.some.inj hc).symm
  · refine h.phase_same hat rfl ?_ (fun k f hother hf' => woken_frame hq rfl rfl k f hother hf') (fun q hq' => ?_) fun q hn => ?_
    · show (vaultStep crypto autolockMs s.sys (.wake call w.wake)).memory.password = _
      rw [hmemory]
      rcases hcase with ⟨error, rfl⟩ | ⟨salt, oldKek, dek, rfl⟩
      · rfl
      · rfl
    · rw [hq] at hq'
      obtain rfl := Option.some.inj hq'
      rfl
    · obtain ⟨rfl, -⟩ := hwaits q hn
      rfl

theorem rewrapping_step {current new : String} {call : Nat} (h : InStep crypto params s)
    (hq : requestAt s r = some (.rewrapping current new call))
    (hw : aboutToRewrap s (.rewrapping current new call) = true →
      (∀ r' other, requestAt s r' = some other → halfDone other = false) ∧ stillCurrent crypto s current = true) :
    InStep crypto params (installStep crypto autolockMs params s (.wake r w)) := by
  obtain ⟨hstrong, ⟨header, hf⟩ | ⟨salt, oldKek, dek, hf⟩⟩ := h.tie r _ hq
  · exact rewrapping_aside h hq hf rfl (resume_opening current new params header)
  · rcases @resume_rewrapping crypto s.sys.vault w.wake new params salt oldKek dek with hthrew | hrotated
    · exact rewrapping_aside h hq hf rfl (.inl hthrew)
    · -- the header is rewrapped, and the credential is to follow
      have habout : aboutToRewrap s (.rewrapping current new call) = true := by
        unfold aboutToRewrap
        dsimp only
        rw [hf]
      obtain ⟨hquiet, hstill⟩ := hw habout
      obtain ⟨hnext, hmemory, -⟩ := @wakeVault_eq crypto autolockMs s call w.wake (.rewrapping current new call)
        (afterRewrap current new) _ _ hf hrotated
      have hcurrent : ∃ credential, s.credential = some credential ∧ verifies crypto credential current = true := by
        rcases h.phase with ⟨⟨-, hno⟩ | ⟨credential, password, hc, hp, hv⟩, -⟩ | ⟨j, q, hj, hhalf, -, -⟩
        · have hheader := (header_of_password h.sound).1.1 hno
          unfold stillCurrent at hstill
          rw [hheader] at hstill
          cases hstill
        · refine ⟨credential, hc, ?_⟩
          rw [verifies_congr (current_of_stillCurrent h.sound hp hstill)]
          exact hv
        · rw [hquiet j q hj] at hhalf
          cases hhalf
      rw [step_wake hq]
      unfold advance
      dsimp only
      rw [hnext]
      have hat := fun j => @requestAt_set s { (wakeVault crypto autolockMs s call w.wake (.rewrapping current new call)
        (afterRewrap current new)).1 with requests := s.requests.set r (some (.rewrapped current new)) } r _ rfl
        (lt_of_requestAt hq) j
      refine h.woken hq rfl hat rfl (fun q hn => ?_) (fun q c hn hc => ?_) ?_
      · obtain rfl := Option.some.inj hn
        exact hstrong
      · obtain rfl := Option.some.inj hn
        cases hc
      · refine phase_between hat rfl rfl ⟨?_, hcurrent⟩ fun j q _ hj => hquiet j q hj
        show (vaultStep crypto autolockMs s.sys (.wake call w.wake)).memory.password = _
        rw [hmemory]
        rfl

/-- A request between its writes that goes on without the vault, to its next step there. -/
theorem InStep.along (h : InStep crypto params s) (q : Request) (hq : requestAt s r = some request)
    (hhalf : halfDone request = true) (hnew : halfDone q = true) (hbetween : Between crypto s q) (hcall : callOf q = none)
    (htie : Tie params s.sys q) : InStep crypto params { s with requests := s.requests.set r (some q) } := by
  have hat := fun j => @requestAt_set s { s with requests := s.requests.set r (some q) } r (some q) rfl (lt_of_requestAt hq) j
  refine h.advance hat h.sound (fun _ _ _ hf => hf) (fun q' hn => ?_) (fun q' call hn hc => ?_) ?_
  · obtain rfl := Option.some.inj hn
    exact htie
  · obtain rfl := Option.some.inj hn
    rw [hcall] at hc
    cases hc
  · refine phase_between hat rfl hnew ?_ (h.between hq hhalf).2
    exact hbetween.kept rfl rfl fun _ _ _ hf => hf

theorem rewrapped_step {current new : String} (h : InStep crypto params s) (hq : requestAt s r = some (.rewrapped current new)) :
    InStep crypto params (installStep crypto autolockMs params s (.wake r w)) := by
  obtain ⟨⟨hpassword, credential, hcredential, hverifies⟩, -⟩ := h.between hq rfl
  have hnext : s.credential.map (Request.confirming current new) = some (.confirming current new credential) := by
    rw [hcredential]
    rfl
  rw [step_wake hq]
  unfold advance
  dsimp only
  rw [hnext]
  exact h.along (.confirming current new credential) hq rfl rfl ⟨hpassword, hcredential, hverifies⟩ rfl
    (show assertPasswordStrength new = .ok () from h.tie r _ hq)

theorem confirming_step {current new : String} {credential : CredentialRow} (h : InStep crypto params s)
    (hq : requestAt s r = some (.confirming current new credential)) (hw : GoesThrough w) :
    InStep crypto params (installStep crypto autolockMs params s (.wake r w)) := by
  obtain ⟨⟨hpassword, hcredential, hverifies⟩, -⟩ := h.between hq rfl
  have hconfirmed : confirmCurrent crypto credential current new w.wake = .ok () := by
    unfold confirmCurrent
    rw [hw.1, hverifies]
    exact h.tie r _ hq
  rw [step_wake hq]
  unfold advance
  dsimp only
  rw [hconfirmed]
  refine h.along (.rehashing new w.wake.salt) hq rfl rfl ⟨hpassword, ?_⟩ rfl trivial
  rw [hcredential]
  rfl

theorem rehashing_step {new : String} {salt : Random SALT_LENGTH} (h : InStep crypto params s)
    (hq : requestAt s r = some (.rehashing new salt)) (hw : GoesThrough w) :
    InStep crypto params (installStep crypto autolockMs params s (.wake r w)) := by
  obtain ⟨⟨hpassword, hsome⟩, hothers⟩ := h.between hq rfl
  obtain ⟨credential, hcredential⟩ := Option.isSome_iff_exists.1 hsome
  have hupdated : ∃ credential', updateCredential crypto params s new salt w.wake = .ok (some credential') ∧
      verifies crypto credential' new = true := by
    unfold updateCredential
    rw [hw.1, hw.2.1, hcredential]
    exact ⟨_, rfl, decide_eq_true rfl⟩
  obtain ⟨credential', hupdated, hverifies⟩ := hupdated
  rw [step_wake hq]
  unfold advance
  dsimp only
  rw [hupdated]
  have hat := fun j => @requestAt_set s { s with credential := some credential', requests := s.requests.set r none } r none rfl
    (lt_of_requestAt hq) j
  refine h.advance hat h.sound (fun _ _ _ hf => hf) (fun q hn => by cases hn) (fun q call hn => by cases hn) ?_
  exact phase_agreed hat (.inr ⟨credential', new, rfl, hpassword, hverifies⟩) hothers

/-! ## Every event -/

theorem requestAt_length (s : Install) : requestAt s s.requests.length = none := by
  unfold requestAt
  rw [List.getElem?_eq_none (le_refl _)]
  rfl

theorem InStep.enqueue_aside (h : InStep crypto params s) {throttle : ThrottleRow}
    (hnew : ∀ q, next = some q → halfDone q = false ∧ callOf q = none ∧ Tie params s.sys q) :
    InStep crypto params (enqueue ({ s with throttle := throttle }, next)) := by
  have hat : ∀ j, requestAt (enqueue ({ s with throttle := throttle }, next)) j =
      if j = s.requests.length then next else requestAt s j := requestAt_enqueue _
  have hsys : (enqueue ({ s with throttle := throttle }, next)).sys = s.sys ∧
      (enqueue ({ s with throttle := throttle }, next)).credential = s.credential := by
    cases next <;> exact ⟨rfl, rfl⟩
  have hframe : ∀ call f, (∀ q, requestAt s s.requests.length = some q → callOf q ≠ some call) → frameAt s.sys call = some f →
      frameAt (enqueue ({ s with throttle := throttle }, next)).sys call = some f := fun call f _ hf => by rw [hsys.1]; exact hf
  refine h.advance hat (by rw [hsys.1]; exact h.sound) hframe (fun q hn => by rw [hsys.1]; exact (hnew q hn).2.2) ?_ ?_
  · intro q call hn hc
    rw [(hnew q hn).2.1] at hc
    cases hc
  · refine h.phase_same hat hsys.2 (by rw [hsys.1]) hframe (fun q hq => ?_) fun q hn => (hnew q hn).1
    rw [requestAt_length] at hq
    cases hq

theorem strong_of_withinLength {new : String} (h : withinLength new 12 512 = true) : assertPasswordStrength new = .ok () := by
  unfold withinLength at h
  rw [Bool.and_eq_true, decide_eq_true_eq, decide_eq_true_eq] at h
  unfold assertPasswordStrength
  rw [if_neg (by omega), if_neg (by omega)]
  rfl

theorem postSetup_step (h : InStep crypto params s) (password : String) (localOnly : Result Unit) (salt : Random SALT_LENGTH) :
    InStep crypto params (enqueue (postSetup s password localOnly salt)) := by
  unfold postSetup
  split
  · exact h.enqueue_aside fun q hn => by cases hn
  · split
    · exact h.enqueue_aside fun q hn => by cases hn
    · split
      · exact h.enqueue_aside fun q hn => by cases hn
      · refine h.enqueue_aside fun q hn => ?_
        obtain rfl := Option.some.inj hn
        exact ⟨rfl, rfl, trivial⟩

theorem postLogin_step (h : InStep crypto params s) (password : String) (now : Int) :
    InStep crypto params (enqueue (postLogin s password now)) := by
  unfold postLogin
  split
  · exact h.enqueue_aside fun q hn => by cases hn
  · split
    · exact h.enqueue_aside fun q hn => by cases hn
    · split
      · exact h.enqueue_aside fun q hn => by cases hn
      · refine h.enqueue_aside fun q hn => ?_
        obtain rfl := Option.some.inj hn
        exact ⟨rfl, rfl, trivial⟩

theorem postPassword_step (h : InStep crypto params s) (current new : String) (granted : Result Unit) (now : Int)
    (hvault : s.credential.isSome = true → isInitialized s.sys.vault = true) :
    InStep crypto params (enqueue (postPassword crypto autolockMs params s current new granted now)) := by
  unfold postPassword
  by_cases hlength : (!withinLength current 1 512 || !withinLength new 12 512) = true
  · rw [if_pos hlength]
    exact h.enqueue_aside fun q hn => by cases hn
  · rw [if_neg hlength]
    have hstrong : assertPasswordStrength new = .ok () := by
      refine strong_of_withinLength ?_
      cases hn : withinLength new 12 512 with
      | true => rfl
      | false =>
        rw [hn] at hlength
        exact absurd (Bool.or_true _) hlength
    cases granted with
    | error e => exact h.enqueue_aside fun q hn => by cases hn
    | ok u =>
      dsimp only
      by_cases hi : isInitialized s.sys.vault = true
      · rw [if_pos hi]
        have hat : ∀ j, requestAt (enqueue (callVault crypto autolockMs s (.changePassword current new params) now
            (.rewrapping current new))) j = if j = s.requests.length then (callVault crypto autolockMs s
            (.changePassword current new params) now (.rewrapping current new)).2 else requestAt s j := requestAt_enqueue _
        have hrows : ∀ p : Install × Option Request, (enqueue p).sys = p.1.sys ∧ (enqueue p).credential = p.1.credential := by
          rintro ⟨s, next⟩
          cases next <;> exact ⟨rfl, rfl⟩
        refine h.called hat (hrows _).1 (fun v f hstart => ?_) (fun _ => rfl) ?_
        · rw [(hrows _).1]
          obtain ⟨header, hheader⟩ := Option.isSome_iff_exists.1 hi
          have hopening : f = .opening current new params header := by
            have hcall : start crypto autolockMs s.sys.vault now (.changePassword current new params) =
                (s.sys.vault, .waits (.opening current new params header)) := by
              unfold start changePassword
              rw [hheader]
            rw [hcall] at hstart
            exact (Progress.waits.inj (Prod.mk.inj hstart).2).symm
          rw [hopening] at hstart
          exact ⟨hstrong, .inl ⟨header, frame_called hstart⟩⟩
        · refine h.phase_same hat (hrows _).2 ?_ (fun k f _ hf => ?_) (fun q hq => ?_) fun q hn => ?_
          · rw [(hrows _).1]
            exact call_password _ _
          · rw [(hrows _).1]
            exact call_frame hf _ _
          · rw [requestAt_length] at hq
            cases hq
          · obtain ⟨rfl, -⟩ := callVault_some hn
            rfl
      · rw [if_neg hi]
        have hnone : s.credential = none := by
          cases hc : s.credential with
          | none => rfl
          | some c => exact absurd (hvault (by rw [hc]; rfl)) hi
        rw [hnone]
        exact h.enqueue_aside fun q hn => by cases hn

theorem InStep.step (h : InStep crypto params s) {e : InstallEvent} (he : Undisturbed crypto s e) :
    InStep crypto params (installStep crypto autolockMs params s e) := by
  cases e with
  | setup password localOnly salt => exact postSetup_step h password localOnly salt
  | login password now => exact postLogin_step h password now
  | password current new granted now => exact postPassword_step h current new granted now he
  | lock =>
    refine ⟨@Sound.step crypto s.sys autolockMs h.sound (.call .lock 0), fun r q hq => ?_, h.apart, ?_⟩
    · exact (h.tie r q hq).kept fun call f _ hf => call_frame hf _ _
    · rcases h.phase with hquiet | ⟨r, q, hq, hhalf, hbetween, hone⟩
      · exact .inl hquiet
      · exact .inr ⟨r, q, hq, hhalf, hbetween.kept rfl rfl fun call f _ hf => call_frame hf _ _, hone⟩
  | crash =>
    have hnone : ∀ r, requestAt (installStep crypto autolockMs params s .crash) r = none := fun r => by
      unfold requestAt installStep
      simp
    refine ⟨h.sound.restart, fun r q hq => ?_, fun r r' q q' call hq => ?_, ?_⟩
    · rw [hnone] at hq
      cases hq
    · rw [hnone] at hq
      cases hq
    · rcases h.phase with ⟨hagreed, -⟩ | ⟨r, q, hq, hhalf, -, -⟩
      · refine .inl ⟨hagreed, fun r q hq => ?_⟩
        rw [hnone] at hq
        cases hq
      · rw [he r q hq] at hhalf
        cases hhalf
  | wake r w =>
    cases hq : requestAt s r with
    | none =>
      have hsame : installStep crypto autolockMs params s (.wake r w) = s := by
        unfold installStep
        dsimp only
        rw [hq]
      rw [hsame]
      exact h
    | some request =>
      obtain ⟨hgoes, hrewrap⟩ := he request hq
      cases request with
      | settingPassword password salt => exact settingPassword_step h hq
      | credentialSet password => exact credentialSet_step h hq (hgoes rfl)
      | initializing call => exact initializing_step h hq (hgoes rfl)
      | loggingIn password credential => exact loggingIn_step h hq
      | loggedIn password => exact loggedIn_step h hq
      | unlocking call => exact unlocking_step h hq
      | rewrapping current new call => exact rewrapping_step h hq (hrewrap current new call rfl)
      | rewrapped current new => exact rewrapped_step h hq
      | confirming current new credential => exact confirming_step h hq (hgoes rfl)
      | rehashing new salt => exact rehashing_step h hq (hgoes rfl)

/-- **The invariant gives one password** where nothing is in flight. -/
theorem InStep.onePassword (h : InStep crypto params s) : OnePassword crypto s := by
  intro hsome hidle
  rcases h.phase with ⟨⟨hnone, -⟩ | ⟨credential, password, hc, hp, hv⟩, -⟩ | ⟨r, q, hq, -, -, -⟩
  · rw [hnone] at hsome
    cases hsome
  · obtain ⟨header, dataKey, hheader, hversion, hkeys, hwraps⟩ := (header_of_password h.sound).2 password hp
    exact ⟨password, ⟨credential, hc, hv⟩, header, dataKey, hheader, hversion, hkeys, hwraps.unwrap_iff.2 ⟨rfl, rfl⟩⟩
  · rw [hidle r] at hq
    cases hq

end

/-- **One password signs in and opens the vault** in every state that undisturbed requests reach, whatever the order in which they
go on. -/
theorem onePassword_along (crypto : Crypto) (autolockMs : Int) (params : KdfParams) (es : List InstallEvent)
    (h : Along (installStep crypto autolockMs params) (Undisturbed crypto) newInstall es) :
    ∀ pre post, es = pre ++ post → OnePassword crypto (installed crypto autolockMs params pre) := by
  intro pre post hes
  suffices hin : InStep crypto params (installed crypto autolockMs params pre) from hin.onePassword
  have hpre : Along (installStep crypto autolockMs params) (Undisturbed crypto) newInstall pre := by
    refine along_iff.2 fun pre' e post' hp => along_iff.1 h pre' e (post' ++ post) ?_
    rw [hes, hp, List.append_assoc, List.cons_append]
  clear hes h
  unfold installed
  induction pre using List.reverseRecOn with
  | nil =>
    have hnone : ∀ r, requestAt newInstall r = none := fun r => by
      unfold requestAt newInstall
      simp
    refine ⟨newVault_sound, fun r q hq => ?_, fun r r' q q' call hq => ?_, .inl ⟨.inl ⟨rfl, rfl⟩, fun r q hq => ?_⟩⟩ <;>
      rw [after_nil, hnone] at hq <;> cases hq
  | append_singleton pre e ih =>
    obtain ⟨hpre', he⟩ := along_snoc.1 hpre
    rw [after_snoc]
    exact (ih hpre').step he

/-! ### A change of password cut short -/

def goesOn (now : Int) : RequestWake := ⟨derivedAt now, ones _, .ok ()⟩

theorem undisturbed_of {crypto : Crypto} {s : Install} {r : Nat} (now : Int)
    (h : ((requestAt s r).all fun q => !aboutToRewrap s q) = true) : Undisturbed crypto s (.wake r (goesOn now)) := by
  intro request hq
  refine ⟨fun _ => ⟨rfl, rfl, rfl⟩, fun current new call _ habout => ?_⟩
  rw [hq] at h
  replace h : (!aboutToRewrap s request) = true := h
  rw [habout] at h
  cases h

def setupDone : List InstallEvent :=
  [.setup "correct horse battery" (.ok ()) (zeros _), .wake 0 (goesOn 1000), .wake 0 (goesOn 1001), .wake 0 (goesOn 2000)]

theorem setupDone_undisturbed : Along (installStep clearCrypto halfHour.ms testKdf) (Undisturbed clearCrypto) newInstall setupDone :=
  ⟨trivial, undisturbed_of _ (by decide +kernel), undisturbed_of _ (by decide +kernel), undisturbed_of _ (by decide +kernel), trivial⟩

theorem onePassword_setupDone : OnePassword clearCrypto (installed clearCrypto halfHour.ms testKdf setupDone) :=
  onePassword_along clearCrypto halfHour.ms testKdf setupDone setupDone_undisturbed setupDone [] (List.append_nil _).symm

/-- The process dies after the header was rewrapped and before the credential is rehashed. -/
def cutShort : List InstallEvent :=
  setupDone ++ [.password "correct horse battery" "staple tidepool" (.ok ()) 3000, .wake 1 (goesOn 4000), .wake 1 (goesOn 5000), .crash]

/-- **The old password signs in and does not open the vault**, the new one does not sign in. -/
theorem cutShort_not_onePassword : ¬ ∀ es pre post, es = pre ++ post →
    OnePassword clearCrypto (installed clearCrypto halfHour.ms testKdf pre) := by
  intro h
  have hcredential : (installed clearCrypto halfHour.ms testKdf cutShort).credential = some
      ⟨"argon2id", (zeros SALT_LENGTH).1, deriveKey clearCrypto "correct horse battery" (zeros SALT_LENGTH).1 testKdf, 8, 1, 1⟩ := by
    decide +kernel
  have hclosed : stillCurrent clearCrypto (installed clearCrypto halfHour.ms testKdf cutShort) "correct horse battery" = false := by
    decide +kernel
  have hidle : (installed clearCrypto halfHour.ms testKdf cutShort).requests.length = 0 := by decide +kernel
  obtain ⟨password, ⟨credential, hc, hv⟩, header, dataKey, hheader, -, -, hopens⟩ := h cutShort cutShort [] (List.append_nil _).symm
    (by rw [hcredential]; rfl) fun r => by
      unfold requestAt
      rw [List.length_eq_zero_iff.1 hidle]
      rfl
  rw [hcredential] at hc
  obtain rfl := Option.some.inj hc
  have hold : password = "correct horse battery" := clearCrypto.argon2id_inj (of_decide_eq_true hv)
  unfold stillCurrent at hclosed
  rw [hheader, ← hold] at hclosed
  replace hclosed : (unwrap clearCrypto header password).isOk = false := hclosed
  rw [hopens] at hclosed
  cases hclosed

end Auth
end Atra
