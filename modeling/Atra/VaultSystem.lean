import Atra.History
import Atra.Vault
/-!
# VaultSystem — the vault and its calls in flight

Any number of calls run, each suspended where it awaits a key.  The buffers a call holds are its own, and the vault's key is in
a buffer of its own; so whatever the others wipe meanwhile, the header goes on wrapping the one data key (`Sound`): each turn of
a call is one of the `Turn`s that keep it so.
-/
namespace Atra
namespace Vault

open Money Buffers History

/-- The window is a whole number of minutes, at least one. -/
structure Autolock where
  ms : Int
  positive : 0 < ms

inductive VaultCall where
  | initializeVault (password : String) (params : KdfParams) (salt : Random SALT_LENGTH) (dek : Random KEY_LENGTH)
  | unlock (password : String)
  | changePassword (current new : String) (params : KdfParams)
  | verifyPassword (password : String)
  | putSecret (kind : SecretKind) (label : String) (plaintext : Bytes) (id : String) (nonce : Random NONCE_LENGTH)
      (statement : Result Unit)
  | useSecret (id : String)
  | lock
  /-- The idle timer, which runs while it is armed. -/
  | timer

inductive VaultEvent where
  | call (c : VaultCall) (now : Int)
  /-- The derivation of the call with this number comes back. -/
  | wake (k : Nat) (w : Wake)

def ended (r : VaultState × Outcome) : VaultState × Progress := (r.1, .ends r.2)

def start (crypto : Crypto) (autolockMs : Int) (v : VaultState) (now : Int) : VaultCall → VaultState × Progress
  | .initializeVault password params salt dek => initializeVault v password params salt dek
  | .unlock password => unlock v password
  | .changePassword current new params => changePassword v current new params
  | .verifyPassword password => verifyPassword v password
  | .putSecret kind label plaintext id nonce statement =>
    ended (putSecret crypto autolockMs v kind label plaintext id nonce statement now)
  | .useSecret id => ended (useSecret crypto autolockMs v id now)
  | .lock => (lock v, .ends .settled)
  | .timer => (if v.armed then enforceAutolock autolockMs v now else v, .ends .settled)

/-- What the calls that ended say was done: the keys generated, the password written last, the secrets stored. -/
structure Memory where
  keys : List Bytes
  password : Option String
  stored : List (SecretRow × Bytes)

def remember (m : Memory) : Progress → Memory
  | .ends (.initialized password dataKey) => { m with keys := m.keys ++ [dataKey], password := some password }
  | .ends (.rotated password) => { m with password := some password }
  | .ends (.stored row plaintext) => { m with stored := m.stored ++ [(row, plaintext)] }
  | _ => m

/-- The vault, its calls by number (a call that ended holds nothing), and what they told. -/
structure VaultSystem where
  vault : VaultState
  calls : List (Option Suspended)
  memory : Memory

def newVault : VaultSystem := ⟨noVault, [], ⟨[], none, []⟩⟩

def frameAt (s : VaultSystem) (k : Nat) : Option Suspended := s.calls[k]?.join

/-- What an event does; one that wakes nobody does nothing. -/
def turn (crypto : Crypto) (autolockMs : Int) (s : VaultSystem) : VaultEvent → Option (VaultState × Progress)
  | .call c now => some (start crypto autolockMs s.vault now c)
  | .wake k w => (frameAt s k).map fun frame => resume crypto s.vault frame w

def waiting : Progress → Option Suspended
  | .waits frame => some frame
  | .ends _ => none

def reframe (calls : List (Option Suspended)) (p : Progress) : VaultEvent → List (Option Suspended)
  | .call _ _ => match p with
    | .waits frame => calls ++ [some frame]
    | .ends _ => calls
  | .wake k _ => calls.set k (waiting p)

def vaultStep (crypto : Crypto) (autolockMs : Int) (s : VaultSystem) (e : VaultEvent) : VaultSystem :=
  match turn crypto autolockMs s e with
  | none => s
  | some (v, p) => ⟨v, reframe s.calls p e, remember s.memory p⟩

def reached (crypto : Crypto) (autolockMs : Int) (es : List VaultEvent) : VaultSystem :=
  after (vaultStep crypto autolockMs) newVault es

/-- The process starts again: the rows are left, the calls are not. -/
def restartVault (s : VaultSystem) : VaultSystem := { s with vault := boot s.vault.rows, calls := [] }

/-- How the event's call ended, where it did. -/
def outcome (crypto : Crypto) (autolockMs : Int) (s : VaultSystem) (e : VaultEvent) : Option Outcome :=
  match turn crypto autolockMs s e with
  | some (_, .ends o) => some o
  | _ => none

def eventTime : VaultEvent → Int
  | .call _ now => now
  | .wake _ w => w.now

/-- A header wraps a data key under a password. -/
structure Wraps (crypto : Crypto) (header : VaultHeaderRow) (password : String) (dataKey : Bytes) : Prop where
  key : dataKey.length = KEY_LENGTH
  nonce : header.wrapNonce.length = NONCE_LENGTH
  wrapped : header.wrappedDek =
    crypto.xchacha20poly1305.encrypt (headerKey crypto header password) header.wrapNonce WRAP_AAD dataKey

/-! ## Boxes and keys -/

section
variable {crypto : Crypto} {key plaintext dataKey dataKey' : Bytes} {box : SealedBox} {aad context password password' : String}
  {header : VaultHeaderRow}

theorem length_deriveKey {salt : Bytes} {params : KdfParams} : (deriveKey crypto password salt params).length = KEY_LENGTH :=
  crypto.length_argon2id _ _ _

theorem length_headerKey : (headerKey crypto header password).length = KEY_LENGTH := length_deriveKey

theorem openBox_ok (hkey : key.length = KEY_LENGTH) : openBox crypto key box aad context = .ok plaintext ↔
    crypto.xchacha20poly1305.decrypt key box.nonce aad box.ciphertext = some plaintext := by
  unfold openBox assertKeyLength
  rw [if_neg (not_not_intro hkey)]
  cases crypto.xchacha20poly1305.decrypt key box.nonce aad box.ciphertext with
  | none =>
    constructor
    · intro h
      cases h
    · intro h
      cases h
  | some p => exact ⟨fun h => congrArg some (Except.ok.inj h), fun h => congrArg Except.ok (Option.some.inj h)⟩

theorem sealBox_eq (nonce : Random NONCE_LENGTH) (hkey : key.length = KEY_LENGTH) : sealBox crypto key plaintext aad nonce =
    .ok ⟨nonce.1, crypto.xchacha20poly1305.encrypt key nonce.1 aad plaintext⟩ := by
  unfold sealBox assertKeyLength
  rw [if_neg (not_not_intro hkey)]
  rfl

/-- **A header opens under the password it was wrapped under**, to the key it wraps. -/
theorem Wraps.unwrap_iff (h : Wraps crypto header password dataKey) : unwrap crypto header password' = .ok dataKey' ↔
    crypto.normalize password' = crypto.normalize password ∧ dataKey' = dataKey := by
  have hfit : ∀ q, crypto.xchacha20poly1305.fits (headerKey crypto header q) header.wrapNonce :=
    fun q => (crypto.fits_iff _ _).2 ⟨length_headerKey, h.nonce⟩
  unfold unwrap
  rw [openBox_ok length_headerKey, h.wrapped]
  constructor
  · intro hd
    have hkey := (crypto.xchacha20poly1305.decrypt_isSome_iff (hfit password) (hfit password')).1 (Option.isSome_of_eq_some hd)
    rw [hkey] at hd
    exact ⟨crypto.argon2id_inj hkey, crypto.xchacha20poly1305.plaintext_eq (hfit password) hd⟩
  · rintro ⟨hp, rfl⟩
    have hkey : headerKey crypto header password' = headerKey crypto header password := by
      unfold headerKey deriveKey
      rw [hp]
    rw [hkey]
    exact crypto.xchacha20poly1305.decrypt_encrypt _ _ (hfit password)

theorem Wraps.unwrap_isOk_iff (h : Wraps crypto header password dataKey) : (∃ d, unwrap crypto header password' = .ok d) ↔
    crypto.normalize password' = crypto.normalize password :=
  ⟨fun ⟨_, hd⟩ => (h.unwrap_iff.1 hd).1, fun hp => ⟨dataKey, h.unwrap_iff.2 ⟨hp, rfl⟩⟩⟩

end

/-! ## The invariant -/

/-- The buffers a frame holds. -/
def buffers : Suspended → List Nat
  | .initializing _ _ _ dek => [dek]
  | .rewrapping _ _ _ oldKek dek => [oldKek, dek]
  | _ => []

/-- What a frame holds is what its call goes on with: a key's length, a header of this vault's, the one data key. -/
def FrameSafe (crypto : Crypto) (keys : List Bytes) (heap : Heap Nat) : Suspended → Prop
  | .initializing _ _ _ dek => (read heap dek).length = KEY_LENGTH
  | .unlocking _ header | .opening _ _ _ header | .verifying _ header =>
    ∃ dataKey password, keys = [dataKey] ∧ Wraps crypto header password dataKey
  | .rewrapping _ _ _ _ dek => keys = [read heap dek] ∧ (read heap dek).length = KEY_LENGTH

/-- The header, and the key where it is held. -/
structure KeySafe (crypto : Crypto) (v : VaultState) (m : Memory) : Prop where
  header : (m.keys = [] ∧ m.password = none ∧ v.rows.header = none) ∨
    ∃ dataKey password header, m.keys = [dataKey] ∧ m.password = some password ∧ v.rows.header = some header ∧
      header.version = VAULT_VERSION ∧ Wraps crypto header password dataKey
  held : ∀ dek, v.dek = some dek → dek < v.heap.length ∧ m.keys = [read v.heap dek] ∧ v.lastUsedAt.isSome = true

/-- Every frame is safe, and owns its buffers alone. -/
structure Owned (crypto : Crypto) (s : VaultSystem) : Prop where
  frame : ∀ k f, frameAt s k = some f → FrameSafe crypto s.memory.keys s.vault.heap f
  buffer : ∀ k f b, frameAt s k = some f → b ∈ buffers f → b < s.vault.heap.length ∧ s.vault.dek ≠ some b
  apart : ∀ k k' f f' b, frameAt s k = some f → frameAt s k' = some f' → b ∈ buffers f → b ∈ buffers f' → k = k'

structure Sound (crypto : Crypto) (s : VaultSystem) : Prop where
  keySafe : KeySafe crypto s.vault s.memory
  owned : Owned crypto s

/-- **What a turn of a call does** that owns the buffers `own`: it wipes these and the vault's key at most, and what it leaves
in use is the vault's, its own or new. -/
structure Turn (crypto : Crypto) (s : VaultSystem) (own : List Nat) (v : VaultState) (p : Progress) : Prop where
  kept : Kept (fun b => b ∈ own ∨ s.vault.dek = some b) s.vault.heap v.heap
  dek : ∀ b, v.dek = some b → s.vault.dek = some b ∨ b ∈ own ∨ s.vault.heap.length ≤ b
  keys : (remember s.memory p).keys = s.memory.keys ∨ s.memory.keys = []
  keySafe : KeySafe crypto v (remember s.memory p)
  frame : ∀ f, waiting p = some f → FrameSafe crypto (remember s.memory p).keys v.heap f
  buffer : ∀ f b, waiting p = some f → b ∈ buffers f →
    b < v.heap.length ∧ v.dek ≠ some b ∧ (b ∈ own ∨ s.vault.heap.length ≤ b)

section
variable {crypto : Crypto} {s : VaultSystem} {v : VaultState} {p : Progress} {own : List Nat} {k : Nat}
  {keys keys' : List Bytes} {heap heap' : Heap Nat} {f : Suspended}

theorem FrameSafe.kept (h : FrameSafe crypto keys heap f) (hkeys : keys' = keys ∨ keys = [])
    (hread : ∀ b ∈ buffers f, read heap' b = read heap b) : FrameSafe crypto keys' heap' f := by
  have hsame : ∀ {d : Bytes}, keys = [d] → keys' = keys := by
    intro d hd
    rcases hkeys with h | h
    · exact h
    · rw [h] at hd
      cases hd
  cases f with
  | initializing password params salt dek =>
    show (read heap' dek).length = KEY_LENGTH
    rw [hread dek List.mem_cons_self]
    exact h
  | rewrapping new params salt oldKek dek =>
    show keys' = [read heap' dek] ∧ (read heap' dek).length = KEY_LENGTH
    rw [hread dek (List.mem_cons_of_mem _ List.mem_cons_self), hsame h.1]
    exact h
  | unlocking password header =>
    obtain ⟨d, q, hd, hw⟩ := h
    exact ⟨d, q, (hsame hd).trans hd, hw⟩
  | opening current new params header =>
    obtain ⟨d, q, hd, hw⟩ := h
    exact ⟨d, q, (hsame hd).trans hd, hw⟩
  | verifying password header =>
    obtain ⟨d, q, hd, hw⟩ := h
    exact ⟨d, q, (hsame hd).trans hd, hw⟩

/-- **A turn keeps the invariant**, whatever the other calls hold. -/
theorem Sound.of_turn (h : Sound crypto s) {calls : List (Option Suspended)} (ht : Turn crypto s own v p)
    (hown : ∀ b ∈ own, ∃ f, frameAt s k = some f ∧ b ∈ buffers f)
    (hcalls : ∀ j g, frameAt ⟨v, calls, remember s.memory p⟩ j = some g →
      (j = k ∧ waiting p = some g) ∨ (j ≠ k ∧ frameAt s j = some g)) :
    Sound crypto ⟨v, calls, remember s.memory p⟩ := by
  -- another call's buffers are neither this one's nor new
  have hother : ∀ j g b, j ≠ k → frameAt s j = some g → b ∈ buffers g → b ∉ own ∧ ¬ s.vault.heap.length ≤ b := by
    intro j g b hj hg hb
    refine ⟨fun hbo => ?_, fun hle => ?_⟩
    · obtain ⟨f, hf, hbf⟩ := hown b hbo
      exact hj (h.owned.apart j k g f b hg hf hb hbf)
    · have := (h.owned.buffer j g b hg hb).1
      omega
  refine ⟨ht.keySafe, fun j g hg => ?_, fun j g b hg hb => ?_, fun j j' g g' b hg hg' hb hb' => ?_⟩
  · rcases hcalls j g hg with ⟨-, hw⟩ | ⟨hj, hg⟩
    · exact ht.frame g hw
    · refine (h.owned.frame j g hg).kept ht.keys fun b hb => ?_
      obtain ⟨hlt, hdek⟩ := h.owned.buffer j g b hg hb
      exact ht.kept.read_eq b hlt fun hw => hw.elim (hother j g b hj hg hb).1 hdek
  · rcases hcalls j g hg with ⟨-, hw⟩ | ⟨hj, hg⟩
    · exact ⟨(ht.buffer g b hw hb).1, (ht.buffer g b hw hb).2.1⟩
    · obtain ⟨hlt, hdek⟩ := h.owned.buffer j g b hg hb
      refine ⟨hlt.trans_le ht.kept.length_le, fun hv => ?_⟩
      obtain ⟨hno, hold⟩ := hother j g b hj hg hb
      rcases ht.dek b hv with hd | ho | hn
      · exact hdek hd
      · exact hno ho
      · exact hold hn
  · rcases hcalls j g hg with ⟨hj, hw⟩ | ⟨hj, hg⟩
    · rcases hcalls j' g' hg' with ⟨hj', -⟩ | ⟨hj', hg'⟩
      · rw [hj, hj']
      · obtain ⟨hno, hold⟩ := hother j' g' b hj' hg' hb'
        exact ((ht.buffer g b hw hb).2.2.elim hno hold).elim
    · rcases hcalls j' g' hg' with ⟨hj', hw'⟩ | ⟨hj', hg'⟩
      · obtain ⟨hno, hold⟩ := hother j g b hj hg hb
        exact ((ht.buffer g' b hw' hb').2.2.elim hno hold).elim
      · exact h.owned.apart j j' g g' b hg hg' hb hb'

/-! ## What each call does -/

theorem wipeDek_kept (v : VaultState) : Kept (fun b => v.dek = some b) v.heap (wipeDek v) := by
  unfold wipeDek
  cases v.dek with
  | none => exact Kept.refl _
  | some dek => exact (wipe_kept v.heap dek).mono fun b _ hb => by rw [hb]

theorem length_wipeDek (v : VaultState) : (wipeDek v).length = v.heap.length := by
  unfold wipeDek
  cases v.dek with
  | none => rfl
  | some dek => exact length_wipe _ _

/-- A turn that wipes its own buffers at most leaves the vault's key. -/
theorem KeySafe.same (h : KeySafe crypto s.vault s.memory) (hheap : Kept (· ∈ own) s.vault.heap v.heap)
    (hheader : v.rows.header = s.vault.rows.header) (hdek : v.dek = s.vault.dek)
    (hlast : s.vault.lastUsedAt.isSome = true → v.lastUsedAt.isSome = true) (hown : ∀ b ∈ own, s.vault.dek ≠ some b) :
    KeySafe crypto v s.memory := by
  refine ⟨by rw [hheader]; exact h.header, fun dek hd => ?_⟩
  rw [hdek] at hd
  obtain ⟨hlt, hkeys, hused⟩ := h.held dek hd
  refine ⟨hlt.trans_le hheap.length_le, ?_, hlast hused⟩
  rw [hheap.read_eq dek hlt fun hb => hown dek hb hd]
  exact hkeys

theorem Turn.same (v : VaultState) (h : KeySafe crypto s.vault s.memory) (hheap : Kept (· ∈ own) s.vault.heap v.heap)
    (hheader : v.rows.header = s.vault.rows.header) (hdek : v.dek = s.vault.dek)
    (hlast : s.vault.lastUsedAt.isSome = true → v.lastUsedAt.isSome = true) (hown : ∀ b ∈ own, s.vault.dek ≠ some b)
    {o : Outcome} (hm : (remember s.memory (.ends o)).keys = s.memory.keys ∧
      (remember s.memory (.ends o)).password = s.memory.password) : Turn crypto s own v (.ends o) := by
  have hsafe := h.same hheap hheader hdek hlast hown
  refine ⟨hheap.mono fun b _ hb => .inl hb, fun b hb => .inl (by rw [← hdek]; exact hb), .inl hm.1, ?_, ?_, ?_⟩
  · exact ⟨by rw [hm.1, hm.2]; exact hsafe.header, fun dek hd => by rw [hm.1]; exact hsafe.held dek hd⟩
  · intro f hf
    cases hf
  · intro f b hf
    cases hf

theorem Turn.used (h : KeySafe crypto s.vault s.memory) (secrets : Table SecretRow.id) (now : Int) (o : Outcome)
    (hk : (remember s.memory (.ends o)).keys = s.memory.keys)
    (hp : (remember s.memory (.ends o)).password = s.memory.password) :
    Turn crypto s [] { touch s.vault now with rows := { s.vault.rows with secrets := secrets } } (.ends o) :=
  Turn.same { touch s.vault now with rows := { s.vault.rows with secrets := secrets } } h (Kept.refl _) rfl rfl (fun _ => rfl)
    (fun _ hb => absurd hb List.not_mem_nil) ⟨hk, hp⟩

theorem Turn.dropped (v : VaultState) (h : KeySafe crypto s.vault s.memory)
    (hheap : Kept (fun b => b ∈ own ∨ s.vault.dek = some b) s.vault.heap v.heap)
    (hheader : v.rows.header = s.vault.rows.header) (hdek : v.dek = none) {o : Outcome}
    (hm : remember s.memory (.ends o) = s.memory) : Turn crypto s own v (.ends o) := by
  refine ⟨hheap, fun b hb => ?_, .inl (by rw [hm]), ?_, ?_, ?_⟩
  · rw [hdek] at hb
    cases hb
  · rw [hm]
    refine ⟨by rw [hheader]; exact h.header, fun dek hd => ?_⟩
    rw [hdek] at hd
    cases hd
  · intro f hf
    cases hf
  · intro f b hf
    cases hf

theorem lock_turn (h : KeySafe crypto s.vault s.memory) {o : Outcome} (hm : remember s.memory (.ends o) = s.memory) :
    Turn crypto s [] (lock s.vault) (.ends o) :=
  Turn.dropped (lock s.vault) h ((wipeDek_kept s.vault).mono fun _ _ hb => Or.inr hb) rfl rfl hm

theorem enforceAutolock_turn (h : KeySafe crypto s.vault s.memory) (autolockMs now : Int) {o : Outcome}
    (hm : remember s.memory (.ends o) = s.memory) : Turn crypto s [] (enforceAutolock autolockMs s.vault now) (.ends o) := by
  unfold enforceAutolock
  by_cases hidle : idle autolockMs s.vault now = true
  · rw [if_pos hidle]
    exact lock_turn h hm
  · rw [if_neg hidle]
    exact Turn.same s.vault h (Kept.refl _) rfl rfl id (fun _ hb => absurd hb List.not_mem_nil) (by rw [hm]; exact ⟨rfl, rfl⟩)

/-- **A key is handed out** while it is held and the window is not over, and then it is in use from now. -/
theorem requireDek_cases (autolockMs : Int) (v : VaultState) (now : Int) :
    (isUnlocked autolockMs v now = false ∧ requireDek autolockMs v now = (enforceAutolock autolockMs v now, none)) ∨
    ∃ dek, isUnlocked autolockMs v now = true ∧ v.dek = some dek ∧ requireDek autolockMs v now = (touch v now, some dek) := by
  unfold requireDek isUnlocked
  dsimp only
  by_cases hidle : idle autolockMs v now = true
  · unfold enforceAutolock
    rw [if_pos hidle]
    exact .inl ⟨rfl, rfl⟩
  · unfold enforceAutolock
    rw [if_neg hidle]
    cases hd : v.dek with
    | none => exact .inl ⟨rfl, rfl⟩
    | some dek => exact .inr ⟨dek, rfl, rfl, rfl⟩

theorem putSecret_turn (h : KeySafe crypto s.vault s.memory) (autolockMs : Int) (kind : SecretKind) (label : String)
    (plaintext : Bytes) (id : String) (nonce : Random NONCE_LENGTH) (statement : Result Unit) (now : Int) :
    Turn crypto s [] (putSecret crypto autolockMs s.vault kind label plaintext id nonce statement now).1
      (.ends (putSecret crypto autolockMs s.vault kind label plaintext id nonce statement now).2) := by
  unfold putSecret
  rcases requireDek_cases autolockMs s.vault now with ⟨-, hr⟩ | ⟨dek, -, hd, hr⟩
  · rw [hr]
    exact enforceAutolock_turn h autolockMs now rfl
  · rw [hr]
    dsimp only
    cases insertSecret crypto (touch s.vault now) (read (touch s.vault now).heap dek) kind label plaintext id nonce statement now with
    | error e => exact Turn.used h s.vault.rows.secrets now (.threw e) rfl rfl
    | ok row => exact Turn.used h _ now (.stored row plaintext) rfl rfl

theorem useSecret_turn (h : KeySafe crypto s.vault s.memory) (autolockMs : Int) (id : String) (now : Int) :
    Turn crypto s [] (useSecret crypto autolockMs s.vault id now).1 (.ends (useSecret crypto autolockMs s.vault id now).2) := by
  unfold useSecret
  rcases requireDek_cases autolockMs s.vault now with ⟨-, hr⟩ | ⟨dek, -, hd, hr⟩
  · rw [hr]
    exact enforceAutolock_turn h autolockMs now rfl
  · rw [hr]
    dsimp only
    cases openSecret crypto (touch s.vault now) (read (touch s.vault now).heap dek) id with
    | error e => exact Turn.used h s.vault.rows.secrets now (.threw e) rfl rfl
    | ok p => exact Turn.used h s.vault.rows.secrets now (.passed id p) rfl rfl

theorem Turn.refused (h : KeySafe crypto s.vault s.memory) (o : Outcome) (hm : remember s.memory (.ends o) = s.memory) :
    Turn crypto s own s.vault (.ends o) := by
  refine ⟨Kept.refl _, fun b hb => .inl hb, .inl (by rw [hm]), by rw [hm]; exact h, ?_, ?_⟩
  · intro f hf
    cases hf
  · intro f b hf
    cases hf

theorem Turn.begins (h : KeySafe crypto s.vault s.memory) (f : Suspended) (hbuffers : buffers f = [])
    (hframe : FrameSafe crypto s.memory.keys s.vault.heap f) : Turn crypto s [] s.vault (.waits f) := by
  refine ⟨Kept.refl _, fun b hb => .inl hb, .inl rfl, h, ?_, ?_⟩
  · intro g hg
    obtain rfl := Option.some.inj hg
    exact hframe
  · intro g b hg hb
    obtain rfl := Option.some.inj hg
    rw [hbuffers] at hb
    cases hb

theorem KeySafe.wraps (h : KeySafe crypto s.vault s.memory) {header : VaultHeaderRow} (hh : s.vault.rows.header = some header) :
    header.version = VAULT_VERSION ∧ ∃ dataKey password, s.memory.keys = [dataKey] ∧ s.memory.password = some password ∧
      Wraps crypto header password dataKey := by
  rcases h.header with ⟨-, -, hnone⟩ | ⟨d, q, header', hk, hp, hh', hv, hw⟩
  · rw [hnone] at hh
    cases hh
  · rw [hh'] at hh
    obtain rfl := Option.some.inj hh
    exact ⟨hv, d, q, hk, hp, hw⟩

theorem initializeVault_turn (h : KeySafe crypto s.vault s.memory) (password : String) (params : KdfParams)
    (salt : Random SALT_LENGTH) (dek : Random KEY_LENGTH) :
    Turn crypto s [] (initializeVault s.vault password params salt dek).1 (initializeVault s.vault password params salt dek).2 := by
  unfold initializeVault
  by_cases hi : isInitialized s.vault = true
  · rw [if_pos hi]
    exact Turn.refused h _ rfl
  · rw [if_neg hi]
    refine ⟨(alloc_kept _ _).mono fun _ _ hb => hb.elim, fun b hb => .inl hb, .inl rfl, ?_, ?_, ?_⟩
    · have hheap : Kept (· ∈ ([] : List Nat)) s.vault.heap (alloc s.vault.heap dek.1).1 :=
        (alloc_kept _ _).mono fun _ _ hb => hb.elim
      exact h.same hheap rfl rfl id fun _ hb => absurd hb List.not_mem_nil
    · intro f hf
      obtain rfl := Option.some.inj hf
      show (read (alloc s.vault.heap dek.1).1 s.vault.heap.length).length = KEY_LENGTH
      rw [read_alloc]
      exact dek.2
    · intro f b hf hb
      obtain rfl := Option.some.inj hf
      obtain rfl := List.mem_singleton.1 hb
      refine ⟨?_, fun hd => ?_, .inr (le_refl _)⟩
      · show s.vault.heap.length < (alloc s.vault.heap dek.1).1.length
        rw [length_alloc]
        omega
      · have hlt := (h.held _ hd).1
        exact absurd hlt (lt_irrefl _)

theorem unlock_turn (h : KeySafe crypto s.vault s.memory) (password : String) :
    Turn crypto s [] (unlock s.vault password).1 (unlock s.vault password).2 := by
  unfold unlock
  cases hh : s.vault.rows.header with
  | none => exact Turn.refused h _ rfl
  | some header =>
    obtain ⟨hv, d, q, hk, -, hw⟩ := h.wraps hh
    dsimp only
    rw [if_neg (not_not_intro hv)]
    exact Turn.begins h _ rfl ⟨d, q, hk, hw⟩

theorem changePassword_turn (h : KeySafe crypto s.vault s.memory) (current new : String) (params : KdfParams) :
    Turn crypto s [] (changePassword s.vault current new params).1 (changePassword s.vault current new params).2 := by
  unfold changePassword
  cases hh : s.vault.rows.header with
  | none => exact Turn.refused h _ rfl
  | some header =>
    obtain ⟨-, d, q, hk, -, hw⟩ := h.wraps hh
    exact Turn.begins h _ rfl ⟨d, q, hk, hw⟩

theorem verifyPassword_turn (h : KeySafe crypto s.vault s.memory) (password : String) :
    Turn crypto s [] (verifyPassword s.vault password).1 (verifyPassword s.vault password).2 := by
  unfold verifyPassword
  cases hh : s.vault.rows.header with
  | none => exact Turn.refused h _ rfl
  | some header =>
    obtain ⟨-, d, q, hk, -, hw⟩ := h.wraps hh
    exact Turn.begins h _ rfl ⟨d, q, hk, hw⟩

/-- **Every call begins soundly.** -/
theorem start_turn (h : KeySafe crypto s.vault s.memory) (autolockMs now : Int) (c : VaultCall) :
    Turn crypto s [] (start crypto autolockMs s.vault now c).1 (start crypto autolockMs s.vault now c).2 := by
  cases c with
  | initializeVault password params salt dek => exact initializeVault_turn h password params salt dek
  | unlock password => exact unlock_turn h password
  | changePassword current new params => exact changePassword_turn h current new params
  | verifyPassword password => exact verifyPassword_turn h password
  | putSecret kind label plaintext id nonce statement =>
    exact putSecret_turn h autolockMs kind label plaintext id nonce statement now
  | useSecret id => exact useSecret_turn h autolockMs id now
  | lock => exact lock_turn h rfl
  | timer =>
    show Turn crypto s [] (if s.vault.armed then enforceAutolock autolockMs s.vault now else s.vault) (.ends .settled)
    by_cases ha : s.vault.armed = true
    · rw [if_pos ha]
      exact enforceAutolock_turn h autolockMs now rfl
    · rw [if_neg ha]
      exact Turn.refused h _ rfl

/-! ## What each call does with its key -/

theorem replaceDek_dek (v : VaultState) (dek : Bytes) (now : Int) : (replaceDek v dek now).dek = some v.heap.length := by
  show some (alloc (wipeDek v) dek).2 = _
  rw [alloc_snd, length_wipeDek]

theorem read_replaceDek (v : VaultState) (dek : Bytes) (now : Int) : read (replaceDek v dek now).heap v.heap.length = dek := by
  show read (alloc (wipeDek v) dek).1 v.heap.length = dek
  rw [← length_wipeDek v, read_alloc]

theorem length_replaceDek (v : VaultState) (dek : Bytes) (now : Int) :
    (replaceDek v dek now).heap.length = v.heap.length + 1 := by
  show (alloc (wipeDek v) dek).1.length = _
  rw [length_alloc, length_wipeDek]

theorem replaceDek_kept (v : VaultState) (dek : Bytes) (now : Int) :
    Kept (fun b => v.dek = some b) v.heap (replaceDek v dek now).heap :=
  ((wipeDek_kept v).trans (alloc_kept _ dek)).mono fun _ _ hb => hb.resolve_right id

theorem wipeBoth_kept (v : VaultState) (oldKek dek : Nat) : Kept (· ∈ [oldKek, dek]) v.heap (wipeBoth v oldKek dek).heap := by
  refine ((wipe_kept v.heap oldKek).trans (wipe_kept _ dek)).mono fun b _ hb => ?_
  rcases hb with rfl | rfl
  · exact List.mem_cons_self
  · exact List.mem_cons_of_mem _ List.mem_cons_self

theorem Turn.replaced {o : Outcome} {dataKey : Bytes} (hkept : Kept (fun b => b ∈ own ∨ s.vault.dek = some b) s.vault.heap v.heap)
    (hdek : v.dek = some s.vault.heap.length) (hlt : s.vault.heap.length < v.heap.length)
    (hread : read v.heap s.vault.heap.length = dataKey) (hused : v.lastUsedAt.isSome = true)
    (hkeys : s.memory.keys = [dataKey]) (hmk : (remember s.memory (.ends o)).keys = s.memory.keys)
    (hheader : ∃ password header, (remember s.memory (.ends o)).password = some password ∧ v.rows.header = some header ∧
      header.version = VAULT_VERSION ∧ Wraps crypto header password dataKey) : Turn crypto s own v (.ends o) := by
  refine ⟨hkept, fun b hb => ?_, .inl hmk, ⟨?_, fun b hb => ?_⟩, ?_, ?_⟩
  · rw [hdek] at hb
    exact .inr (.inr (Option.some.inj hb).le)
  · obtain ⟨q, header, hq, hh, hv, hw⟩ := hheader
    exact .inr ⟨dataKey, q, header, hmk.trans hkeys, hq, hh, hv, hw⟩
  · rw [hdek] at hb
    obtain rfl := Option.some.inj hb
    exact ⟨hlt, by rw [hmk, hread]; exact hkeys, hused⟩
  · intro f hf
    cases hf
  · intro f b hf
    cases hf

theorem insertHeader_ok {password : String} {params : KdfParams} {salt : Random SALT_LENGTH} {dek : Bytes} {w : Wake}
    {header : VaultHeaderRow} (hdek : dek.length = KEY_LENGTH) (h : insertHeader crypto v password params salt dek w = .ok header) :
    v.rows.header = none ∧ header.version = VAULT_VERSION ∧ Wraps crypto header password dek := by
  unfold insertHeader at h
  rw [sealBox_eq _ length_deriveKey] at h
  obtain ⟨wrapped, hwrapped, h⟩ := bind_ok.1 h
  obtain ⟨-, -, h⟩ := bind_ok.1 h
  obtain rfl := Except.ok.inj hwrapped
  by_cases hi : isInitialized v = true
  · rw [if_pos hi] at h
    cases h
  · rw [if_neg hi] at h
    obtain rfl := pure_ok.1 h
    exact ⟨by simpa [isInitialized] using hi, rfl, hdek, w.nonce.2, rfl⟩

theorem updateHeader_ok {new : String} {params : KdfParams} {salt : Random SALT_LENGTH} {dek : Bytes} {w : Wake}
    {header : VaultHeaderRow} {updated : Option VaultHeaderRow} (hdek : dek.length = KEY_LENGTH)
    (hheader : v.rows.header = some header) (h : updateHeader crypto v new params salt dek w = .ok updated) :
    ∃ header', updated = some header' ∧ header'.version = header.version ∧ Wraps crypto header' new dek := by
  unfold updateHeader at h
  rw [sealBox_eq _ length_deriveKey, hheader] at h
  obtain ⟨wrapped, hwrapped, h⟩ := bind_ok.1 h
  obtain ⟨-, -, h⟩ := bind_ok.1 h
  obtain rfl := Except.ok.inj hwrapped
  obtain rfl := pure_ok.1 h
  exact ⟨_, rfl, rfl, hdek, w.nonce.2, rfl⟩

theorem initializing_turn (h : KeySafe crypto s.vault s.memory) {password : String} {params : KdfParams}
    {salt : Random SALT_LENGTH} {dek : Nat} (hlt : dek < s.vault.heap.length) (hlen : (read s.vault.heap dek).length = KEY_LENGTH)
    (w : Wake) : Turn crypto s [dek] (initializing crypto s.vault password params salt dek w).1
      (initializing crypto s.vault password params salt dek w).2 := by
  unfold initializing
  cases hi : insertHeader crypto s.vault password params salt (read s.vault.heap dek) w with
  | error e => 
    exact Turn.dropped { s.vault with heap := wipe s.vault.heap dek, dek := none } h ((wipe_kept _ dek).mono fun b _ hb =>
      Or.inl (List.mem_singleton.2 hb)) rfl rfl rfl
  | ok header =>
    obtain ⟨hnone, hv, hw⟩ := insertHeader_ok hlen hi
    have hkeys : s.memory.keys = [] := by
      rcases h.header with ⟨hk, -, -⟩ | ⟨_, _, header', -, -, hh, -, -⟩
      · exact hk
      · rw [hnone] at hh
        cases hh
    have hone : (remember s.memory (.ends (.initialized password (read s.vault.heap dek)))).keys = [read s.vault.heap dek] := by
      show s.memory.keys ++ _ = _
      rw [hkeys]
      rfl
    refine ⟨Kept.refl _, fun b hb => ?_, .inr hkeys, ⟨?_, fun b hb => ?_⟩, ?_, ?_⟩
    · exact .inr (.inl (List.mem_singleton.2 (Option.some.inj hb).symm))
    · exact .inr ⟨_, password, header, hone, rfl, rfl, hv, hw⟩
    · obtain rfl := Option.some.inj hb
      exact ⟨hlt, hone, rfl⟩
    · intro f hf
      cases hf
    · intro f b hf
      cases hf

theorem unlocking_turn (h : KeySafe crypto s.vault s.memory) {password : String} {header : VaultHeaderRow}
    (hframe : FrameSafe crypto s.memory.keys s.vault.heap (.unlocking password header)) (w : Wake) :
    Turn crypto s [] (unlocking crypto s.vault password header w).1 (unlocking crypto s.vault password header w).2 := by
  unfold unlocking
  cases hu : unwrap crypto header password with
  | error e => exact Turn.refused h _ rfl
  | ok dek =>
    obtain ⟨d, q, hk, hw⟩ := hframe
    obtain ⟨-, rfl⟩ := hw.unwrap_iff.1 hu
    refine Turn.replaced ((replaceDek_kept _ _ _).mono fun _ _ hb => .inr hb) (replaceDek_dek _ _ _) ?_
      (read_replaceDek _ _ _) rfl hk rfl ?_
    · rw [length_replaceDek]
      omega
    · rcases h.header with ⟨hno, -, -⟩ | ⟨d', q', header', hk', hq, hh, hv, hw'⟩
      · rw [hno] at hk
        cases hk
      · rw [hk'] at hk
        obtain rfl := (List.cons.inj hk).1
        exact ⟨q', header', hq, hh, hv, hw'⟩

theorem opening_turn (h : KeySafe crypto s.vault s.memory) {current new : String} {params : KdfParams} {header : VaultHeaderRow}
    (hframe : FrameSafe crypto s.memory.keys s.vault.heap (.opening current new params header)) (w : Wake) :
    Turn crypto s [] (opening crypto s.vault current new params header w).1
      (opening crypto s.vault current new params header w).2 := by
  unfold opening
  cases hu : unwrap crypto header current with
  | error e => exact Turn.refused h _ rfl
  | ok dek =>
    obtain ⟨d, q, hk, hw⟩ := hframe
    obtain ⟨-, rfl⟩ := hw.unwrap_iff.1 hu
    have hkept : ∀ kek : Bytes, Kept (fun _ => False) s.vault.heap (alloc (alloc s.vault.heap kek).1 dek).1 := fun kek =>
      ((alloc_kept _ kek).trans (alloc_kept _ dek)).mono fun _ _ hb => hb.elim id id
    have hlast := length_alloc s.vault.heap (headerKey crypto header current)
    refine ⟨(hkept _).mono fun _ _ hb => hb.elim, fun b hb => .inl hb, .inl rfl, ?_, ?_, ?_⟩
    · have hheap : Kept (· ∈ ([] : List Nat)) s.vault.heap
          (alloc (alloc s.vault.heap (headerKey crypto header current)).1 dek).1 :=
        (hkept _).mono fun _ _ hb => hb.elim
      exact h.same hheap rfl rfl id fun _ hb => absurd hb List.not_mem_nil
    · intro f hf
      obtain rfl := Option.some.inj hf
      have hread := read_alloc (alloc s.vault.heap (headerKey crypto header current)).1 dek
      exact ⟨hk.trans (congrArg (fun x => [x]) hread.symm), (congrArg List.length hread).trans hw.key⟩
    · intro f b hf hb
      obtain rfl := Option.some.inj hf
      have hbound : s.vault.heap.length ≤ b ∧ b < (alloc (alloc s.vault.heap (headerKey crypto header current)).1 dek).1.length := by
        rw [length_alloc, hlast]
        rcases List.mem_cons.1 hb with rfl | hb
        · rw [alloc_snd]
          omega
        · rw [List.mem_singleton.1 hb, alloc_snd, hlast]
          omega
      refine ⟨hbound.2, fun hd => ?_, .inr hbound.1⟩
      have := (h.held b hd).1
      omega

theorem rewrapping_turn (h : KeySafe crypto s.vault s.memory) {new : String} {params : KdfParams} {salt : Random SALT_LENGTH}
    {oldKek dek : Nat} (hframe : FrameSafe crypto s.memory.keys s.vault.heap (.rewrapping new params salt oldKek dek))
    (hown : ∀ b ∈ [oldKek, dek], b < s.vault.heap.length ∧ s.vault.dek ≠ some b) (w : Wake) :
    Turn crypto s [oldKek, dek] (rewrapping crypto s.vault new params salt oldKek dek w).1
      (rewrapping crypto s.vault new params salt oldKek dek w).2 := by
  unfold rewrapping
  cases hu : updateHeader crypto s.vault new params salt (read s.vault.heap dek) w with
  | error e => exact Turn.same _ h (wipeBoth_kept _ _ _) rfl rfl id (fun b hb => (hown b hb).2) ⟨rfl, rfl⟩
  | ok updated =>
    obtain ⟨hk, hlen⟩ := hframe
    rcases h.header with ⟨hno, -, -⟩ | ⟨d', q', header, hk', hq, hh, hv, hw'⟩
    · rw [hno] at hk
      cases hk
    · obtain ⟨header', rfl, hv', hw⟩ := updateHeader_ok hlen hh hu
      let rewrapped : VaultState := { s.vault with rows := { s.vault.rows with header := some header' } }
      have hkept := replaceDek_kept rewrapped (read s.vault.heap dek) w.now
      have hwipe := wipeBoth_kept (replaceDek rewrapped (read s.vault.heap dek) w.now) oldKek dek
      have hlt : s.vault.heap.length < (replaceDek rewrapped (read s.vault.heap dek) w.now).heap.length := by
        rw [length_replaceDek]
        exact Nat.lt_succ_self _
      -- the vault's new buffer is not one of the two that are wiped
      have hfresh : s.vault.heap.length ∉ [oldKek, dek] := fun hb => absurd (hown _ hb).1 (lt_irrefl _)
      refine Turn.replaced ((hkept.trans hwipe).mono fun b _ hb => hb.elim Or.inr Or.inl)
        (replaceDek_dek rewrapped (read s.vault.heap dek) w.now) (hlt.trans_le hwipe.length_le) ?_ rfl hk rfl
        ⟨new, header', rfl, rfl, hv'.trans hv, hw⟩
      rw [hwipe.read_eq _ hlt hfresh]
      exact read_replaceDek rewrapped _ _

theorem verifying_turn (h : KeySafe crypto s.vault s.memory) (password : String) (header : VaultHeaderRow) :
    Turn crypto s [] (verifying crypto s.vault password header).1 (verifying crypto s.vault password header).2 := by
  unfold verifying
  cases unwrap crypto header password with
  | error e => exact Turn.refused h _ rfl
  | ok dek => exact Turn.refused h _ rfl

/-- **Every call goes on soundly.** -/
theorem resume_turn (h : Sound crypto s) (hf : frameAt s k = some f) (w : Wake) :
    Turn crypto s (buffers f) (resume crypto s.vault f w).1 (resume crypto s.vault f w).2 := by
  have hframe := h.owned.frame k f hf
  have hown := fun b => h.owned.buffer k f b hf
  unfold resume
  cases w.kdf with
  | error e =>
    cases f with
    | rewrapping new params salt oldKek dek =>
      exact Turn.same _ h.keySafe (wipeBoth_kept _ _ _) rfl rfl id (fun b hb => (hown b hb).2) ⟨rfl, rfl⟩
    | initializing password params salt dek => exact Turn.refused h.keySafe _ rfl
    | unlocking password header => exact Turn.refused h.keySafe _ rfl
    | opening current new params header => exact Turn.refused h.keySafe _ rfl
    | verifying password header => exact Turn.refused h.keySafe _ rfl
  | ok u =>
    cases f with
    | initializing password params salt dek => exact initializing_turn h.keySafe (hown dek List.mem_cons_self).1 hframe w
    | unlocking password header => exact unlocking_turn h.keySafe hframe w
    | opening current new params header => exact opening_turn h.keySafe hframe w
    | rewrapping new params salt oldKek dek => exact rewrapping_turn h.keySafe hframe hown w
    | verifying password header => exact verifying_turn h.keySafe password header

/-! ## Steps and runs -/

theorem frameAt_append (calls : List (Option Suspended)) (m : Memory) (g : Suspended) (j : Nat) :
    frameAt ⟨v, calls ++ [some g], m⟩ j = if j = calls.length then some g else calls[j]?.join := by
  unfold frameAt
  by_cases hj : j = calls.length
  · rw [if_pos hj, hj]
    simp
  · rw [if_neg hj]
    dsimp only
    rcases Nat.lt_or_ge j calls.length with hlt | hge
    · rw [List.getElem?_append_left hlt]
    · rw [List.getElem?_eq_none hge, List.getElem?_eq_none]
      rw [List.length_append, List.length_singleton]
      omega

theorem frameAt_set (calls : List (Option Suspended)) (m : Memory) (next : Option Suspended) (j : Nat) (hk : k < calls.length) :
    frameAt ⟨v, calls.set k next, m⟩ j = if j = k then next else calls[j]?.join := by
  unfold frameAt
  dsimp only
  rw [List.getElem?_set]
  by_cases hj : j = k
  · rw [if_pos hj, if_pos hj.symm, if_pos hk]
    cases next <;> rfl
  · rw [if_neg hj, if_neg (Ne.symm hj)]

theorem lt_of_frameAt (hf : frameAt s k = some f) : k < s.calls.length := by
  by_contra hge
  unfold frameAt at hf
  rw [List.getElem?_eq_none (Nat.le_of_not_lt hge)] at hf
  cases hf

def ownNumber (s : VaultSystem) : VaultEvent → Nat
  | .call _ _ => s.calls.length
  | .wake k _ => k

section
variable {autolockMs : Int} {e : VaultEvent}

/-- After an event its own call is where its progress says, and the others are where they were. -/
theorem frameAt_reframe (ht : turn crypto autolockMs s e = some (v, p)) (m : Memory) {j : Nat} {g : Suspended}
    (hg : frameAt ⟨v, reframe s.calls p e, m⟩ j = some g) :
    (j = ownNumber s e ∧ waiting p = some g) ∨ (j ≠ ownNumber s e ∧ frameAt s j = some g) := by
  cases e with
  | call c now =>
    show (j = s.calls.length ∧ waiting p = some g) ∨ (j ≠ s.calls.length ∧ frameAt s j = some g)
    cases p with
    | ends o => exact .inr ⟨(lt_of_frameAt hg).ne, hg⟩
    | waits f =>
      rw [show reframe s.calls (.waits f) (.call c now) = s.calls ++ [some f] from rfl, frameAt_append] at hg
      by_cases hj : j = s.calls.length
      · rw [if_pos hj] at hg
        exact .inl ⟨hj, hg⟩
      · rw [if_neg hj] at hg
        exact .inr ⟨hj, hg⟩
  | wake k w =>
    show (j = k ∧ waiting p = some g) ∨ (j ≠ k ∧ frameAt s j = some g)
    obtain ⟨f, hf, -⟩ := Option.map_eq_some_iff.1 ht
    rw [show reframe s.calls p (.wake k w) = s.calls.set k (waiting p) from rfl, frameAt_set _ _ _ _ (lt_of_frameAt hf)] at hg
    by_cases hj : j = k
    · rw [if_pos hj] at hg
      exact .inl ⟨hj, hg⟩
    · rw [if_neg hj] at hg
      exact .inr ⟨hj, hg⟩

/-- The calls in flight keep their frames until they are woken. -/
theorem frameAt_step (hk : k < s.calls.length) (hne : ∀ w, e ≠ .wake k w) :
    k < (vaultStep crypto autolockMs s e).calls.length ∧ frameAt (vaultStep crypto autolockMs s e) k = frameAt s k := by
  unfold vaultStep
  cases ht : turn crypto autolockMs s e with
  | none => exact ⟨hk, rfl⟩
  | some vp =>
    obtain ⟨v, p⟩ := vp
    dsimp only
    cases e with
    | call c now =>
      cases p with
      | ends o => exact ⟨hk, rfl⟩
      | waits f =>
        refine ⟨?_, ?_⟩
        · show k < (s.calls ++ [some f]).length
          rw [List.length_append]
          omega
        · exact (frameAt_append s.calls _ f k).trans (if_neg hk.ne)
    | wake j w =>
      obtain ⟨f, hf, -⟩ := Option.map_eq_some_iff.1 ht
      have hj : k ≠ j := fun h => hne w (by rw [h])
      refine ⟨?_, (frameAt_set s.calls _ _ k (lt_of_frameAt hf)).trans (if_neg hj)⟩
      show k < (s.calls.set j (waiting p)).length
      rw [List.length_set]
      exact hk

theorem frameAt_after (hk : k < s.calls.length) (mid : List VaultEvent) (hmid : ∀ w, VaultEvent.wake k w ∉ mid) :
    frameAt (after (vaultStep crypto autolockMs) s mid) k = frameAt s k := by
  suffices h : k < (after (vaultStep crypto autolockMs) s mid).calls.length ∧
      frameAt (after (vaultStep crypto autolockMs) s mid) k = frameAt s k from h.2
  induction mid using List.reverseRecOn with
  | nil => exact ⟨hk, rfl⟩
  | append_singleton mid e ih =>
    obtain ⟨hlt, hsame⟩ := ih fun w hw => hmid w (List.mem_append_left _ hw)
    rw [after_snoc]
    obtain ⟨hlt', hsame'⟩ := @frameAt_step crypto _ k autolockMs e hlt fun w he =>
      hmid w (List.mem_append_right _ (by rw [he]; exact List.mem_singleton_self _))
    exact ⟨hlt', hsame'.trans hsame⟩

/-- Every event that finds its call is a turn of it. -/
theorem turn_turn (h : Sound crypto s) (ht : turn crypto autolockMs s e = some (v, p)) :
    ∃ own, Turn crypto s own v p ∧ ∀ b ∈ own, ∃ f, frameAt s (ownNumber s e) = some f ∧ b ∈ buffers f := by
  cases e with
  | call c now =>
    have hstart := start_turn h.keySafe autolockMs now c
    rw [Option.some.inj (show some (start crypto autolockMs s.vault now c) = some (v, p) from ht)] at hstart
    exact ⟨[], hstart, fun _ hb => absurd hb List.not_mem_nil⟩
  | wake k w =>
    obtain ⟨f, hf, hr⟩ := Option.map_eq_some_iff.1 ht
    have hresume := resume_turn h hf w
    rw [hr] at hresume
    exact ⟨buffers f, hresume, fun b hb => ⟨f, hf, hb⟩⟩

theorem Sound.step (h : Sound crypto s) (e : VaultEvent) : Sound crypto (vaultStep crypto autolockMs s e) := by
  unfold vaultStep
  cases ht : turn crypto autolockMs s e with
  | none => exact h
  | some vp =>
    obtain ⟨v, p⟩ := vp
    obtain ⟨own, hturn, hown⟩ := turn_turn h ht
    exact h.of_turn hturn hown fun j g hg => frameAt_reframe ht _ hg

theorem newVault_sound : Sound crypto newVault := by
  refine ⟨⟨.inl ⟨rfl, rfl, rfl⟩, fun dek hd => by cases hd⟩, fun k f hf => ?_, fun k f b hf => ?_, fun k k' f f' b hf => ?_⟩ <;>
    exact absurd (lt_of_frameAt hf) (Nat.not_lt_zero _)

theorem Sound.restart (h : Sound crypto s) : Sound crypto (restartVault s) := by
  have hframe : ∀ k f, frameAt (restartVault s) k ≠ some f := fun k f hf => absurd (lt_of_frameAt hf) (Nat.not_lt_zero k)
  refine ⟨⟨h.keySafe.header, fun dek hd => by cases hd⟩, ?_, ?_, ?_⟩
  · exact fun k f hf => absurd hf (hframe k f)
  · exact fun k f b hf => absurd hf (hframe k f)
  · exact fun k k' f f' b hf => absurd hf (hframe k f)

/-- **The vault is sound after every run.** -/
theorem reached_sound (es : List VaultEvent) : Sound crypto (reached crypto autolockMs es) :=
  invariant newVault_sound (fun _ e h => h.step e) es

end

end

end Vault
end Atra
