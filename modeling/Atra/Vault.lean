import Atra.KeyMaterial
import Atra.Money
import Atra.Table
import Mathlib.Data.Nat.Digits.Defs
/-!
# Vault — the wallet vault, call by call and await by await

The data key wraps the secrets, a key derived from the password wraps the data key, and only the data key is held while the
vault is unlocked.  Every derivation suspends its call; what a call holds meanwhile is its `Suspended` frame, and what it does
when the derivation comes back is `resume`.  The rows outlive the process, the rest of a `Vault` does not.
-/
namespace Atra

open Money Buffers

/-- Bytes, with more than 256 values: no derivation into 32 real ones gives every password its own key. -/
abbrev Bytes := List Nat

abbrev Random (n : Nat) : Type := { bytes : Bytes // bytes.length = n }

def KEY_LENGTH : Nat := 32
def SALT_LENGTH : Nat := 16
def NONCE_LENGTH : Nat := 24

structure KdfParams where
  memoryKib : Nat
  iterations : Nat
  parallelism : Nat
deriving DecidableEq, Repr

/-- The primitives: NFKC, Argon2id and XChaCha20-Poly1305, with associated data as text. -/
structure Crypto where
  normalize : String → String
  argon2id : String → Bytes → KdfParams → Bytes
  xchacha20poly1305 : Aead Bytes Bytes String Bytes Bytes
  length_argon2id : ∀ password salt params, (argon2id password salt params).length = KEY_LENGTH
  argon2id_inj : ∀ {password password' salt params},
    argon2id password salt params = argon2id password' salt params → password = password'
  fits_iff : ∀ key nonce, xchacha20poly1305.fits key nonce ↔ key.length = KEY_LENGTH ∧ nonce.length = NONCE_LENGTH

def deriveKey (crypto : Crypto) (password : String) (salt : Bytes) (params : KdfParams) : Bytes :=
  crypto.argon2id (crypto.normalize password) salt params

structure SealedBox where
  nonce : Bytes
  ciphertext : Bytes
deriving DecidableEq, Repr

def assertKeyLength (key : Bytes) : Result Unit :=
  if key.length ≠ KEY_LENGTH then throw ⟨.internal, "Invalid key length"⟩ else pure ()

/-- `seal`. -/
def sealBox (crypto : Crypto) (key plaintext : Bytes) (aad : String) (nonce : Random NONCE_LENGTH) : Result SealedBox := do
  assertKeyLength key
  return ⟨nonce.1, crypto.xchacha20poly1305.encrypt key nonce.1 aad plaintext⟩

/-- `open`. -/
def openBox (crypto : Crypto) (key : Bytes) (box : SealedBox) (aad context : String) : Result Bytes := do
  assertKeyLength key
  match crypto.xchacha20poly1305.decrypt key box.nonce aad box.ciphertext with
  | some plaintext => pure plaintext
  | none => throw ⟨.vaultCorrupt, "Could not decrypt " ++ context ++ ": wrong password or corrupted data"⟩

namespace Vault

def VAULT_VERSION : Nat := 1
def KDF_ALGORITHM : String := "argon2id"
def CIPHER_ALGORITHM : String := "xchacha20poly1305"
def WRAP_AAD : String := "atra.vault.dek.v1"

inductive SecretKind where
  | evm_private_key | solana_keypair | provider_api_key
deriving DecidableEq, Repr

def SecretKind.name : SecretKind → String
  | .evm_private_key => "evm_private_key"
  | .solana_keypair => "solana_keypair"
  | .provider_api_key => "provider_api_key"

structure VaultHeaderRow where
  version : Nat
  kdf : String
  kdfSalt : Bytes
  kdfMemoryKib : Nat
  kdfIterations : Nat
  kdfParallelism : Nat
  cipher : String
  wrappedDek : Bytes
  wrapNonce : Bytes
  createdAt : Int
  rotatedAt : Option Int
deriving DecidableEq, Repr

structure SecretRow where
  id : String
  kind : SecretKind
  label : String
  nonce : Bytes
  ciphertext : Bytes
  aad : String
  createdAt : Int
deriving DecidableEq, Repr

def secretAad (id : String) (kind : SecretKind) : String := "atra.vault.secret.v1:" ++ kind.name ++ ":" ++ id

/-- The vault's part of the database. -/
structure VaultRows where
  header : Option VaultHeaderRow
  secrets : Table SecretRow.id

/-- The rows, and what the process holds beside them; `dek` is the number of a buffer. -/
structure VaultState where
  rows : VaultRows
  heap : Heap Nat
  dek : Option Nat
  unlockedAt : Option Int
  lastUsedAt : Option Int
  armed : Bool

/-- What a process finds when it starts. -/
def boot (rows : VaultRows) : VaultState := ⟨rows, [], none, none, none, false⟩

def noVault : VaultState := boot ⟨none, .empty⟩

/-! ## The key in memory -/

def isInitialized (v : VaultState) : Bool := v.rows.header.isSome

def touch (v : VaultState) (now : Int) : VaultState := { v with lastUsedAt := some now }

def armAutolock (v : VaultState) : VaultState := { v with armed := true }

def wipeDek (v : VaultState) : Heap Nat :=
  match v.dek with
  | some dek => wipe v.heap dek
  | none => v.heap

def lock (v : VaultState) : VaultState :=
  { v with heap := wipeDek v, dek := none, unlockedAt := none, lastUsedAt := none, armed := false }

/-- The idle window is over. -/
def idle (autolockMs : Int) (v : VaultState) (now : Int) : Bool :=
  match v.dek, v.lastUsedAt with
  | some _, some lastUsedAt => autolockMs ≤ now - lastUsedAt
  | _, _ => false

def enforceAutolock (autolockMs : Int) (v : VaultState) (now : Int) : VaultState :=
  if idle autolockMs v now then lock v else v

def isUnlocked (autolockMs : Int) (v : VaultState) (now : Int) : Bool := (enforceAutolock autolockMs v now).dek.isSome

/-- The vault, and its key where it is unlocked. -/
def requireDek (autolockMs : Int) (v : VaultState) (now : Int) : VaultState × Option Nat :=
  let v := enforceAutolock autolockMs v now
  match v.dek with
  | none => (v, none)
  | some dek => (touch v now, some dek)

/-- The buffer with a key's bytes takes the place of the one before it. -/
def replaceDek (v : VaultState) (dek : Bytes) (now : Int) : VaultState :=
  let (heap, buffer) := alloc (wipeDek v) dek
  armAutolock (touch { v with heap := heap, dek := some buffer, unlockedAt := some now } now)

def vaultLocked : AppError := ⟨.vaultLocked, "The vault is locked; sign in again"⟩

/-! ## Calls -/

/-- What a call that awaits a key holds. -/
inductive Suspended where
  | initializing (password : String) (params : KdfParams) (salt : Random SALT_LENGTH) (dek : Nat)
  | unlocking (password : String) (header : VaultHeaderRow)
  | opening (current new : String) (params : KdfParams) (header : VaultHeaderRow)
  | rewrapping (new : String) (params : KdfParams) (salt : Random SALT_LENGTH) (oldKek dek : Nat)
  | verifying (password : String) (header : VaultHeaderRow)

/-- How a call ended, with what it ended on. -/
inductive Outcome where
  | initialized (password : String) (dataKey : Bytes)
  | unlocked
  | rotated (password : String)
  | verified (accepted : Bool)
  | stored (row : SecretRow) (plaintext : Bytes)
  | passed (id : String) (plaintext : Bytes)
  | settled
  | threw (error : AppError)
deriving DecidableEq

inductive Progress where
  | waits (frame : Suspended)
  | ends (outcome : Outcome)

/-- What a call finds when its derivation comes back: whether it came to a key, fresh random bytes, whether the statement it
runs goes through, and the time. -/
structure Wake where
  kdf : Result Unit
  salt : Random SALT_LENGTH
  nonce : Random NONCE_LENGTH
  statement : Result Unit
  now : Int

def headerParams (header : VaultHeaderRow) : KdfParams :=
  ⟨header.kdfMemoryKib, header.kdfIterations, header.kdfParallelism⟩

def headerKey (crypto : Crypto) (header : VaultHeaderRow) (password : String) : Bytes :=
  deriveKey crypto password header.kdfSalt (headerParams header)

def unwrap (crypto : Crypto) (header : VaultHeaderRow) (password : String) : Result Bytes :=
  openBox crypto (headerKey crypto header password) ⟨header.wrapNonce, header.wrappedDek⟩ WRAP_AAD "the vault key"

def initializeVault (v : VaultState) (password : String) (params : KdfParams) (salt : Random SALT_LENGTH)
    (dek : Random KEY_LENGTH) : VaultState × Progress :=
  if isInitialized v then (v, .ends (.threw ⟨.vaultAlreadyExists, "The vault has already been created"⟩))
  else
    let (heap, buffer) := alloc v.heap dek.1
    ({ v with heap := heap }, .waits (.initializing password params salt buffer))

/-- The header `initialize` inserts, where there is none yet. -/
def insertHeader (crypto : Crypto) (v : VaultState) (password : String) (params : KdfParams) (salt : Random SALT_LENGTH)
    (dek : Bytes) (wake : Wake) : Result VaultHeaderRow := do
  let wrapped ← sealBox crypto (deriveKey crypto password salt.1 params) dek WRAP_AAD wake.nonce
  wake.statement
  if isInitialized v then throw ⟨.internal, "UNIQUE constraint failed: vault_header.id"⟩
  else return ⟨VAULT_VERSION, KDF_ALGORITHM, salt.1, params.memoryKib, params.iterations, params.parallelism, CIPHER_ALGORITHM,
    wrapped.ciphertext, wrapped.nonce, wake.now, none⟩

def initializing (crypto : Crypto) (v : VaultState) (password : String) (params : KdfParams) (salt : Random SALT_LENGTH)
    (dek : Nat) (wake : Wake) : VaultState × Progress :=
  match insertHeader crypto v password params salt (read v.heap dek) wake with
  -- whatever key the vault holds by now is dropped, be it this call's or another's
  | .error e => ({ v with heap := wipe v.heap dek, dek := none }, .ends (.threw e))
  | .ok header =>
    (armAutolock (touch { v with rows := { v.rows with header := some header }, dek := some dek } wake.now),
      .ends (.initialized password (read v.heap dek)))

def unlock (v : VaultState) (password : String) : VaultState × Progress :=
  match v.rows.header with
  | none => (v, .ends (.threw ⟨.vaultNotFound, "No vault exists yet; run setup first"⟩))
  | some header =>
    if header.version ≠ VAULT_VERSION then (v, .ends (.threw ⟨.vaultCorrupt, "Unsupported vault version"⟩))
    else (v, .waits (.unlocking password header))

def unlocking (crypto : Crypto) (v : VaultState) (password : String) (header : VaultHeaderRow) (wake : Wake) :
    VaultState × Progress :=
  match unwrap crypto header password with
  | .error e => (v, .ends (.threw e))
  | .ok dek => (replaceDek v dek wake.now, .ends .unlocked)

def changePassword (v : VaultState) (current new : String) (params : KdfParams) : VaultState × Progress :=
  match v.rows.header with
  | none => (v, .ends (.threw ⟨.vaultNotFound, "No vault exists yet"⟩))
  | some header => (v, .waits (.opening current new params header))

/-- The old password opened the key, in buffers that outlive the next derivation. -/
def opening (crypto : Crypto) (v : VaultState) (current new : String) (params : KdfParams) (header : VaultHeaderRow)
    (wake : Wake) : VaultState × Progress :=
  match unwrap crypto header current with
  | .error e => (v, .ends (.threw e))
  | .ok dek =>
    let (heap, oldKek) := alloc v.heap (headerKey crypto header current)
    let (heap, buffer) := alloc heap dek
    ({ v with heap := heap }, .waits (.rewrapping new params wake.salt oldKek buffer))

def updateHeader (crypto : Crypto) (v : VaultState) (new : String) (params : KdfParams) (salt : Random SALT_LENGTH)
    (dek : Bytes) (wake : Wake) : Result (Option VaultHeaderRow) := do
  let wrapped ← sealBox crypto (deriveKey crypto new salt.1 params) dek WRAP_AAD wake.nonce
  wake.statement
  return v.rows.header.map fun header =>
    { header with kdfSalt := salt.1, kdfMemoryKib := params.memoryKib, kdfIterations := params.iterations
                  kdfParallelism := params.parallelism, wrappedDek := wrapped.ciphertext, wrapNonce := wrapped.nonce
                  rotatedAt := some wake.now }

/-- Wipe the two keys of a change of password. -/
def wipeBoth (v : VaultState) (oldKek dek : Nat) : VaultState := { v with heap := wipe (wipe v.heap oldKek) dek }

def rewrapping (crypto : Crypto) (v : VaultState) (new : String) (params : KdfParams) (salt : Random SALT_LENGTH)
    (oldKek dek : Nat) (wake : Wake) : VaultState × Progress :=
  match updateHeader crypto v new params salt (read v.heap dek) wake with
  | .error e => (wipeBoth v oldKek dek, .ends (.threw e))
  | .ok header =>
    (wipeBoth (replaceDek { v with rows := { v.rows with header := header } } (read v.heap dek) wake.now) oldKek dek,
      .ends (.rotated new))

def verifyPassword (v : VaultState) (password : String) : VaultState × Progress :=
  match v.rows.header with
  | none => (v, .ends (.verified false))
  | some header => (v, .waits (.verifying password header))

/-- The key is the one held, where one is. -/
def sameDek (v : VaultState) (dek : Bytes) : Bool :=
  match v.dek with
  | some held => read v.heap held = dek
  | none => true

def verifying (crypto : Crypto) (v : VaultState) (password : String) (header : VaultHeaderRow) : VaultState × Progress :=
  match unwrap crypto header password with
  | .error _ => (v, .ends (.verified false))
  | .ok dek => (v, .ends (.verified (sameDek v dek)))

/-- A derivation that fails throws; the keys of a change of password are wiped then too. -/
def abandon (v : VaultState) (frame : Suspended) : VaultState :=
  match frame with
  | .rewrapping _ _ _ oldKek dek => wipeBoth v oldKek dek
  | _ => v

/-- A call goes on when its derivation comes back. -/
def resume (crypto : Crypto) (v : VaultState) (frame : Suspended) (wake : Wake) : VaultState × Progress :=
  match wake.kdf with
  | .error e => (abandon v frame, .ends (.threw e))
  | .ok () => match frame with
    | .initializing password params salt dek => initializing crypto v password params salt dek wake
    | .unlocking password header => unlocking crypto v password header wake
    | .opening current new params header => opening crypto v current new params header wake
    | .rewrapping new params salt oldKek dek => rewrapping crypto v new params salt oldKek dek wake
    | .verifying password header => verifying crypto v password header

/-! ## Secrets -/

def insertSecret (crypto : Crypto) (v : VaultState) (dek : Bytes) (kind : SecretKind) (label : String) (plaintext : Bytes)
    (id : String) (nonce : Random NONCE_LENGTH) (statement : Result Unit) (now : Int) : Result SecretRow := do
  let aad := secretAad id kind
  let sealed ← sealBox crypto dek plaintext aad nonce
  statement
  if (v.rows.secrets.get id).isSome then throw ⟨.internal, "UNIQUE constraint failed: vault_secrets.id"⟩
  else return ⟨id, kind, label, sealed.nonce, sealed.ciphertext, aad, now⟩

def putSecret (crypto : Crypto) (autolockMs : Int) (v : VaultState) (kind : SecretKind) (label : String) (plaintext : Bytes)
    (id : String) (nonce : Random NONCE_LENGTH) (statement : Result Unit) (now : Int) : VaultState × Outcome :=
  match requireDek autolockMs v now with
  | (v, none) => (v, .threw vaultLocked)
  | (v, some dek) => match insertSecret crypto v (read v.heap dek) kind label plaintext id nonce statement now with
    | .error e => (v, .threw e)
    | .ok row => ({ v with rows := { v.rows with secrets := v.rows.secrets.put row } }, .stored row plaintext)

def openSecret (crypto : Crypto) (v : VaultState) (dek : Bytes) (id : String) : Result Bytes :=
  match v.rows.secrets.get id with
  | none => throw ⟨.notFound, "No such secret"⟩
  | some row => openBox crypto dek ⟨row.nonce, row.ciphertext⟩ row.aad ("secret " ++ id)

/-- What the callback is handed. -/
def useSecret (crypto : Crypto) (autolockMs : Int) (v : VaultState) (id : String) (now : Int) : VaultState × Outcome :=
  match requireDek autolockMs v now with
  | (v, none) => (v, .threw vaultLocked)
  | (v, some dek) => match openSecret crypto v (read v.heap dek) id with
    | .error e => (v, .threw e)
    | .ok plaintext => (v, .passed id plaintext)

/-! ## Primitives that run

They hide nothing: a box is its plaintext followed by the key, the nonce and the associated data it was sealed under. -/

def textBytes (text : String) : Bytes := text.toList.map Char.toNat

def textCode (text : String) : Nat := Nat.ofDigits 1114112 (textBytes text ++ [1])

theorem textCode_inj {a b : String} (h : textCode a = textCode b) : a = b := by
  have hdigits : ∀ c : String, Nat.digits 1114112 (textCode c) = textBytes c ++ [1] := by
    intro c
    refine Nat.digits_ofDigits _ (by decide) _ (fun l hl => ?_) (fun _ => ?_)
    · rcases List.mem_append.1 hl with hl | hl
      · obtain ⟨ch, -, rfl⟩ := List.mem_map.1 hl
        have := ch.valid
        rw [UInt32.isValidChar, Nat.isValidChar] at this
        show ch.val.toNat < _
        omega
      · rw [List.mem_singleton.1 hl]
        decide
    · rw [List.getLast_append_singleton]
      decide
  have hbytes : textBytes a = textBytes b := by
    have hlist := hdigits a
    rw [h, hdigits b] at hlist
    exact (List.append_cancel_right hlist).symm
  exact String.toList_inj.1 (List.map_injective_iff.2 (fun _ _ hc => Char.toNat_inj.1 hc) hbytes)

def clearMark (key nonce : Bytes) (aad : String) : Bytes := key ++ (nonce ++ textBytes aad)

def clearDecrypt (key nonce : Bytes) (aad : String) (ciphertext : Bytes) : Option Bytes :=
  let plaintext := ciphertext.take (ciphertext.length - (clearMark key nonce aad).length)
  if ciphertext = plaintext ++ clearMark key nonce aad then some plaintext else none

def clearCipher : Aead Bytes Bytes String Bytes Bytes where
  encrypt key nonce aad plaintext := plaintext ++ clearMark key nonce aad
  decrypt := clearDecrypt
  fits key nonce := key.length = KEY_LENGTH ∧ nonce.length = NONCE_LENGTH
  decrypt_encrypt := by
    intro key nonce aad plaintext _
    unfold clearDecrypt
    have htake : (plaintext ++ clearMark key nonce aad).take
        ((plaintext ++ clearMark key nonce aad).length - (clearMark key nonce aad).length) = plaintext := by
      rw [List.length_append, Nat.add_sub_cancel, List.take_left]
    dsimp only
    rw [htake, if_pos rfl]
  encrypt_of_decrypt := by
    intro key nonce aad ciphertext plaintext h
    unfold clearDecrypt at h
    dsimp only at h
    split at h
    · rename_i heq
      rw [Option.some.inj h] at heq
      exact heq
    · cases h
  key_of_encrypt := by
    intro key key' nonce aad plaintext plaintext' hk hk' h
    unfold clearMark at h
    have hmark := List.append_inj_right' h (by rw [List.length_append, @List.length_append _ key', hk.1, hk'.1])
    exact List.append_inj_left' hmark rfl

def clearCrypto : Crypto where
  normalize := id
  argon2id password salt params :=
    [textCode password, Nat.ofDigits 256 salt, params.memoryKib, params.iterations, params.parallelism] ++ List.replicate 27 0
  xchacha20poly1305 := clearCipher
  length_argon2id _ _ _ := rfl
  argon2id_inj h := textCode_inj (List.cons.inj h).1
  fits_iff _ _ := Iff.rfl

end Vault
end Atra
