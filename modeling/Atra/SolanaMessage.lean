import Atra.Base64
import Atra.ByteReader
import Atra.Money
import Atra.Table
import Mathlib.Data.String.Basic
/-!
# SolanaMessage — legacy messages, written and read

A transfer is compiled into a legacy message by hand: a header, the accounts in the order the runtime requires, the blockhash
and the compiled instructions.  The signer reads a message of its own accord before it signs it: which keys it carries, who
pays and which programs it invokes.
-/
namespace Atra
namespace Solana

/-- What the base-encoding package provides. -/
structure BaseCodecs where
  base58Decode : String → Result (List UInt8)
  base58Encode : List UInt8 → String
  base64Decode : String → Result (List UInt8)

/-- Decoded byte length of a base58 text, if it is one. -/
def base58Length (codecs : BaseCodecs) (value : String) : Option Nat :=
  match codecs.base58Decode value with
  | .ok bytes => some bytes.length
  | .error _ => none

structure AccountMeta where
  pubkey : String
  isSigner : Bool
  isWritable : Bool
deriving DecidableEq, Repr

structure LegacyInstruction where
  programId : String
  accounts : List AccountMeta
  data : List UInt8
deriving DecidableEq, Repr

/-! ## The encoder -/

/-- Accounts by key, in the order they were first named; naming one again only adds to its role. -/
def upsert (roles : Table AccountMeta.pubkey) (account : AccountMeta) : Table AccountMeta.pubkey :=
  let current := (roles.get account.pubkey).getD ⟨account.pubkey, false, false⟩
  roles.put {
    pubkey := account.pubkey
    isSigner := current.isSigner || account.isSigner
    isWritable := current.isWritable || account.isWritable }

def LegacyInstruction.mentions (instruction : LegacyInstruction) : List AccountMeta :=
  instruction.accounts ++ [⟨instruction.programId, false, false⟩]

def mentioned (feePayer : String) (instructions : List LegacyInstruction) : List AccountMeta :=
  ⟨feePayer, true, true⟩ :: instructions.flatMap LegacyInstruction.mentions

def rolesOf (feePayer : String) (instructions : List LegacyInstruction) : Table AccountMeta.pubkey :=
  (mentioned feePayer instructions).foldl upsert .empty

def signersOf (roles : Table AccountMeta.pubkey) : List String := (roles.rows.filter (·.isSigner)).map (·.pubkey)

def writableOf (roles : Table AccountMeta.pubkey) : List String :=
  (roles.rows.filter fun m => !m.isSigner && m.isWritable).map (·.pubkey)

def readonlyOf (roles : Table AccountMeta.pubkey) : List String :=
  (roles.rows.filter fun m => !m.isSigner && !m.isWritable).map (·.pubkey)

/-- The keys of a message: the fee payer, then the accounts that are written, then those that are read. -/
def orderedKeys (feePayer : String) (roles : Table AccountMeta.pubkey) : List String :=
  feePayer :: (writableOf roles ++ readonlyOf roles)

/-- Seven bits a byte, lowest first; three bytes hold any 16-bit number. -/
def compactDigits : Nat → Nat → List UInt8
  | 0, _ => []
  | rounds + 1, remaining =>
    let byte := remaining &&& 0x7f
    if remaining >>> 7 = 0 then [UInt8.ofNat byte]
    else UInt8.ofNat (byte ||| 0x80) :: compactDigits rounds (remaining >>> 7)

def compactU16 (value : Nat) : Result (List UInt8) :=
  if 0xffff < value then throw ⟨.internal, "compact-u16 out of range"⟩ else pure (compactDigits 3 value)

/-- A key's place in the message, as a byte. -/
def indexOf (ordered : List String) (key : String) : UInt8 := UInt8.ofNat (ordered.idxOf key)

def encodeInstruction (ordered : List String) (instruction : LegacyInstruction) : Result (List UInt8) := do
  let accountCount ← compactU16 instruction.accounts.length
  let dataLength ← compactU16 instruction.data.length
  return [indexOf ordered instruction.programId] ++ (accountCount ++
    (instruction.accounts.map (fun account => indexOf ordered account.pubkey) ++ (dataLength ++ instruction.data)))

/-- The bytes of a message whose accounts are in order. -/
def encodeMessage (codecs : BaseCodecs) (ordered : List String) (readonlyUnsigned : Nat) (recentBlockhash : String)
    (instructions : List LegacyInstruction) : Result (List UInt8) := do
  let keyCount ← compactU16 ordered.length
  let keys ← ordered.mapM codecs.base58Decode
  let blockhash ← codecs.base58Decode recentBlockhash
  let instructionCount ← compactU16 instructions.length
  let compiled ← instructions.mapM (encodeInstruction ordered)
  return [1, 0, UInt8.ofNat readonlyUnsigned] ++ (keyCount ++ (keys.flatten ++ (blockhash ++ (instructionCount ++
    compiled.flatten))))

/-- Compile instructions into a legacy message with one required signer, the fee payer. -/
def compileLegacyMessage (codecs : BaseCodecs) (feePayer recentBlockhash : String)
    (instructions : List LegacyInstruction) : Result (List UInt8) := do
  let roles := rolesOf feePayer instructions
  refuseWhen (signersOf roles ≠ [feePayer])
    ⟨.conflict, "A transfer message must have exactly one signer, the fee payer"⟩
  encodeMessage codecs (orderedKeys feePayer roles) (readonlyOf roles).length recentBlockhash instructions

def SIGNATURE_BYTES : Nat := 64
def PUBKEY_BYTES : Nat := 32

/-- One empty signature slot plus the message. -/
def unsignedTransaction (message : List UInt8) : List UInt8 := [1] ++ (List.replicate SIGNATURE_BYTES 0 ++ message)

def unsignedTransactionBase64 (message : List UInt8) : String := Base64.encode (unsignedTransaction message)

/-! ## The parser -/

open ByteReader

inductive MessageVersion where
  | legacy | v0
deriving DecidableEq, Repr

structure SolanaMessageSummary where
  version : MessageVersion
  numRequiredSignatures : Nat
  feePayer : String
  staticAccountKeys : List String
  programIds : List String
deriving DecidableEq, Repr

def malformed (message : String) : AppError := ⟨.schemaInvalid, message⟩

/-- So many more bytes of a number, on top of what was read of it. -/
def readCompactFrom : Nat → Nat → Nat → ByteReader AppError Nat
  | 0, _, _ => throw (malformed "Malformed compact-u16")
  | rounds + 1, value, shift => do
    let byte ← byte (malformed "Truncated compact-u16")
    let value := value ||| ((byte.toNat &&& 0x7f) <<< shift)
    if byte.toNat &&& 0x80 = 0 then pure value else readCompactFrom rounds value (shift + 7)

def readCompactU16 : ByteReader AppError Nat := readCompactFrom 3 0 0

/-- A versioned message sets the high bit of its first byte. -/
def versionOf (first : UInt8) : ByteReader AppError MessageVersion :=
  if first.toNat &&& 0x80 = 0 then pure .legacy
  else if first.toNat &&& 0x7f = 0 then (fun _ => .v0) <$> skip 1
  else throw (malformed ("Unsupported message version " ++ toString (first.toNat &&& 0x7f)))

def readVersion : ByteReader AppError MessageVersion := do
  let first ← peek (malformed "Empty message")
  versionOf first

def readKeys (codecs : BaseCodecs) : ByteReader AppError (List String) := do
  let keyCount ← readCompactU16
  refuseWhen (keyCount < 1) (malformed "Message account keys are truncated")
  let bytes ← take (keyCount * PUBKEY_BYTES) (malformed "Message account keys are truncated")
  return (List.range keyCount).map fun index =>
    codecs.base58Encode ((bytes.drop (index * PUBKEY_BYTES)).take PUBKEY_BYTES)

def keyAt (staticAccountKeys : List String) (index : Nat) : Result String :=
  match staticAccountKeys[index]? with
  | some key => pure key
  | none => throw (malformed ("Instruction names account " ++ toString index ++ ", which the message does not carry"))

/-- An instruction's program; its accounts and data are passed over. -/
def readInstruction (staticAccountKeys : List String) : ByteReader AppError String := do
  let programIdIndex ← byte (malformed "Instruction program index is truncated")
  let programId ← keyAt staticAccountKeys programIdIndex.toNat
  let accountCount ← readCompactU16
  skip accountCount
  let dataLength ← readCompactU16
  skip dataLength
  need 0 (malformed "Instruction data is truncated")
  return programId

/-- The members of a list, each once, in order. -/
def sortedSet (ids : List String) : List String := ids.dedup.insertionSort (· ≤ ·)

def readBody (codecs : BaseCodecs) (version : MessageVersion) : ByteReader AppError SolanaMessageSummary := do
  let header ← take 3 (malformed "Message header is truncated")
  let keys ← readKeys codecs
  let _ ← take PUBKEY_BYTES (malformed "Message blockhash is truncated")
  let instructionCount ← readCompactU16
  let programIds ← times (readInstruction keys) instructionCount
  return {
    version
    numRequiredSignatures := (header.headD 0).toNat
    feePayer := keys.headD ""
    staticAccountKeys := keys
    programIds := sortedSet programIds }

def readMessage (codecs : BaseCodecs) : ByteReader AppError SolanaMessageSummary := do
  let version ← readVersion
  readBody codecs version

def summarizeMessage (codecs : BaseCodecs) (message : List UInt8) : Result SolanaMessageSummary :=
  (·.1) <$> (readMessage codecs).exec message 0

/-- Split off the signature array; what is left are the message bytes that get signed. -/
def splitTransaction (bytes : List UInt8) : Result (Nat × List UInt8) := do
  let (count, offset) ← readCompactU16.exec bytes 0
  let messageStart := offset + count * SIGNATURE_BYTES
  refuseWhen (count < 1 ∨ 8 < count ∨ bytes.length ≤ messageStart)
    (malformed "Transaction signature array is malformed")
  return (count, bytes.drop messageStart)

def decodeTransaction (codecs : BaseCodecs) (transactionBase64 : String) : Result (List UInt8) :=
  match codecs.base64Decode transactionBase64 with
  | .ok bytes =>
    if bytes.length < 1 + SIGNATURE_BYTES + 3 then throw (malformed "Malformed serialized transaction") else pure bytes
  | .error _ => throw (malformed "Malformed serialized transaction")

/-- Read the parts of a message that must be checked before signing. -/
def summarizeSolanaTransaction (codecs : BaseCodecs) (transactionBase64 : String) : Result SolanaMessageSummary := do
  let bytes ← decodeTransaction codecs transactionBase64
  let (_, message) ← splitTransaction bytes
  summarizeMessage codecs message

end Solana
end Atra
