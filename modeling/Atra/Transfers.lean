import Atra.SolanaMessage
import Atra.Registry
/-!
# Transfers — what an adapter prepares for a transfer, and what a signature of it moves

`prepareTransfer` turns a request into an unsigned payload and estimates its fee; `transferSigningContext` adds what the network
has to say when the key is about to be used.  `Moves` says which transfer a context carries, read off the fields the chain
executes.
-/
namespace Atra
namespace Wallet

open Money Solana

structure TransferRequest where
  sender : String
  recipient : String
  /-- `none` for the native asset. -/
  token : Option String
  amount : Int
  decimals : Nat
deriving DecidableEq, Repr

/-- Family-specific unsigned payload. -/
inductive Payload where
  | evm (sender target data : String) (value : Int) (gas : Nat)
  | solana (feePayer transactionBase64 : String) (lastValidBlockHeight : Option Nat)
deriving DecidableEq, Repr

structure PreparedTransfer where
  payload : Payload
  /-- `none` when it could not be estimated: the transfer must not be submitted. -/
  feeNative : Option Int
  feeSource : String
  summary : String
  warnings : List String
deriving DecidableEq, Repr

inductive SigningContext where
  | evm (chainId : Nat) (sender target data : String) (value : Int) (gas nonce : Nat) (maxFeePerGas maxPriorityFeePerGas : Nat)
  | solana (feePayer transactionBase64 : String) (lastValidBlockHeight : Option Nat)
deriving DecidableEq, Repr

def evmChainId : ChainId → Option Nat
  | .base => some 8453
  | .bsc => some 56
  | .robinhood => some 4663
  | .solana => none

/-- What the packages under the two adapters compute. -/
structure TransferCodecs where
  isAddress : String → Bool
  /-- The call data of `transfer(recipient, amount)`. -/
  encodeTransfer : String → Int → String
  base : BaseCodecs
  associatedTokenAddress : String → String → String → Result String

section
variable (codecs : TransferCodecs)

/-! ## EVM -/

def NATIVE_TRANSFER_GAS : Nat := 21000
def TOKEN_TRANSFER_GAS_FALLBACK : Nat := 90000

/-- What the node answers while a transfer is prepared. -/
structure EvmNetwork where
  hasCode : Result Bool
  estimateGas : Result Nat
  gasPrice : Result Nat

def assertAddress (address : String) : Result Unit :=
  refuseWhen (codecs.isAddress address = false) ⟨.schemaInvalid, "Malformed EVM address"⟩

/-- The recipient, call data and value of a transfer. -/
def evmCall (request : TransferRequest) : String × String × Int :=
  match request.token with
  | some token => (token, codecs.encodeTransfer request.recipient request.amount, 0)
  | none => (request.recipient, "0x", request.amount)

def codeWarnings (network : EvmNetwork) : List String :=
  match network.hasCode with
  | .ok true => ["Destination is a contract address."]
  | .ok false => []
  | .error _ => ["Could not check whether the destination is a contract."]

/-- The gas with its buffer and the fee: no fallback fee for a transaction the node says will not run. -/
def evmFee (request : TransferRequest) (network : EvmNetwork) : Result (Nat × Int) := do
  let gas ← if request.token.isSome then network.estimateGas else pure NATIVE_TRANSFER_GAS
  let gasPrice ← network.gasPrice
  let gasWithBuffer := if request.token.isSome then gas * 120 / 100 else gas
  return (gasWithBuffer, ((gasWithBuffer * (gasPrice * 125 / 100) : Nat) : Int))

def fallbackGas (request : TransferRequest) : Nat :=
  if request.token.isSome then TOKEN_TRANSFER_GAS_FALLBACK else NATIVE_TRANSFER_GAS

def evmSummary (request : TransferRequest) : String :=
  match request.token with
  | some token => "transfer " ++ toString request.amount ++ " of " ++ token ++ " to " ++ request.recipient
  | none => "send " ++ toString request.amount ++ " wei to " ++ request.recipient

def evmPrepareTransfer (network : EvmNetwork) (request : TransferRequest) : Result PreparedTransfer := do
  assertAddress codecs request.sender
  assertAddress codecs request.recipient
  refuseWhen (request.amount ≤ 0) ⟨.schemaInvalid, "Transfer amount must be positive"⟩
  request.token.forM (assertAddress codecs)
  let (target, data, value) := evmCall codecs request
  match evmFee request network with
  | .ok (gas, fee) =>
    return ⟨.evm request.sender target data value gas, some fee, "chain-rpc", evmSummary request, codeWarnings network⟩
  | .error e =>
    return ⟨.evm request.sender target data value (fallbackGas request), none, "none", evmSummary request,
      codeWarnings network ++ ["Fee could not be estimated: " ++ e.message]⟩

/-! ## Solana -/

def LAMPORTS_PER_SIGNATURE : Nat := 5000
def SYSTEM_PROGRAM : String := "11111111111111111111111111111111"
def TOKEN_PROGRAM : String := "TokenkegQfeZyiNwAJbNbGKPFXCWuBvf9Ss623VQ5DA"
def TOKEN_2022_PROGRAM : String := "TokenzQdBNbLqP5VEhdkAS6EPFLC1PHnBqCXEpPxuEb"
def ASSOCIATED_TOKEN_PROGRAM : String := "ATokenGPvbdGVxr1b2hvZbsiqW5xWH25efTNsLJA8knL"

/-- The lowest bytes of a number, lowest first: what does not fit is cut off. -/
def littleEndian (width : Nat) (n : Int) : List UInt8 :=
  (List.range width).map fun i => UInt8.ofNat (n / 256 ^ i % 256).toNat

def systemTransfer (sender recipient : String) (lamports : Int) : LegacyInstruction :=
  ⟨SYSTEM_PROGRAM, [⟨sender, true, true⟩, ⟨recipient, false, true⟩], littleEndian 4 2 ++ littleEndian 8 lamports⟩

def createAssociatedTokenAccountIdempotent (payer ata owner mint tokenProgram : String) : LegacyInstruction :=
  ⟨ASSOCIATED_TOKEN_PROGRAM,
    [⟨payer, true, true⟩, ⟨ata, false, true⟩, ⟨owner, false, false⟩, ⟨mint, false, false⟩, ⟨SYSTEM_PROGRAM, false, false⟩,
      ⟨tokenProgram, false, false⟩], [1]⟩

def transferChecked (source mint destination owner : String) (amount : Int) (decimals : Nat) (tokenProgram : String) :
    LegacyInstruction :=
  ⟨tokenProgram, [⟨source, false, true⟩, ⟨mint, false, false⟩, ⟨destination, false, true⟩, ⟨owner, true, false⟩],
    [12] ++ littleEndian 8 amount ++ [UInt8.ofNat decimals]⟩

/-- What the node answers while a transfer is prepared. -/
structure SolanaNetwork where
  latestBlockhash : Result (String × Nat)
  /-- The owner and the decimals of the mint, if there is one. -/
  mint : Result (Option (String × Option Nat))
  destinationExists : Result Bool
  rent : Result Nat

def assertPubkey (value : String) : Result Unit :=
  match base58Length codecs.base value with
  | none => throw ⟨.schemaInvalid, "Malformed Solana address"⟩
  | some bytes => refuseWhen (bytes ≠ 32) ⟨.schemaInvalid, "A Solana address must decode to 32 bytes"⟩

def tokenInstructions (request : TransferRequest) (mint tokenProgram : String) : Result (List LegacyInstruction) := do
  let sourceAta ← codecs.associatedTokenAddress request.sender mint tokenProgram
  let destinationAta ← codecs.associatedTokenAddress request.recipient mint tokenProgram
  return [createAssociatedTokenAccountIdempotent request.sender destinationAta request.recipient mint tokenProgram,
    transferChecked sourceAta mint destinationAta request.sender request.amount request.decimals tokenProgram]

/-- The program of the mint, once the mint agrees with the request. -/
def mintProgram (request : TransferRequest) (network : SolanaNetwork) : Result String := do
  match ← network.mint with
  | none => throw ⟨.notFound, "Token mint does not exist"⟩
  | some (tokenProgram, mintDecimals) =>
    refuseWhen (tokenProgram ≠ TOKEN_PROGRAM ∧ tokenProgram ≠ TOKEN_2022_PROGRAM)
      ⟨.schemaInvalid, "Mint is not owned by a token program"⟩
    refuseWhen (mintDecimals.any (· ≠ request.decimals)) ⟨.conflict, "Token decimals disagree with the mint"⟩
    return tokenProgram

def rentDue (network : SolanaNetwork) : Result (Option Nat) := do
  if ← network.destinationExists then return none
  else
    let rent ← network.rent
    return some rent

def solanaPrepared (request : TransferRequest) (blockhash : String) (lastValidBlockHeight : Nat)
    (instructions : List LegacyInstruction) (rent : Option Nat) (summary : String) : Result PreparedTransfer := do
  let message ← compileLegacyMessage codecs.base request.sender blockhash instructions
  return ⟨.solana request.sender (unsignedTransactionBase64 message) (some lastValidBlockHeight),
    some (((LAMPORTS_PER_SIGNATURE + rent.getD 0 : Nat) : Int)), "chain-rpc", summary,
    rent.toList.map fun r => "Destination has no token account; creating one costs " ++ toString r ++ " lamports of rent."⟩

def solanaPrepareTransfer (network : SolanaNetwork) (request : TransferRequest) : Result PreparedTransfer := do
  assertPubkey codecs request.sender
  assertPubkey codecs request.recipient
  refuseWhen (request.amount ≤ 0) ⟨.schemaInvalid, "Transfer amount must be positive"⟩
  refuseWhen (request.sender = request.recipient) ⟨.schemaInvalid, "Destination is the agent wallet itself"⟩
  let blockhash ← network.latestBlockhash
  match request.token with
  | none =>
    solanaPrepared codecs request blockhash.1 blockhash.2 [systemTransfer request.sender request.recipient request.amount] none
      ("send " ++ toString request.amount ++ " lamports to " ++ request.recipient)
  | some token =>
    assertPubkey codecs token
    let tokenProgram ← mintProgram request network
    let instructions ← tokenInstructions codecs request token tokenProgram
    let rent ← rentDue network
    solanaPrepared codecs request blockhash.1 blockhash.2 instructions rent
      ("transfer " ++ toString request.amount ++ " of " ++ token ++ " to " ++ request.recipient)

/-! ## The adapter of a chain -/

structure Network where
  evm : EvmNetwork
  solana : SolanaNetwork

def prepareTransfer (chain : ChainId) (network : Network) (request : TransferRequest) : Result PreparedTransfer :=
  match chainFamily chain with
  | .evm => evmPrepareTransfer codecs network.evm request
  | .solana => solanaPrepareTransfer codecs network.solana request

/-- The nonce and the fees a node reports when a transaction is about to be signed. -/
structure FeeReading where
  nonce : Nat
  maxFeePerGas : Nat
  maxPriorityFeePerGas : Nat

def transferSigningContext (chain : ChainId) (payload : Payload) (fees : Result FeeReading) : Result SigningContext :=
  match payload with
  | .evm sender target data value gas => do
    let fees ← fees
    return .evm ((evmChainId chain).getD 0) sender target data value gas fees.nonce (fees.maxFeePerGas * 125 / 100)
      fees.maxPriorityFeePerGas
  | .solana feePayer transactionBase64 lastValidBlockHeight =>
    return .solana feePayer transactionBase64 lastValidBlockHeight

/-! ## What a signature moves -/

/-- The instructions of the transfer, whatever program the mint belongs to. -/
def Instructs (request : TransferRequest) (instructions : List LegacyInstruction) : Prop :=
  match request.token with
  | none => instructions = [systemTransfer request.sender request.recipient request.amount]
  | some mint => ∃ tokenProgram, tokenInstructions codecs request mint tokenProgram = .ok instructions

/-- The context carries this transfer on this chain: on EVM the recipient, call data and value say so, on Solana the
instructions of the message, whose amount has 64 bits. -/
def Moves (chain : ChainId) (request : TransferRequest) : SigningContext → Prop
  | .evm chainId sender target data value _ _ _ _ =>
    evmChainId chain = some chainId ∧ sender = request.sender ∧ (target, data, value) = evmCall codecs request
  | .solana feePayer transactionBase64 _ =>
    chain = .solana ∧ feePayer = request.sender ∧ 0 ≤ request.amount ∧ request.amount < 2 ^ 64 ∧
      ∃ blockhash instructions message, Instructs codecs request instructions ∧
        compileLegacyMessage codecs.base request.sender blockhash instructions = .ok message ∧
        transactionBase64 = unsignedTransactionBase64 message

variable {codecs : TransferCodecs} {chain : ChainId} {network : Network} {request : TransferRequest} {prepared : PreparedTransfer}

theorem evmPrepareTransfer_ok {network : EvmNetwork} (h : evmPrepareTransfer codecs network request = .ok prepared) :
    ∃ target data value gas, (target, data, value) = evmCall codecs request ∧
      prepared.payload = .evm request.sender target data value gas := by
  simp only [evmPrepareTransfer, bind_ok] at h
  obtain ⟨_, -, _, -, _, -, _, -, h⟩ := h
  split at h
  · rw [pure_ok] at h
    subst h
    exact ⟨_, _, _, _, rfl, rfl⟩
  · rw [pure_ok] at h
    subst h
    exact ⟨_, _, _, _, rfl, rfl⟩

theorem solanaPrepared_ok {blockhash summary : String} {height : Nat} {instructions : List LegacyInstruction}
    {rent : Option Nat} (h : solanaPrepared codecs request blockhash height instructions rent summary = .ok prepared) :
    ∃ message, compileLegacyMessage codecs.base request.sender blockhash instructions = .ok message ∧
      prepared.payload = .solana request.sender (unsignedTransactionBase64 message) (some height) := by
  simp only [solanaPrepared, bind_ok, pure_ok] at h
  obtain ⟨message, hmessage, rfl⟩ := h
  exact ⟨message, hmessage, rfl⟩

theorem solanaPrepareTransfer_ok {network : SolanaNetwork}
    (h : solanaPrepareTransfer codecs network request = .ok prepared) :
    0 < request.amount ∧ ∃ blockhash height instructions message, Instructs codecs request instructions ∧
      compileLegacyMessage codecs.base request.sender blockhash instructions = .ok message ∧
      prepared.payload = .solana request.sender (unsignedTransactionBase64 message) (some height) := by
  simp only [solanaPrepareTransfer, bind_ok, refuseWhen_ok] at h
  obtain ⟨_, -, _, -, _, hpos, _, -, ⟨blockhash, height⟩, -, h⟩ := h
  refine ⟨by omega, ?_⟩
  unfold Instructs
  split at h
  · obtain ⟨message, hmessage, hpayload⟩ := solanaPrepared_ok h
    exact ⟨blockhash, height, _, message, rfl, hmessage, hpayload⟩
  · simp only [bind_ok] at h
    obtain ⟨_, -, tokenProgram, -, instructions, hinstructions, _, -, h⟩ := h
    obtain ⟨message, hmessage, hpayload⟩ := solanaPrepared_ok h
    exact ⟨blockhash, height, instructions, message, ⟨tokenProgram, hinstructions⟩, hmessage, hpayload⟩

/-- **What was prepared is what a signature moves**, as long as the amount has room in the instruction. -/
theorem prepared_moves {fees : Result FeeReading} {context : SigningContext}
    (h : prepareTransfer codecs chain network request = .ok prepared)
    (hc : transferSigningContext chain prepared.payload fees = .ok context)
    (hsize : chain = .solana → request.amount < 2 ^ 64) : Moves codecs chain request context := by
  unfold prepareTransfer at h
  cases hfamily : chainFamily chain with
  | evm =>
    rw [hfamily] at h
    obtain ⟨target, data, value, gas, hcall, hpayload⟩ := evmPrepareTransfer_ok h
    rw [hpayload] at hc
    simp only [transferSigningContext, bind_ok, pure_ok] at hc
    obtain ⟨_, -, rfl⟩ := hc
    refine ⟨?_, rfl, hcall⟩
    cases chain with
    | base | bsc | robinhood => rfl
    | solana => cases hfamily
  | solana =>
    rw [hfamily] at h
    obtain ⟨hpos, blockhash, height, instructions, message, hinstructs, hmessage, hpayload⟩ := solanaPrepareTransfer_ok h
    rw [hpayload] at hc
    simp only [transferSigningContext, pure_ok] at hc
    subst hc
    have hchain : chain = .solana := by
      cases chain with
      | base | bsc | robinhood => cases hfamily
      | solana => rfl
    exact ⟨hchain, rfl, hpos.le, hsize hchain, blockhash, instructions, message, hinstructs, hmessage, rfl⟩

end

end Wallet
end Atra
