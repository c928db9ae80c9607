import Atra.Money
/-!
# Registry — the supported chains and how their addresses compare

The four chains with the fields the modelled code reads of each: family, native coin and the well-known tokens.  `Host`
is what the model takes from the JavaScript platform without computing it.
-/
namespace Atra

/-- The platform functions the runtime calls: a SHA-256 hex digest and Unicode lower-casing. -/
structure Host where
  sha256 : String → String
  toLowerCase : String → String

/-- A JavaScript object used as a map from strings. -/
abbrev Record (α : Type) := String → Option α

def recordOf {α : Type} (entries : List (String × α)) : Record α := fun key => entries.lookup key

/-- The length of a JavaScript string: UTF-16 code units. -/
def jsLength (s : String) : Nat := (s.toList.map fun c => if c.toNat < 0x10000 then 1 else 2).sum

/-- The characters of a text that fit in `n` UTF-16 code units. -/
def takeUnits : Nat → List Char → List Char
  | _, [] => []
  | n, c :: cs =>
    if c.toNat < 0x10000 then (if n < 1 then [] else c :: takeUnits (n - 1) cs)
    else if n < 2 then [] else c :: takeUnits (n - 2) cs

/-- `s.slice(0, n)`. -/
def jsSlice (n : Nat) (s : String) : String := String.ofList (takeUnits n s.toList)

def asciiLower (s : String) : String := String.ofList (s.toList.map Char.toLower)

inductive ChainId where
  | base | bsc | robinhood | solana
deriving DecidableEq, Repr

def ChainId.name : ChainId → String
  | .base => "base"
  | .bsc => "bsc"
  | .robinhood => "robinhood"
  | .solana => "solana"

theorem ChainId.name_injective {x y : ChainId} (h : x.name = y.name) : x = y := by
  cases x <;> cases y <;> first | rfl | exact absurd h (by decide)

def nativeSymbol : ChainId → String
  | .base => "ETH"
  | .bsc => "BNB"
  | .robinhood => "ETH"
  | .solana => "SOL"

theorem ChainId.colon_notMem_name (x : ChainId) : ':' ∉ x.name.toList := by cases x <;> decide

inductive ChainFamily where
  | evm | solana
deriving DecidableEq, Repr

structure TokenInfo where
  address : String
  symbol : String
  decimals : Nat
deriving DecidableEq, Repr

structure ChainInfo where
  family : ChainFamily
  nativeDecimals : Nat
  nativeSentinel : String
  tokens : List TokenInfo

def EVM_NATIVE_SENTINEL : String := "0xeeeeeeeeeeeeeeeeeeeeeeeeeeeeeeeeeeeeeeee"
def SOLANA_NATIVE_SENTINEL : String := "So11111111111111111111111111111111111111112"

def CHAINS : ChainId → ChainInfo
  | .base =>
    { family := .evm, nativeDecimals := 18, nativeSentinel := EVM_NATIVE_SENTINEL
      tokens := [⟨EVM_NATIVE_SENTINEL, "ETH", 18⟩,
        ⟨"0x833589fcd6edb6e08f4c7c32d4f71b54bda02913", "USDC", 6⟩,
        ⟨"0x4200000000000000000000000000000000000006", "WETH", 18⟩] }
  | .bsc =>
    { family := .evm, nativeDecimals := 18, nativeSentinel := EVM_NATIVE_SENTINEL
      tokens := [⟨EVM_NATIVE_SENTINEL, "BNB", 18⟩,
        ⟨"0x55d398326f99059ff775485246999027b3197955", "USDT", 18⟩,
        ⟨"0x8ac76a51cc950d9822d68b83fe1ad97b32cd580d", "USDC", 18⟩,
        ⟨"0xbb4cdb9cbd36b01bd1cbaebf2de08d9173bc095c", "WBNB", 18⟩] }
  | .robinhood =>
    { family := .evm, nativeDecimals := 18, nativeSentinel := EVM_NATIVE_SENTINEL
      tokens := [⟨EVM_NATIVE_SENTINEL, "ETH", 18⟩,
        ⟨"0x0bd7d308f8e1639fab988df18a8011f41eacad73", "WETH", 18⟩,
        ⟨"0x5fc5360d0400a0fd4f2af552add042d716f1d168", "USDG", 6⟩] }
  | .solana =>
    { family := .solana, nativeDecimals := 9, nativeSentinel := SOLANA_NATIVE_SENTINEL
      tokens := [⟨SOLANA_NATIVE_SENTINEL, "SOL", 9⟩,
        ⟨"EPjFWdd5AufqSSqeM2qN1xzybapC8G4wEGGkZwyTDt1v", "USDC", 6⟩] }

/-- Programs that may appear beside an allowlisted Solana program. -/
def SOLANA_SYSTEM_PROGRAMS : List String :=
  ["11111111111111111111111111111111",
    "TokenkegQfeZyiNwAJbNbGKPFXCWuBvf9Ss623VQ5DA",
    "TokenzQdBNbLqP5VEhdkAS6EPFLC1PHnBqCXEpPxuEb",
    "ATokenGPvbdGVxr1b2hvZbsiqW5xWH25efTNsLJA8knL",
    "ComputeBudget111111111111111111111111111111",
    "AddressLookupTab1e1111111111111111111111111"]

/-- Contracts and spenders of a protocol. -/
structure ProtocolInfo where
  contracts : List String
  approveSpenders : List String
deriving DecidableEq, Repr

/-- Protocols seeded into a fresh allowlist. -/
def DEFAULT_PROTOCOLS : ChainId → List (String × ProtocolInfo)
  | .base =>
    [("uniswap-v4", ⟨["0x6ff5693b99212da76ad316178a184ab56d299b43", "0x000000000022d473030f116ddee9f6b43ac78ba3"],
        ["0x000000000022d473030f116ddee9f6b43ac78ba3"]⟩),
      ("aerodrome-v2", ⟨["0xcf77a3ba9a5ca399b7c97c74d54e5b1beb874e43"],
        ["0xcf77a3ba9a5ca399b7c97c74d54e5b1beb874e43"]⟩)]
  | .bsc =>
    [("pancakeswap-v3", ⟨["0x13f4ea83d0bd40e75c8222255bc855a974568dd4"],
        ["0x13f4ea83d0bd40e75c8222255bc855a974568dd4"]⟩),
      ("pancakeswap-v2", ⟨["0x10ed43c718714eb63d5aa57b78b54704e256024e"],
        ["0x10ed43c718714eb63d5aa57b78b54704e256024e"]⟩),
      ("uniswap-v4", ⟨["0x1906c1d672b88cd1b9ac7593301ca990f94eae07", "0x000000000022d473030f116ddee9f6b43ac78ba3"],
        ["0x000000000022d473030f116ddee9f6b43ac78ba3"]⟩)]
  | .robinhood =>
    [("uniswap-v4", ⟨["0x8876789976decbfcbbbe364623c63652db8c0904", "0x8dc178efb8111bb0973dd9d722ebeff267c98f94",
        "0x000000000022d473030f116ddee9f6b43ac78ba3"], ["0x000000000022d473030f116ddee9f6b43ac78ba3"]⟩)]
  | .solana => [("jupiter-v6", ⟨["JUP6LkbZbjS1jKKwapdHNy74zcZ3tLUZoi5QNyVTaV4"], []⟩)]

def CHAIN_IDS : List ChainId := [.base, .bsc, .robinhood, .solana]

def chainFamily (chain : ChainId) : ChainFamily := (CHAINS chain).family

/-- The form addresses are compared in: lower case on EVM chains, untouched on Solana. -/
def canonicalizeAddress (host : Host) (chain : ChainId) (address : String) : String :=
  match chainFamily chain with
  | .evm => host.toLowerCase address
  | .solana => address

def STABLE_SYMBOLS : List String := ["usdc", "usdt", "usdg", "usdbc", "dai"]

/-- A registry-listed quote asset of the chain. -/
def isStablecoin (host : Host) (chain : ChainId) (address : String) : Bool :=
  match (CHAINS chain).tokens.find? fun t =>
    canonicalizeAddress host chain t.address == canonicalizeAddress host chain address with
  | none => false
  | some entry => STABLE_SYMBOLS.contains (asciiLower entry.symbol)

def isNativeToken (host : Host) (chain : ChainId) (address : String) : Bool :=
  canonicalizeAddress host chain address == (CHAINS chain).nativeSentinel

end Atra
