import Rollout.Network.GasPrice
import Rollout.Number.Binary64.Reader

/-!
# Settings

The endpoint, the gas prices and the signing identity of a run. What is not given is taken from
the environment, and what is not there either from the network that the chain id names.
-/

set_option autoImplicit false

namespace Rollout.Network

open Rollout.Number

/-- Why settings cannot be completed. -/
inductive SettingsFault where
  | mnemonic
  | chain (name : String)
  | adjustment (text : String)
  | gas (fault : GasFault)
  | noGasSource (chainId : String)
deriving Repr

def SettingsFault.message : SettingsFault → String
  | mnemonic => "Deployer mnemonic required: set $TERRA_MNEMONIC or pass mnemonic parameter"
  | chain name => s!"Unknown chain '{name}': set $TERRA_LCD_URL or pass lcd_url parameter"
  | adjustment text => "could not convert string to float: " ++ Text.quoted text
  | gas fault => fault.message
  | noGasSource chainId => s!"No FCD endpoint known for chain '{chainId}'"

/-- Settings of a run. -/
structure Settings where
  chainId : String
  lcdUrl : String
  mnemonic : String
  gasPrices : Value
  gasAdjustment : Value
  fcdUrl : Option String
deriving Repr

/-- The literal of settings, which leaves the mnemonic out. -/
def Settings.literal (settings : Settings) : String :=
  "ChainConfig(chain_id=" ++ Text.quoted settings.chainId ++
    ", lcd_url=" ++ Text.quoted settings.lcdUrl ++
    ", gas_prices=" ++ settings.gasPrices.literal ++
    ", gas_adjustment=" ++ settings.gasAdjustment.literal ++
    ", fcd_url=" ++ ((settings.fcdUrl.map Value.text).getD .null).literal ++ ")"

/-- A known network. -/
structure KnownNetwork where
  chainId : String
  lcdUrl : String
  fcdUrl : String
  gasPrices : GasPrices
deriving Repr

def knownNetworks : List KnownNetwork :=
  [⟨"columbus-5", "https://lcd.terra.dev", "https://fcd.terra.dev", [("uusd", "0.15")]⟩,
    ⟨"bombay-12", "https://bombay-lcd.terra.dev", "https://bombay-fcd.terra.dev",
      [("uusd", "0.15")]⟩,
    ⟨"localterra", "http://localhost:1317", "http://localhost:3060", [("uluna", "0.015")]⟩]

def network? (chainId : String) : Option KnownNetwork :=
  knownNetworks.find? fun network => network.chainId = chainId

def defaultChainId : String := "bombay-12"

/-- The factor on gas estimates where none is given. -/
def defaultAdjustment : Value :=
  .float (Binary64.ofScaled false 14 (-1))

def GasPrices.toValue (prices : GasPrices) : Value :=
  .object (prices.map fun price => (price.1, .text price.2))

abbrev Environment := List (String × String)

/-- The value of a variable, unless it is empty. -/
def Environment.nonempty? (environment : Environment) (name : String) : Option String :=
  (environment.lookup name).filter (· != "")

/-- What is given explicitly for a run. -/
structure Given where
  chainId : Option String
  lcdUrl : Option String
  mnemonic : Option String
  gasPrices : Option Value
  gasAdjustment : Option Value
deriving Repr

/-- The gas prices that are given or in the environment. -/
def givenGasPrices (given : Given) (environment : Environment) :
    Except SettingsFault (Option Value) :=
  match given.gasPrices, environment.nonempty? "TERRA_GAS_PRICES" with
  | some prices, _ => .ok (some prices)
  | none, some text =>
      ((readGasPrices text).mapError .gas).map fun prices => some prices.toValue
  | none, none => .ok none

/-- The factor on gas estimates that is given or in the environment. -/
def givenAdjustment (given : Given) (environment : Environment) :
    Except SettingsFault (Option Value) :=
  match given.gasAdjustment, environment.nonempty? "TERRA_GAS_ADJUSTMENT" with
  | some adjustment, _ => .ok (some adjustment)
  | none, some text =>
      match Binary64.read? text with
      | some number => .ok (some (.float number))
      | none => .error (.adjustment text)
  | none, none => .ok none

/-- The chain id that is given, in the environment, or the default. -/
def chosenChainId (given : Option String) (environment : Environment) : String :=
  (given.orElse fun _ => environment.lookup "TERRA_CHAIN_ID").getD defaultChainId

/-- Completes settings. A mnemonic is needed, and an endpoint unless the network is known. -/
def complete (given : Given) (environment : Environment) : Except SettingsFault Settings := do
  let chainId := chosenChainId given.chainId environment
  let prices ← givenGasPrices given environment
  let adjustment ← givenAdjustment given environment
  let mnemonic ←
    match (given.mnemonic.orElse fun _ => environment.lookup "TERRA_MNEMONIC").getD "" with
    | "" => .error .mnemonic
    | words => .ok words
  let network := network? chainId
  let lcdUrl ←
    match given.lcdUrl.orElse (fun _ => environment.lookup "TERRA_LCD_URL"), network with
    | some url, _ => .ok url
    | none, some known => .ok known.lcdUrl
    | none, none => .error (.chain chainId)
  return {
    chainId, lcdUrl, mnemonic
    gasPrices := prices.getD ((network.map fun known => known.gasPrices.toValue).getD (.object []))
    gasAdjustment := adjustment.getD defaultAdjustment
    fcdUrl := network.map (·.fcdUrl) }

end Rollout.Network
