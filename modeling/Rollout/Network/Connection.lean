import Rollout.Fault

/-!
# Connections

How settings open the connection to a node. Reading coins and opening connections is left to a
library for the chain, which may refuse either.
-/

set_option autoImplicit false

namespace Rollout.Network

open Rollout.Chain

/-- What a connection is opened with. -/
structure Access where
  url : String
  chainId : String
  mnemonic : String
  gasPrices : Coins
  gasAdjustment : Value
deriving Repr

/-- A library for a chain: what it takes values for as coins, and the connections that it opens. -/
structure Library (κ : Type) where
  readCoins : Value → Except CoinsFault Coins
  connect : Access → Except Fault κ

/-- The connection of settings. The prices are read before it is opened. -/
def Library.connectWith {κ : Type} (library : Library κ) (settings : Settings) :
    Except Fault κ := do
  let gasPrices ← (library.readCoins settings.gasPrices).mapError .coins
  library.connect
    ⟨settings.lcdUrl, settings.chainId, settings.mnemonic, gasPrices, settings.gasAdjustment⟩

end Rollout.Network
