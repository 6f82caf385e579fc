import Rollout.Fault
import Rollout.Schema.Standard

/-!
# The standard plan

The four standard contracts in dependency order. Reward and staking refer to each other: reward
is instantiated with a placeholder for staking, which an update replaces once staking is there.
-/

set_option autoImplicit false

namespace Rollout

open Rollout.Number Rollout.Wire

def standardArtifacts : List (String × String) :=
  [(Schema.airdropsRegistryName, "airdrops_registry.wasm"), (Schema.rewardName, "reward.wasm"),
    (Schema.stakingName, "staking.wasm"), (Schema.tokenName, "cw20_base.wasm")]

/-- The artifact file of a contract: a standard one, or one named after the contract. -/
def artifactName (name : Scalar) : String :=
  (name.text?.bind fun text => standardArtifacts.lookup text).getD (name.display ++ ".wasm")

/-- What the standard contracts are instantiated with. -/
structure StakingParameters where
  minDeposit : Value
  maxDeposit : Value
  rewardFee : Quantity
  depositFee : Quantity
  withdrawFee : Quantity
  unbondingPeriod : Value
  undelegationCooldown : Value
  feeContract : Value
  withdrawalContract : Value
  rewardDenom : Value
  tokenName : Value
  tokenSymbol : Value
  tokenDecimals : Value
deriving Repr

namespace StakingParameters

/-- The standard parameters. The unbonding period is 21 days and an hour, the cooldown of
undelegation three days. -/
def standard : StakingParameters where
  minDeposit := .int 10000
  maxDeposit := .int 15000000
  rewardFee := .decimal (.finite false 1 (-2))
  depositFee := .decimal (.ofInt 0)
  withdrawFee := .decimal (.ofInt 0)
  unbondingPeriod := .int (21 * 24 * 60 * 60 + 3600)
  undelegationCooldown := .int (3 * 24 * 60 * 60)
  feeContract := .null
  withdrawalContract := .null
  rewardDenom := .text "uluna"
  tokenName := .text "Stader Luna Token"
  tokenSymbol := .text "SLUNA"
  tokenDecimals := .int 6

def set (parameters : StakingParameters) (name : String) (value : Value) :
    Except Fault StakingParameters :=
  match name with
  | "min_deposit" => .ok { parameters with minDeposit := value }
  | "max_deposit" => .ok { parameters with maxDeposit := value }
  | "protocol_reward_fee" => .ok { parameters with rewardFee := .value value }
  | "protocol_deposit_fee" => .ok { parameters with depositFee := .value value }
  | "protocol_withdraw_fee" => .ok { parameters with withdrawFee := .value value }
  | "unbonding_period" => .ok { parameters with unbondingPeriod := value }
  | "undelegation_cooldown" => .ok { parameters with undelegationCooldown := value }
  | "protocol_fee_contract" => .ok { parameters with feeContract := value }
  | "airdrop_withdrawal_contract" => .ok { parameters with withdrawalContract := value }
  | "reward_denom" => .ok { parameters with rewardDenom := value }
  | "token_name" => .ok { parameters with tokenName := value }
  | "token_symbol" => .ok { parameters with tokenSymbol := value }
  | "token_decimals" => .ok { parameters with tokenDecimals := value }
  | _ => .error (.unknownParameter name)

def ofFields (fields : List (String × Value)) : Except Fault StakingParameters :=
  fields.foldlM (fun parameters field => parameters.set field.1 field.2) standard

end StakingParameters

namespace Plan

/-- A reference to the address of a contract. -/
def addressOf (name : String) : Template :=
  .reference ⟨name, .address⟩

/-- A value, or a placeholder where none is given. -/
def orPlaceholder (value : Value) : Template :=
  if value.isTruthy then .ofValue value else .placeholder

/-- A standard contract with its artifact in a directory. -/
def standardDescriptor (artifacts : Path) (name : String) (fields : List (String × Template)) :
    Descriptor where
  name := .text name
  bytecode := artifacts.child (artifactName (.text name))
  message := .object fields
  admin := .null
  coins := .null
  schema := .null

def stakingFields (memory : Memory) (parameters : StakingParameters) :
    Except Fault (List (String × Template)) := do
  let minDeposit ← (encodeUint128 parameters.minDeposit).mapError .wire
  let maxDeposit ← (encodeUint128 parameters.maxDeposit).mapError .wire
  let rewardFee ← (encodeDecimal memory parameters.rewardFee).mapError .wire
  let depositFee ← (encodeDecimal memory parameters.depositFee).mapError .wire
  let withdrawFee ← (encodeDecimal memory parameters.withdrawFee).mapError .wire
  return [("min_deposit", .scalar (.text minDeposit)),
    ("max_deposit", .scalar (.text maxDeposit)),
    ("reward_contract", addressOf Schema.rewardName),
    ("airdrops_registry_contract", addressOf Schema.airdropsRegistryName),
    ("airdrop_withdrawal_contract", orPlaceholder parameters.withdrawalContract),
    ("protocol_fee_contract", orPlaceholder parameters.feeContract),
    ("protocol_reward_fee", .scalar (.text rewardFee)),
    ("protocol_deposit_fee", .scalar (.text depositFee)),
    ("protocol_withdraw_fee", .scalar (.text withdrawFee)),
    ("unbonding_period", .ofValue parameters.unbondingPeriod),
    ("undelegation_cooldown", .ofValue parameters.undelegationCooldown)]

/-- The standard contracts, in dependency order. -/
def standardDescriptors (memory : Memory) (parameters : StakingParameters) (artifacts : Path) :
    Except Fault (List Descriptor) := do
  let staking ← stakingFields memory parameters
  return [standardDescriptor artifacts Schema.airdropsRegistryName [],
    standardDescriptor artifacts Schema.rewardName
      [("reward_denom", .ofValue parameters.rewardDenom), ("staking_contract", .placeholder)],
    standardDescriptor artifacts Schema.stakingName staking,
    standardDescriptor artifacts Schema.tokenName
      [("name", .ofValue parameters.tokenName), ("symbol", .ofValue parameters.tokenSymbol),
        ("decimals", .ofValue parameters.tokenDecimals), ("initial_balances", .list []),
        ("mint", .object [("minter", addressOf Schema.stakingName)])]]

/-- The updates that close the cycle of reward and staking and hand the token to staking. -/
def standardUpdates : List ConfigUpdate :=
  [{ target := .text Schema.rewardName
     message :=
       .object
         [("update_config", .object [("staking_contract", addressOf Schema.stakingName)])]
     schema := .null },
    { target := .text Schema.stakingName
      message :=
        .object
          [("update_config",
            .object
              [("config_request",
                .object [("cw20_token_contract", addressOf Schema.tokenName)])])]
      schema := .null }]

def standard (memory : Memory) (parameters : StakingParameters) (artifacts : Path) :
    Except Fault Plan := do
  let descriptors ← standardDescriptors memory parameters artifacts
  return ⟨descriptors, standardUpdates⟩

end Plan

end Rollout
