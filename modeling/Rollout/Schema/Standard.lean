import Rollout.Schema.Catalog

/-!
# Schemas of the standard contracts

The staking contract with its reward contract, the registry of airdrops, and the token that
stands for a stake.
-/

set_option autoImplicit false

namespace Rollout.Schema

/-- The name under which the registry of airdrops is recorded. -/
def airdropsRegistryName : String := "airdrops_registry"

/-- The name under which the reward contract is recorded. -/
def rewardName : String := "reward"

/-- The name under which the staking contract is recorded. -/
def stakingName : String := "staking"

/-- The name under which the token is recorded. -/
def tokenName : String := "cw20_token"

/-- A structure without optional fields, all leaves. -/
def record (required : List (String × Kind)) : FieldType :=
  .struct (required.map fun field => (field.1, .leaf field.2)) []

/-- A structure without required fields, all leaves. -/
def options (optional : List (String × Kind)) : FieldType :=
  .struct [] (optional.map fun field => (field.1, .leaf field.2))

def nothing : FieldType := .struct [] []

/-- The changes to the configuration of the staking contract. -/
def stakingChanges : FieldType :=
  options
    [("active", .bool), ("min_deposit", .uint128), ("max_deposit", .uint128),
      ("cw20_token_contract", .address), ("protocol_fee_contract", .address),
      ("protocol_reward_fee", .decimal), ("protocol_withdraw_fee", .decimal),
      ("protocol_deposit_fee", .decimal), ("airdrop_withdrawal_contract", .address),
      ("airdrop_registry_contract", .address), ("unbonding_period", .u64),
      ("undelegation_cooldown", .u64)]

def staking : ContractSchema where
  name := stakingName
  instantiate :=
    record
      [("min_deposit", .uint128), ("max_deposit", .uint128), ("reward_contract", .address),
        ("airdrops_registry_contract", .address), ("airdrop_withdrawal_contract", .address),
        ("protocol_fee_contract", .address), ("protocol_reward_fee", .decimal),
        ("protocol_deposit_fee", .decimal), ("protocol_withdraw_fee", .decimal),
        ("unbonding_period", .u64), ("undelegation_cooldown", .u64)]
  execute :=
    [("add_validator", record [("val_addr", .validatorAddress)]),
      ("remove_validator",
        record [("val_addr", .validatorAddress), ("redel_addr", .validatorAddress)]),
      ("rebalance_pool",
        record
          [("amount", .uint128), ("val_addr", .validatorAddress),
            ("redel_addr", .validatorAddress)]),
      ("deposit", nothing), ("redeem_rewards", nothing), ("swap", nothing),
      ("undelegate", nothing), ("reconcile_funds", nothing),
      ("withdraw_funds_to_wallet", record [("batch_id", .u64)]),
      ("update_config", .struct [("config_request", stakingChanges)] [])]

def reward : ContractSchema where
  name := rewardName
  instantiate := record [("reward_denom", .text), ("staking_contract", .address)]
  execute :=
    [("swap", nothing), ("transfer", record [("amount", .uint128)]),
      ("update_config", options [("staking_contract", .address)])]

def airdropsRegistry : ContractSchema where
  name := airdropsRegistryName
  instantiate := nothing
  execute :=
    [("update_airdrop_registry",
        record
          [("airdrop_token", .text), ("airdrop_contract", .address),
            ("cw20_contract", .address)]),
      ("set_manager", record [("manager", .address)]), ("accept_manager", nothing)]

def token : ContractSchema where
  name := tokenName
  instantiate :=
    .struct
      [("name", .leaf .text), ("symbol", .leaf .text), ("decimals", .leaf .u8),
        ("initial_balances", .list (record [("address", .address), ("amount", .uint128)]))]
      [("mint", .struct [("minter", .leaf .address)] [("cap", .leaf .uint128)])]
  execute :=
    [("transfer", record [("recipient", .address), ("amount", .uint128)]),
      ("burn", record [("amount", .uint128)]),
      ("mint", record [("recipient", .address), ("amount", .uint128)]),
      ("send", record [("contract", .address), ("amount", .uint128), ("msg", .binary)])]

def standardSchemas : List ContractSchema :=
  [staking, reward, airdropsRegistry, token]

def standardCatalog (account : String) : Catalog :=
  ⟨account, standardSchemas⟩

end Rollout.Schema
