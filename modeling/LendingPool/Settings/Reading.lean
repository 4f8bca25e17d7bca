import LendingPool.Settings
import LendingPool.Toml.Value
/-! Settings from a TOML table. Whatever the settings do not know is passed over. -/

namespace LendingPool

/-! ## Entries -/

namespace Toml

def text? : Toml → Option String
  | string text => some text
  | _ => none

def flag? : Toml → Option Bool
  | boolean value => some value
  | _ => none

def natural? (bound : Nat) : Toml → Option Nat
  | integer value => if 0 ≤ value ∧ value < bound then some value.toNat else none
  | _ => none

def uint64? (value : Toml) : Option UInt64 :=
  (value.natural? (2 ^ 64)).map UInt64.ofNat

def uint32? (value : Toml) : Option UInt32 :=
  (value.natural? (2 ^ 32)).map UInt32.ofNat

/-- A decimal is an integer, a text, or a float, which counts as its shortest text. -/
def decimal? : Toml → Option Decimal96
  | integer value => some (.ofInt value)
  | float value => value.bind Binary64.toDecimal96?
  | string text => Decimal96.ofText? text
  | _ => none

def address? : Toml → Option Address
  | string text => Address.ofHexDigits? (Bytes.dropHexMark text.toList)
  | _ => none

def given? {α : Type} (entries : List (String × Toml)) (key : String) (read : Toml → Option α) :
    Option (Option α) :=
  match entries.lookup key with
  | none => some none
  | some value => some <$> read value

def givenOr? {α : Type} (entries : List (String × Toml)) (key : String) (read : Toml → Option α)
    (default : α) : Option α :=
  (given? entries key read).map (·.getD default)

end Toml

open Toml

/-! ## Sections -/

def NetworkSettings.ofToml? (value : Toml) : Option NetworkSettings := do
  let entries ← value.entries?
  return {
    chainId := ← (← entries.lookup "chain_id").uint64?
    rpcUrl := ← (← entries.lookup "rpc_url").text? }

def Contracts.ofToml? (value : Toml) : Option Contracts := do
  let entries ← value.entries?
  return {
    pool := ← given? entries "pool" address?
    wrappedTokenGateway := ← given? entries "wrapped_token_gateway" address?
    l2Pool := ← given? entries "l2_pool" address?
    swapCollateralAdapter := ← given? entries "swap_collateral_adapter" address?
    repayWithCollateralAdapter := ← given? entries "repay_with_collateral_adapter" address?
    flashLiquidationAdapter := ← given? entries "flash_liquidation_adapter" address?
    ensRegistry := ← given? entries "ens_registry" address? }

def gasLimitsOfToml? (value : Toml) : Option (List (String × UInt64)) := do
  (← value.entries?).mapM fun (name, limit) => return (name, ← limit.uint64?)

def PlanningSettings.ofToml? (value : Toml) : Option PlanningSettings := do
  let entries ← value.entries?
  let default : PlanningSettings := {}
  return {
    surplusPercent := ← givenOr? entries "surplus_percent" decimal? default.surplusPercent
    flashPremium := ← givenOr? entries "flash_premium_bps" uint32? default.flashPremium
    gasLimits := ← givenOr? entries "gas_limits" gasLimitsOfToml? default.gasLimits }

def metadataLifetimeOfToml? (value : Toml) : Option UInt64 := do
  givenOr? (← value.entries?) "metadata_ttl_secs" uint64? 3600

def LoggingSettings.ofToml? (value : Toml) : Option LoggingSettings := do
  let entries ← value.entries?
  let default : LoggingSettings := {}
  return {
    level := ← givenOr? entries "level" text? default.level
    json := ← givenOr? entries "json" flag? default.json }

def Settings.ofToml? (value : Toml) : Option Settings := do
  let entries ← value.entries?
  return {
    network := ← NetworkSettings.ofToml? (← entries.lookup "network")
    contracts := ← givenOr? entries "contracts" Contracts.ofToml? {}
    planning := ← givenOr? entries "orchestrator" PlanningSettings.ofToml? {}
    metadataLifetime := ← givenOr? entries "cache" metadataLifetimeOfToml? 3600
    logging := ← givenOr? entries "logging" LoggingSettings.ofToml? {} }

end LendingPool
