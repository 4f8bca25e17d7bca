import LendingPool.Decimal.Decimal96
import LendingPool.Planner
/-! Settings of the program, and the planner that they describe. -/

namespace LendingPool

structure NetworkSettings where
  chainId : UInt64
  rpcUrl : String
deriving DecidableEq, Repr

/-- The surplus is in percent and the premium in hundredths of a percent. -/
structure PlanningSettings where
  surplusPercent : Decimal96 := .ofInt 5
  flashPremium : UInt32 := 5
  gasLimits : List (String × UInt64) := []
deriving DecidableEq, Repr

structure LoggingSettings where
  level : String := "info"
  json : Bool := false
deriving DecidableEq, Repr

structure Settings where
  network : NetworkSettings
  contracts : Contracts := {}
  planning : PlanningSettings := {}
  metadataLifetime : UInt64 := 3600
  logging : LoggingSettings := {}
deriving DecidableEq, Repr

/-! ## Assembling a planner -/

/-- What a planner is put together from. The gateway and the pool for packed calls are taken from
the settings unless they are given. -/
structure Assembly where
  settings : Option Settings
  readsTokens : Bool := true
  readsNonces : Bool := true
  readsNetwork : Bool := true
  resolver : Resolver := .onChain
  readsReserves : Bool := true
  gateway : Option Gateway := none
  packedPool : Option PackedPool := none

namespace Contracts

def gateway? (contracts : Contracts) (limits : GasLimits) : Option Gateway :=
  return ⟨← contracts.wrappedTokenGateway, ← contracts.pool, limits⟩

def packedPool? (contracts : Contracts) (limits : GasLimits) : Option PackedPool :=
  return ⟨← contracts.l2Pool, limits⟩

end Contracts

namespace Assembly

def require (present : Bool) (part : String) : Except SetupFault Unit :=
  if present then .ok () else .error (.notProvided part)

def build (assembly : Assembly) : Except SetupFault Planner := do
  let some settings := assembly.settings | throw (.notProvided "Configuration")
  require assembly.readsTokens "Token service"
  require assembly.readsNonces "Nonce service"
  require assembly.readsNetwork "Network service"
  let limits ← GasLimits.ofNames settings.planning.gasLimits
  let contracts := settings.contracts
  return {
    contracts, limits
    surplusPercent := settings.planning.surplusPercent
    flashPremium := settings.planning.flashPremium
    resolver := assembly.resolver
    gateway := assembly.gateway <|> contracts.gateway? limits
    packedPool := assembly.packedPool <|>
      if assembly.readsReserves then contracts.packedPool? limits else none }

end Assembly

end LendingPool
