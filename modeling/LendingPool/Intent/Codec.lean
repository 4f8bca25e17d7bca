import LendingPool.Intent
import LendingPool.Json.Parser
import LendingPool.Json.Record
/-! Intents as JSON. The member `action` says which intent it is. It may stand anywhere in an
object, and comes first in an array. -/

namespace LendingPool

/-! ## Members -/

namespace Codec

def rateMode : Codec RateMode :=
  choice RateMode.name [.noRate, .stableRate, .variableRate]
    (by intro mode; cases mode <;> rfl)

def approvalPolicy : Codec ApprovalPolicy :=
  choice ApprovalPolicy.name [.exact, .max] (by intro policy; cases policy <;> rfl)

def optionalText : Codec (Option String) :=
  optional text (by simp [text])

end Codec

namespace IntentMember

def text (name : String) : Member := .required name .text
def deadline : Member := .required "deadline" .uint64
def optionalText (name : String) : Member := .defaulted name .optionalText none
def flag (name : String) : Member := .defaulted name .flag false
def rateMode : Member := .required "interest_rate_mode" .rateMode
def referralCode : Member := .defaulted "referral_code" .uint16 0
def approval : Member := .defaulted "approval" .approvalPolicy .exact

end IntentMember

open IntentMember

/-! ## Records -/

def IntentRecord.signedPermit : Record PermitIntent where
  members := [text "signature", deadline, optionalText "value"]
  toValues permit := (permit.signature, permit.deadline, permit.value, ())
  ofValues := fun (signature, deadline, value, ()) => ⟨signature, deadline, value⟩
  ofValues_toValues _ := rfl
  distinct := by decide

def IntentMember.permit : Member := .required "permit" IntentRecord.signedPermit.codec

def IntentMember.optionalPermit : Member :=
  .defaulted "permit" (.optional IntentRecord.signedPermit.codec (by simp [Record.codec])) none

def IntentRecord.supply : Record SupplyIntent where
  members := [text "user", text "reserve", text "amount", optionalText "on_behalf_of",
    referralCode, approval, flag "use_optimized_path", optionalText "encoded_params"]
  toValues intent := (intent.user, intent.reserve, intent.amount, intent.onBehalfOf,
    intent.referralCode, intent.approval, intent.useOptimizedPath, intent.encodedParams, ())
  ofValues := fun (user, reserve, amount, onBehalfOf, referralCode, approval, useOptimizedPath,
      encodedParams, ()) =>
    { user, reserve, amount, onBehalfOf, referralCode, approval, useOptimizedPath, encodedParams }
  ofValues_toValues _ := rfl
  distinct := by decide

def IntentRecord.supplyWithPermit : Record SupplyWithPermitIntent where
  members := [text "user", text "reserve", text "amount", permit, optionalText "on_behalf_of",
    referralCode, flag "use_optimized_path", optionalText "encoded_params"]
  toValues intent := (intent.user, intent.reserve, intent.amount, intent.permit,
    intent.onBehalfOf, intent.referralCode, intent.useOptimizedPath, intent.encodedParams, ())
  ofValues := fun (user, reserve, amount, permit, onBehalfOf, referralCode, useOptimizedPath,
      encodedParams, ()) =>
    { user, reserve, amount, permit, onBehalfOf, referralCode, useOptimizedPath, encodedParams }
  ofValues_toValues _ := rfl
  distinct := by decide

def IntentRecord.withdraw : Record WithdrawIntent where
  members := [text "user", text "reserve", text "amount", optionalText "on_behalf_of",
    optionalText "a_token", flag "use_optimized_path", optionalText "encoded_params"]
  toValues intent := (intent.user, intent.reserve, intent.amount, intent.onBehalfOf,
    intent.aToken, intent.useOptimizedPath, intent.encodedParams, ())
  ofValues := fun (user, reserve, amount, onBehalfOf, aToken, useOptimizedPath, encodedParams,
      ()) =>
    { user, reserve, amount, onBehalfOf, aToken, useOptimizedPath, encodedParams }
  ofValues_toValues _ := rfl
  distinct := by decide

def IntentRecord.borrow : Record BorrowIntent where
  members := [text "user", text "reserve", text "amount", rateMode, optionalText "on_behalf_of",
    referralCode, optionalText "debt_token", flag "use_optimized_path",
    optionalText "encoded_params"]
  toValues intent := (intent.user, intent.reserve, intent.amount, intent.rateMode,
    intent.onBehalfOf, intent.referralCode, intent.debtToken, intent.useOptimizedPath,
    intent.encodedParams, ())
  ofValues := fun (user, reserve, amount, rateMode, onBehalfOf, referralCode, debtToken,
      useOptimizedPath, encodedParams, ()) =>
    { user, reserve, amount, rateMode, onBehalfOf, referralCode, debtToken, useOptimizedPath,
      encodedParams }
  ofValues_toValues _ := rfl
  distinct := by decide

def IntentRecord.repay : Record RepayIntent where
  members := [text "user", text "reserve", text "amount", rateMode, optionalText "on_behalf_of",
    approval, flag "use_optimized_path", optionalText "encoded_params"]
  toValues intent := (intent.user, intent.reserve, intent.amount, intent.rateMode,
    intent.onBehalfOf, intent.approval, intent.useOptimizedPath, intent.encodedParams, ())
  ofValues := fun (user, reserve, amount, rateMode, onBehalfOf, approval, useOptimizedPath,
      encodedParams, ()) =>
    { user, reserve, amount, rateMode, onBehalfOf, approval, useOptimizedPath, encodedParams }
  ofValues_toValues _ := rfl
  distinct := by decide

def IntentRecord.repayWithPermit : Record RepayWithPermitIntent where
  members := [text "user", text "reserve", text "amount", rateMode, permit,
    optionalText "on_behalf_of", flag "use_optimized_path", optionalText "encoded_params"]
  toValues intent := (intent.user, intent.reserve, intent.amount, intent.rateMode,
    intent.permit, intent.onBehalfOf, intent.useOptimizedPath, intent.encodedParams, ())
  ofValues := fun (user, reserve, amount, rateMode, permit, onBehalfOf, useOptimizedPath,
      encodedParams, ()) =>
    { user, reserve, amount, rateMode, permit, onBehalfOf, useOptimizedPath, encodedParams }
  ofValues_toValues _ := rfl
  distinct := by decide

def IntentRecord.swapCollateral : Record SwapCollateralIntent where
  members := [text "user", text "from_asset", text "from_a_token", text "to_asset",
    text "from_amount", text "min_to_amount", text "augustus", text "swap_calldata",
    flag "swap_all", flag "flash", optionalText "on_behalf_of", referralCode, optionalPermit,
    approval]
  toValues intent := (intent.user, intent.fromAsset, intent.fromAToken, intent.toAsset,
    intent.fromAmount, intent.minToAmount, intent.aggregator, intent.swapCallData,
    intent.swapAll, intent.flash, intent.onBehalfOf, intent.referralCode, intent.permit,
    intent.approval, ())
  ofValues := fun (user, fromAsset, fromAToken, toAsset, fromAmount, minToAmount, aggregator,
      swapCallData, swapAll, flash, onBehalfOf, referralCode, permit, approval, ()) =>
    { user, fromAsset, fromAToken, toAsset, fromAmount, minToAmount, aggregator, swapCallData,
      swapAll, flash, onBehalfOf, referralCode, permit, approval }
  ofValues_toValues _ := rfl
  distinct := by decide

def IntentRecord.repayWithCollateral : Record RepayWithCollateralIntent where
  members := [text "user", text "from_asset", text "from_a_token", text "asset_to_repay",
    text "repay_with_amount", text "repay_amount", rateMode, text "augustus",
    text "swap_calldata", flag "repay_all_debt", flag "flash", optionalText "on_behalf_of",
    referralCode, optionalPermit, approval]
  toValues intent := (intent.user, intent.fromAsset, intent.fromAToken, intent.assetToRepay,
    intent.repayWithAmount, intent.repayAmount, intent.rateMode, intent.aggregator,
    intent.swapCallData, intent.repayAllDebt, intent.flash, intent.onBehalfOf,
    intent.referralCode, intent.permit, intent.approval, ())
  ofValues := fun (user, fromAsset, fromAToken, assetToRepay, repayWithAmount, repayAmount,
      rateMode, aggregator, swapCallData, repayAllDebt, flash, onBehalfOf, referralCode, permit,
      approval, ()) =>
    { user, fromAsset, fromAToken, assetToRepay, repayWithAmount, repayAmount, rateMode,
      aggregator, swapCallData, repayAllDebt, flash, onBehalfOf, referralCode, permit, approval }
  ofValues_toValues _ := rfl
  distinct := by decide

def IntentRecord.liquidationCall : Record LiquidationCallIntent where
  members := [text "liquidator", text "liquidated_user", text "debt_reserve",
    text "collateral_reserve", text "debt_to_cover", flag "get_a_tokens", approval,
    flag "use_optimized_path"]
  toValues intent := (intent.liquidator, intent.liquidatedUser, intent.debtReserve,
    intent.collateralReserve, intent.debtToCover, intent.getATokens, intent.approval,
    intent.useOptimizedPath, ())
  ofValues := fun (liquidator, liquidatedUser, debtReserve, collateralReserve, debtToCover,
      getATokens, approval, useOptimizedPath, ()) =>
    { liquidator, liquidatedUser, debtReserve, collateralReserve, debtToCover, getATokens,
      approval, useOptimizedPath }
  ofValues_toValues _ := rfl
  distinct := by decide

def IntentRecord.flashLiquidation : Record FlashLiquidationIntent where
  members := [text "user", text "collateral_reserve", text "borrowed_reserve",
    text "debt_to_cover", text "initiator", flag "liquidate_all", flag "use_eth_path"]
  toValues intent := (intent.user, intent.collateralReserve, intent.borrowedReserve,
    intent.debtToCover, intent.initiator, intent.liquidateAll, intent.useEthPath, ())
  ofValues := fun (user, collateralReserve, borrowedReserve, debtToCover, initiator,
      liquidateAll, useEthPath, ()) =>
    { user, collateralReserve, borrowedReserve, debtToCover, initiator, liquidateAll, useEthPath }
  ofValues_toValues _ := rfl
  distinct := by decide

def IntentRecord.setUsageAsCollateral : Record SetUsageAsCollateralIntent where
  members := [text "user", text "reserve", .required "use_as_collateral" .flag,
    flag "use_optimized_path"]
  toValues intent := (intent.user, intent.reserve, intent.useAsCollateral,
    intent.useOptimizedPath, ())
  ofValues := fun (user, reserve, useAsCollateral, useOptimizedPath, ()) =>
    { user, reserve, useAsCollateral, useOptimizedPath }
  ofValues_toValues _ := rfl
  distinct := by decide

def IntentRecord.setUserEMode : Record SetUserEModeIntent where
  members := [text "user", .required "category_id" .uint8]
  toValues intent := (intent.user, intent.category, ())
  ofValues := fun (user, category, ()) => { user, category }
  ofValues_toValues _ := rfl
  distinct := by decide

def IntentRecord.swapBorrowRateMode : Record SwapBorrowRateModeIntent where
  members := [text "user", text "reserve", rateMode, flag "use_optimized_path"]
  toValues intent := (intent.user, intent.reserve, intent.rateMode, intent.useOptimizedPath, ())
  ofValues := fun (user, reserve, rateMode, useOptimizedPath, ()) =>
    { user, reserve, rateMode, useOptimizedPath }
  ofValues_toValues _ := rfl
  distinct := by decide

def IntentRecord.permitRequest : Record PermitRequestIntent where
  members := [text "user", text "reserve", text "amount", deadline]
  toValues intent := (intent.user, intent.reserve, intent.amount, intent.deadline, ())
  ofValues := fun (user, reserve, amount, deadline, ()) => { user, reserve, amount, deadline }
  ofValues_toValues _ := rfl
  distinct := by decide

/-! ## Intents -/

namespace Intent

def tagName : String := "action"

def members : Intent → List (String × Json)
  | supply intent => IntentRecord.supply.write intent
  | supplyWithPermit intent => IntentRecord.supplyWithPermit.write intent
  | withdraw intent => IntentRecord.withdraw.write intent
  | borrow intent => IntentRecord.borrow.write intent
  | repay intent => IntentRecord.repay.write intent
  | repayWithPermit intent => IntentRecord.repayWithPermit.write intent
  | swapCollateral intent => IntentRecord.swapCollateral.write intent
  | repayWithCollateral intent => IntentRecord.repayWithCollateral.write intent
  | liquidationCall intent => IntentRecord.liquidationCall.write intent
  | flashLiquidation intent => IntentRecord.flashLiquidation.write intent
  | setUsageAsCollateral intent => IntentRecord.setUsageAsCollateral.write intent
  | setUserEMode intent => IntentRecord.setUserEMode.write intent
  | swapBorrowRateMode intent => IntentRecord.swapBorrowRateMode.write intent

def toJson (intent : Intent) : Json :=
  .object ((tagName, .string intent.action) :: intent.members)

def ofTagged? (tag : String) (body : Json) : Option Intent :=
  match tag with
  | "supply" => supply <$> IntentRecord.supply.read body
  | "supply_with_permit" => supplyWithPermit <$> IntentRecord.supplyWithPermit.read body
  | "withdraw" => withdraw <$> IntentRecord.withdraw.read body
  | "borrow" => borrow <$> IntentRecord.borrow.read body
  | "repay" => repay <$> IntentRecord.repay.read body
  | "repay_with_permit" => repayWithPermit <$> IntentRecord.repayWithPermit.read body
  | "swap_collateral" => swapCollateral <$> IntentRecord.swapCollateral.read body
  | "repay_with_collateral" =>
      repayWithCollateral <$> IntentRecord.repayWithCollateral.read body
  | "liquidation_call" => liquidationCall <$> IntentRecord.liquidationCall.read body
  | "flash_liquidation" => flashLiquidation <$> IntentRecord.flashLiquidation.read body
  | "set_usage_as_collateral" =>
      setUsageAsCollateral <$> IntentRecord.setUsageAsCollateral.read body
  | "set_user_e_mode" => setUserEMode <$> IntentRecord.setUserEMode.read body
  | "swap_borrow_rate_mode" => swapBorrowRateMode <$> IntentRecord.swapBorrowRateMode.read body
  | _ => none

def ofJson? : Json → Option Intent
  | .object given =>
      match given.filter fun entry => entry.1 == tagName with
      | [(_, .string tag)] =>
          ofTagged? tag (.object (given.filter fun entry => entry.1 != tagName))
      | _ => none
  | .array (.string tag :: items) => ofTagged? tag (.array items)
  | _ => none

/-- Reads an intent from text. All of the text has to be readable, also what is ignored. -/
def parse? (text : String) : Option Intent := do
  ofJson? (← Json.parseReadable? text)

end Intent

namespace PermitRequestIntent

def toJson (intent : PermitRequestIntent) : Json :=
  .object (IntentRecord.permitRequest.write intent)

/-- Reads a request from text. What is ignored need not have a value. -/
def parse? (text : String) : Option PermitRequestIntent := do
  IntentRecord.permitRequest.read (← Json.parse? text)

end PermitRequestIntent

end LendingPool
