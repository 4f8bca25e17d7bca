import LendingPool.Abi.Codec
import LendingPool.Action
import LendingPool.Call.Layout
import LendingPool.Call.Logical
import LendingPool.Fault
/-! Calls of the pool that is sparing with call data. Reserves are named by number, and all
arguments of an action share one word, or two for a liquidation. The sender is always the one
whom the action is for. -/

namespace LendingPool

open Abi

abbrev PackedCall := ReserveAction UInt16 Word

/-! ## Layouts

A reserve number has 16 bits, an amount 128, a rate mode 8, a referral code 16, a deadline 32, a
recovery value 8, an address 160 and a flag 1. -/

namespace PackedLayout

abbrev supply : List Nat := [16, 128, 16]
abbrev supplyWithPermit : List Nat := [16, 128, 16, 32, 8]
abbrev withdraw : List Nat := [16, 128]
abbrev borrow : List Nat := [16, 128, 8, 16]
abbrev repay : List Nat := [16, 128, 8]
abbrev repayWithPermit : List Nat := [16, 128, 8, 32, 8]
abbrev swapBorrowRateMode : List Nat := [16, 8]
abbrev setUsageAsCollateral : List Nat := [16, 1]
abbrev liquidation : List Nat := [16, 16, 160]
abbrev coverage : List Nat := [128, 1]

end PackedLayout

/-! ## Amounts and deadlines

Where an action may ask for the whole balance, the largest word is written as the largest value
of the field, and is read back from it. -/

def narrowAmount (mayBeEntire : Bool) (amount : Word) : Except InputFault (BitVec 128) :=
  if mayBeEntire ∧ amount = Word.max then .ok (BitVec.allOnes 128)
  else if amount.toNat < 2 ^ 128 then .ok (BitVec.ofNat 128 amount.toNat)
  else .error (.amountOverflow amount.toDecimal)

def widenAmount (mayBeEntire : Bool) (amount : BitVec 128) : Word :=
  if mayBeEntire ∧ amount = BitVec.allOnes 128 then Word.max else Word.ofNat amount.toNat

def narrowDeadline (deadline : UInt64) : Except InputFault (BitVec 32) :=
  if deadline.toNat < 2 ^ 32 then .ok (BitVec.ofNat 32 deadline.toNat)
  else .error (.invalidValue "deadline" (.deadlineTooWide deadline))

def widenDeadline (deadline : BitVec 32) : UInt64 :=
  UInt64.ofNat deadline.toNat

def flagBit (flag : Bool) : BitVec 1 :=
  if flag then 1 else 0

/-! ## Methods -/

namespace PackedMethod

abbrev bytes32 : ParameterType := .word .bytes32

def supply : Method := ⟨"supply", Bytes.ofNat 4 0xf7a73840, [bytes32]⟩
def supplyWithPermit : Method :=
  ⟨"supplyWithPermit", Bytes.ofNat 4 0x680dd47c, [bytes32, bytes32, bytes32]⟩
def withdraw : Method := ⟨"withdraw", Bytes.ofNat 4 0x8e19899e, [bytes32]⟩
def borrow : Method := ⟨"borrow", Bytes.ofNat 4 0xd5eed868, [bytes32]⟩
def repay : Method := ⟨"repay", Bytes.ofNat 4 0x563dd613, [bytes32]⟩
def repayWithPermit : Method :=
  ⟨"repayWithPermit", Bytes.ofNat 4 0x94b576de, [bytes32, bytes32, bytes32]⟩
def swapBorrowRateMode : Method := ⟨"swapBorrowRateMode", Bytes.ofNat 4 0x1fe3c6f3, [bytes32]⟩
def setUsageAsCollateral : Method :=
  ⟨"setUserUseReserveAsCollateral", Bytes.ofNat 4 0x4d013f03, [bytes32]⟩
def liquidationCall : Method :=
  ⟨"liquidationCall", Bytes.ofNat 4 0xfd21ecff, [bytes32, bytes32]⟩

end PackedMethod

namespace PackedCall

/-! ## Writing -/

/-- The word that holds the arguments, for a liquidation the first of its two words. -/
def firstWord : PackedCall → Except InputFault Word
  | .supply id amount code => do
      let amount ← narrowAmount false amount
      return PackedFields.toWord PackedLayout.supply (id.toBitVec, amount, code.toBitVec, ())
  | .supplyWithPermit id amount code permit => do
      let amount ← narrowAmount false amount
      let deadline ← narrowDeadline permit.deadline
      return PackedFields.toWord PackedLayout.supplyWithPermit
        (id.toBitVec, amount, code.toBitVec, deadline, permit.signature.v.toBitVec, ())
  | .withdraw id amount => do
      let amount ← narrowAmount true amount
      return PackedFields.toWord PackedLayout.withdraw (id.toBitVec, amount, ())
  | .borrow id amount mode code => do
      let amount ← narrowAmount false amount
      return PackedFields.toWord PackedLayout.borrow
        (id.toBitVec, amount, mode.toBitVec, code.toBitVec, ())
  | .repay id amount mode => do
      let amount ← narrowAmount true amount
      return PackedFields.toWord PackedLayout.repay (id.toBitVec, amount, mode.toBitVec, ())
  | .repayWithPermit id amount mode permit => do
      let amount ← narrowAmount true amount
      let deadline ← narrowDeadline permit.deadline
      return PackedFields.toWord PackedLayout.repayWithPermit
        (id.toBitVec, amount, mode.toBitVec, deadline, permit.signature.v.toBitVec, ())
  | .swapBorrowRateMode id mode =>
      return PackedFields.toWord PackedLayout.swapBorrowRateMode
        (id.toBitVec, mode.toBitVec, ())
  | .setUsageAsCollateral id use =>
      return PackedFields.toWord PackedLayout.setUsageAsCollateral (id.toBitVec, flagBit use, ())
  | .liquidationCall collateral debt user _ _ =>
      return PackedFields.toWord PackedLayout.liquidation
        (collateral.toBitVec, debt.toBitVec, user.bits, ())

/-- The second word of a liquidation. -/
def coverageWord (debtToCover : Word) (receiveAToken : Bool) : Except InputFault Word := do
  let amount ← narrowAmount true debtToCover
  return PackedFields.toWord PackedLayout.coverage (amount, flagBit receiveAToken, ())

def encodeAround (first : Word) : PackedCall → Except InputFault Bytes
  | .supply .. => return PackedMethod.supply.encode (first, ())
  | .supplyWithPermit _ _ _ ⟨_, signature⟩ =>
      return PackedMethod.supplyWithPermit.encode (first, signature.r, signature.s, ())
  | .withdraw .. => return PackedMethod.withdraw.encode (first, ())
  | .borrow .. => return PackedMethod.borrow.encode (first, ())
  | .repay .. => return PackedMethod.repay.encode (first, ())
  | .repayWithPermit _ _ _ ⟨_, signature⟩ =>
      return PackedMethod.repayWithPermit.encode (first, signature.r, signature.s, ())
  | .swapBorrowRateMode .. => return PackedMethod.swapBorrowRateMode.encode (first, ())
  | .setUsageAsCollateral .. => return PackedMethod.setUsageAsCollateral.encode (first, ())
  | .liquidationCall _ _ _ debtToCover receiveAToken => do
      return PackedMethod.liquidationCall.encode
        (first, ← coverageWord debtToCover receiveAToken, ())

/-- The call data. A pre-encoded first word takes the place of the packed one as it is. -/
def encode (call : PackedCall) (preEncoded : Option Word) : Except InputFault Bytes := do
  let first ← match preEncoded with
    | some word => pure word
    | none => firstWord call
  encodeAround first call

/-! ## Reading -/

def forms : List (Form PackedCall) := [
  ⟨PackedMethod.supply, fun (first, ()) =>
    let (id, amount, code, ()) := PackedFields.ofWord PackedLayout.supply first
    .supply ⟨id⟩ (widenAmount false amount) ⟨code⟩⟩,
  ⟨PackedMethod.supplyWithPermit, fun (first, r, s, ()) =>
    let (id, amount, code, deadline, v, ()) :=
      PackedFields.ofWord PackedLayout.supplyWithPermit first
    .supplyWithPermit ⟨id⟩ (widenAmount false amount) ⟨code⟩
      ⟨widenDeadline deadline, ⟨v⟩, r, s⟩⟩,
  ⟨PackedMethod.withdraw, fun (first, ()) =>
    let (id, amount, ()) := PackedFields.ofWord PackedLayout.withdraw first
    .withdraw ⟨id⟩ (widenAmount true amount)⟩,
  ⟨PackedMethod.borrow, fun (first, ()) =>
    let (id, amount, mode, code, ()) := PackedFields.ofWord PackedLayout.borrow first
    .borrow ⟨id⟩ (widenAmount false amount) ⟨mode⟩ ⟨code⟩⟩,
  ⟨PackedMethod.repay, fun (first, ()) =>
    let (id, amount, mode, ()) := PackedFields.ofWord PackedLayout.repay first
    .repay ⟨id⟩ (widenAmount true amount) ⟨mode⟩⟩,
  ⟨PackedMethod.repayWithPermit, fun (first, r, s, ()) =>
    let (id, amount, mode, deadline, v, ()) :=
      PackedFields.ofWord PackedLayout.repayWithPermit first
    .repayWithPermit ⟨id⟩ (widenAmount true amount) ⟨mode⟩
      ⟨widenDeadline deadline, ⟨v⟩, r, s⟩⟩,
  ⟨PackedMethod.swapBorrowRateMode, fun (first, ()) =>
    let (id, mode, ()) := PackedFields.ofWord PackedLayout.swapBorrowRateMode first
    .swapBorrowRateMode ⟨id⟩ ⟨mode⟩⟩,
  ⟨PackedMethod.setUsageAsCollateral, fun (first, ()) =>
    let (id, use, ()) := PackedFields.ofWord PackedLayout.setUsageAsCollateral first
    .setUsageAsCollateral ⟨id⟩ (use != 0)⟩,
  ⟨PackedMethod.liquidationCall, fun (first, second, ()) =>
    let (collateral, debt, user, ()) := PackedFields.ofWord PackedLayout.liquidation first
    let (amount, receiveAToken, ()) := PackedFields.ofWord PackedLayout.coverage second
    .liquidationCall ⟨collateral⟩ ⟨debt⟩ ⟨user⟩ (widenAmount true amount) (receiveAToken != 0)⟩]

def decode (data : Bytes) : Except EncodingFault PackedCall :=
  match decodeForms? forms data with
  | some call => .ok call
  | none => .error (.undecodable "compact")

def parsePreEncoded (raw : String) : Except InputFault Word :=
  match Bytes.ofHex? raw with
  | some bytes =>
      if bytes.length = 32 then .ok (Word.ofBytes bytes)
      else .error (.invalidValue "encoded_params" (.notWordHex raw))
  | none => .error (.invalidValue "encoded_params" (.notWordHex raw))

/-! ## Meaning -/

/-- The fields that the actions on one reserve of the sender share: reserve, amount, rate mode
and referral code. Any other call is given as messages show it. -/
def logicalFields : PackedCall → Except String (UInt16 × Word × UInt8 × UInt16)
  | .supply id amount code | .supplyWithPermit id amount code _ => .ok (id, amount, 0, code)
  | .withdraw id amount => .ok (id, amount, 0, 0)
  | .borrow id amount mode code => .ok (id, amount, mode, code)
  | .repay id amount mode | .repayWithPermit id amount mode _ => .ok (id, amount, mode, 0)
  | .swapBorrowRateMode id mode =>
      .error ("SwapBorrowRateMode \x7b asset_id: " ++ toString id.toNat ++
        ", rate_mode: " ++ toString mode.toNat ++ " \x7d")
  | .setUsageAsCollateral id use =>
      .error ("SetUserUseReserveAsCollateral \x7b asset_id: " ++ toString id.toNat ++
        ", use_as_collateral: " ++ toString use ++ " \x7d")
  | .liquidationCall collateral debt user amount receiveAToken =>
      .error ("LiquidationCall \x7b collateral_id: " ++ toString collateral.toNat ++
        ", debt_id: " ++ toString debt.toNat ++ ", user: " ++ user.toHex ++
        ", debt_to_cover: " ++ amount.toDecimal ++
        ", receive_a_token: " ++ toString receiveAToken ++ " \x7d")

def logical (sender : Address) (reserve? : UInt16 → Option Address) (call : PackedCall) :
    Except EncodingFault LogicalCall :=
  match logicalFields call with
  | .error shown => .error (.noLogicalForm ("compact call " ++ shown))
  | .ok (id, amount, mode, code) =>
      match reserve? id with
      | none => .error (.unknownReserve id)
      | some asset => .ok ⟨asset, amount, mode, code, sender⟩

end PackedCall

end LendingPool
