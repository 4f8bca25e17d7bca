import LendingPool.Call.Adapter
import LendingPool.Proofs.Abi.Canonical
import LendingPool.Proofs.Call.Pool
/-! What adapters are told, read back. The parameters of a flash loan and a call of the adapter's
own tell the same, and the pool hands the parameters on as they are.

Lengths and distances are written in words, so a byte string has to be short of what a word can
count. Half of that is room enough for what stands around it. -/

namespace LendingPool

open Abi AdapterParameter

theorem AdapterPermit.toRecord_inj {permit other : AdapterPermit} :
    other.toRecord = permit.toRecord ↔ other = permit := by
  constructor
  · intro same
    rcases permit with ⟨amount, deadline, v, r, s⟩
    rcases other with ⟨otherAmount, otherDeadline, otherV, otherR, otherS⟩
    simp only [toRecord, Prod.mk.injEq, UInt8.toBitVec_inj, and_true] at same
    rcases same with ⟨rfl, rfl, rfl, rfl, rfl⟩
    rfl
  · rintro rfl
    rfl

/-! ## Loans -/

/-- The pool reads a loan of one asset that opens no debt, with the parameters that are for the
receiver. -/
def PassesOn (params : Bytes) : Prop :=
  ∀ (receiver asset : Address) (amount : Word) (onBehalfOf : Address) (referralCode : UInt16),
    PoolCall.decode?
        (PoolCall.singleFlashLoan receiver asset amount onBehalfOf params referralCode).encode =
      some (.flashLoan receiver [asset] [amount] [0] onBehalfOf params referralCode)

def loanArguments (receiver asset : Address) (amount : Word) (onBehalfOf : Address)
    (params : Bytes) (referralCode : UInt16) : Arguments PoolMethod.flashLoan.inputs :=
  (receiver, [asset], [amount], [0], onBehalfOf, params, referralCode.toBitVec, ())

theorem length_singleFlashLoan_le (receiver asset : Address) (amount : Word)
    (onBehalfOf : Address) (params : Bytes) (referralCode : UInt16) :
    (PoolCall.singleFlashLoan receiver asset amount onBehalfOf params referralCode).encode.length ≤
      params.length + 484 := by
  have written := length_encodeBytes_le params
  have length := length_encode PoolMethod.flashLoan.inputs
    (loanArguments receiver asset amount onBehalfOf params referralCode)
  have heads : headSize PoolMethod.flashLoan.inputs = 224 := rfl
  have tails : (Placed.tails (place PoolMethod.flashLoan.inputs
      (loanArguments receiver asset amount onBehalfOf params referralCode))).length =
        64 + (64 + (64 + (encodeBytes params).length)) := by
    simp only [loanArguments, PoolMethod.flashLoan, place, ParameterType.place, Placed.tails,
      Placed.tailBytes, List.nil_append, List.append_nil, List.length_append,
      Word.length_toBytes, length_encodeElements, List.length_singleton]
  change (PoolMethod.flashLoan.selector ++ Abi.encode PoolMethod.flashLoan.inputs
    (loanArguments receiver asset amount onBehalfOf params referralCode)).length ≤ _
  have selector : PoolMethod.flashLoan.selector.length = 4 := rfl
  rw [List.length_append, length, heads, tails]
  omega

theorem passesOn_of_short {params : Bytes} (short : params.length + 484 < 2 ^ 256) :
    PassesOn params := fun receiver asset amount onBehalfOf referralCode =>
  PoolCall.decode?_encode _ (Nat.lt_of_le_of_lt
    (length_singleFlashLoan_le receiver asset amount onBehalfOf params referralCode) short)

/-! ## Swaps -/

namespace CollateralSwap

/-- What parameters and a call of the adapter's own both tell. -/
def shared (swap : CollateralSwap) : Address × Word × Word × Bytes × Address × AdapterPermit :=
  (swap.toAsset, swap.minimumReceived, swap.swapAllOffset, swap.swapCallData, swap.aggregator,
    swap.permit)

def flashArguments (swap : CollateralSwap) : Arguments flashTypes :=
  (swap.toAsset, swap.minimumReceived, swap.swapAllOffset, swap.swapCallData, swap.aggregator,
    swap.permit.toRecord, ())

def directArguments (swap : CollateralSwap) : Arguments directMethod.inputs :=
  (swap.fromAsset, swap.toAsset, swap.amount, swap.minimumReceived, swap.swapAllOffset,
    swap.swapCallData, swap.aggregator, swap.permit.toRecord, ())

theorem length_flashParams_le (swap : CollateralSwap) :
    swap.flashParams.length ≤ 384 + swap.swapCallData.length := by
  have tails : Placed.tails (place flashTypes swap.flashArguments) =
      encodeBytes swap.swapCallData := by
    simp only [flashTypes, flashArguments, place, ParameterType.place, Placed.tails,
      Placed.tailBytes, List.nil_append, List.append_nil]
  have bound := length_encode_le tails
  have heads : headSize flashTypes = 320 := rfl
  change (encode flashTypes swap.flashArguments).length ≤ _
  omega

theorem length_directCall_le (swap : CollateralSwap) :
    swap.directCall.length ≤ 452 + swap.swapCallData.length := by
  have tails : Placed.tails (place directMethod.inputs swap.directArguments) =
      encodeBytes swap.swapCallData := by
    simp only [directMethod, directArguments, place, ParameterType.place, Placed.tails,
      Placed.tailBytes, List.nil_append, List.append_nil]
  have bound := length_encode_le tails
  have heads : headSize directMethod.inputs = 384 := rfl
  have selector : directMethod.selector.length = 4 := rfl
  change (directMethod.selector ++ encode directMethod.inputs swap.directArguments).length ≤ _
  rw [List.length_append]
  omega

variable {swap : CollateralSwap}

theorem decode?_flashParams_iff (short : swap.swapCallData.length < 2 ^ 255) {params : Bytes} :
    Abi.decode? flashTypes params = some swap.flashArguments ↔ params = swap.flashParams := by
  have bound := swap.length_flashParams_le
  exact decode?_eq_some_iff_of_isExact rfl (Nat.lt_of_le_of_lt bound (by omega))

theorem decode?_directCall_iff (short : swap.swapCallData.length < 2 ^ 255) {data : Bytes} :
    directMethod.decode? data = some swap.directArguments ↔ data = swap.directCall := by
  have bound := swap.length_directCall_le
  exact Method.decode?_eq_some_iff_of_isExact rfl (Nat.lt_of_le_of_lt bound (by omega))

theorem passesOn_flashParams (short : swap.swapCallData.length < 2 ^ 255) :
    PassesOn swap.flashParams := by
  have bound := swap.length_flashParams_le
  exact passesOn_of_short (by omega)

theorem flashArguments_inj {other : CollateralSwap} :
    other.flashArguments = swap.flashArguments ↔ other.shared = swap.shared := by
  dsimp only [flashTypes, Arguments, flashArguments, shared]
  simp only [Prod.mk.injEq, and_true]
  constructor
  · rintro ⟨toAsset, minimum, offset, callData, aggregator, permit⟩
    exact ⟨toAsset, minimum, offset, callData, aggregator, AdapterPermit.toRecord_inj.mp permit⟩
  · rintro ⟨toAsset, minimum, offset, callData, aggregator, permit⟩
    exact ⟨toAsset, minimum, offset, callData, aggregator, AdapterPermit.toRecord_inj.mpr permit⟩

theorem flashParams_inj (short : swap.swapCallData.length < 2 ^ 255) {other : CollateralSwap} :
    other.flashParams = swap.flashParams ↔ other.shared = swap.shared := by
  have bound := swap.length_flashParams_le
  rw [← flashArguments_inj]
  exact encode_inj rfl (Nat.lt_of_le_of_lt bound (by omega))

end CollateralSwap

/-! ## Repayments

The aggregator is named inside the byte string, so what is inside has to be told apart as well. -/

namespace CollateralRepay

def shared (repay : CollateralRepay) :
    Address × Word × Word × Word × Bytes × Address × AdapterPermit :=
  (repay.debtAsset, repay.debtAmount, repay.buyAllOffset, repay.rateMode, repay.swapCallData,
    repay.aggregator, repay.permit)

def swapArguments (repay : CollateralRepay) : Arguments swapTypes :=
  (repay.swapCallData, repay.aggregator, ())

def flashArguments (repay : CollateralRepay) : Arguments flashTypes :=
  (repay.debtAsset, repay.debtAmount, repay.buyAllOffset, repay.rateMode, repay.swapData,
    repay.permit.toRecord, ())

def directArguments (repay : CollateralRepay) : Arguments directMethod.inputs :=
  (repay.collateralAsset, repay.debtAsset, repay.collateralAmount, repay.debtAmount,
    repay.rateMode, repay.buyAllOffset, repay.swapData, repay.permit.toRecord, ())

theorem length_swapData_le_callData (repay : CollateralRepay) :
    repay.swapData.length ≤ 128 + repay.swapCallData.length := by
  have tails : Placed.tails (place swapTypes repay.swapArguments) =
      encodeBytes repay.swapCallData := by
    simp only [swapTypes, swapArguments, place, ParameterType.place, Placed.tails,
      Placed.tailBytes, List.append_nil]
  have bound := length_encode_le tails
  have heads : headSize swapTypes = 64 := rfl
  change (encode swapTypes repay.swapArguments).length ≤ _
  omega

theorem length_flashParams_le (repay : CollateralRepay) :
    repay.flashParams.length ≤ 512 + repay.swapCallData.length := by
  have tails : Placed.tails (place flashTypes repay.flashArguments) =
      encodeBytes repay.swapData := by
    simp only [flashTypes, flashArguments, place, ParameterType.place, Placed.tails,
      Placed.tailBytes, List.nil_append, List.append_nil]
  have bound := length_encode_le tails
  have heads : headSize flashTypes = 320 := rfl
  have inside := repay.length_swapData_le_callData
  change (encode flashTypes repay.flashArguments).length ≤ _
  omega

theorem length_directCall_le (repay : CollateralRepay) :
    repay.directCall.length ≤ 580 + repay.swapCallData.length := by
  have tails : Placed.tails (place directMethod.inputs repay.directArguments) =
      encodeBytes repay.swapData := by
    simp only [directMethod, directArguments, place, ParameterType.place, Placed.tails,
      Placed.tailBytes, List.nil_append, List.append_nil]
  have bound := length_encode_le tails
  have heads : headSize directMethod.inputs = 384 := rfl
  have selector : directMethod.selector.length = 4 := rfl
  have inside := repay.length_swapData_le_callData
  change (directMethod.selector ++ encode directMethod.inputs repay.directArguments).length ≤ _
  rw [List.length_append]
  omega

variable {repay : CollateralRepay}

theorem decode?_swapData_iff (short : repay.swapCallData.length < 2 ^ 255) {bytes : Bytes} :
    Abi.decode? swapTypes bytes = some repay.swapArguments ↔ bytes = repay.swapData := by
  have bound := repay.length_swapData_le_callData
  exact decode?_eq_some_iff_of_isExact rfl (Nat.lt_of_le_of_lt bound (by omega))

theorem decode?_flashParams_iff (short : repay.swapCallData.length < 2 ^ 255) {params : Bytes} :
    Abi.decode? flashTypes params = some repay.flashArguments ↔ params = repay.flashParams := by
  have bound := repay.length_flashParams_le
  exact decode?_eq_some_iff_of_isExact rfl (Nat.lt_of_le_of_lt bound (by omega))

theorem decode?_directCall_iff (short : repay.swapCallData.length < 2 ^ 255) {data : Bytes} :
    directMethod.decode? data = some repay.directArguments ↔ data = repay.directCall := by
  have bound := repay.length_directCall_le
  exact Method.decode?_eq_some_iff_of_isExact rfl (Nat.lt_of_le_of_lt bound (by omega))

theorem passesOn_flashParams (short : repay.swapCallData.length < 2 ^ 255) :
    PassesOn repay.flashParams := by
  have bound := repay.length_flashParams_le
  exact passesOn_of_short (by omega)

theorem swapData_inj (short : repay.swapCallData.length < 2 ^ 255) {other : CollateralRepay} :
    other.swapData = repay.swapData ↔
      other.swapCallData = repay.swapCallData ∧ other.aggregator = repay.aggregator := by
  have bound := repay.length_swapData_le_callData
  have same : other.swapArguments = repay.swapArguments ↔
      other.swapCallData = repay.swapCallData ∧ other.aggregator = repay.aggregator := by
    dsimp only [swapTypes, Arguments, swapArguments]
    simp only [Prod.mk.injEq, and_true]
  rw [← same]
  exact encode_inj rfl (Nat.lt_of_le_of_lt bound (by omega))

theorem flashArguments_inj (short : repay.swapCallData.length < 2 ^ 255)
    {other : CollateralRepay} :
    other.flashArguments = repay.flashArguments ↔ other.shared = repay.shared := by
  dsimp only [flashTypes, Arguments, flashArguments, shared]
  simp only [Prod.mk.injEq, and_true]
  constructor
  · rintro ⟨asset, amount, offset, mode, inside, permit⟩
    have ⟨callData, aggregator⟩ := (swapData_inj short).mp inside
    exact ⟨asset, amount, offset, mode, callData, aggregator, AdapterPermit.toRecord_inj.mp permit⟩
  · rintro ⟨asset, amount, offset, mode, callData, aggregator, permit⟩
    have inside := (swapData_inj short).mpr ⟨callData, aggregator⟩
    exact ⟨asset, amount, offset, mode, inside, AdapterPermit.toRecord_inj.mpr permit⟩

theorem flashParams_inj (short : repay.swapCallData.length < 2 ^ 255) {other : CollateralRepay} :
    other.flashParams = repay.flashParams ↔ other.shared = repay.shared := by
  have bound := repay.length_flashParams_le
  rw [← flashArguments_inj short]
  exact encode_inj rfl (Nat.lt_of_le_of_lt bound (by omega))

end CollateralRepay

/-! ## Liquidations -/

namespace FlashLiquidation

def flashArguments (liquidation : FlashLiquidation) : Arguments flashTypes :=
  (liquidation.collateralAsset, liquidation.borrowedAsset, liquidation.user,
    liquidation.debtToCover, liquidation.useEthPath, ())

variable (liquidation : FlashLiquidation)

theorem length_flashParams : liquidation.flashParams.length = 160 :=
  length_encode_of_isStatic rfl liquidation.flashArguments

theorem decode?_flashParams :
    Abi.decode? flashTypes liquidation.flashParams = some liquidation.flashArguments := by
  have length := liquidation.length_flashParams
  exact decode?_encode rfl liquidation.flashArguments
    (Nat.lt_of_le_of_lt (Nat.le_of_eq length) (by omega))

theorem passesOn_flashParams : PassesOn liquidation.flashParams := by
  have length := liquidation.length_flashParams
  exact passesOn_of_short (by omega)

theorem flashParams_inj {other : FlashLiquidation} :
    other.flashParams = liquidation.flashParams ↔ other = liquidation := by
  constructor
  · intro same
    have reads := other.decode?_flashParams
    rw [same, decode?_flashParams] at reads
    have arguments := Option.some.inj reads
    dsimp only [flashTypes, Arguments, flashArguments] at arguments
    simp only [Prod.mk.injEq, and_true] at arguments
    rcases liquidation with ⟨collateral, borrowed, user, debt, ethPath⟩
    rcases other with ⟨otherCollateral, otherBorrowed, otherUser, otherDebt, otherEthPath⟩
    rcases arguments with ⟨rfl, rfl, rfl, rfl, rfl⟩
    rfl
  · rintro rfl
    rfl

end FlashLiquidation

/-! ## Payloads -/

/-- Parameters and calls for adapters are read as what they were written from, and as nothing
else. What parameters and calls share is the same in both, the pool hands the parameters on, and
parameters that are alike tell alike. Liquidations, for which adapters have no call of their own,
can be told apart altogether. -/
theorem adapter_payloads_read_back :
    (∀ swap : CollateralSwap, swap.swapCallData.length < 2 ^ 255 →
      (∀ params, Abi.decode? [address, number, number, .bytes, address, permitRecord] params =
          some (swap.toAsset, swap.minimumReceived, swap.swapAllOffset, swap.swapCallData,
            swap.aggregator, swap.permit.toRecord, ()) ↔
        params = swap.flashParams) ∧
      (∀ data, CollateralSwap.directMethod.decode? data =
          some (swap.fromAsset, swap.toAsset, swap.amount, swap.minimumReceived,
            swap.swapAllOffset, swap.swapCallData, swap.aggregator, swap.permit.toRecord, ()) ↔
        data = swap.directCall) ∧
      PassesOn swap.flashParams ∧
      ∀ other : CollateralSwap,
        other.flashParams = swap.flashParams ↔ other.shared = swap.shared) ∧
    (∀ repay : CollateralRepay, repay.swapCallData.length < 2 ^ 255 →
      (∀ params, Abi.decode? [address, number, number, number, .bytes, permitRecord] params =
          some (repay.debtAsset, repay.debtAmount, repay.buyAllOffset, repay.rateMode,
            repay.swapData, repay.permit.toRecord, ()) ↔
        params = repay.flashParams) ∧
      (∀ bytes, Abi.decode? [.bytes, address] bytes =
          some (repay.swapCallData, repay.aggregator, ()) ↔
        bytes = repay.swapData) ∧
      (∀ data, CollateralRepay.directMethod.decode? data =
          some (repay.collateralAsset, repay.debtAsset, repay.collateralAmount, repay.debtAmount,
            repay.rateMode, repay.buyAllOffset, repay.swapData, repay.permit.toRecord, ()) ↔
        data = repay.directCall) ∧
      PassesOn repay.flashParams ∧
      ∀ other : CollateralRepay,
        other.flashParams = repay.flashParams ↔ other.shared = repay.shared) ∧
    (∀ permit other : AdapterPermit, other.toRecord = permit.toRecord ↔ other = permit) ∧
    ∀ liquidation : FlashLiquidation,
      Abi.decode? [address, address, address, number, .word .flag] liquidation.flashParams =
        some (liquidation.collateralAsset, liquidation.borrowedAsset, liquidation.user,
          liquidation.debtToCover, liquidation.useEthPath, ()) ∧
      PassesOn liquidation.flashParams ∧
      ∀ other : FlashLiquidation,
        other.flashParams = liquidation.flashParams ↔ other = liquidation := by
  refine ⟨fun swap short => ?_, fun repay short => ?_, fun permit other => ?_,
    fun liquidation => ?_⟩
  · exact ⟨fun _ => CollateralSwap.decode?_flashParams_iff short,
      fun _ => CollateralSwap.decode?_directCall_iff short,
      CollateralSwap.passesOn_flashParams short, fun _ => CollateralSwap.flashParams_inj short⟩
  · exact ⟨fun _ => CollateralRepay.decode?_flashParams_iff short,
      fun _ => CollateralRepay.decode?_swapData_iff short,
      fun _ => CollateralRepay.decode?_directCall_iff short,
      CollateralRepay.passesOn_flashParams short, fun _ => CollateralRepay.flashParams_inj short⟩
  · exact AdapterPermit.toRecord_inj
  · exact ⟨liquidation.decode?_flashParams, liquidation.passesOn_flashParams,
      fun _ => liquidation.flashParams_inj⟩

/-- Call data of five bytes is padded, and one more byte that looks like padding still makes
other parameters. The asset that is sold is not among them. -/
theorem adapter_payloads_read_back_five_bytes :
    let swap : CollateralSwap := ⟨⟨1⟩, ⟨2⟩, 30, 29, 4, [1, 2, 3, 4, 5], ⟨6⟩, ⟨7, 8, 27, 9, 10⟩⟩
    let repay : CollateralRepay :=
      ⟨⟨1⟩, ⟨2⟩, 30, 29, 4, 5, [1, 2, 3, 4, 5], ⟨6⟩, ⟨7, 8, 27, 9, 10⟩⟩
    swap.swapCallData.length < 2 ^ 255 ∧ repay.swapCallData.length < 2 ^ 255 ∧
    Abi.decode? [address, number, number, .bytes, address, permitRecord] swap.flashParams =
      some ((⟨2⟩ : Address), 29, 4, [1, 2, 3, 4, 5], (⟨6⟩ : Address), (7, 8, 27, 9, 10, ()), ()) ∧
    { swap with swapCallData := [1, 2, 3, 4, 5, 0] }.flashParams ≠ swap.flashParams ∧
    { swap with fromAsset := ⟨9⟩ }.flashParams = swap.flashParams ∧
    PassesOn swap.flashParams ∧
    Abi.decode? [.bytes, address] repay.swapData = some ([1, 2, 3, 4, 5], (⟨6⟩ : Address), ()) ∧
    { repay with aggregator := ⟨9⟩ }.flashParams ≠ repay.flashParams := by
  intro swap repay
  have shortSwap : swap.swapCallData.length < 2 ^ 255 := by decide
  have shortRepay : repay.swapCallData.length < 2 ^ 255 := by decide
  rcases adapter_payloads_read_back with ⟨swaps, repays, -⟩
  rcases swaps swap shortSwap with ⟨reads, -, passes, alike⟩
  rcases repays repay shortRepay with ⟨-, inside, -, -, alikeRepay⟩
  refine ⟨shortSwap, shortRepay, (reads _).mpr rfl, fun same => ?_, (alike _).mpr rfl, passes,
    (inside _).mpr rfl, fun same => ?_⟩
  · have callData : [1, 2, 3, 4, 5, 0] = swap.swapCallData :=
      congrArg (fun told => told.2.2.2.1) ((alike _).mp same)
    exact absurd callData (by decide)
  · have aggregator : ⟨9⟩ = repay.aggregator :=
      congrArg (fun told => told.2.2.2.2.2.1) ((alikeRepay _).mp same)
    exact absurd aggregator (by decide)

end LendingPool
