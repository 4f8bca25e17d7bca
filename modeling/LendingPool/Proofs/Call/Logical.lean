import LendingPool.Planner
import LendingPool.Proofs.Call.Packed
import LendingPool.Proofs.Call.Pool
import LendingPool.Proofs.Chain.Planning
/-! What an action on one reserve means. Its terms are the same at every stage, but for the names
of reserves and the way amounts are written, so both encodings of it are compared with them. -/

namespace LendingPool

open Planning

/-- The terms of an action on one reserve. An action without a rate mode or a referral code has
zero for it. -/
structure Terms (Reserve Quantity : Type) where
  asset : Reserve
  amount : Quantity
  rateMode : UInt8 := 0
  referralCode : UInt16 := 0
deriving DecidableEq, Repr

namespace ReserveAction

variable {Reserve Renamed Quantity Converted : Type}

def terms? : ReserveAction Reserve Quantity → Option (Terms Reserve Quantity)
  | supply asset amount referralCode | supplyWithPermit asset amount referralCode _ =>
      some { asset, amount, referralCode }
  | withdraw asset amount => some { asset, amount }
  | borrow asset amount rateMode referralCode => some { asset, amount, rateMode, referralCode }
  | repay asset amount rateMode | repayWithPermit asset amount rateMode _ =>
      some { asset, amount, rateMode }
  | _ => none

variable {Possible : PossibleReplies} {terms : Terms Reserve Quantity}

theorem terms?_of_yields_convertAmount {convert : Reserve → Quantity → Planning Converted}
    {action : ReserveAction Reserve Quantity} {converted : ReserveAction Reserve Converted}
    (yields : Yields Possible (action.convertAmount convert) converted)
    (agreed : action.terms? = some terms) :
    ∃ amount, Yields Possible (convert terms.asset terms.amount) amount ∧
      converted.terms? = some { terms with amount } ∧
      converted.mayBeEntire = action.mayBeEntire := by
  cases action <;> cases agreed <;>
    simp only [convertAmount, yields_bind_iff, yields_pure_iff] at yields <;>
    rcases yields with ⟨amount, converts, rfl⟩ <;>
    exact ⟨amount, converts, rfl, rfl⟩

theorem terms?_of_yields_renameReserves {rename : Reserve → Planning Renamed}
    {action : ReserveAction Reserve Quantity} {renamed : ReserveAction Renamed Quantity}
    (yields : Yields Possible (action.renameReserves rename) renamed)
    (agreed : action.terms? = some terms) :
    ∃ asset, Yields Possible (rename terms.asset) asset ∧
      renamed.terms? = some { terms with asset } ∧
      renamed.mayBeEntire = action.mayBeEntire := by
  cases action <;> cases agreed <;>
    simp only [renameReserves, yields_bind_iff, yields_pure_iff] at yields <;>
    rcases yields with ⟨asset, renames, rfl⟩ <;>
    exact ⟨asset, renames, rfl, rfl⟩

theorem terms?_of_yields_value {action : ReserveAction Reserve Amount}
    {valued : ReserveAction Reserve Word} {terms : Terms Reserve Amount}
    (yields : Yields Possible (action.convertAmount fun _ amount => pure amount.value) valued)
    (agreed : action.terms? = some terms) :
    valued.terms? = some { terms with amount := terms.amount.value } ∧
      valued.mayBeEntire = action.mayBeEntire := by
  rcases terms?_of_yields_convertAmount yields agreed with ⟨value, valueOf, valued, entire⟩
  cases yields_pure_iff.mp valueOf
  exact ⟨valued, entire⟩

/-! ### Kinds -/

def withoutAmount (action : ReserveAction Reserve Quantity) : ReserveAction Reserve Unit :=
  Id.run (action.convertAmount fun _ _ => pure ())

theorem withoutAmount_of_yields_convertAmount {convert : Reserve → Quantity → Planning Converted}
    {action : ReserveAction Reserve Quantity} {converted : ReserveAction Reserve Converted}
    (yields : Yields Possible (action.convertAmount convert) converted) :
    converted.withoutAmount = action.withoutAmount := by
  cases action <;> simp only [convertAmount, yields_bind_iff, yields_pure_iff] at yields
  case swapBorrowRateMode => rw [← yields]; rfl
  case setUsageAsCollateral => rw [← yields]; rfl
  all_goals
    rcases yields with ⟨amount, -, rfl⟩
    rfl

def kind : ReserveAction Reserve Quantity → ReserveAction Unit Unit
  | supply _ _ code => supply () () code
  | supplyWithPermit _ _ code permit => supplyWithPermit () () code permit
  | withdraw _ _ => withdraw () ()
  | borrow _ _ mode code => borrow () () mode code
  | repay _ _ mode => repay () () mode
  | repayWithPermit _ _ mode permit => repayWithPermit () () mode permit
  | swapBorrowRateMode _ mode => swapBorrowRateMode () mode
  | setUsageAsCollateral _ use => setUsageAsCollateral () use
  | liquidationCall _ _ user _ receiveAToken => liquidationCall () () user () receiveAToken

theorem kind_withoutAmount (action : ReserveAction Reserve Quantity) :
    action.withoutAmount.kind = action.kind := by
  cases action <;> rfl

theorem kind_of_yields_convertAmount {convert : Reserve → Quantity → Planning Converted}
    {action : ReserveAction Reserve Quantity} {converted : ReserveAction Reserve Converted}
    (yields : Yields Possible (action.convertAmount convert) converted) :
    converted.kind = action.kind := by
  rw [← converted.kind_withoutAmount, withoutAmount_of_yields_convertAmount yields,
    kind_withoutAmount]

theorem gasAction_kind (action : ReserveAction Reserve Quantity) :
    action.kind.gasAction = action.gasAction := by
  cases action <;> rfl

theorem gasAction_of_yields_convertAmount {convert : Reserve → Quantity → Planning Converted}
    {action : ReserveAction Reserve Quantity} {converted : ReserveAction Reserve Converted}
    (yields : Yields Possible (action.convertAmount convert) converted) :
    converted.gasAction = action.gasAction := by
  rw [← converted.gasAction_kind, kind_of_yields_convertAmount yields, gasAction_kind]

theorem kind_of_yields_renameReserves {rename : Reserve → Planning Renamed}
    {action : ReserveAction Reserve Quantity} {renamed : ReserveAction Renamed Quantity}
    (yields : Yields Possible (action.renameReserves rename) renamed) :
    renamed.kind = action.kind := by
  cases action <;> simp only [renameReserves, yields_bind_iff, yields_pure_iff] at yields
  case liquidationCall =>
    rcases yields with ⟨collateral, -, debt, -, rfl⟩
    rfl
  all_goals
    rcases yields with ⟨reserve, -, rfl⟩
    rfl

/-! ### Meaning -/

theorem isStatic_toPoolCall (action : ReserveAction Address Amount) (beneficiary : Address) :
    (action.toPoolCall beneficiary).isStatic = true := by
  cases action <;> rfl

theorem decode?_toPoolCall (action : ReserveAction Address Amount) (beneficiary : Address) :
    PoolCall.decode? (action.toPoolCall beneficiary).encode =
      some (action.toPoolCall beneficiary) :=
  PoolCall.decode?_encode _ (PoolCall.length_encode_lt (action.isStatic_toPoolCall beneficiary))

theorem decodeLogical_toPoolCall {action : ReserveAction Address Amount}
    {terms : Terms Address Amount} (agreed : action.terms? = some terms) (beneficiary : Address) :
    PoolCall.decodeLogical (action.toPoolCall beneficiary).encode =
      .ok ⟨terms.asset, terms.amount.value, terms.rateMode, terms.referralCode, beneficiary⟩ := by
  rw [PoolCall.decodeLogical_encode (action.isStatic_toPoolCall beneficiary)]
  cases action <;> cases agreed <;>
    simp [toPoolCall, PoolCall.logical, PoolCall.rateModeTag_ofNat, bind, Except.bind, pure,
      Except.pure]

end ReserveAction

namespace PackedCall

theorem terms?_reread {call : PackedCall} {terms : Terms UInt16 Word}
    (agreed : call.terms? = some terms) :
    call.reread.terms? =
      some { terms with amount := rereadAmount call.mayBeEntire terms.amount } := by
  cases call <;> cases agreed <;> rfl

theorem logical_of_terms? {call : PackedCall} {terms : Terms UInt16 Word}
    (agreed : call.terms? = some terms) (sender : Address) {reserve? : UInt16 → Option Address}
    {asset : Address} (named : reserve? terms.asset = some asset) :
    call.logical sender reserve? =
      .ok ⟨asset, terms.amount, terms.rateMode, terms.referralCode, sender⟩ := by
  cases call <;> cases agreed <;> simp [logical, logicalFields, named]

end PackedCall

end LendingPool
