import LendingPool.Address
/-! What a pool call does, however it is encoded. -/

namespace LendingPool

/-- A supply, withdrawal, borrowing or repayment. The beneficiary of a withdrawal is the
recipient. Calls without a rate mode or a referral code have zero for it. -/
structure LogicalCall where
  asset : Address
  amount : Word
  rateMode : UInt8
  referralCode : UInt16
  onBehalfOf : Address
deriving DecidableEq, Repr

end LendingPool
