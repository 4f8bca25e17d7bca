import LendingPool.Proofs.Abi.Canonical
import LendingPool.Proofs.Call.Pool
import LendingPool.RateMode
import Mathlib.Data.List.Forall2
import Mathlib.Data.List.Nodup
/-! The call data of actions on one reserve. It is written down word by word, and compared with
what is read: every call is read back, and nothing else is read at all. -/

namespace LendingPool

open Abi

/-! ## Formats -/

/-- How a call is spelled: the selector, and the width in bits of each argument. Every argument
has a word of its own, and the bits above its width are clear. -/
structure PoolFormat where
  selector : Bytes
  widths : List Nat
deriving DecidableEq, Repr

namespace PoolFormat

/-- The format of `supply(address,uint256,address,uint16)`. -/
def supply : PoolFormat :=
  ⟨[0x61, 0x7b, 0xa0, 0x37], [160, 256, 160, 16]⟩

/-- The format of
`supplyWithPermit(address,uint256,address,uint16,uint256,uint8,bytes32,bytes32)`. -/
def supplyWithPermit : PoolFormat :=
  ⟨[0x02, 0xc2, 0x05, 0xf0], [160, 256, 160, 16, 256, 8, 256, 256]⟩

/-- The format of `withdraw(address,uint256,address)`. -/
def withdraw : PoolFormat :=
  ⟨[0x69, 0x32, 0x8d, 0xec], [160, 256, 160]⟩

/-- The format of `borrow(address,uint256,uint256,uint16,address)`. The rate mode is a word, but
modes are numbers of one byte. -/
def borrow : PoolFormat :=
  ⟨[0xa4, 0x15, 0xbc, 0xad], [160, 256, 8, 16, 160]⟩

/-- The format of `repay(address,uint256,uint256,address)`. -/
def repay : PoolFormat :=
  ⟨[0x57, 0x3a, 0xde, 0x81], [160, 256, 8, 160]⟩

/-- The format of
`repayWithPermit(address,uint256,uint256,address,uint256,uint8,bytes32,bytes32)`. -/
def repayWithPermit : PoolFormat :=
  ⟨[0xee, 0x3e, 0x21, 0x0b], [160, 256, 8, 160, 256, 8, 256, 256]⟩

def all : List PoolFormat :=
  [supply, supplyWithPermit, withdraw, borrow, repay, repayWithPermit]

def data (format : PoolFormat) (words : List Word) : Bytes :=
  format.selector ++ wordBytes words

/-- Whether there is one word for each argument, and each is within the width of its argument. -/
def Fits (format : PoolFormat) (words : List Word) : Prop :=
  List.Forall₂ (fun width (word : Word) => word.toNat < 2 ^ width) format.widths words

instance (format : PoolFormat) (words : List Word) : Decidable (format.Fits words) :=
  inferInstanceAs (Decidable (List.Forall₂ _ _ _))

theorem length_selector {format : PoolFormat} (member : format ∈ all) :
    format.selector.length = 4 := by
  revert format
  decide

theorem take_data {format : PoolFormat} (member : format ∈ all) (words : List Word) :
    (format.data words).take 4 = format.selector :=
  List.take_left' (length_selector member)

theorem length_data {format : PoolFormat} (member : format ∈ all) {words : List Word}
    (fits : format.Fits words) :
    (format.data words).length = 4 + 32 * format.widths.length := by
  rw [data, List.length_append, length_selector member, length_wordBytes, fits.length_eq]

theorem eq_of_selector {left right : PoolFormat} (leftMember : left ∈ all)
    (rightMember : right ∈ all) (same : left.selector = right.selector) : left = right :=
  List.inj_on_of_nodup_map (f := selector) (by decide +kernel : (all.map selector).Nodup)
    leftMember rightMember same

/-- The selectors tell the formats apart, and then the words follow one after the other. -/
theorem data_inj {left right : PoolFormat} (leftMember : left ∈ all) (rightMember : right ∈ all)
    {words others : List Word} (same : left.data words = right.data others) :
    left = right ∧ words = others := by
  have first : (left.data words).take 4 = (right.data others).take 4 := congrArg (List.take 4) same
  rw [take_data leftMember, take_data rightMember] at first
  have formats := eq_of_selector leftMember rightMember first
  subst formats
  exact ⟨rfl, wordBytes_inj.mp (List.append_cancel_left same)⟩

end PoolFormat

/-! ## Meaning -/

/-- The call data that spell a call. A call without a rate mode or a referral code is spelled
without them, and a signature is spelled in any way. -/
inductive LogicalCall.SpelledBy : LogicalCall → Bytes → Prop
  | supply (asset : Address) (amount : Word) (onBehalfOf : Address) (code : UInt16) :
      SpelledBy ⟨asset, amount, 0, code, onBehalfOf⟩
        (PoolFormat.supply.data
          [asset.toWord, amount, onBehalfOf.toWord, Word.ofNat code.toNat])
  | supplyWithPermit (asset : Address) (amount : Word) (onBehalfOf : Address) (code : UInt16)
      (deadline : Word) (signature : Signature) :
      SpelledBy ⟨asset, amount, 0, code, onBehalfOf⟩
        (PoolFormat.supplyWithPermit.data
          [asset.toWord, amount, onBehalfOf.toWord, Word.ofNat code.toNat, deadline,
            Word.ofNat signature.v.toNat, signature.r, signature.s])
  | withdraw (asset : Address) (amount : Word) (recipient : Address) :
      SpelledBy ⟨asset, amount, 0, 0, recipient⟩
        (PoolFormat.withdraw.data [asset.toWord, amount, recipient.toWord])
  | borrow (asset : Address) (amount : Word) (mode : UInt8) (code : UInt16)
      (onBehalfOf : Address) :
      SpelledBy ⟨asset, amount, mode, code, onBehalfOf⟩
        (PoolFormat.borrow.data
          [asset.toWord, amount, Word.ofNat mode.toNat, Word.ofNat code.toNat, onBehalfOf.toWord])
  | repay (asset : Address) (amount : Word) (mode : UInt8) (onBehalfOf : Address) :
      SpelledBy ⟨asset, amount, mode, 0, onBehalfOf⟩
        (PoolFormat.repay.data
          [asset.toWord, amount, Word.ofNat mode.toNat, onBehalfOf.toWord])
  | repayWithPermit (asset : Address) (amount : Word) (mode : UInt8) (onBehalfOf : Address)
      (deadline : Word) (signature : Signature) :
      SpelledBy ⟨asset, amount, mode, 0, onBehalfOf⟩
        (PoolFormat.repayWithPermit.data
          [asset.toWord, amount, Word.ofNat mode.toNat, onBehalfOf.toWord, deadline,
            Word.ofNat signature.v.toNat, signature.r, signature.s])

theorem Address.toNat_toWord_lt (address : Address) : address.toWord.toNat < 2 ^ 160 := by
  have small := address.bits.isLt
  rw [toWord, Word.toNat_ofNat_of_lt (by omega)]
  exact small

theorem LogicalCall.SpelledBy.exists_format {call : LogicalCall} {data : Bytes}
    (spelled : call.SpelledBy data) :
    ∃ format ∈ PoolFormat.all, ∃ words, format.Fits words ∧ data = format.data words := by
  have code (code : UInt16) : (Word.ofNat code.toNat).toNat < 2 ^ 16 := by
    have small := code.toNat_lt
    rw [Word.toNat_ofNat_of_lt (by omega)]
    exact small
  have byte (byte : UInt8) : (Word.ofNat byte.toNat).toNat < 2 ^ 8 := by
    have small := byte.toNat_lt
    rw [Word.toNat_ofNat_of_lt (by omega)]
    exact small
  cases spelled <;> refine ⟨_, ?_, _, ?_, rfl⟩
  all_goals first
    | decide
    | simp only [PoolFormat.Fits, PoolFormat.supply, PoolFormat.supplyWithPermit,
        PoolFormat.withdraw, PoolFormat.borrow, PoolFormat.repay, PoolFormat.repayWithPermit,
        List.forall₂_cons, List.forall₂_nil_left_iff, Address.toNat_toWord_lt, code, byte,
        BitVec.isLt, and_self]

namespace PoolCall

def spelling? : PoolCall → Option (PoolFormat × List Word)
  | supply asset amount onBehalfOf code =>
      some (.supply, [asset.toWord, amount, onBehalfOf.toWord, Word.ofNat code.toNat])
  | supplyWithPermit asset amount onBehalfOf code deadline signature =>
      some (.supplyWithPermit, [asset.toWord, amount, onBehalfOf.toWord, Word.ofNat code.toNat,
        deadline, Word.ofNat signature.v.toNat, signature.r, signature.s])
  | withdraw asset amount recipient =>
      some (.withdraw, [asset.toWord, amount, recipient.toWord])
  | borrow asset amount rateMode code onBehalfOf =>
      some (.borrow, [asset.toWord, amount, rateMode, Word.ofNat code.toNat, onBehalfOf.toWord])
  | repay asset amount rateMode onBehalfOf =>
      some (.repay, [asset.toWord, amount, rateMode, onBehalfOf.toWord])
  | repayWithPermit asset amount rateMode onBehalfOf deadline signature =>
      some (.repayWithPermit, [asset.toWord, amount, rateMode, onBehalfOf.toWord, deadline,
        Word.ofNat signature.v.toNat, signature.r, signature.s])
  | _ => none

theorem encode_eq_data {call : PoolCall} {format : PoolFormat} {words : List Word}
    (spells : call.spelling? = some (format, words)) : call.encode = format.data words := by
  cases call <;> cases spells <;> rw [encode, Method.encode_of_isWord rfl]
  all_goals
    refine congrArg (_ ++ wordBytes ·) ?_
    simp [method, arguments, argumentWords, WordType.toWord, PoolMethod.supply,
      PoolMethod.supplyWithPermit, PoolMethod.withdraw, PoolMethod.borrow, PoolMethod.repay,
      PoolMethod.repayWithPermit]

theorem rateModeTag_eq_ok_iff {mode : Word} {tag : UInt8} :
    rateModeTag mode = .ok tag ↔ mode = Word.ofNat tag.toNat := by
  constructor
  · intro tagged
    rw [rateModeTag] at tagged
    split at tagged
    · rename_i small
      cases tagged
      rw [UInt8.toNat_ofNat', Nat.mod_eq_of_lt small, Word.ofNat_toNat]
    · cases tagged
  · rintro rfl
    exact rateModeTag_ofNat tag

theorem spelledBy_iff {action : LogicalCall} {data : Bytes} :
    action.SpelledBy data ↔ ∃ call : PoolCall, call.encode = data ∧ call.logical = .ok action := by
  constructor
  · intro spelled
    cases spelled with
    | supply asset amount onBehalfOf code =>
        exact ⟨.supply asset amount onBehalfOf code, encode_eq_data rfl, rfl⟩
    | supplyWithPermit asset amount onBehalfOf code deadline signature =>
        exact ⟨.supplyWithPermit asset amount onBehalfOf code deadline signature,
          encode_eq_data rfl, rfl⟩
    | withdraw asset amount recipient =>
        exact ⟨.withdraw asset amount recipient, encode_eq_data rfl, rfl⟩
    | borrow asset amount mode code onBehalfOf =>
        refine ⟨.borrow asset amount (Word.ofNat mode.toNat) code onBehalfOf,
          encode_eq_data rfl, ?_⟩
        rw [logical, rateModeTag_ofNat]
        rfl
    | repay asset amount mode onBehalfOf =>
        refine ⟨.repay asset amount (Word.ofNat mode.toNat) onBehalfOf, encode_eq_data rfl, ?_⟩
        rw [logical, rateModeTag_ofNat]
        rfl
    | repayWithPermit asset amount mode onBehalfOf deadline signature =>
        refine ⟨.repayWithPermit asset amount (Word.ofNat mode.toNat) onBehalfOf deadline signature,
          encode_eq_data rfl, ?_⟩
        rw [logical, rateModeTag_ofNat]
        rfl
  · rintro ⟨call, rfl, means⟩
    cases call <;> simp only [logical, Except.ok.injEq, bind, Except.bind, reduceCtorEq] at means
    case supply asset amount onBehalfOf code =>
      rw [← means, encode_eq_data rfl]
      exact .supply asset amount onBehalfOf code
    case supplyWithPermit asset amount onBehalfOf code deadline signature =>
      rw [← means, encode_eq_data rfl]
      exact .supplyWithPermit asset amount onBehalfOf code deadline signature
    case withdraw asset amount recipient =>
      rw [← means, encode_eq_data rfl]
      exact .withdraw asset amount recipient
    all_goals
      split at means
      · cases means
      cases means
      rename_i tagged
      cases rateModeTag_eq_ok_iff.mp tagged
      rw [encode_eq_data rfl]
    · exact .borrow ..
    · exact .repay ..
    · exact .repayWithPermit ..

/-! ## Reading -/

def Refuses (data : Bytes) : Prop :=
  ∃ fault, decodeLogical data = .error fault

theorem eq_encode_of_decode? {data : Bytes} {call : PoolCall} {action : LogicalCall}
    (reads : decode? data = some call) (means : call.logical = .ok action) :
    data = call.encode := by
  rcases (decodeForms?_eq_some_iff_of_nodup nodup_selectors).mp reads with
    ⟨form, member, values, taken, rfl⟩
  have spelled (exact : form.method.isExact = true) : data = form.method.encode values :=
    Method.eq_encode_of_decode? exact taken
  simp only [forms, List.mem_cons, List.not_mem_nil, or_false] at member
  rcases member with rfl | rfl | rfl | rfl | rfl | rfl | rfl | rfl | rfl | rfl | rfl
  -- a form with a flag among its arguments is not exact, but means no action either
  all_goals first
    | exact spelled (by decide)
    | cases means

theorem decodeLogical_eq_ok_iff {data : Bytes} {action : LogicalCall} :
    decodeLogical data = .ok action ↔ action.SpelledBy data := by
  rw [spelledBy_iff]
  constructor
  · intro reads
    rw [decodeLogical] at reads
    split at reads
    · rename_i call decodes
      exact ⟨call, (eq_encode_of_decode? decodes reads).symm, reads⟩
    · cases reads
  · rintro ⟨call, rfl, means⟩
    have static : call.isStatic = true := by
      cases call <;> first | rfl | cases means
    rw [decodeLogical_encode static, means]

theorem refuses_iff {data : Bytes} :
    Refuses data ↔ ∀ action : LogicalCall, ¬ action.SpelledBy data := by
  simp only [← decodeLogical_eq_ok_iff]
  constructor
  · rintro ⟨fault, fails⟩ action reads
    rw [fails] at reads
    cases reads
  · intro unread
    cases reads : decodeLogical data with
    | error fault => exact ⟨fault, reads⟩
    | ok action => exact absurd reads (unread action)

/-- Anything that differs from a format is refused. -/
theorem refuses_of_not_format {data : Bytes}
    (other : ∀ format ∈ PoolFormat.all, ∀ words, format.Fits words → data ≠ format.data words) :
    Refuses data := by
  refine refuses_iff.mpr fun action spelled => ?_
  rcases spelled.exists_format with ⟨format, member, words, fits, same⟩
  exact other format member words fits same

theorem refuses_of_take {data : Bytes}
    (unknown : ∀ format ∈ PoolFormat.all, data.take 4 ≠ format.selector) : Refuses data := by
  refine refuses_of_not_format fun format member words _ same => ?_
  rw [same, PoolFormat.take_data member] at unknown
  exact unknown format member rfl

theorem refuses_of_not_fits {format : PoolFormat} (member : format ∈ PoolFormat.all)
    {words : List Word} (unfit : ¬ format.Fits words) : Refuses (format.data words) := by
  refine refuses_of_not_format fun other otherMember others fits same => ?_
  rcases PoolFormat.data_inj member otherMember same with ⟨rfl, rfl⟩
  exact unfit fits

/-- Of call data that begin alike at most one is spelled, because the selector says how long it
is. -/
theorem eq_of_prefix_of_spelled {short long : Bytes} (begins : short <+: long)
    {action other : LogicalCall} (shortSpelled : action.SpelledBy short)
    (longSpelled : other.SpelledBy long) : short = long := by
  rcases shortSpelled.exists_format with ⟨format, member, words, fits, rfl⟩
  rcases longSpelled.exists_format with ⟨longer, longerMember, others, longerFits, rfl⟩
  -- the shorter one holds the whole selector, which they share, and so the format
  have four : (format.data words).take 4 = (longer.data others).take 4 := by
    rcases begins with ⟨rest, same⟩
    rw [← same, List.take_append_of_le_length]
    rw [PoolFormat.length_data member fits]
    omega
  rw [PoolFormat.take_data member, PoolFormat.take_data longerMember] at four
  have formats := PoolFormat.eq_of_selector member longerMember four
  subst formats
  refine begins.eq_of_length ?_
  rw [PoolFormat.length_data member fits, PoolFormat.length_data member longerFits]

theorem refuses_of_prefix {data other : Bytes} {action : LogicalCall}
    (spelled : action.SpelledBy data) (differs : other ≠ data)
    (begins : other <+: data ∨ data <+: other) : Refuses other := by
  refine refuses_iff.mpr fun meaning otherSpelled => differs ?_
  rcases begins with shorter | longer
  · exact eq_of_prefix_of_spelled shorter otherSpelled spelled
  · exact (eq_of_prefix_of_spelled longer spelled otherSpelled).symm

theorem refuses_encode {call : PoolCall} (other : call.spelling? = none) :
    Refuses call.encode := by
  refine refuses_of_take fun format member => ?_
  have four : call.encode.take 4 = call.method.selector :=
    List.take_left' (by cases call <;> rfl)
  rw [four]
  revert format
  cases call
  all_goals first
    | simp only [method]
      decide
    | cases other

/-- Every action is read back from its call: its asset and amount, its beneficiary, and its rate
mode and referral code or zero where it has none. Nothing but what is spelled is read. So call
data that ends early or goes on, that has a word outside its width, or that is of another method
is refused. -/
theorem decodeLogical_strict :
    ((∀ asset amount onBehalfOf code,
        decodeLogical (supply asset amount onBehalfOf code).encode =
          .ok ⟨asset, amount, 0, code, onBehalfOf⟩) ∧
      (∀ asset amount onBehalfOf code deadline signature,
        decodeLogical
            (supplyWithPermit asset amount onBehalfOf code deadline signature).encode =
          .ok ⟨asset, amount, 0, code, onBehalfOf⟩) ∧
      (∀ asset amount recipient,
        decodeLogical (withdraw asset amount recipient).encode =
          .ok ⟨asset, amount, 0, 0, recipient⟩) ∧
      (∀ asset amount (mode : RateMode) code onBehalfOf,
        decodeLogical (borrow asset amount mode.toWord code onBehalfOf).encode =
          .ok ⟨asset, amount, mode.tag, code, onBehalfOf⟩) ∧
      (∀ asset amount (mode : RateMode) onBehalfOf,
        decodeLogical (repay asset amount mode.toWord onBehalfOf).encode =
          .ok ⟨asset, amount, mode.tag, 0, onBehalfOf⟩) ∧
      (∀ asset amount (mode : RateMode) onBehalfOf deadline signature,
        decodeLogical
            (repayWithPermit asset amount mode.toWord onBehalfOf deadline signature).encode =
          .ok ⟨asset, amount, mode.tag, 0, onBehalfOf⟩)) ∧
    (∀ (data : Bytes) (action : LogicalCall),
      decodeLogical data = .ok action ↔ action.SpelledBy data) ∧
    (∀ (data other : Bytes) (action : LogicalCall), action.SpelledBy data → other ≠ data →
      other <+: data ∨ data <+: other → Refuses other) ∧
    (∀ format ∈ PoolFormat.all, ∀ words, ¬ format.Fits words → Refuses (format.data words)) ∧
    (∀ data : Bytes, (∀ format ∈ PoolFormat.all, data.take 4 ≠ format.selector) → Refuses data) ∧
    (∀ call : PoolCall, call.spelling? = none → Refuses call.encode) := by
  have modes (mode : RateMode) : rateModeTag mode.toWord = .ok mode.tag := rateModeTag_ofNat _
  refine ⟨⟨?_, ?_, ?_, ?_, ?_, ?_⟩, ?_, ?_, ?_, ?_, ?_⟩
  · intro asset amount onBehalfOf code
    exact decodeLogical_encode rfl
  · intro asset amount onBehalfOf code deadline signature
    exact decodeLogical_encode rfl
  · intro asset amount recipient
    exact decodeLogical_encode rfl
  · intro asset amount mode code onBehalfOf
    rw [decodeLogical_encode rfl, logical, modes]
    rfl
  · intro asset amount mode onBehalfOf
    rw [decodeLogical_encode rfl, logical, modes]
    rfl
  · intro asset amount mode onBehalfOf deadline signature
    rw [decodeLogical_encode rfl, logical, modes]
    rfl
  · intro data action
    exact decodeLogical_eq_ok_iff
  · intro data other action
    exact refuses_of_prefix
  · intro format member words
    exact refuses_of_not_fits member
  · intro data
    exact refuses_of_take
  · intro call
    exact refuses_encode

/-- One action that is read back. Its call data is refused without the last byte, with a byte
more, and with a bit above its referral code; so is a borrowing with a rate mode of 256, and a
loan. -/
theorem decodeLogical_strict_supply :
    decodeLogical (supply nativeCurrency 10 .zero 7).encode =
        .ok ⟨nativeCurrency, 10, 0, 7, .zero⟩ ∧
      decodeLogical (PoolFormat.supply.data [nativeCurrency.toWord, 10, 0, 7]) =
        .ok ⟨nativeCurrency, 10, 0, 7, .zero⟩ ∧
      Refuses ((PoolFormat.supply.data [nativeCurrency.toWord, 10, 0, 7]).take 131) ∧
      Refuses (PoolFormat.supply.data [nativeCurrency.toWord, 10, 0, 7] ++ [0]) ∧
      Refuses (PoolFormat.supply.data [nativeCurrency.toWord, 10, 0, 65543]) ∧
      Refuses (PoolFormat.borrow.data [nativeCurrency.toWord, 10, 256, 7, 0]) ∧
      Refuses [0x61, 0x7b, 0xa0] ∧
      Refuses (singleFlashLoan .zero nativeCurrency 10 .zero [] 7).encode := by
  rcases decodeLogical_strict with ⟨⟨supplies, _⟩, spelled, cut, unfit, unknown, other⟩
  have data : LogicalCall.SpelledBy ⟨nativeCurrency, 10, 0, 7, .zero⟩
      (PoolFormat.supply.data [nativeCurrency.toWord, 10, 0, 7]) :=
    .supply nativeCurrency 10 .zero 7
  refine ⟨supplies .., (spelled _ _).mpr data, ?_, ?_, ?_, ?_, ?_, ?_⟩
  · exact cut _ _ _ data (by decide +kernel) (.inl (List.take_prefix ..))
  · exact cut _ _ _ data (by decide +kernel) (.inr (List.prefix_append ..))
  · exact unfit _ (by decide) _ (by decide +kernel)
  · exact unfit _ (by decide) _ (by decide +kernel)
  · exact unknown _ (by decide)
  · exact other _ rfl

end PoolCall

end LendingPool
