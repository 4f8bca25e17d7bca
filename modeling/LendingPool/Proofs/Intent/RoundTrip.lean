import LendingPool.Intent.Codec
import LendingPool.Proofs.Json.Members
import Mathlib.Logic.Relation
/-! Intents as JSON, read back. What makes no difference to a reader is the order of the members,
whether a default is spelled out, and what nobody knows. A member that is given twice makes a
difference, and so does one that is missing. -/

namespace LendingPool

/-- A member whose values are printed such that they can be read, and for which null is nothing but
its default. -/
structure Member.Regular (member : Member) : Prop where
  prints : member.codec.Prints (Json.depthLimit - 1)
  nullIdle : ∀ value, member.codec.read .null = some value → member.default = some value

namespace Member

variable {α : Type} {codec : Codec α} (name : String)

theorem regular_required (prints : codec.Prints (Json.depthLimit - 1))
    (notNull : codec.read .null = none) : (required name codec).Regular where
  prints
  nullIdle value reads := by cases notNull.symm.trans reads

theorem regular_defaulted {default : α} (prints : codec.Prints (Json.depthLimit - 1))
    (nullIdle : ∀ value, codec.read .null = some value → default = value) :
    (defaulted name codec default).Regular where
  prints
  nullIdle value reads := congrArg some (nullIdle value reads)

end Member

namespace Intent

/-! ## The members of an intent -/

abbrev tag : Member where
  Value := String
  name := tagName
  codec := .text
  default := none

def fields : Intent → List Member
  | supply _ => IntentRecord.supply.members
  | supplyWithPermit _ => IntentRecord.supplyWithPermit.members
  | withdraw _ => IntentRecord.withdraw.members
  | borrow _ => IntentRecord.borrow.members
  | repay _ => IntentRecord.repay.members
  | repayWithPermit _ => IntentRecord.repayWithPermit.members
  | swapCollateral _ => IntentRecord.swapCollateral.members
  | repayWithCollateral _ => IntentRecord.repayWithCollateral.members
  | liquidationCall _ => IntentRecord.liquidationCall.members
  | flashLiquidation _ => IntentRecord.flashLiquidation.members
  | setUsageAsCollateral _ => IntentRecord.setUsageAsCollateral.members
  | setUserEMode _ => IntentRecord.setUserEMode.members
  | swapBorrowRateMode _ => IntentRecord.swapBorrowRateMode.members

def form (intent : Intent) : List Member :=
  tag :: intent.fields

theorem distinct_form (intent : Intent) : (intent.form.map Member.name).Nodup := by
  cases intent <;> simp only [form, fields] <;> decide

theorem prints_optionalText {depth : Nat} : Codec.optionalText.Prints depth :=
  Codec.prints_optional Codec.prints_text

theorem prints_permit {depth : Nat} : IntentRecord.signedPermit.codec.Prints (depth + 1) := by
  apply Record.prints_codec
  simp only [IntentRecord.signedPermit, List.forall_mem_cons]
  exact ⟨Codec.prints_text, Codec.prints_uint64, prints_optionalText, nofun⟩

theorem regular_form (intent : Intent) : ∀ member ∈ intent.form, member.Regular := by
  have text (name : String) : (IntentMember.text name).Regular :=
    Member.regular_required name Codec.prints_text rfl
  have flag (name : String) : (IntentMember.flag name).Regular :=
    Member.regular_defaulted name Codec.prints_flag nofun
  have optionalText (name : String) : (IntentMember.optionalText name).Regular :=
    Member.regular_defaulted name prints_optionalText fun _ => Option.some.inj
  have rateMode : IntentMember.rateMode.Regular :=
    Member.regular_required _ Codec.prints_choice rfl
  have referralCode : IntentMember.referralCode.Regular :=
    Member.regular_defaulted _ Codec.prints_uint16 nofun
  have approval : IntentMember.approval.Regular :=
    Member.regular_defaulted _ Codec.prints_choice nofun
  have permit : IntentMember.permit.Regular :=
    Member.regular_required _ prints_permit rfl
  have optionalPermit : IntentMember.optionalPermit.Regular :=
    Member.regular_defaulted _ (Codec.prints_optional prints_permit) fun _ => Option.some.inj
  have tagged : tag.Regular := Member.regular_required _ Codec.prints_text rfl
  have choice (name : String) : (Member.required name .flag).Regular :=
    Member.regular_required name Codec.prints_flag rfl
  have category (name : String) : (Member.required name .uint8).Regular :=
    Member.regular_required name Codec.prints_uint8 rfl
  cases intent <;>
    simp only [form, fields, IntentRecord.supply, IntentRecord.supplyWithPermit,
      IntentRecord.withdraw, IntentRecord.borrow, IntentRecord.repay, IntentRecord.repayWithPermit,
      IntentRecord.swapCollateral, IntentRecord.repayWithCollateral, IntentRecord.liquidationCall,
      IntentRecord.flashLiquidation, IntentRecord.setUsageAsCollateral, IntentRecord.setUserEMode,
      IntentRecord.swapBorrowRateMode, List.forall_mem_cons] <;>
    simp [text, flag, optionalText, rateMode, referralCode, approval, permit, optionalPermit,
      tagged, choice, category]

/-! ## Reading -/

variable {intent : Intent} {given other : List (String × Json)}

theorem ofJson?_object (given : List (String × Json)) :
    ofJson? (.object given) = (tag.find? given).bind fun action =>
      ofTagged? action (.object (given.filter fun entry => entry.1 != tagName)) := by
  have entries : (given.filter fun entry => entry.1 == tag.name) =
      given.filter fun entry => entry.1 == tagName := rfl
  rw [ofJson?, Member.find?, entries]
  generalize given.filter (fun entry => entry.1 == tagName) = tags
  rcases tags with _ | ⟨⟨name, value⟩, _ | ⟨second, rest⟩⟩
  · rfl
  · cases value <;> rfl
  · cases value <;> rfl

theorem action_of_ofTagged? {action : String} {body : Json}
    (reads : ofTagged? action body = some intent) : action = intent.action := by
  unfold ofTagged? at reads
  split at reads <;> first
    | cases reads
    | (rcases Option.map_eq_some_iff.mp reads with ⟨_, -, rfl⟩; rfl)

theorem exists_make (intent : Intent) : ∃ make : Member.Values intent.fields → Intent,
    ∀ given, ofTagged? intent.action (.object given) =
      make <$> Member.readObject? intent.fields given := by
  cases intent <;> exact ⟨_, fun given => Option.map_map ..⟩

theorem ofTagged?_members (intent : Intent) :
    ofTagged? intent.action (.object intent.members) = some intent := by
  cases intent <;> simp [ofTagged?, action, members, Record.read_write]

theorem tagName_notMem_fields (intent : Intent) : tagName ∉ intent.fields.map Member.name :=
  (List.nodup_cons.mp intent.distinct_form).1

theorem exists_reading (intent : Intent) : ∃ make : Member.Values intent.fields → Intent,
    ∀ given, tag.find? given = some intent.action →
      ofJson? (.object given) = make <$> Member.readObject? intent.fields given := by
  rcases exists_make intent with ⟨make, makes⟩
  refine ⟨make, fun given tagged => ?_⟩
  have untagged : Member.readObject? intent.fields
      (given.filter fun entry => entry.1 != tagName) =
        Member.readObject? intent.fields given := by
    refine Member.readObject?_congr fun member known =>
      Member.find?_filter_ne (fun same => ?_) given
    exact intent.tagName_notMem_fields (List.mem_map.mpr ⟨member, known, same.symm⟩)
  rw [ofJson?_object, tagged, Option.bind_some, makes, untagged]

theorem tagged_of_ofJson? (reads : ofJson? (.object given) = some intent) :
    tag.find? given = some intent.action := by
  rw [ofJson?_object] at reads
  rcases Option.bind_eq_some_iff.mp reads with ⟨action, tagged, reads⟩
  rw [tagged, action_of_ofTagged? reads]

theorem found_of_ofJson? (reads : ofJson? (.object given) = some intent) :
    ∀ member ∈ intent.form, ∃ value, member.find? given = some value := by
  have tagged := tagged_of_ofJson? reads
  rcases exists_reading intent with ⟨make, makes⟩
  rw [makes given tagged] at reads
  rcases Option.map_eq_some_iff.mp reads with ⟨values, reads, -⟩
  exact List.forall_mem_cons.mpr ⟨⟨_, tagged⟩, Member.exists_find?_of_readObject? reads⟩

theorem ofJson?_congr (reads : ofJson? (.object given) = some intent)
    (same : ∀ member ∈ intent.form, member.find? given = member.find? other) :
    ofJson? (.object other) = some intent := by
  rcases List.forall_mem_cons.mp same with ⟨sameTag, sameFields⟩
  have tagged := tagged_of_ofJson? reads
  rcases exists_reading intent with ⟨make, makes⟩
  rw [makes given tagged] at reads
  rw [makes other (sameTag.symm.trans tagged), ← Member.readObject?_congr sameFields, reads]

theorem ofJson?_eq_none {lost : Member} (known : lost ∈ intent.form)
    (missing : lost.find? other = none)
    (tagged : lost ≠ tag → tag.find? other = some intent.action) :
    ofJson? (.object other) = none := by
  -- Without the tag nobody knows which members to look for, so the tag is a case of its own.
  rcases List.mem_cons.mp known with rfl | field
  · rw [ofJson?_object, missing]
    rfl
  · have notTag : lost ≠ tag := by
      rintro rfl
      exact intent.tagName_notMem_fields (List.mem_map.mpr ⟨tag, field, rfl⟩)
    rcases exists_reading intent with ⟨make, makes⟩
    rw [makes other (tagged notTag)]
    cases reads : Member.readObject? intent.fields other with
    | none => rfl
    | some values =>
        rcases Member.exists_find?_of_readObject? reads lost field with ⟨value, found⟩
        cases missing.symm.trans found

/-! ## Other spellings of an object -/

theorem tagged_cons_iff {member : Member} (known : member ∈ intent.form) (differ : member ≠ tag)
    (value : Json) (given : List (String × Json)) :
    tag.find? ((member.name, value) :: given) = tag.find? given := by
  refine Member.find?_cons_of_ne given fun same => differ ?_
  exact Member.eq_of_name_eq intent.distinct_form known (List.mem_cons_self ..) same

theorem ofJson?_of_rewrites (reads : ofJson? (.object given) = some intent)
    (rewrites : Member.Rewrites intent.form given other) :
    ofJson? (.object other) = some intent :=
  ofJson?_congr reads (Member.find?_of_rewrites intent.distinct_form
    (fun member known => (intent.regular_form member known).nullIdle) rewrites
    (found_of_ofJson? reads))

theorem ofJson?_of_respelled (reads : ofJson? (.object given) = some intent) {depth : Nat}
    (readable : Json.allMembersReadable depth given = true)
    (respelled : Relation.ReflTransGen (Member.Rewrites intent.form) given other) :
    ofJson? (.object other) = some intent ∧ Json.allMembersReadable depth other = true := by
  induction respelled with
  | refl => exact ⟨reads, readable⟩
  | tail _ rewrites induction =>
      exact ⟨ofJson?_of_rewrites induction.1 rewrites, rewrites.readable induction.2⟩

theorem ofJson?_of_repeats (reads : ofJson? (.object given) = some intent)
    (repeats : Member.Repeats intent.form given other) : ofJson? (.object other) = none := by
  rcases repeats with ⟨member, known, present, value, same⟩
  refine ofJson?_eq_none known ?_ fun differ => ?_
  · rw [← Member.find?_perm same, Member.find?_cons_of_mem present]
  · rw [← Member.find?_perm same, tagged_cons_iff known differ, tagged_of_ofJson? reads]

theorem ofJson?_of_omits (reads : ofJson? (.object given) = some intent)
    (omits : Member.Omits intent.form given other) : ofJson? (.object other) = none := by
  rcases omits with ⟨member, known, required, value, same⟩
  rcases found_of_ofJson? reads member known with ⟨result, found⟩
  rw [Member.find?_perm same] at found
  refine ofJson?_eq_none known ?_ fun differ => ?_
  · rw [(Member.find?_of_find?_cons found).2, required]
  · rw [← tagged_cons_iff known differ value, ← Member.find?_perm same, tagged_of_ofJson? reads]

/-! ## What is written -/

theorem exists_values (intent : Intent) : ∃ values : Member.Values intent.fields,
    intent.members = Member.write intent.fields values := by
  cases intent
  all_goals
    rename_i intent
    exact ⟨Record.toValues _ intent, rfl⟩

theorem ofJson?_toJson (intent : Intent) : ofJson? intent.toJson = some intent := by
  have absent : tagName ∉ intent.members.map Prod.fst := by
    rcases intent.exists_values with ⟨values, written⟩
    rw [written, Member.map_fst_write]
    exact intent.tagName_notMem_fields
  have tagged : tag.find? ((tagName, .string intent.action) :: intent.members) =
      some intent.action := Member.find?_cons_of_notMem absent _
  have untagged : (((tagName, .string intent.action) :: intent.members).filter
      fun entry => entry.1 != tagName) = intent.members := by
    rw [List.filter_cons_of_neg (by simp), List.filter_eq_self]
    intro entry member
    simpa using fun same => absent (List.mem_map.mpr ⟨entry, member, same⟩)
  rw [toJson, ofJson?_object, tagged, untagged]
  exact intent.ofTagged?_members

theorem prints_toJson (intent : Intent) :
    intent.toJson.isSpelled = true ∧ intent.toJson.isReadable Json.depthLimit = true := by
  rcases intent.exists_values with ⟨values, written⟩
  rw [toJson, written]
  exact Member.prints_write (fun member known => (intent.regular_form member known).prints)
    (show Member.Values intent.form from (intent.action, values))

/-! ## Text -/

theorem parse?_eq {text : String} (spells : Json.parse? text = some (.object given)) :
    parse? text =
      if Json.allMembersReadable (Json.depthLimit - 1) given then ofJson? (.object given)
      else none := by
  have readable : (Json.object given).isReadable Json.depthLimit =
      Json.allMembersReadable (Json.depthLimit - 1) given := rfl
  cases reads : Json.allMembersReadable (Json.depthLimit - 1) given with
  | true => simp [parse?, Json.parseReadable?, spells, readable, reads]
  | false => simp [parse?, Json.parseReadable?, spells, readable, reads]

theorem parse?_toText (intent : Intent) : parse? intent.toJson.toText = some intent := by
  rcases intent.prints_toJson with ⟨spelled, readable⟩
  rw [parse?, Json.parseReadable?_toText spelled readable]
  exact intent.ofJson?_toJson

end Intent

theorem PermitRequestIntent.parse?_toText (request : PermitRequestIntent) :
    parse? request.toJson.toText = some request := by
  have prints : ∀ member ∈ IntentRecord.permitRequest.members, member.codec.Prints 1 := by
    simp only [IntentRecord.permitRequest, List.forall_mem_cons]
    exact ⟨Codec.prints_text, Codec.prints_text, Codec.prints_text, Codec.prints_uint64, nofun⟩
  have spelled : request.toJson.isSpelled = true := (Record.prints_codec prints request).1
  rw [parse?, Json.parse?_toText spelled]
  exact IntentRecord.permitRequest.read_write request

/-- Every intent is read back from its text, and so is every request for a permit. A text that is
read as an intent may be spelled in other ways: in another order, without what has its default or is
null, or with plain members that nobody knows. It is not read with a known member given twice, and
not without a required one. -/
theorem Intent.parse?_spellings :
    (∀ intent : Intent, parse? intent.toJson.toText = some intent) ∧
    (∀ request : PermitRequestIntent,
      PermitRequestIntent.parse? request.toJson.toText = some request) ∧
    ∀ (text : String) (given : List (String × Json)) (intent : Intent),
      Json.parse? text = some (.object given) → parse? text = some intent →
      ∀ (respelled : String) (other : List (String × Json)),
        Json.parse? respelled = some (.object other) →
        (Relation.ReflTransGen (Member.Rewrites intent.form) given other →
          parse? respelled = some intent) ∧
        (Member.Repeats intent.form given other → parse? respelled = none) ∧
        (Member.Omits intent.form given other → parse? respelled = none) := by
  refine ⟨parse?_toText, PermitRequestIntent.parse?_toText, ?_⟩
  intro text given intent spells accepted respelled other respells
  rw [parse?_eq spells] at accepted
  rw [parse?_eq respells]
  split at accepted
  case isFalse => cases accepted
  rename_i readable
  refine ⟨fun rewrites => ?_, fun repeats => ?_, fun omits => ?_⟩
  · rcases ofJson?_of_respelled accepted readable rewrites with ⟨reads, stillReadable⟩
    rw [if_pos stillReadable, reads]
  · rw [ofJson?_of_repeats accepted repeats, ite_self]
  · rw [ofJson?_of_omits accepted omits, ite_self]

/-! ### Backwards, without a default, with a remark -/

namespace Intent.Sample

def choice : Intent :=
  .setUsageAsCollateral { user := "0x1", reserve := "0x2", useAsCollateral := true }

def given : List (String × Json) :=
  (tagName, .string choice.action) :: choice.members

def backwards : List (String × Json) :=
  [("remark", .null), ("use_as_collateral", .bool true), ("reserve", .string "0x2"),
    ("user", .string "0x1"), (tagName, .string "set_usage_as_collateral")]

end Intent.Sample

theorem Intent.parse?_spellings_sample :
    parse? (Json.object Sample.backwards).toText = some Sample.choice ∧
    parse? (Json.object (("user", .string "0x1") :: Sample.backwards)).toText = none ∧
    parse? (Json.object Sample.given.tail).toText = none := by
  have spells (members : List (String × Json)) (spelled : (Json.object members).isSpelled = true) :
      Json.parse? (Json.object members).toText = some (.object members) :=
    Json.parse?_toText spelled
  have backwards : Member.Rewrites Sample.choice.form Sample.given Sample.given.reverse :=
    .reorder (List.reverse_perm _).symm
  have shorter : Member.Rewrites Sample.choice.form Sample.given.reverse
      Sample.given.reverse.tail :=
    .leaveOut (List.mem_of_getElem? (i := 4) rfl) rfl (.inl rfl)
  have remarked : Member.Rewrites Sample.choice.form Sample.given.reverse.tail Sample.backwards :=
    .add (by decide) rfl
  have rewrites := ((Relation.ReflTransGen.single backwards).tail shorter).tail remarked
  have accepts := parse?_spellings.2.2 _ Sample.given Sample.choice (spells _ rfl)
    (parse?_spellings.1 Sample.choice)
  have reads := (accepts _ Sample.backwards (spells _ rfl)).1 rewrites
  refine ⟨reads, ?_, (accepts _ _ (spells _ rfl)).2.2 ?_⟩
  · refine (parse?_spellings.2.2 _ _ _ (spells _ rfl) reads _ _ (spells _ rfl)).2.1 ?_
    exact ⟨_, List.mem_of_getElem? (i := 1) rfl, by decide, _, .refl _⟩
  · exact ⟨tag, List.mem_cons_self .., rfl, _, .refl _⟩

end LendingPool
