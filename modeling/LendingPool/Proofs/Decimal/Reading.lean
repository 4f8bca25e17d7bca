import LendingPool.Proofs.Decimal.Rounding
import Mathlib.Data.List.TakeWhile
/-! Decimals of 96 bits from text. A numeral is held exactly if all its digits find room, and
rounded if they do not. -/

namespace LendingPool.Decimal96

/-! ## Numerals -/

/-- Digits with or without a point, and underscores anywhere behind the first digit. -/
structure Numeral (text whole fraction : List Char) : Prop where
  spells : Spells (String.ofList (text.filter (· != '_'))) whole fraction
  grouped : '_' ∉ text.takeWhile (!·.isDigit)

inductive IsSign : List Char → Bool → Prop
  | none : IsSign [] false
  | plus : IsSign ['+'] false
  | minus : IsSign ['-'] true

/-- What stands behind the mark of an exponent, and how far it moves the point to the right. -/
inductive IsExponent : List Char → Int → Prop
  | right {plus digits : List Char} (sign : plus = [] ∨ plus = ['+']) (some : digits ≠ [])
      (decimal : Digits.all digits = true) : IsExponent (plus ++ digits) (Digits.value digits)
  | left {plus digits : List Char} (sign : plus = [] ∨ plus = ['+']) (some : digits ≠ [])
      (decimal : Digits.all digits = true) :
      IsExponent ('-' :: (plus ++ digits)) (-Digits.value digits)

/-- The decimal that a text spells. A text may go on behind the place at which a number is rounded,
and what stands there counts for nothing. An underscore or another point at this place leaves out
what follows without rounding. -/
inductive IsSpelled (decimal : Decimal96) (text : List Char) : Prop
  | numeral {sign body whole fraction : List Char} {negative : Bool} (parts : text = sign ++ body)
      (isSign : IsSign sign negative) (numeral : Numeral body whole fraction)
      (holds : decimal.Holds negative (decimalValue whole fraction))
  | scientific {sign body exponent whole fraction : List Char} {mark : Char} {negative : Bool}
      {places : Int} (parts : text = sign ++ body ++ mark :: exponent)
      (isSign : IsSign sign negative) (numeral : Numeral body whole fraction)
      (isMark : mark = 'e' ∨ mark = 'E') (isExponent : IsExponent exponent places)
      (exact : decimal.toRat =
        (if negative then -1 else 1) * (decimalValue whole fraction * 10 ^ places))
  | rounded {sign body after whole fraction : List Char} {negative : Bool}
      (parts : text = sign ++ body ++ after) (isSign : IsSign sign negative)
      (numeral : Numeral body whole fraction) (long : ¬ HasRoom whole fraction)
      (rounds : decimal.Rounds negative (decimalValue whole fraction))
  | leftOut {sign body after whole fraction : List Char} {mark : Char} {negative : Bool}
      (parts : text = sign ++ body ++ mark :: after) (isSign : IsSign sign negative)
      (numeral : Numeral body whole fraction) (isMark : mark = '_' ∨ mark = '.')
      (places : fraction.length = 28)
      (exact : decimal.toRat = (if negative then -1 else 1) * decimalValue whole fraction)

/-! ## Reading digit by digit -/

namespace Reading

structure Held (taken whole fraction : List Char) (pointSeen : Bool) : Prop where
  text : taken.filter (· != '_') = whole ++ if pointSeen then '.' :: fraction else fraction
  unseen : pointSeen = false → fraction = []
  whole_digits : Digits.all whole = true
  fraction_digits : Digits.all fraction = true
  grouped : '_' ∉ taken.takeWhile (!·.isDigit)
  room : HasRoom whole fraction

variable {taken whole fraction : List Char} {pointSeen : Bool} {next : Char}

theorem held_nil : Held [] [] [] false :=
  ⟨rfl, fun _ => rfl, rfl, rfl, nofun, by decide, by decide⟩

theorem Held.numeral (held : Held taken whole fraction pointSeen) (some : whole ++ fraction ≠ []) :
    Numeral taken whole fraction := by
  refine ⟨⟨?_, held.whole_digits, held.fraction_digits, ?_⟩, held.grouped⟩
  · rw [String.toList_ofList, held.text]
    cases pointSeen with
    | true => exact .inr rfl
    | false =>
        rw [held.unseen rfl]
        exact .inl ⟨List.append_nil _, rfl⟩
  · simpa [imp_iff_or_not, or_comm] using some

theorem Held.exists_digit (held : Held taken whole fraction pointSeen)
    (some : whole ++ fraction ≠ []) : ∃ digit ∈ taken, digit.isDigit = true := by
  rcases List.exists_mem_of_ne_nil _ some with ⟨digit, member⟩
  refine ⟨digit, ?_, ?_⟩
  · have kept : digit ∈ taken.filter (· != '_') := by
      rw [held.text]
      rcases List.mem_append.mp member with inWhole | inFraction
      · exact List.mem_append_left _ inWhole
      · refine List.mem_append_right _ ?_
        split
        · exact List.mem_cons_of_mem _ inFraction
        · exact inFraction
    exact (List.mem_filter.mp kept).1
  · rcases List.mem_append.mp member with inWhole | inFraction
    · exact List.all_eq_true.mp held.whole_digits digit inWhole
    · exact List.all_eq_true.mp held.fraction_digits digit inFraction

theorem grouped_concat (grouped : '_' ∉ taken.takeWhile (!·.isDigit))
    (behind : next = '_' → ∃ digit ∈ taken, digit.isDigit = true) :
    '_' ∉ (taken ++ [next]).takeWhile (!·.isDigit) := by
  rw [List.takeWhile_append]
  split
  · rename_i none
    have same := (List.takeWhile_prefix _).eq_of_length none
    rw [same] at grouped
    intro member
    rcases List.mem_append.mp member with earlier | last
    · exact grouped earlier
    · have mark := List.mem_singleton.mp ((List.takeWhile_sublist _).mem last)
      rcases behind mark.symm with ⟨digit, among, decimal⟩
      simpa [decimal] using List.takeWhile_eq_self_iff.mp same digit among
  · exact grouped

theorem Held.whole_digit (held : Held taken whole fraction false) (digit : next.isDigit = true)
    (fits : Digits.value (whole ++ fraction ++ [next]) < 2 ^ 96) :
    Held (taken ++ [next]) (whole ++ [next]) fraction false := by
  have other : next ≠ '_' := by
    rintro rfl
    cases digit
  have none := held.unseen rfl
  subst none
  rw [List.append_nil] at fits
  refine ⟨?_, fun _ => rfl, ?_, rfl, grouped_concat held.grouped (absurd · other), ?_, by simp⟩
  · simpa [List.filter_append, other] using held.text
  · rw [Digits.all_append]
    exact ⟨held.whole_digits, by simp [Digits.all, digit]⟩
  · rwa [List.append_nil]

theorem Held.fraction_digit (held : Held taken whole fraction true) (digit : next.isDigit = true)
    (fits : Digits.value (whole ++ fraction ++ [next]) < 2 ^ 96) (place : fraction.length ≠ 28) :
    Held (taken ++ [next]) whole (fraction ++ [next]) true := by
  have other : next ≠ '_' := by
    rintro rfl
    cases digit
  have few := held.room.2
  refine ⟨?_, nofun, held.whole_digits, ?_, grouped_concat held.grouped (absurd · other), ?_, ?_⟩
  · have text := held.text
    rw [if_pos rfl] at text ⊢
    simp [List.filter_append, other, text]
  · rw [Digits.all_append]
    exact ⟨held.fraction_digits, by simp [Digits.all, digit]⟩
  · rwa [← List.append_assoc]
  · rw [List.length_append, List.length_singleton]
    omega

theorem Held.point (held : Held taken whole fraction false) :
    Held (taken ++ ['.']) whole fraction true := by
  refine ⟨?_, nofun, held.whole_digits, held.fraction_digits,
    grouped_concat held.grouped (nomatch ·), held.room⟩
  have text := held.text
  rw [held.unseen rfl] at text ⊢
  simpa [List.filter_append] using text

theorem Held.underscore (held : Held taken whole fraction pointSeen)
    (some : whole ++ fraction ≠ []) : Held (taken ++ ['_']) whole fraction pointSeen :=
  ⟨by simpa [List.filter_append] using held.text, held.unseen, held.whole_digits,
    held.fraction_digits, grouped_concat held.grouped fun _ => held.exists_digit some, held.room⟩

theorem holding_whole_digit (whole : List Char) (next : Char) :
    holding (whole ++ [next]) [] false = ⟨Digits.value (whole ++ [next]), 0, false, true⟩ := by
  rw [holding, List.append_nil]
  simp

theorem holding_fraction_digit (whole fraction : List Char) (next : Char) :
    holding whole (fraction ++ [next]) true =
      ⟨Digits.value (whole ++ fraction ++ [next]), fraction.length + 1, true, true⟩ := by
  rw [holding, ← List.append_assoc]
  simp

theorem finish_digit (pointSeen : Bool) (place : fraction.length ≠ 28)
    (digit : next.isDigit = true) (rest : List Char) :
    finish (holding whole fraction pointSeen) (next :: rest) =
      if Digits.value (whole ++ fraction ++ [next]) < 2 ^ 96 then
        finish ⟨Digits.value (whole ++ fraction ++ [next]),
          if pointSeen then fraction.length + 1 else fraction.length, pointSeen, true⟩ rest
      else if pointSeen then (holding whole fraction pointSeen).roundAt next else none := by
  have longer : Digits.value (whole ++ fraction ++ [next]) =
      Digits.value (whole ++ fraction) * 10 + (next.toNat - '0'.toNat) := by
    rw [Digits.value_append _ [next]]
    simp [Digits.value]
  have here : (holding whole fraction pointSeen).scale ≠ 28 := place
  rw [finish, if_neg here, if_pos digit, longer]
  rfl

/-- What one more character does: it is taken in, it decides how what has been read is rounded, or
nothing can be read. -/
theorem finish_step (held : Held taken whole fraction pointSeen) (next : Char) :
    (∃ whole' fraction' pointSeen', Held (taken ++ [next]) whole' fraction' pointSeen' ∧
      ∀ rest, finish (holding whole fraction pointSeen) (next :: rest) =
        finish (holding whole' fraction' pointSeen') rest) ∨
    (pointSeen = true ∧
      (fraction.length = 28 ∨
        next.isDigit = true ∧ 2 ^ 96 ≤ Digits.value (whole ++ fraction ++ [next])) ∧
      ∀ rest, finish (holding whole fraction pointSeen) (next :: rest) =
        (holding whole fraction true).roundAt next) ∨
    ∀ rest, finish (holding whole fraction pointSeen) (next :: rest) = none := by
  by_cases full : fraction.length = 28
  · cases pointSeen with
    | true => exact .inr (.inl ⟨rfl, .inl full, fun rest => by rw [finish]; exact if_pos full⟩)
    | false =>
        rw [held.unseen rfl] at full
        cases full
  by_cases digit : next.isDigit = true
  · have reads : ∀ rest, finish (holding whole fraction pointSeen) (next :: rest) = _ :=
      finish_digit pointSeen full digit
    by_cases fits : Digits.value (whole ++ fraction ++ [next]) < 2 ^ 96
    · left
      simp only [if_pos fits] at reads
      cases pointSeen with
      | false =>
          have taking := held.whole_digit digit fits
          have none := held.unseen rfl
          subst none
          refine ⟨_, _, _, taking, fun rest => (reads rest).trans ?_⟩
          rw [holding_whole_digit, List.append_nil]
          rfl
      | true =>
          refine ⟨_, _, _, held.fraction_digit digit fits full, fun rest => (reads rest).trans ?_⟩
          rw [holding_fraction_digit]
          rfl
    · right
      simp only [if_neg fits] at reads
      cases pointSeen with
      | false => exact .inr reads
      | true => exact .inl ⟨rfl, .inr ⟨digit, not_lt.mp fits⟩, reads⟩
  · have here : (holding whole fraction pointSeen).scale ≠ 28 := full
    by_cases point : (next == '.' && !pointSeen) = true
    · rcases Bool.and_eq_true_iff.mp point with ⟨mark, unseen⟩
      cases eq_of_beq mark
      have unseen : pointSeen = false := by simpa using unseen
      subst unseen
      refine .inl ⟨_, _, _, held.point, fun rest => ?_⟩
      rw [finish, if_neg here, if_neg digit]
      exact if_pos point
    · by_cases underscore : (next == '_' && !(whole ++ fraction).isEmpty) = true
      · rcases Bool.and_eq_true_iff.mp underscore with ⟨mark, some⟩
        cases eq_of_beq mark
        refine .inl ⟨_, _, _, held.underscore (by simpa using some), fun rest => ?_⟩
        rw [finish, if_neg here, if_neg digit]
        exact (if_neg point).trans (if_pos underscore)
      · refine .inr (.inr fun rest => ?_)
        rw [finish, if_neg here, if_neg digit]
        exact (if_neg point).trans (if_neg underscore)

/-- Either everything is read and finds room, or some character decides how what stands before it
is rounded, whatever comes after. -/
theorem finish_cases {rest : List Char} {result : Nat × Nat}
    (held : Held taken whole fraction pointSeen)
    (reads : finish (holding whole fraction pointSeen) rest = some result) :
    (∃ whole fraction, Numeral (taken ++ rest) whole fraction ∧ HasRoom whole fraction ∧
      result = (Digits.value (whole ++ fraction), fraction.length)) ∨
    ∃ more next after whole' fraction', rest = more ++ next :: after ∧
      Held (taken ++ more) whole' fraction' true ∧
      (fraction'.length = 28 ∨
        next.isDigit = true ∧ 2 ^ 96 ≤ Digits.value (whole' ++ fraction' ++ [next])) ∧
      (holding whole' fraction' true).roundAt next = some result ∧
      ∀ other, finish (holding whole fraction pointSeen) (more ++ next :: other) = some result := by
  induction rest generalizing taken whole fraction pointSeen with
  | nil =>
      left
      by_cases none : whole ++ fraction = []
      · rw [finish, holding, none] at reads
        cases reads
      · have some : (!(whole ++ fraction).isEmpty) = true := by simpa using none
        rw [finish, holding, if_pos some] at reads
        rw [List.append_nil]
        exact ⟨whole, fraction, held.numeral none, held.room, (Option.some.inj reads).symm⟩
  | cons next rest induction =>
      rcases finish_step held next with
        ⟨whole', fraction', seen, taking, steps⟩ | ⟨rfl, decides, stops⟩ | stops
      · rw [steps] at reads
        rcases induction taking reads with
          ⟨whole, fraction, numeral, room, rfl⟩ |
            ⟨more, decider, after, last, behind, rfl, heldLast, decides, rounds, same⟩
        · rw [List.append_assoc] at numeral
          exact .inl ⟨whole, fraction, numeral, room, rfl⟩
        · rw [List.append_assoc] at heldLast
          exact .inr ⟨next :: more, decider, after, last, behind, rfl, heldLast, decides, rounds,
            fun other => (steps _).trans (same other)⟩
      · rw [stops] at reads
        refine .inr ⟨[], next, rest, whole, fraction, rfl, ?_, decides, reads, fun other => ?_⟩
        · rwa [List.append_nil]
        · exact (stops other).trans reads
      · rw [stops] at reads
        cases reads

theorem Held.numeral_digit (held : Held taken whole fraction true) (digit : next.isDigit = true) :
    Numeral (taken ++ [next]) whole (fraction ++ [next]) := by
  have other : next ≠ '_' := by
    rintro rfl
    cases digit
  refine ⟨⟨.inr ?_, held.whole_digits, ?_, .inr (by simp)⟩,
    grouped_concat held.grouped (absurd · other)⟩
  · have text := held.text
    rw [if_pos rfl] at text
    simp [List.filter_append, other, text]
  · rw [Digits.all_append]
    exact ⟨held.fraction_digits, by simp [Digits.all, digit]⟩

theorem Held.numeral_after {after whole' fraction' : List Char}
    (held : Held taken whole fraction true) (other : next ≠ '_')
    (numeral : Numeral (taken ++ next :: after) whole' fraction') :
    ∃ more, Digits.all (next :: more) = true ∧ whole' = whole ∧
      fraction' = fraction ++ next :: more := by
  have point : '.' ∉ whole := fun member =>
    nomatch List.all_eq_true.mp held.whole_digits '.' member
  have text := held.text
  rw [if_pos rfl] at text
  have parts := numeral.spells.splitAt_eq
  rw [String.toList_ofList, List.filter_append, text, List.append_assoc, List.cons_append,
    Digits.splitAt_append_mark point, List.filter_cons_of_pos (by simpa using other)] at parts
  rcases parts with ⟨rfl, rfl⟩
  have digits := numeral.spells.fraction_digits
  rw [Option.getD_some, Digits.all_append] at digits
  exact ⟨_, digits.2, rfl, rfl⟩

theorem isSpelled_of_finish {sign body : List Char} {negative : Bool} {mantissa scale : Nat}
    (isSign : IsSign sign negative)
    (reads : finish ⟨0, 0, false, false⟩ body = some (mantissa, scale)) :
    (ofParts negative mantissa scale).IsSpelled (sign ++ body) := by
  rcases finish_cases held_nil reads with
    ⟨whole, fraction, numeral, room, result⟩ |
      ⟨taken, next, after, whole, fraction, rfl, held, decides, rounds, -⟩
  · cases result
    refine .numeral rfl isSign numeral (.inl ?_)
    rw [toRat_ofParts _ room.1 room.2, decimalValue_eq_toRat, DecimalAmount.toRat]
  · rw [List.nil_append] at held
    rcases isDigit_or_mark_of_roundAt rounds with digit | mark
    · have decided := decides.imp_right And.right
      by_cases whole : ∃ whole fraction, Numeral (taken ++ next :: after) whole fraction
      · rcases whole with ⟨_, _, numeral⟩
        have other : next ≠ '_' := by
          rintro rfl
          cases digit
        rcases held.numeral_after other numeral with ⟨more, decimal, rfl, rfl⟩
        rw [Digits.all, List.all_cons, Bool.and_eq_true] at decimal
        exact .numeral rfl isSign numeral
          (.inr (rounds_of_roundAt negative digit decimal.2 held.room decided rounds))
      · have parts : sign ++ (taken ++ next :: after) = sign ++ (taken ++ [next]) ++ after := by
          simp
        refine .rounded parts isSign (held.numeral_digit digit) ?_
          (rounds_of_roundAt negative digit rfl held.room decided rounds)
        rw [HasRoom, List.length_append, List.length_singleton, ← List.append_assoc]
        omega
    · have places : fraction.length = 28 := by
        refine decides.resolve_right ?_
        rintro ⟨digit, -⟩
        rcases mark with rfl | rfl <;> cases digit
      have some : whole ++ fraction ≠ [] := by
        refine List.append_ne_nil_of_right_ne_nil _ (List.ne_nil_of_length_pos ?_)
        omega
      rw [roundAt_of_mark _ mark] at rounds
      cases rounds
      refine .leftOut (List.append_assoc ..).symm isSign (held.numeral some) mark places ?_
      rw [holding, toRat_ofParts _ held.room.1 held.room.2, decimalValue_eq_toRat,
        DecimalAmount.toRat]

end Reading

/-! ## Texts -/

section Texts

variable {text : List Char} {decimal : Decimal96}

theorem ofPlain?_of_finish {sign body : List Char} {negative : Bool} {mantissa scale : Nat}
    (isSign : IsSign sign negative)
    (reads : Reading.finish ⟨0, 0, false, false⟩ body = some (mantissa, scale)) :
    ofPlain? (sign ++ body) = some (ofParts negative mantissa scale) := by
  cases isSign with
  | none =>
      rw [List.nil_append, ofPlain?, reads]
      · rfl
      · rintro rest rfl
        cases reads
      · rintro rest rfl
        cases reads
  | plus | minus =>
      change (Reading.finish ⟨0, 0, false, false⟩ body).bind _ = _
      rw [reads]
      rfl

theorem exists_finish_of_ofPlain? (reads : ofPlain? text = some decimal) :
    ∃ sign body negative mantissa scale, text = sign ++ body ∧ IsSign sign negative ∧
      Reading.finish ⟨0, 0, false, false⟩ body = some (mantissa, scale) ∧
      decimal = ofParts negative mantissa scale := by
  unfold ofPlain? at reads
  dsimp only at reads
  split at reads <;> rename_i signed <;> rcases Option.bind_eq_some_iff.mp reads with
    ⟨⟨mantissa, scale⟩, finishes, same⟩ <;> cases same
  · exact ⟨['-'], signed, true, mantissa, scale, rfl, .minus, finishes, rfl⟩
  · exact ⟨['+'], signed, false, mantissa, scale, rfl, .plus, finishes, rfl⟩
  · exact ⟨[], text, false, mantissa, scale, rfl, .none, finishes, rfl⟩

theorem toRat_of_shiftLeft? {shifted : Decimal96} {places : Nat}
    (shifts : decimal.shiftLeft? places = some shifted) :
    shifted.toRat = decimal.toRat * 10 ^ (-(places : Int)) := by
  rw [shiftLeft?] at shifts
  rcases Option.bind_eq_some_iff.mp shifts with ⟨_, room, same⟩
  have few : decimal.scale.val + places ≤ 28 := by
    by_contra many
    rw [guard, if_neg (by tauto)] at room
    cases room
  cases same
  have place : (Fin.ofNat 29 (decimal.scale.val + places)).val = decimal.scale.val + places :=
    Nat.mod_eq_of_lt (by omega)
  rw [toRat, toRat, place, pow_add, zpow_neg, zpow_natCast]
  field_simp

theorem toRat_of_shiftRight? {shifted : Decimal96} {places : Nat}
    (shifts : decimal.shiftRight? places = some shifted) :
    shifted.toRat = decimal.toRat * 10 ^ places := by
  rw [shiftRight?] at shifts
  split at shifts
  · rename_i few
    cases shifts
    have place : (Fin.ofNat 29 (decimal.scale.val - places)).val = decimal.scale.val - places :=
      Nat.mod_eq_of_lt (by omega)
    have power : (10 : ℚ) ^ decimal.scale.val =
        10 ^ (decimal.scale.val - places) * 10 ^ places := by
      rw [← pow_add, Nat.sub_add_cancel few]
    rw [toRat, toRat, place, power]
    field_simp
  · rename_i many
    rcases Option.bind_eq_some_iff.mp shifts with ⟨_, -, more⟩
    rcases Option.bind_eq_some_iff.mp more with ⟨_, room, same⟩
    have fits : decimal.mantissa.toNat * 10 ^ (places - decimal.scale.val) < 2 ^ 96 := by
      by_contra large
      rw [guard, if_neg large] at room
      cases room
    cases same
    have power : (10 : ℚ) ^ places =
        10 ^ (places - decimal.scale.val) * 10 ^ decimal.scale.val := by
      rw [← pow_add, Nat.sub_add_cancel (by omega)]
    rw [toRat_ofParts _ fits (by omega), toRat, power]
    push_cast
    field_simp

theorem exists_digits_of_value? {digits : List Char} {value : Nat}
    (reads : Digits.value? digits = some value) :
    digits ≠ [] ∧ Digits.all digits = true ∧ Digits.value digits = value := by
  rw [Digits.value?] at reads
  split at reads
  · rename_i proper
    rw [Bool.and_eq_true] at proper
    exact ⟨by simpa using proper.1, proper.2, Option.some.inj reads⟩
  · cases reads

theorem exists_digits_of_exponent? {places : Nat} (reads : exponent? text = some places) :
    ∃ plus digits, text = plus ++ digits ∧ (plus = [] ∨ plus = ['+']) ∧ digits ≠ [] ∧
      Digits.all digits = true ∧ Digits.value digits = places := by
  unfold exponent? at reads
  rcases Option.bind_eq_some_iff.mp reads with ⟨value, digits, rest⟩
  rcases Option.bind_eq_some_iff.mp rest with ⟨_, -, same⟩
  cases same
  split at digits
  · exact ⟨['+'], _, rfl, .inr rfl, exists_digits_of_value? digits⟩
  · exact ⟨[], _, rfl, .inl rfl, exists_digits_of_value? digits⟩

theorem exact_of_ofPlain? {after : List Char} (reads : ofPlain? text = some decimal)
    (lost : ofPlain? (text ++ after) = none) :
    ∃ sign body whole fraction negative, text = sign ++ body ∧ IsSign sign negative ∧
      Numeral body whole fraction ∧
      decimal.toRat = (if negative then -1 else 1) * decimalValue whole fraction := by
  rcases exists_finish_of_ofPlain? reads with
    ⟨sign, body, negative, mantissa, scale, rfl, isSign, finishes, rfl⟩
  rcases Reading.finish_cases Reading.held_nil finishes with
    ⟨whole, fraction, numeral, room, result⟩ | ⟨more, next, rest, _, _, rfl, -, -, -, same⟩
  · cases result
    refine ⟨sign, body, whole, fraction, negative, rfl, isSign, numeral, ?_⟩
    rw [toRat_ofParts _ room.1 room.2, decimalValue_eq_toRat, DecimalAmount.toRat]
  · have found := ofPlain?_of_finish isSign (same (rest ++ after))
    rw [List.append_assoc, List.append_assoc, List.cons_append, found] at lost
    cases lost

theorem isSpelled_of_ofScientific? (lost : ofPlain? text = none)
    (reads : ofScientific? text = some decimal) : decimal.IsSpelled text := by
  unfold ofScientific? at reads
  dsimp only at reads
  rcases Option.bind_eq_some_iff.mp reads with ⟨base, plain, moves⟩
  have parts : text.takeWhile (fun next => !(next == 'e' || next == 'E')) ++
      text.dropWhile (fun next => !(next == 'e' || next == 'E')) = text :=
    List.takeWhile_append_dropWhile
  have marks := List.head?_dropWhile_not (fun next => !(next == 'e' || next == 'E')) text
  generalize text.takeWhile (fun next => !(next == 'e' || next == 'E')) = before at plain parts
  generalize text.dropWhile (fun next => !(next == 'e' || next == 'E')) = behind
    at moves parts marks
  subst parts
  rcases exact_of_ofPlain? plain lost with
    ⟨sign, body, whole, fraction, negative, rfl, isSign, numeral, exact⟩
  rcases behind with _ | ⟨mark, exponent⟩
  · cases moves
  · have isMark : mark = 'e' ∨ mark = 'E' := by simpa [or_iff_not_imp_left] using marks
    split at moves
    · contradiction
    · rename_i same
      cases same
      rcases Option.bind_eq_some_iff.mp moves with ⟨places, exponent, shifts⟩
      rcases exists_digits_of_exponent? exponent with
        ⟨plus, digits, rfl, plusSign, some, decimal, rfl⟩
      refine .scientific rfl isSign numeral isMark (.left plusSign some decimal) ?_
      rw [toRat_of_shiftLeft? shifts, exact, mul_assoc]
    · rename_i same
      cases same
      rcases Option.bind_eq_some_iff.mp moves with ⟨places, exponent, shifts⟩
      rcases exists_digits_of_exponent? exponent with
        ⟨plus, digits, rfl, plusSign, some, decimal, rfl⟩
      refine .scientific rfl isSign numeral isMark (.right plusSign some decimal) ?_
      rw [toRat_of_shiftRight? shifts, exact, mul_assoc, zpow_natCast]

theorem isSpelled_of_ofText? {text : String} (reads : ofText? text = some decimal) :
    decimal.IsSpelled text.toList := by
  rw [ofText?] at reads
  cases plain : ofPlain? text.toList with
  | none =>
      rw [plain] at reads
      exact isSpelled_of_ofScientific? plain reads
  | some other =>
      rw [plain] at reads
      cases reads
      rcases exists_finish_of_ofPlain? plain with
        ⟨sign, body, negative, mantissa, scale, same, isSign, finishes, rfl⟩
      rw [same]
      exact Reading.isSpelled_of_finish isSign finishes

end Texts

end LendingPool.Decimal96
