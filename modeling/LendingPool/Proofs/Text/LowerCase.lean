import LendingPool.Text.LowerCase
import Mathlib.Data.List.Basic
/-! Lower case and the letters of ASCII. Texts that differ only in the case of such letters have the
same lower case. A sigma could tell them apart by what stands around it, but it asks no more than
whether that has a case, and an ASCII letter has one either way. -/

namespace LendingPool

/-! ## Characters -/

/-- A character stays as it is unless it is one of the 26 capitals of ASCII. -/
theorem toLower_cases {motive : Char → Char → Prop} (same : ∀ c, motive c c)
    (capitals : ∀ letter : Fin 26,
      motive (Char.ofNat (65 + letter)) (Char.ofNat (65 + letter)).toLower)
    (c : Char) : motive c c.toLower := by
  by_cases capital : 65 ≤ c.toNat ∧ c.toNat ≤ 90
  · have letter := capitals ⟨c.toNat - 65, by omega⟩
    rwa [Nat.add_sub_cancel' capital.1, Char.ofNat_toNat] at letter
  · have stays : c.toLower = c := dif_neg fun within => capital within
    rw [stays]
    exact same c

theorem toLower_eq_iff {mark : Char} (noLetter : mark.isAlpha = false) (c : Char) :
    c.toLower = mark ↔ c = mark := by
  have letters : ∀ letter : Fin 26, (Char.ofNat (65 + letter)).isAlpha = true ∧
      (Char.ofNat (65 + letter)).toLower.isAlpha = true := by decide
  refine toLower_cases (motive := fun c lower => lower = mark ↔ c = mark)
    (fun _ => Iff.rfl) (fun letter => ?_) c
  rcases letters letter with ⟨capital, lower⟩
  constructor <;> rintro rfl
  · rw [lower] at noLetter
    cases noLetter
  · rw [capital] at noLetter
    cases noLetter

theorem lowerCaseOf_toLower (c : Char) : lowerCaseOf c.toLower = lowerCaseOf c :=
  toLower_cases (motive := fun c lower => lowerCaseOf lower = lowerCaseOf c)
    (fun _ => rfl) (by decide +kernel) c

theorem isCaseIgnorable_toLower (c : Char) :
    inRanges caseIgnorableRanges c.toLower = inRanges caseIgnorableRanges c :=
  toLower_cases (motive := fun c lower =>
    inRanges caseIgnorableRanges lower = inRanges caseIgnorableRanges c)
    (fun _ => rfl) (by decide +kernel) c

theorem isCased_toLower (c : Char) : inRanges casedRanges c.toLower = inRanges casedRanges c :=
  toLower_cases (motive := fun c lower => inRanges casedRanges lower = inRanges casedRanges c)
    (fun _ => rfl) (by decide +kernel) c

/-! ## Texts -/

theorem beginsCased_cons (c : Char) (rest : List Char) :
    beginsCased (c :: rest) =
      if inRanges caseIgnorableRanges c then beginsCased rest else inRanges casedRanges c := by
  rw [beginsCased, List.dropWhile_cons]
  by_cases ignorable : inRanges caseIgnorableRanges c = true
  · rw [if_pos ignorable, if_pos ignorable]
    rfl
  · rw [if_neg ignorable, if_neg ignorable]

theorem beginsCased_map_toLower (text : List Char) :
    beginsCased (text.map Char.toLower) = beginsCased text := by
  induction text with
  | nil => rfl
  | cons c rest induction =>
      rw [List.map_cons, beginsCased_cons, beginsCased_cons, isCaseIgnorable_toLower,
        isCased_toLower, induction]

theorem sigmaBetween_map_toLower (before after : List Char) :
    sigmaBetween (before.map Char.toLower) (after.map Char.toLower) =
      sigmaBetween before after := by
  rw [sigmaBetween, sigmaBetween, beginsCased_map_toLower, beginsCased_map_toLower]

theorem lowerCaseAfter_cons_sigma (before rest : List Char) :
    lowerCaseAfter before ('Σ' :: rest) =
      sigmaBetween before rest :: lowerCaseAfter ('Σ' :: before) rest :=
  rfl

theorem lowerCaseAfter_cons_dotted (before rest : List Char) :
    lowerCaseAfter before ('İ' :: rest) =
      'i' :: '\u0307' :: lowerCaseAfter ('İ' :: before) rest :=
  rfl

theorem lowerCaseAfter_cons_of_plain {c : Char} (sigma : c ≠ 'Σ') (dotted : c ≠ 'İ')
    (before rest : List Char) :
    lowerCaseAfter before (c :: rest) = lowerCaseOf c :: lowerCaseAfter (c :: before) rest := by
  simp [lowerCaseAfter]

theorem lowerCaseAfter_map_toLower (before text : List Char) :
    lowerCaseAfter (before.map Char.toLower) (text.map Char.toLower) =
      lowerCaseAfter before text := by
  induction text generalizing before with
  | nil => rfl
  | cons c rest induction =>
      have later := induction (c :: before)
      rw [List.map_cons] at later ⊢
      by_cases sigma : c = 'Σ'
      · have stays : c.toLower = 'Σ' := (toLower_eq_iff (by decide) c).mpr sigma
        rw [stays, sigma] at later
        rw [stays, sigma, lowerCaseAfter_cons_sigma, lowerCaseAfter_cons_sigma,
          sigmaBetween_map_toLower, later]
      · by_cases dotted : c = 'İ'
        · have stays : c.toLower = 'İ' := (toLower_eq_iff (by decide) c).mpr dotted
          rw [stays, dotted] at later
          rw [stays, dotted, lowerCaseAfter_cons_dotted, lowerCaseAfter_cons_dotted, later]
        · have lowSigma : c.toLower ≠ 'Σ' := mt (toLower_eq_iff (by decide) c).mp sigma
          have lowDotted : c.toLower ≠ 'İ' := mt (toLower_eq_iff (by decide) c).mp dotted
          rw [lowerCaseAfter_cons_of_plain lowSigma lowDotted,
            lowerCaseAfter_cons_of_plain sigma dotted, lowerCaseOf_toLower, later]

theorem lowerCase_map_toLower (text : List Char) :
    lowerCase (text.map Char.toLower) = lowerCase text :=
  lowerCaseAfter_map_toLower [] text

end LendingPool
