import LendingPool.Json.Parser
import LendingPool.Json.Printer
import LendingPool.Proofs.Bytes.Hexadecimal
/-! Texts as JSON. Whatever characters a text has, it is read back from its spelling. -/

namespace LendingPool.Json

/-! ## Units

A character is never a surrogate, so the units of a text are joined one by one. -/

theorem not_surrogate (c : Char) : ¬ (0xD800 ≤ c.toNat ∧ c.toNat < 0xE000) := by
  have valid := c.valid
  simp only [UInt32.isValidChar, Nat.isValidChar] at valid
  simp only [Char.toNat]
  omega

theorem joinUnits_map_toNat (characters : List Char) :
    joinUnits (characters.map Char.toNat) = some characters := by
  induction characters with
  | nil => rfl
  | cons first characters induction =>
      have whole := not_surrogate first
      cases characters with
      | nil => simp only [List.map_cons, List.map_nil, joinUnits, if_neg whole, Char.ofNat_toNat]
      | cons second characters =>
          have notLeading : ¬ (0xD800 ≤ first.toNat ∧ first.toNat < 0xDC00) := by omega
          have notTrailing : ¬ (0xDC00 ≤ first.toNat ∧ first.toNat < 0xE000) := by omega
          rw [List.map_cons] at induction
          rw [List.map_cons, List.map_cons, joinUnits, if_neg notLeading, if_neg notTrailing,
            induction, Option.map_some, Char.ofNat_toNat]

/-! ## The lexer -/

namespace Lexer

theorem step_plain (units : List Nat) (tokens : List Token) {c : Char} (quote : c ≠ '"')
    (backslash : c ≠ '\\') (printable : ¬ c.toNat < 0x20) :
    step ⟨.text units, tokens⟩ c = some ⟨.text (c.toNat :: units), tokens⟩ := by
  simp [step, quote, backslash, printable]

theorem hexValue?_hexDigit {digit : Nat} (small : digit < 16) :
    Bytes.hexValue? (Bytes.hexDigit digit) = some digit :=
  Bytes.hexValue?_of_spellsDigit small (.inl rfl)

theorem foldlM_code (units : List Nat) (tokens : List Token) {high low : Nat} (small : high < 16)
    (smallLow : low < 16) :
    ['\\', 'u', '0', '0', Bytes.hexDigit high, Bytes.hexDigit low].foldlM step
        ⟨.text units, tokens⟩ =
      some ⟨.text ((high * 16 + low) :: units), tokens⟩ := by
  have zero : Bytes.hexValue? '0' = some 0 := rfl
  simp [step, zero, hexValue?_hexDigit small, hexValue?_hexDigit smallLow]

theorem foldlM_escape (units : List Nat) (tokens : List Token) (c : Char) :
    (escape c).foldlM step ⟨.text units, tokens⟩ = some ⟨.text (c.toNat :: units), tokens⟩ := by
  unfold escape
  split
  case h_8 quote backslash _ _ _ _ _ =>
    split
    · rename_i control
      rw [foldlM_code units tokens (by omega) (Nat.mod_lt _ (by decide)), Nat.div_add_mod']
    · rename_i printable
      rw [List.foldlM_cons, step_plain units tokens quote backslash printable]
      rfl
  all_goals rfl

theorem foldlM_escapes (units : List Nat) (tokens : List Token) (characters : List Char) :
    (characters.flatMap escape).foldlM step ⟨.text units, tokens⟩ =
      some ⟨.text ((characters.map Char.toNat).reverse ++ units), tokens⟩ := by
  induction characters generalizing units with
  | nil => rfl
  | cons c characters induction =>
      rw [List.flatMap_cons, List.foldlM_append, foldlM_escape]
      exact (induction _).trans (by simp)

end Lexer

theorem foldlM_quoted (tokens : List Token) (text : String) :
    (quoted text).foldlM Lexer.step ⟨.between, tokens⟩ =
      some ⟨.between, .text (some text) :: tokens⟩ := by
  have opens : Lexer.step ⟨.between, tokens⟩ '"' = some ⟨.text [], tokens⟩ := rfl
  have closes : Lexer.step ⟨.text (text.toList.map Char.toNat).reverse, tokens⟩ '"' =
      some ⟨.between, .text (some text) :: tokens⟩ := by
    simp [Lexer.step, joinUnits_map_toNat]
  rw [quoted, List.foldlM_append, List.foldlM_cons, opens]
  simp only [Option.bind_eq_bind, Option.bind_some]
  rw [Lexer.foldlM_escapes, List.append_nil, Option.bind_some, List.foldlM_cons, closes]
  rfl

end LendingPool.Json
