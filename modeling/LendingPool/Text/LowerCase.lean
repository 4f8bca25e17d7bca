import LendingPool.Text.CaseTable
/-! Lower case of texts in any script. Only two characters need more than a look at the table: the
dotted capital I, which becomes two characters, and the capital sigma, which has a form of its own
at the end of a word. -/

namespace LendingPool

def lowerCaseOf (c : Char) : Char :=
  match caseRuns.find? fun run => c.toNat ≤ run.last with
  | some run =>
      if run.first ≤ c.toNat ∧ (c.toNat - run.first) % run.step = 0 then
        Char.ofNat (c.toNat + run.shift).toNat
      else c
  | none => c

def inRanges (ranges : List (Nat × Nat)) (c : Char) : Bool :=
  match ranges.find? fun range => c.toNat ≤ range.2 with
  | some range => range.1 ≤ c.toNat
  | none => false

def beginsCased (text : List Char) : Bool :=
  match text.dropWhile (inRanges caseIgnorableRanges) with
  | c :: _ => inRanges casedRanges c
  | [] => false

/-- The form of a sigma between what is before it, in reverse, and what is after it. -/
def sigmaBetween (before after : List Char) : Char :=
  if beginsCased before && !beginsCased after then 'ς' else 'σ'

/-- The lower case of a text that follows `before`, which is given in reverse. -/
def lowerCaseAfter (before : List Char) : List Char → List Char
  | [] => []
  | c :: rest =>
      let lower := match c with
        | 'Σ' => [sigmaBetween before rest]
        | 'İ' => ['i', '\u0307']
        | c => [lowerCaseOf c]
      lower ++ lowerCaseAfter (c :: before) rest

def lowerCase (text : List Char) : List Char :=
  lowerCaseAfter [] text

example : lowerCase ['A', 'b', '1'] = ['a', 'b', '1'] := by decide +kernel

example : lowerCase ['Σ', 'Α', 'Σ'] = ['σ', 'α', 'ς'] := by decide +kernel

end LendingPool
