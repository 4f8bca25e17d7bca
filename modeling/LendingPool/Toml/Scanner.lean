/-! Reading a text from the front. A scanner takes what it understands and leaves the rest. -/

namespace LendingPool

abbrev Scanner := StateT (List Char) Option

namespace Scanner

variable {α : Type}

def peek : Scanner (Option Char) :=
  return (← get).head?

def takeIf (accepts : Char → Bool) : Scanner Char := do
  match ← get with
  | c :: rest => if accepts c then do set rest; return c else failure
  | [] => failure

def expect (c : Char) : Scanner Unit :=
  discard (takeIf (· == c))

def expectAll (text : List Char) : Scanner Unit :=
  text.forM expect

def takeWhile (accepts : Char → Bool) : Scanner (List Char) :=
  modifyGet fun text => (text.takeWhile accepts, text.dropWhile accepts)

def takeSome (accepts : Char → Bool) : Scanner (List Char) := do
  let run ← takeWhile accepts
  guard (!run.isEmpty)
  return run

def takeExactly (count : Nat) (accepts : Char → Bool) : Scanner (List Char) := do
  let text ← get
  let run := text.take count
  guard (run.length = count && run.all accepts)
  set (text.drop count)
  return run

def opt (scanner : Scanner α) : Scanner (Option α) :=
  (some <$> scanner) <|> pure none

def many (scanner : Scanner α) : (limit : Nat) → Scanner (List α)
  | 0 => pure []
  | limit + 1 => do
      match ← opt scanner with
      | none => pure []
      | some value => return value :: (← many scanner limit)

/-- Repeats a scanner as often as it succeeds. It has to take something every time. -/
def manyWhole (scanner : Scanner α) : Scanner (List α) := do
  many scanner (← get).length

def separated (scanner : Scanner α) (separator : Scanner Unit) : Scanner (List α) := do
  let first ← scanner
  return first :: (← manyWhole (do separator; scanner))

end Scanner

end LendingPool
