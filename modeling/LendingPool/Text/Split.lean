/-! Texts in parts between marks. -/

namespace LendingPool

/-- The parts between the occurrences of a mark, from left to right. There is always one, and any
of them may be empty. -/
def splitAll (mark : Char) : List Char → List (List Char)
  | [] => [[]]
  | c :: rest =>
      if c = mark then [] :: splitAll mark rest
      else match splitAll mark rest with
        | part :: parts => (c :: part) :: parts
        | [] => [[c]]

example : splitAll '.' ['a', '.', '.', 'b'] = [['a'], [], ['b']] := rfl

example : splitAll '.' [] = [[]] := rfl

end LendingPool
