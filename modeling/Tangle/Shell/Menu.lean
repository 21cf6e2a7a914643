import Tangle.Shell.Octets
/-!
# Menus

A menu shows words with their numbers, in columns if they are short
(`Menu.lines`). Numbers go down the columns, and all numbers of a column
have the same width.
-/

namespace Tangle

namespace Shell

namespace Menu

/-- The places between two tabs. -/
def tabWidth : Nat := 8

/-- The blanks from one place of a line to another, with tabs where they
fit. -/
def gap : Nat → Nat → Nat → Octets
  | 0, _, _ => []
  | fuel + 1, start, stop =>
    if stop ≤ start then []
    else if start / tabWidth < stop / tabWidth then '\t' :: gap fuel (start + tabWidth - start % tabWidth) stop
    else ' ' :: gap fuel (start + 1) stop

/-- The number of digits of a number. -/
def digits (n : Nat) : Nat := (toString n).length

/-- The number of parts of a given size that hold so many. -/
def parts (count size : Nat) : Nat := (count + size - 1) / size

/-- A row from a word on: the words `rows` apart, each with its number in
`width` places, but in `first` places at the front of the row. `cell` is the
width of a column and `start` the place where the word stands. -/
def row (words : List Octets) (rows first width cell : Nat) : Nat → Nat → Nat → Octets
  | 0, _, _ => []
  | fuel + 1, n, start =>
    match words[n]? with
    | none => []
    | some w =>
      let numberWidth := if start = 0 then first else width
      let number := (toString (n + 1)).toList
      let shown := List.replicate (numberWidth - number.length) ' ' ++ number ++ [')', ' '] ++ w
      if words.length ≤ n + rows then shown
      else
        let stop := start + numberWidth + 2 + (Octets.chars w).length
        shown ++ gap cell stop (start + cell) ++ row words rows first width cell fuel (n + rows) (start + cell)

/-- The menu of words on lines that have so many places. -/
def lines (places : Nat) (words : List Octets) : Octets :=
  let count := words.length
  let longest := (words.map fun w => (Octets.chars w).length).foldl max 0
  let cell := longest + digits count + 4
  let rows := parts count (max 1 (places / cell))
  let rows := if rows = 1 then parts count rows else rows
  (List.range rows).flatMap fun r => row words rows (digits rows) (digits count) cell count r 0 ++ ['\n']

end Menu

end Shell

end Tangle
