/-!
# The first line of a text

A line ends at a line feed. A carriage return in front of the line feed belongs to the line break; a
carriage return in any other place is an ordinary character. The empty text has no line at all.
-/

namespace Dramaturgy.Text

/-- Drops one carriage return at the end. -/
def dropReturn (line : List Char) : List Char :=
  if line.getLast? = some '\r' then line.dropLast else line

/-- The first line of a text that is not empty, without its line break. -/
def firstLine? (s : List Char) : Option (List Char) :=
  if s.isEmpty then
    none
  else
    let line := s.takeWhile (· != '\n')
    some (if line.length = s.length then line else dropReturn line)

/-- The first `n` characters, and three dots in place of the rest if there is one. -/
def shorten (n : Nat) (s : List Char) : List Char :=
  if s.length > n then s.take n ++ ['.', '.', '.'] else s

end Dramaturgy.Text
