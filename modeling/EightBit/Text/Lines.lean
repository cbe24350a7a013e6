/-!
# Lines

A line ends at a line feed; a carriage return right before the line feed belongs to the end of
the line. What follows the last line feed is a line too, unless it is empty.
-/

namespace EightBit.Lines

/-- A line without the carriage return that belongs to its end. -/
def dropReturn (line : List Char) : List Char :=
  if line.getLast? = some '\r' then line.dropLast else line

/-- Splits a text into its lines, `line` being what is already read of the first, in reverse. -/
def splitFrom (line : List Char) : List Char → List (List Char)
  | [] => if line.isEmpty then [] else [line.reverse]
  | '\n' :: rest => dropReturn line.reverse :: splitFrom [] rest
  | c :: rest => splitFrom (c :: line) rest

/-- The lines of a text, without their ends. -/
def split (text : List Char) : List (List Char) :=
  splitFrom [] text

end EightBit.Lines
