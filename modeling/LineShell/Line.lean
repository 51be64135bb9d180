/-
  LineShell.Line

  A command line as words. Words are separated by runs of delimiters, and that is all:
  there is no quoting, no escaping and no expansion.
-/
import LineShell.Text.Fields

namespace LineShell.Line

/-- The characters that separate words: blank, tab, carriage return and newline. -/
def delimiters : List Char := [' ', '\t', '\r', '\n']

/-- Whether a character separates words. -/
def isDelimiter (c : Char) : Bool := delimiters.contains c

/-- The words of a line, each the maximal run of characters between delimiters. -/
def tokens (line : String) : List String :=
  (Text.fields isDelimiter line.toList).map String.ofList

end LineShell.Line
