/-
  LineShell.Machine.Options

  The options in front of, or among, the arguments of a program: letters behind a single
  dash, any number of them together, and words behind two dashes, which may be cut short.
-/
import LineShell.Text.Quoted

namespace LineShell.Machine

/-- Whether an option takes a value. -/
inductive Options.Value where
  | never
  /-- Only in the same argument. -/
  | maybe
  /-- In the same argument or in the next one. -/
  | always
  deriving DecidableEq, Repr

/-- The options that a program knows. -/
structure Options where
  letters : List (Char × Options.Value)
  /-- The words, and the name by which each option is reported. -/
  words : List (String × Options.Value × String)

namespace Options

/-- An option that was read. -/
structure Found where
  /-- The letter, or the name by which a word is reported. -/
  name : String
  value : Option String := none
  /-- The argument that holds it. -/
  source : String
  deriving DecidableEq, Repr

/-- The arguments of a program after its options have been read. -/
structure Read where
  found : List Found := []
  operands : List String := []
  /-- What is wrong with the argument at which reading stopped. -/
  complaint : Option String := none
  deriving DecidableEq, Repr

/-- Reads the letters of one argument. What is still to be read of a letter that takes a
    value is its value; if nothing is, the next argument may be. Gives the options and
    whether the next argument was taken, or a complaint. -/
def readLetters (options : Options) (source : String) (next : Option String) :
    List Char → Except String (List Found × Bool)
  | [] => .ok ([], false)
  | c :: rest =>
    match options.letters.lookup c with
    | none =>
      .error s!"invalid option -- {Text.Quoted.quote}{c}{Text.Quoted.quote}"
    | some .never =>
      (readLetters options source next rest).map fun (found, taken) =>
        (⟨c.toString, none, source⟩ :: found, taken)
    | some .maybe =>
      .ok ([⟨c.toString, if rest = [] then none else some (String.ofList rest), source⟩], false)
    | some .always =>
      if rest ≠ [] then .ok ([⟨c.toString, some (String.ofList rest), source⟩], false)
      else match next with
        | some value => .ok ([⟨c.toString, some value, source⟩], true)
        | none =>
          .error s!"option requires an argument -- {Text.Quoted.quote}{c}{Text.Quoted.quote}"

/-- A word option as it is called in complaints. -/
def called (word : String) : String :=
  s!"{Text.Quoted.quote}--{word}{Text.Quoted.quote}"

/-- The words that a text may be short for. -/
def candidates (options : Options) (text : String) : List (String × Value × String) :=
  match options.words.find? (·.1 = text) with
  | some word => [word]
  | none => options.words.filter fun word => text.toList.isPrefixOf word.1.toList

/-- Reads a word behind two dashes. -/
def readWord (options : Options) (source : String) (next : Option String) (text : List Char) :
    Except String (List Found × Bool) :=
  let name := String.ofList (text.takeWhile (· ≠ '='))
  let given :=
    match text.dropWhile (· ≠ '=') with
    | [] => none
    | _ :: value => some (String.ofList value)
  match options.candidates name with
  | [] => .error s!"unrecognized option {called (String.ofList text)}"
  | (word, takes, report) :: others =>
    if others.all fun other => other.2 = (takes, report) then
      match takes, given with
      | .never, some _ => .error s!"option {called word} doesn{Text.Quoted.quote}t allow an argument"
      | .always, none =>
        match next with
        | some value => .ok ([⟨report, some value, source⟩], true)
        | none => .error s!"option {called word} requires an argument"
      | _, given => .ok ([⟨report, given, source⟩], false)
    else
      let possible := String.join ((word :: others.map (·.1)).map fun word => " " ++ called word)
      .error s!"option {called (String.ofList text)} is ambiguous; possibilities:{possible}"

/-- Whether an argument is an option or ends them. -/
def isOption (text : String) : Bool :=
  text.toList.head? = some '-' && text ≠ "-"

/-- Reads the options of one argument, which some others follow. Gives them, and whether
    the next argument was taken as a value. -/
def readOne (options : Options) (arg : String) (next : Option String) :
    Except String (List Found × Bool) :=
  match arg.toList with
  | _ :: '-' :: text => options.readWord arg next text
  | _ :: letters => options.readLetters arg next letters
  | [] => .ok ([], false)

/-- Reads arguments, up to the first that is wrong. -/
def read (options : Options) : List String → Read
  | [] => {}
  | "--" :: operands => { operands }
  | arg :: rest =>
    if isOption arg then
      match options.readOne arg rest.head? with
      | .error complaint => { complaint := some complaint }
      | .ok (found, taken) =>
        let later :=
          match taken, rest with
          | true, _ :: rest => read options rest
          | _, rest => read options rest
        { later with found := found ++ later.found }
    else
      let later := read options rest
      { later with operands := arg :: later.operands }

end Options
end LineShell.Machine
