/-
  LineShell.Machine.Image

  From a path to the program that is run when the path is executed.

  A file that starts with `#!` names its interpreter on its first line. The interpreter is
  then executed instead, with the path of the file as an argument, and may itself be such
  a file, a few times over. Only the beginning of a file is looked at.
-/
import LineShell.Machine.Files
import LineShell.Text.Raw

namespace LineShell.Machine

/-- A program that is ready to run: which one it is, and its arguments as raw texts, the
    name under which it runs first. -/
structure Image where
  tool : Tool
  argv : List String
  deriving DecidableEq, Repr

/-- How many bytes of a file are looked at to find out its format. -/
def headSize : Nat := 256

/-- How many files with an interpreter may follow each other. -/
def interpreterLimit : Nat := 5

/-- The longest argument, in bytes. -/
def argumentLimit : Nat := 131071

/-- Whether a character is a blank on the first line of a file with an interpreter. -/
def isHeadBlank (c : Char) : Bool := c = ' ' || c = '\t'

/-- What stands behind the `#!` of a file: everything up to the first newline or NUL. A
    line that is cut off in the middle of its first word tells nothing. -/
def headLine? (content : String) : Option (List Char) :=
  match content.toList.take headSize with
  | '#' :: '!' :: rest =>
    let line := rest.takeWhile fun c => c ≠ '\n' && c ≠ '\x00'
    let first := (line.dropWhile isHeadBlank).takeWhile (!isHeadBlank ·)
    let cut := line.length + 2 = headSize && line.getLast?.all (!isHeadBlank ·) &&
      first.length = (line.dropWhile isHeadBlank).length
    if first = [] || cut then none else some line
  | _ => none

/-- The interpreter of a file and the one argument that its line may give. -/
def interpreter? (content : String) : Option (String × Option String) :=
  (headLine? content).map fun line =>
    let line := (line.reverse.dropWhile isHeadBlank).reverse.dropWhile isHeadBlank
    let argument := (line.dropWhile (!isHeadBlank ·)).dropWhile isHeadBlank
    (String.ofList (line.takeWhile (!isHeadBlank ·)),
      if argument = [] then none else some (String.ofList argument))

/-- What a path leads to, if it may be executed. -/
def executable (m : Machine) (path : String) : Except IoError Node :=
  match m.found path with
  | .error error => .error error
  | .ok (_, node) =>
    if node.isFile && node.mode.mayExecute then .ok node else .error .accessDenied

/-- Loads the program of a path, with at most `more` interpreters still to follow. -/
def loadWithin (m : Machine) : Nat → String → List String → Except IoError Image
  | more, path, argv =>
    match m.executable path with
    | .error error => .error error
    | .ok (.tool tool) => .ok ⟨tool, argv⟩
    | .ok (.file _ content) =>
      match interpreter? (Text.Raw.ofBytes content) with
      | none => .error .badFormat
      | some (interpreter, argument) =>
        match more with
        | 0 => .error .tooManyLinks
        | more + 1 =>
          m.loadWithin more (Text.Raw.toText interpreter)
            (interpreter :: argument.toList ++ Text.Raw.ofText path :: argv.drop 1)
    | .ok _ => .error .accessDenied

/-- Loads the program of a path. -/
def load (m : Machine) (path : String) (argv : List String) : Except IoError Image :=
  if argv.any fun arg => argumentLimit < arg.length then .error .argumentsTooLong
  else m.loadWithin interpreterLimit path argv

end LineShell.Machine
