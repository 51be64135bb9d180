/-
  LineShell.Machine.Script.FileNames

  Patterns for the names of files. A pattern is matched one directory at a time: a star
  never stands for a slash, and a name that starts with a dot is only found by a pattern
  that starts with one.
-/
import LineShell.Machine.Process
import LineShell.Machine.Script.Pattern

namespace LineShell.Machine.Script.FileNames

/-- A part of a pattern between slashes, and the slashes behind it. -/
structure Segment where
  pattern : List PatternChar
  slashes : String
  deriving DecidableEq, Repr

/-- The segments of a pattern. The fuel is more than its length. -/
def segments : Nat → List PatternChar → List Segment
  | 0, _ => []
  | _ + 1, [] => []
  | fuel + 1, pattern =>
    let name := pattern.takeWhile (·.1 ≠ '/')
    let rest := pattern.dropWhile (·.1 ≠ '/')
    let slashes := (rest.takeWhile (·.1 = '/')).map (·.1)
    ⟨name, String.ofList slashes⟩ :: segments fuel (rest.dropWhile (·.1 = '/'))

/-- The names in a directory, with the two names that every directory has; none if they
    may not be read. -/
def namesAt (p : Process) (path : String) : List String :=
  match p.machine.found (if path = "" then "." else Text.Raw.toText path) with
  | .ok (place, .directory mode) =>
    if mode.mayRead then "." :: ".." :: (p.system.files.namesIn place).map Text.Raw.ofText
    else []
  | _ => []

/-- Whether a segment finds a name. -/
def finds (pattern : List PatternChar) (name : String) : Bool :=
  (name.toList.head? ≠ some '.' || pattern.head?.any (·.1 = '.')) &&
    Pattern.matchesText pattern name

/-- The paths that start with a given one and go on as segments tell. -/
def pathsFrom (p : Process) (path : String) : List Segment → List String
  | [] => if (p.machine.foundEntry (Text.Raw.toText path)).toBool then [path] else []
  | segment :: rest =>
    let chars := Pattern.withoutBackslashes segment.pattern
    if Pattern.isSpecial segment.pattern then
      let names := (namesAt p path).filter (finds chars)
      if rest = [] ∧ segment.slashes = "" then names.map (path ++ ·)
      else names.flatMap fun name => pathsFrom p (path ++ name ++ segment.slashes) rest
    else pathsFrom p (path ++ String.ofList (chars.map (·.1)) ++ segment.slashes) rest

/-- The paths that a pattern finds, in the order of their bytes. -/
def matching (p : Process) (pattern : List PatternChar) : List String :=
  if Pattern.isSpecial pattern then
    (pathsFrom p "" (segments (pattern.length + 1) pattern)).mergeSort fun a b => a ≤ b
  else []

end LineShell.Machine.Script.FileNames
