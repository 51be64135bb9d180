/-
  LineShell.Machine.Script.Commands

  The grammar of scripts: lists of commands, which are joined by operators, grouped, or
  introduced by keywords. A script is read one line at a time, so that a fault in a later
  line does not keep the earlier ones from being carried out.
-/
import LineShell.Machine.Script.Tokens

namespace LineShell.Machine.Script

/-- The commands that are part of the language itself. No function can have such a name. -/
def specialNames : List String :=
  [".", ":", "break", "continue", "eval", "exec", "exit", "export", "local", "readonly",
   "return", "set", "shift", "times", "trap", "unset"]

/-- The command that stands for some commands, the last one first. -/
def inOrder (commands : List Command) : Option Command :=
  match commands with
  | [] => none
  | [command] => some command
  | commands => some (.sequence commands.reverse)

/-- A command that is not waited for. -/
def unattended (command : Command) : Command :=
  match command with
  | .redirected _ command redirections => .background command redirections
  | command => .background (some command) []

/-- The name and the value of a word that is an assignment. -/
def assignmentOf? (word : Word) : Option (String × Word) :=
  let isEquals : Piece → Bool
    | .char '=' false => true
    | _ => false
  match word.dropWhile (!isEquals ·) with
  | [] => none
  | _ :: value =>
    match plainText? (word.takeWhile (!isEquals ·)) with
    | some name => if isName name then some (String.ofList name, value) else none
    | none => none

/-- What is read of a simple command. -/
structure Parts where
  assignments : List (String × Word) := []
  words : List Word := []
  redirections : List Redirection := []

namespace Parts

/-- Adds a word, which may be an assignment if there is no other word yet. -/
def addWord (parts : Parts) (word : Word) : Parts :=
  match if parts.words.isEmpty then assignmentOf? word else none with
  | some pair => { parts with assignments := parts.assignments ++ [pair] }
  | none => { parts with words := parts.words ++ [word] }

/-- Adds a redirection. -/
def addRedirection (parts : Parts) (redirection : Redirection) : Parts :=
  { parts with redirections := parts.redirections ++ [redirection] }

/-- The name of the function that is defined if a parenthesis follows. -/
def functionName? (parts : Parts) : Option Word :=
  match parts.words with
  | [word] =>
    if parts.assignments.isEmpty && parts.redirections.isEmpty then some word else none
  | _ => none

end Parts

namespace Reader

/-- Everything that is looked for in front of a command. -/
def beforeCommand : Lookout := { keywords := true, shorthands := true }

/-- The same, behind line breaks. -/
def beforeLaterCommand : Lookout := { beforeCommand with newlines := true }

mutual

/-- Reads the commands in front of a token that ends them. The list is not empty unless
    `mayBeEmpty` says so. Commands that have been read are held last first. -/
def readList : Nat → Bool → List Command → Reader (Option Command)
  | 0, _, _ => refuse "script too long"
  | fuel + 1, mayBeEmpty, before => do
    let inside := insideAt fuel
    lookFor beforeLaterCommand
    let first ← token inside fuel
    tokenAgain
    match first with
    | .endOfText => do
      readDocuments inside fuel
      modify fun source => { source with last := .endOfText, again := true }
      pure (inOrder before)
    | _ =>
      if mayBeEmpty && first.endsList then pure (inOrder before)
      else
        let command ← readAndOr fuel
        match ← token inside fuel with
        | .ampersand => readList fuel true (unattended command :: before)
        | .semicolon => readList fuel true (command :: before)
        | .newline => do
          tokenAgain
          readList fuel true (command :: before)
        | .endOfText => do
          tokenAgain
          readList fuel true (command :: before)
        | _ => do
          tokenAgain
          pure (inOrder (command :: before))

/-- Readers for the commands inside words. -/
def insideAt : Nat → Inside
  | 0 => ⟨refuse "script too long", refuse "script too long"⟩
  | fuel + 1 =>
    let whole : Reader (Option Command) := do
      let announced := (← get).announced
      modify fun source => { source with announced := [], again := false }
      let commands ← readList fuel true []
      let inner := (← get).announced
      if !inner.isEmpty then readDocuments (insideAt fuel) fuel
      modify fun source => { source with announced }
      pure commands
    let closed : Reader (Option Command) := do
      let announced := (← get).announced
      modify fun source => { source with announced := [], again := false }
      let commands ← readList fuel true []
      match ← token (insideAt fuel) fuel with
      | .rightParenthesis => do
        if !(← get).announced.isEmpty then readDocuments (insideAt fuel) fuel
        modify fun source => { source with announced }
        pure commands
      | _ => expecting .rightParenthesis
    ⟨closed, whole⟩

/-- Reads commands that are joined by `&&` and `||`. -/
def readAndOr : Nat → Reader Command
  | 0 => refuse "script too long"
  | fuel + 1 => do
    let first ← readPipeline fuel
    readOperators fuel first

/-- Reads the operators behind a command, and the commands behind these. -/
def readOperators : Nat → Command → Reader Command
  | 0, _ => refuse "script too long"
  | fuel + 1, before => do
    match ← token (insideAt fuel) fuel with
    | .andIf => do
      lookFor beforeLaterCommand
      let later ← readPipeline fuel
      readOperators fuel (.andThen before later)
    | .orIf => do
      lookFor beforeLaterCommand
      let later ← readPipeline fuel
      readOperators fuel (.orElse before later)
    | _ => do
      tokenAgain
      pure before

/-- Reads commands that are joined by `|`. -/
def readPipeline : Nat → Reader Command
  | 0 => refuse "script too long"
  | fuel + 1 => do
    let negated := (← token (insideAt fuel) fuel).isKeyword .bang
    if negated then lookFor beforeCommand else tokenAgain
    let first ← readCommand fuel
    let later ← readStages fuel
    let command := if later.isEmpty then first else .pipeline (first :: later)
    pure (if negated then .negated command else command)

/-- Reads the commands behind each `|`. -/
def readStages : Nat → Reader (List Command)
  | 0 => refuse "script too long"
  | fuel + 1 => do
    match ← token (insideAt fuel) fuel with
    | .bar => do
      lookFor beforeLaterCommand
      let stage ← readCommand fuel
      let later ← readStages fuel
      pure (stage :: later)
    | _ => do
      tokenAgain
      pure []

/-- Reads one command. -/
def readCommand : Nat → Reader Command
  | 0 => refuse "script too long"
  | fuel + 1 => do
    let inside := insideAt fuel
    let line := (← get).line
    match ← token inside fuel with
    | .word _ _ => do
      tokenAgain
      readSimple fuel (← get).line { shorthands := true } {}
    | .arrow _ => do
      tokenAgain
      readSimple fuel (← get).line { shorthands := true } {}
    | .keyword .ifWord => do
      let command ← readConditional fuel
      readAround fuel line (some command) false
    | .keyword .whileWord => do
      let condition ← readList fuel false []
      let body ← readBody fuel .doWord .doneWord
      readAround fuel line (some (.repeated false condition body)) false
    | .keyword .untilWord => do
      let condition ← readList fuel false []
      let body ← readBody fuel .doWord .doneWord
      readAround fuel line (some (.repeated true condition body)) false
    | .keyword .forWord => do
      let command ← readFor fuel line
      readAround fuel line (some command) false
    | .keyword .caseWord => do
      let command ← readChoice fuel line
      readAround fuel line (some command) false
    | .keyword .leftBrace => do
      let command ← readList fuel false []
      match ← token inside fuel with
      | .keyword .rightBrace => readAround fuel line command false
      | _ => expecting (.keyword .rightBrace)
    | .leftParenthesis => do
      let command ← readList fuel false []
      match ← token inside fuel with
      | .rightParenthesis => readAround fuel line command true
      | _ => expecting .rightParenthesis
    | _ => unexpected

/-- Reads a keyword, commands and the keyword that ends them. -/
def readBody : Nat → Keyword → Keyword → Reader (Option Command)
  | 0, _, _ => refuse "script too long"
  | fuel + 1, opening, closing => do
    let inside := insideAt fuel
    if (← token inside fuel).isKeyword opening then
      let body ← readList fuel false []
      if (← token inside fuel).isKeyword closing then pure body
      else expecting (.keyword closing)
    else expecting (.keyword opening)

/-- Reads a conditional command behind its first keyword. -/
def readConditional : Nat → Reader Command
  | 0 => refuse "script too long"
  | fuel + 1 => do
    let inside := insideAt fuel
    let condition ← readList fuel false []
    if (← token inside fuel).isKeyword .thenWord then
      let body ← readList fuel false []
      match ← token inside fuel with
      | .keyword .elifWord => do
        let otherwise ← readConditional fuel
        pure (.conditional condition body (some otherwise))
      | .keyword .elseWord => do
        let otherwise ← readList fuel false []
        if (← token inside fuel).isKeyword .fiWord then
          pure (.conditional condition body otherwise)
        else expecting (.keyword .fiWord)
      | .keyword .fiWord => pure (.conditional condition body none)
      | _ => expecting (.keyword .fiWord)
    else expecting (.keyword .thenWord)

/-- Reads a command that is repeated for words, behind its first keyword. -/
def readFor : Nat → Nat → Reader Command
  | 0, _ => refuse "script too long"
  | fuel + 1, line => do
    let inside := insideAt fuel
    let name? : Option String :=
      match ← token inside fuel with
      | .word word false =>
        (plainText? word).bind fun name =>
          if isName name then some (String.ofList name) else none
      | _ => none
    match name? with
    | none => refuse "Bad for loop variable"
    | some name => do
      lookFor beforeLaterCommand
      let items ←
        match ← token inside fuel with
        | .keyword .inWord => readItems fuel []
        | .semicolon => pure [[.value .each .plain true]]
        | _ => do
          tokenAgain
          pure [[.value .each .plain true]]
      lookFor beforeLaterCommand
      let body ← readBody fuel .doWord .doneWord
      pure (.forEach line name items body)

/-- Reads the words up to the end of a line or a semicolon. -/
def readItems : Nat → List Word → Reader (List Word)
  | 0, _ => refuse "script too long"
  | fuel + 1, items => do
    match ← token (insideAt fuel) fuel with
    | .word word _ => readItems fuel (items ++ [word])
    | .newline => pure items
    | .semicolon => pure items
    | _ => unexpected

/-- Reads a choice behind its first keyword. -/
def readChoice : Nat → Nat → Reader Command
  | 0, _ => refuse "script too long"
  | fuel + 1, line => do
    let inside := insideAt fuel
    match ← token inside fuel with
    | .word subject _ => do
      lookFor beforeLaterCommand
      if (← token inside fuel).isKeyword .inWord then
        let branches ← readBranches fuel
        pure (.choice line subject branches)
      else expecting (.keyword .inWord)
    | _ => expecting (.word [] false)

/-- Reads the branches of a choice and the keyword that ends it. -/
def readBranches : Nat → Reader (List (List Word × Option Command))
  | 0 => refuse "script too long"
  | fuel + 1 => do
    let inside := insideAt fuel
    lookFor { keywords := true, newlines := true }
    let first ← token inside fuel
    if first.isKeyword .esacWord then pure []
    else
      let first ←
        match first with
        | .leftParenthesis => token inside fuel
        | other => pure other
      let patterns ← readPatterns fuel first
      let body ← readList fuel true []
      lookFor { keywords := true, newlines := true }
      match ← token inside fuel with
      | .keyword .esacWord => pure [(patterns, body)]
      | .twoSemicolons => do
        let later ← readBranches fuel
        pure ((patterns, body) :: later)
      | _ => expecting .twoSemicolons

/-- Reads patterns up to the parenthesis that ends them; the first token of the first one
    has been read. A keyword is a pattern like any other word, and any other token stands
    for an empty one. -/
def readPatterns : Nat → Token → Reader (List Word)
  | 0, _ => refuse "script too long"
  | fuel + 1, first => do
    let pattern : Word :=
      match first with
      | .word word _ => word
      | .keyword keyword => keyword.text.toList.map fun c => .char c false
      | _ => []
    match ← token (insideAt fuel) fuel with
    | .bar => do
      let next ← token (insideAt fuel) fuel
      let later ← readPatterns fuel next
      pure (pattern :: later)
    | .rightParenthesis => pure [pattern]
    | _ => expecting .rightParenthesis

/-- Reads the redirections behind a command. -/
def readAround : Nat → Nat → Option Command → Bool → Reader Command
  | 0, _, _, _ => refuse "script too long"
  | fuel + 1, line, command, isSubshell => do
    lookFor beforeCommand
    let redirections ← readRedirections fuel []
    if isSubshell then pure (.subshell line command redirections)
    else match redirections, command with
      | [], some command => pure command
      | _, _ => pure (.redirected line command redirections)

/-- Reads redirections. -/
def readRedirections : Nat → List Redirection → Reader (List Redirection)
  | 0, _ => refuse "script too long"
  | fuel + 1, read => do
    match ← token (insideAt fuel) fuel with
    | .arrow arrow => do
      let redirection ← readTarget (insideAt fuel) fuel arrow
      readRedirections fuel (read ++ [redirection])
    | _ => do
      tokenAgain
      pure read

/-- Reads a simple command, or the definition of a function. -/
def readSimple : Nat → Nat → Lookout → Parts → Reader Command
  | 0, _, _, _ => refuse "script too long"
  | fuel + 1, line, lookout, parts => do
    let inside := insideAt fuel
    lookFor lookout
    match ← token inside fuel with
    | .word word _ =>
      let later := parts.addWord word
      readSimple fuel line (if later.words.isEmpty then lookout else {}) later
    | .arrow arrow => do
      let redirection ← readTarget inside fuel arrow
      readSimple fuel line lookout (parts.addRedirection redirection)
    | .leftParenthesis =>
      match parts.functionName? with
      | some name => readFunction fuel name
      | none => do
        tokenAgain
        pure (.simple line parts.assignments parts.words parts.redirections)
    | _ => do
      tokenAgain
      pure (.simple line parts.assignments parts.words parts.redirections)

/-- Reads the definition of a function behind the opening parenthesis. -/
def readFunction : Nat → Word → Reader Command
  | 0, _ => refuse "script too long"
  | fuel + 1, name => do
    match ← token (insideAt fuel) fuel with
    | .rightParenthesis =>
      match plainText? name with
      | some text =>
        let text := String.ofList text
        if isName text.toList && !specialNames.contains text then
          lookFor beforeLaterCommand
          let body ← readCommand fuel
          pure (.function text body)
        else refuse "Bad function name"
      | none => refuse "Bad function name"
    | _ => expecting .rightParenthesis

end

/-- Reads commands up to the end of a line, without line breaks between them. The first
    component tells that the text ends there. -/
def readLine : Nat → List Command → Reader (Bool × Option Command)
  | 0, _ => refuse "script too long"
  | fuel + 1, before => do
    let inside := insideAt fuel
    lookFor beforeCommand
    match ← token inside fuel with
    | .newline => do
      readDocuments inside fuel
      pure (false, inOrder before)
    | .endOfText => do
      readDocuments inside fuel
      pure (before.isEmpty, inOrder before)
    | _ => do
      tokenAgain
      let command ← readAndOr fuel
      match ← token inside fuel with
      | .ampersand => readLine fuel (unattended command :: before)
      | .semicolon => readLine fuel (command :: before)
      | .newline => do
        tokenAgain
        readLine fuel (command :: before)
      | .endOfText => do
        tokenAgain
        readLine fuel (command :: before)
      | _ => unexpected

end Reader

/-- More than any reader of a source needs. -/
def Source.fuel (source : Source) : Nat :=
  let shorthands := source.shorthands.foldl (fun sum pair => sum + pair.2.length) 0
  20 * (source.rest.length + 1) * (1 + source.shorthands.length) + 20 * shorthands + 200

/-- The next line of a script: whether its text ended, the commands of the line if it has
    some, and the source behind it. -/
def Source.readLine (source : Source) : Except Fault (Bool × Option Command × Source) :=
  let source := { source with again := false, lookout := {}, announced := [] }
  match Reader.readLine source.fuel [] source with
  | .ok (ended, command) later => .ok (ended, command, later)
  | .error fault _ => .error fault

/-- A text as a word in which parameters are replaced, if it is one. -/
def readText (text : String) : Option Word :=
  let source : Source := { rest := text.toList }
  match Reader.readPieces (Reader.insideAt source.fuel) source.fuel .document 0 [] source with
  | .ok word _ => some word.reverse
  | .error _ _ => none

end LineShell.Machine.Script
