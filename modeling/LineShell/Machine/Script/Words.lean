/-
  LineShell.Machine.Script.Words

  Reading the words of a script. How a character is read depends on the region that it
  stands in: outside all quotes, between double quotes, inside the braces of a parameter,
  in an arithmetic expression or in a document. Commands inside a word are read by a
  reader that is given from outside.
-/
import LineShell.Machine.Script.Source

namespace LineShell.Machine.Script

/-- Where a character stands. -/
inductive Region where
  /-- Outside all quotes and braces. -/
  | bare
  /-- Between double quotes, which may stand in braces. -/
  | quotes (inBraces : Bool)
  /-- In the braces of a parameter, which may stand in quotes or in a document. -/
  | braces (quoted inDocument : Bool)
  | document
  | arithmetic
  deriving DecidableEq, Repr

namespace Region

/-- Whether the characters of the region are quoted. -/
def isQuoted : Region → Bool
  | bare => false
  | braces quoted _ => quoted
  | _ => true

/-- Whether a closing brace has a meaning in the region or around it. -/
def knowsBraces : Region → Bool
  | quotes inBraces => inBraces
  | braces _ _ => true
  | _ => false

/-- The region between the braces of a parameter that stands in this region. -/
def inner (region : Region) : Region :=
  match region with
  | bare => .braces false false
  | quotes _ => .braces true false
  | braces quoted inDocument => .braces quoted inDocument
  | document => .braces true true
  | arithmetic => .braces true false

/-- The region of a pattern between such braces, in which quotes have their usual
    meaning. -/
def innerPattern (region : Region) : Region :=
  match region with
  | document => .braces false true
  | braces _ inDocument => .braces false inDocument
  | _ => .braces false false

/-- Why a text may not end in this region, when it ends on one line and the word started
    on another. -/
def fault? (line wordLine : Nat) : Region → Option Fault
  | bare => none
  | document => none
  | quotes _ => some ⟨line, "Unterminated quoted string"⟩
  | arithmetic => some ⟨line, "Missing \x27))\x27"⟩
  | braces quoted inDocument =>
    if quoted && !inDocument then some ⟨line, "Unterminated quoted string"⟩
    else some ⟨wordLine, "Missing \x27\x7d\x27"⟩

end Region

/-- Whether a character ends a word outside quotes. -/
def endsWord (c : Char) : Bool := " \t\n&|;<>()".toList.contains c

/-- The parameter that a single character stands for. -/
def specialParameter? (c : Char) : Option Parameter :=
  match c with
  | '#' => some .count
  | '@' => some .each
  | '*' => some .joined
  | '?' => some .status
  | '$' => some .process
  | '!' => some .background
  | '-' => some .settings
  | _ => if c.isDigit then some (.argument (c.toNat - '0'.toNat)) else none

/-- The number that decimal digits stand for. -/
def numberOf (digits : List Char) : Nat := (String.ofList digits).toNat?.getD 0

/-- Readers for the commands inside a word. -/
structure Inside where
  /-- Reads commands up to the parenthesis that closes them. -/
  closed : Reader (Option Command)
  /-- Reads the commands of a whole text. -/
  whole : Reader (Option Command)

namespace Reader

/-- Reads the characters up to a single quote. -/
def readSingle : Nat → List Piece → Reader (List Piece)
  | 0, _ => refuse "Unterminated quoted string"
  | fuel + 1, read => do
    match ← next with
    | none => refuse "Unterminated quoted string"
    | some c =>
      if c = Char.ofNat 0x27 then pure read
      else
        if c = '\n' then countLine
        readSingle fuel (.char c true :: read)

/-- Reads the text between backquotes, in which a backslash protects some characters. -/
def readBackquoted (quoted : Bool) : Nat → List Char → Reader (List Char)
  | 0, _ => refuse "EOF in backquote substitution"
  | fuel + 1, read => do
    match ← nextJoined fuel with
    | none => refuse "EOF in backquote substitution"
    | some c =>
      if c = Char.ofNat 0x60 then pure read.reverse
      else if c = backslash then
        match ← next with
        | none => refuse "EOF in backquote substitution"
        | some d =>
          if d = backslash || d = Char.ofNat 0x60 || d = '$' || (quoted && d = '"') then
            readBackquoted quoted fuel (d :: read)
          else readBackquoted quoted fuel (d :: backslash :: read)
      else
        if c = '\n' then countLine
        readBackquoted quoted fuel (c :: read)

/-- Reads commands from a text of their own. -/
def readApart (inside : Inside) (text : List Char) : Reader (Option Command) := do
  let outer ← get
  set { outer with rest := text, line := 1, layers := [], announced := [], again := false }
  let commands ← inside.whole
  let inner ← get
  set { outer with documents := inner.documents }
  pure commands

/-- Reads the characters of a name behind its first one. -/
def readName : Nat → List Char → Reader (List Char)
  | 0, read => pure read.reverse
  | fuel + 1, read => do
    match ← nextJoined fuel with
    | some c =>
      if isNameChar c then readName fuel (c :: read)
      else
        putBack c
        pure read.reverse
    | none => pure read.reverse

/-- Reads the digits of a number behind its first one. -/
def readDigits : Nat → List Char → Reader (List Char)
  | 0, read => pure read.reverse
  | fuel + 1, read => do
    match ← nextJoined fuel with
    | some c =>
      if c.isDigit then readDigits fuel (c :: read)
      else
        putBack c
        pure read.reverse
    | none => pure read.reverse

/-- Reads the name of a parameter in braces. -/
def readParameter (fuel : Nat) : Reader (Option Parameter) := do
  match ← nextJoined fuel with
  | none => pure none
  | some c =>
    if isNameStart c then
      let name ← readName fuel [c]
      pure (some (.named (String.ofList name)))
    else if c.isDigit then
      let digits ← readDigits fuel [c]
      pure (some (.argument (numberOf digits)))
    else match specialParameter? c with
      | some parameter => pure (some parameter)
      | none => do
        putBack c
        pure none

/-- What stands behind the name of a parameter in braces: how the value is changed, as a
    function of the word that follows, and whether that word is a pattern. -/
def readChange (fuel : Nat) : Reader ((List Piece → Form) × Bool) := do
  let c ← nextJoined fuel
  match c with
  | some ':' =>
    match ← nextJoined fuel with
    | some '-' => pure (.default true, false)
    | some '=' => pure (.assign true, false)
    | some '?' => pure (.demand true, false)
    | some '+' => pure (.instead true, false)
    | _ => pure (fun _ => .bad, false)
  | some '-' => pure (.default false, false)
  | some '=' => pure (.assign false, false)
  | some '?' => pure (.demand false, false)
  | some '+' => pure (.instead false, false)
  | some '#' =>
    match ← nextJoined fuel with
    | some '#' => pure (.trimmed ⟨false, true⟩, true)
    | other => do
      putBack? other
      pure (.trimmed ⟨false, false⟩, true)
  | some '%' =>
    match ← nextJoined fuel with
    | some '%' => pure (.trimmed ⟨true, true⟩, true)
    | other => do
      putBack? other
      pure (.trimmed ⟨true, false⟩, true)
  | some '\x7d' => do
    putBack '\x7d'
    pure (fun _ => .plain, false)
  | _ => pure (fun _ => .bad, false)

/-- Reads what a sign for a length could belong to, behind the sign: the parameter of which
    the length is asked for. Without one the sign is a parameter itself. -/
def readLength? (fuel : Nat) : Reader (Option Parameter) := do
  match ← nextJoined fuel with
  | none => pure none
  | some c =>
    if isNameStart c then
      let name ← readName fuel [c]
      pure (some (.named (String.ofList name)))
    else if c.isDigit then
      let digits ← readDigits fuel [c]
      pure (some (.argument (numberOf digits)))
    else
      let follows ← nextJoined fuel
      putBack? follows
      match specialParameter? c with
      | some parameter =>
        if follows = some '\x7d' then pure (some parameter)
        else
          putBack c
          pure none
      | none => do
        putBack c
        pure none

mutual

/-- Reads pieces up to the end of a region. The number counts the parentheses that stand
    open in an arithmetic expression. What has been read is held last piece first. -/
def readPieces (inside : Inside) :
    Nat → Region → Nat → List Piece → Reader (List Piece)
  | 0, _, _, _ => refuse "word too long"
  | fuel + 1, region, depth, read => do
    let quoted := region.isQuoted
    match ← nextJoined fuel with
    | none => do
      let source ← get
      match region.fault? source.line source.wordLine with
      | none => pure read
      | some fault => throw fault
    | some c =>
      if region = .bare && endsWord c then
        putBack c
        pure read
      else if c = '\n' then
        countLine
        if region = .document then pure (.char c true :: read)
        else readPieces inside fuel region depth (.char c quoted :: read)
      else if c = backslash then
        match ← next with
        | none => readPieces inside fuel region depth (.char c true :: read)
        | some d =>
          let hides :=
            !quoted || d = backslash || d = Char.ofNat 0x60 || d = '$' ||
              (d = '"' && region ≠ .document) || (d = '\x7d' && region.knowsBraces)
          readPieces inside fuel region depth
            (if hides then .char d true :: read
             else .char d true :: .char backslash true :: read)
      else if c = Char.ofNat 0x27 && !quoted then
        let inner ← readSingle fuel [.mark]
        readPieces inside fuel region depth (.mark :: inner ++ read)
      else if c = '"' && region ≠ .document && region ≠ .arithmetic then
        match region with
        | .quotes _ => pure read
        | .braces true inDocument => do
          let inner ← readPieces inside fuel (.quotes true) 0 []
          readPieces inside fuel region depth
            (if inDocument then inner ++ read else .mark :: inner ++ .mark :: read)
        | _ => do
          let inner ← readPieces inside fuel (.quotes (region ≠ .bare)) 0 []
          match inner with
          | [.value .each .plain _] => readPieces inside fuel region depth (inner ++ read)
          | _ => readPieces inside fuel region depth (.mark :: inner ++ .mark :: read)
      else if c = '$' then
        let pieces ← readDollar inside fuel region
        readPieces inside fuel region depth (pieces ++ read)
      else if c = Char.ofNat 0x60 && !(← get).lookout.documentEnd then
        let text ← readBackquoted quoted fuel []
        let commands ← readApart inside text
        readPieces inside fuel region depth (.output commands quoted :: read)
      else match c, region with
        | '\x7d', .braces _ _ => pure read
        | '(', .arithmetic => readPieces inside fuel region (depth + 1) (.char c true :: read)
        | ')', .arithmetic => do
          if depth ≠ 0 then
            readPieces inside fuel region (depth - 1) (.char c true :: read)
          else match ← nextJoined fuel with
            | some ')' => pure read
            | other => do
              putBack? other
              readPieces inside fuel region depth (.char c true :: read)
        | _, _ => readPieces inside fuel region depth (.char c quoted :: read)

/-- Reads what stands behind a `$`, last piece first. -/
def readDollar (inside : Inside) : Nat → Region → Reader (List Piece)
  | 0, _ => refuse "word too long"
  | fuel + 1, region => do
    let quoted := region.isQuoted
    let literal := (← get).lookout.documentEnd
    match ← nextJoined fuel with
    | none => pure [.char '$' quoted]
    | some c =>
      if literal then
        putBack c
        pure [.char '$' quoted]
      else if c = '(' then
        match ← nextJoined fuel with
        | some '(' => do
          let expression ← readPieces inside fuel .arithmetic 0 []
          pure [.number expression.reverse quoted]
        | other => do
          putBack? other
          let commands ← inside.closed
          pure [.output commands quoted]
      else if c = '\x7b' then readBraces inside fuel region
      else if isNameStart c then
        let name ← readName fuel [c]
        pure [.value (.named (String.ofList name)) .plain quoted]
      else match specialParameter? c with
        | some parameter => pure [.value parameter .plain quoted]
        | none => do
          putBack c
          pure [.char '$' quoted]

/-- Reads a parameter in braces behind the opening brace. -/
def readBraces (inside : Inside) : Nat → Region → Reader (List Piece)
  | 0, _ => refuse "word too long"
  | fuel + 1, region => do
    let quoted := region.isQuoted
    let first ← nextJoined fuel
    let measured ←
      if first = some '#' then readLength? fuel
      else
        putBack? first
        pure none
    match measured with
    | some parameter =>
      let follows ← nextJoined fuel
      putBack? follows
      let _ ← readPieces inside fuel region.inner 0 []
      pure [.value parameter (if follows = some '\x7d' then .length else .bad) quoted]
    | none => do
      let parameter ←
        if first = some '#' then pure (some Parameter.count) else readParameter fuel
      match parameter with
      | none => do
        let _ ← readPieces inside fuel region.inner 0 []
        pure [.value .count .bad quoted]
      | some parameter => do
        let (form, isPattern) ← readChange fuel
        let word ← readPieces inside fuel
          (if isPattern then region.innerPattern else region.inner) 0 []
        pure [.value parameter (form word.reverse) quoted]

end

end Reader
end LineShell.Machine.Script
