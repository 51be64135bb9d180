/-
  LineShell.Machine.Script.Redirect

  Redirections: the words in them are replaced first, all together, and then the files are
  opened one by one.
-/
import LineShell.Machine.Script.Engine
import LineShell.Machine.Script.Expansion

namespace LineShell.Machine.Script

/-- What a descriptor is to stand for. -/
inductive Target where
  | file (way : Way) (name : String)
  | copy (descriptor : Nat)
  | nothing
  | document (number : Nat)
  deriving DecidableEq, Repr

namespace Target

/-- The descriptor that a word names, or that the other one is to be closed. -/
def ofWord (text : String) : Act Target := do
  let fault : Fault := ⟨(← get).sourceLine, "Bad fd number"⟩
  match text.toList with
  | ['-'] => pure .nothing
  | [c] => if c.isDigit then pure (.copy (numberOf [c])) else Act.refuse fault
  | _ => Act.refuse fault

/-- Replaces the word in a redirection; gives the descriptor as well. -/
def ofRedirection (engine : Engine) : Redirection → Act (Nat × Target)
  | .file descriptor way name => do
    pure (descriptor, .file way (← Expansion.textOf engine.output .text name))
  | .copy descriptor name => do
    match ← Expansion.fieldsOf engine.output name with
    | [] => Act.fail "redir error"
    | text :: _ => do pure (descriptor, ← ofWord text)
  | .document descriptor number => pure (descriptor, .document number)

/-- Why a file could not be opened, as scripts tell it. -/
def openingFault (creates : Bool) (error : IoError) : String :=
  if error = .noEntry ∨ error = .notDirectory then
    if creates then "Directory nonexistent" else "No such file"
  else error.reason

/-- Refuses to open a file. -/
def refuse {α : Type} (creates : Bool) (name : String) (error : IoError) : Act α :=
  let verb := if creates then "create" else "open"
  Act.fail s!"cannot {verb} {name}: {openingFault creates error}"

/-- How a file is opened. -/
def access (isProtected : Bool) : Way → Process.Access
  | .overwrite =>
    if isProtected then { writes := true, creates := true }
    else { writes := true, creates := true, empties := true }
  | .force => { writes := true, creates := true, empties := true }
  | .append => { writes := true, creates := true, appends := true }
  | .read => { reads := true }
  | .readAndWrite => { reads := true, writes := true, creates := true }

/-- Lets a descriptor stand for a file. -/
def openFile (descriptor : Nat) (way : Way) (name : String) : Act Unit := do
  let st ← get
  let isProtected := st.settings.contains 'C' && way = .overwrite
  let access := access isProtected way
  let path := Text.Raw.toText name
  let exists? : Bool :=
    match st.process.machine.found path with
    | .ok (_, node) => node.isFile
    | .error _ => false
  if isProtected && exists? then refuse true name .fileExists
  else match st.process.openFile access path with
    | .error error => refuse access.creates name error
    | .ok (p, opening) =>
      let (p, number) := p.addOpening opening
      set { st with process := p.assign descriptor number }

/-- Lets a descriptor stand for what it is to stand for. -/
def apply (engine : Engine) (descriptor : Nat) : Target → Act Unit
  | .file way name => openFile descriptor way name
  | .nothing => Act.modifyProcess (·.close descriptor)
  | .copy source => do
    let p := (← get).process
    if source = descriptor then pure ()
    else match p.opening? source with
      | some (number, _) => Act.modifyProcess (·.assign descriptor number)
      | none => Act.fail s!"{source}: {IoError.badDescriptor.reason}"
  | .document number => do
    let document := ((← get).documents[number]?.getD ⟨[]⟩).text
    let text ← Expansion.textOf engine.output .document document
    Act.modifyProcess fun p =>
      let (p, opening) := p.addText text
      p.assign descriptor opening

end Target

namespace Engine

/-- Replaces the words in redirections. -/
def targets (engine : Engine) (redirections : List Redirection) : Act (List (Nat × Target)) :=
  redirections.mapM (Target.ofRedirection engine)

/-- Redirects descriptors. -/
def redirect (engine : Engine) (targets : List (Nat × Target)) : Act Unit :=
  targets.forM fun (descriptor, target) => target.apply engine descriptor

/-- Redirects descriptors, if that is possible. -/
def redirected (engine : Engine) (targets : List (Nat × Target)) : Act Bool := do
  try
    engine.redirect targets
    pure true
  catch stop =>
    match stop with
    | .failure => pure false
    | stop => throw stop

/-- Carries out an action, and lets the descriptors stand again for what they stood for
    before. -/
def restoring {α : Type} (action : Act α) : Act α := do
  let descriptors := (← get).process.descriptors
  Act.ensure action (Act.modifyProcess fun p => { p with descriptors })

end Engine
end LineShell.Machine.Script
