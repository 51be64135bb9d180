/-
  LineShell.Machine.Process

  Processes: what all of them share, and what each has of its own.

  They share the files, the pipes, and the openings: an opening is made when a file is
  opened, and remembers how far the file has been read or written. A process knows openings
  by its descriptors, and a process that it starts knows the same ones. The machine runs one
  process at a time, and a process that starts another one waits for its end.

  Like all of the machine, this serves only to run and test the shell (`Machine.Standard`).
-/
import LineShell.Machine.Files
import LineShell.Machine.Signal
import LineShell.Text.Raw

namespace LineShell.Machine

/-- The two ways out of a machine. -/
inductive Channel where
  | out
  | err
  deriving DecidableEq, Repr

/-- What an opening leads to. -/
inductive Stream where
  | channel (channel : Channel)
  | file (place : Place)
  | directory
  | pipe (number : Nat)
  | special (special : Special)
  deriving DecidableEq, Repr

/-- An opened file. -/
structure Opening where
  stream : Stream
  /-- Where the next byte is read or written. -/
  offset : Nat := 0
  reads : Bool
  writes : Bool
  /-- Whether everything is written to the end of the file. -/
  appends : Bool := false
  deriving DecidableEq, Repr

/-- What all processes share. -/
structure System where
  files : Files
  openings : Array Opening := #[]
  /-- What has been written to each pipe and not been read. -/
  pipes : Array String := #[]
  /-- What has left the machine, in order. -/
  writes : Array (Channel × String) := #[]
  /-- The number of the process that was started last. -/
  processes : Nat
  /-- The signals that were sent to a process, by its number, and not noticed yet. -/
  signals : List (Nat × Nat) := []

/-- A process and what it shares with others. -/
structure Process where
  system : System
  number : Nat
  /-- The numbers of the process that started it, of the one that started that, and so
      on. -/
  ancestors : List Nat
  /-- Where relative paths start. -/
  directory : Place
  /-- The permissions that new files do not get. -/
  mask : Nat := 0o022
  /-- The openings that the descriptors stand for. -/
  descriptors : List (Nat × Nat)
  /-- The signals that do nothing to the process. -/
  ignored : List Nat := []
  /-- The signals that are held back and never come through. -/
  blocked : List Nat := []

namespace Process

/-- The machine from where the process stands. -/
def machine (p : Process) : Machine := ⟨p.system.files, p.directory⟩

/-- Replaces the files. -/
def withFiles (p : Process) (files : Files) : Process :=
  { p with system := { p.system with files } }

/-- What the other processes see of the process after it has gone on as `later`. -/
def absorb (p later : Process) : Process := { p with system := later.system }

/-- A process that this one starts. -/
def child (p : Process) : Process :=
  let number := p.system.processes + 1
  { p with
    system := { p.system with processes := number }
    number := number
    ancestors := p.number :: p.ancestors }

/-! ## Descriptors -/

/-- The opening that a descriptor stands for. -/
def opening? (p : Process) (descriptor : Nat) : Option (Nat × Opening) := do
  let number ← p.descriptors.lookup descriptor
  let opening ← p.system.openings[number]?
  pure (number, opening)

/-- Forgets a descriptor. -/
def close (p : Process) (descriptor : Nat) : Process :=
  { p with descriptors := p.descriptors.filter fun entry => entry.1 ≠ descriptor }

/-- Lets a descriptor stand for an opening. -/
def assign (p : Process) (descriptor opening : Nat) : Process :=
  { p with descriptors := (descriptor, opening) :: (p.close descriptor).descriptors }

/-- Adds an opening and gives its number. -/
def addOpening (p : Process) (opening : Opening) : Process × Nat :=
  ({ p with system := { p.system with openings := p.system.openings.push opening } },
    p.system.openings.size)

/-- Changes an opening. -/
def setOpening (p : Process) (number : Nat) (opening : Opening) : Process :=
  { p with system :=
      { p.system with openings := p.system.openings.setIfInBounds number opening } }

/-- Makes a pipe that holds a text and is not written any more, and gives the number of
    its opening. -/
def addText (p : Process) (text : String) : Process × Nat :=
  let pipe := p.system.pipes.size
  { p with system := { p.system with pipes := p.system.pipes.push text } }.addOpening
    { stream := .pipe pipe, reads := true, writes := false }

/-- Makes a pipe, and gives the numbers of its openings for reading and for writing. -/
def addPipe (p : Process) : Process × Nat × Nat :=
  let pipe := p.system.pipes.size
  let (p, reading) := p.addText ""
  let (p, writing) := p.addOpening { stream := .pipe pipe, reads := false, writes := true }
  (p, reading, writing)

/-! ## Opening files -/

/-- What a file is opened for. -/
structure Access where
  reads : Bool := false
  writes : Bool := false
  /-- Whether the file is made if it does not exist. -/
  creates : Bool := false
  /-- Whether what the file holds is thrown away. -/
  empties : Bool := false
  appends : Bool := false
  deriving DecidableEq, Repr

/-- The stream that a special file leads to. -/
def specialStream (p : Process) : Special → Except IoError Stream
  | .descriptor number =>
    match p.opening? number with
    | some (_, opening) => .ok opening.stream
    | none => .error .noEntry
  | special => .ok (.special special)

/-- Opens what is found at a place. -/
def openNode (p : Process) (access : Access) (place : Place) (node : Node) :
    Except IoError (Process × Opening) :=
  let opening (stream : Stream) : Opening :=
    { stream, reads := access.reads, writes := access.writes, appends := access.appends }
  if node.isDirectory && (access.writes || access.creates) then .error .isDirectory
  else if (access.reads && !node.mode.mayRead) || (access.writes && !node.mode.mayWrite) then
    .error .accessDenied
  else match node with
    | .directory _ => .ok (p, opening .directory)
    | .special special => (p.specialStream special).map fun stream => (p, opening stream)
    | .file mode _ =>
      let p := if access.empties then p.withFiles (p.system.files.put place (.file mode []))
        else p
      .ok (p, opening (.file place))
    | _ => .ok (p, opening (.file place))

/-- Whether names may be added to a directory and removed from it. -/
def mayChange (p : Process) (directory : Place) : Bool :=
  (p.system.files.node? directory).any fun node =>
    node.mode.mayWrite && node.mode.mayExecute

/-- Makes a new file at a place, and opens it. -/
def openVacant (p : Process) (access : Access) (place : Place) :
    Except IoError (Process × Opening) :=
  if !access.creates then .error .noEntry
  else if !p.mayChange place.dropLast then .error .accessDenied
  else .ok
    (p.withFiles (p.system.files.put place (.file ⟨Mode.without 0o666 p.mask⟩ [])),
      { stream := .file place, reads := access.reads, writes := access.writes,
        appends := access.appends })

/-- Opens the file that a path leads to. -/
def openFile (p : Process) (access : Access) (path : String) :
    Except IoError (Process × Opening) :=
  match p.machine.locate path with
  | .ok (.existing place node) => p.openNode access place node
  | .ok (.vacant place) => p.openVacant access place
  | .error error =>
    let bare := String.ofList (path.toList.reverse.dropWhile (· = '/')).reverse
    match access.creates && bare ≠ path, p.machine.locate bare with
    | true, .ok (.vacant _) => .error .isDirectory
    | _, _ => .error error

/-! ## Reading and writing -/

/-- What can be read from an opening. -/
def contentFrom (p : Process) (opening : Opening) : Except IoError (List Char) :=
  if !opening.reads then .error .badDescriptor
  else match opening.stream with
    | .pipe number => .ok ((p.system.pipes[number]?).getD "").toList
    | .file place =>
      match p.system.files.node? place with
      | some (.file _ content) =>
        .ok (Text.Raw.ofBytes (content.drop opening.offset)).toList
      | _ => .ok []
    | .directory => .error .isDirectory
    | .channel _ => .error .badDescriptor
    | .special _ => .ok []

/-- What can be read from a descriptor. -/
def content (p : Process) (descriptor : Nat) : Except IoError (List Char) :=
  match p.opening? descriptor with
  | some (_, opening) => p.contentFrom opening
  | none => .error .badDescriptor

/-- Takes a number of bytes from a descriptor. -/
def skip (p : Process) (descriptor count : Nat) : Process :=
  match p.opening? descriptor with
  | none => p
  | some (number, opening) =>
    match opening.stream with
    | .pipe pipe =>
      let left := String.ofList (((p.system.pipes[pipe]?).getD "").toList.drop count)
      { p with system := { p.system with pipes := p.system.pipes.setIfInBounds pipe left } }
    | _ => p.setOpening number { opening with offset := opening.offset + count }

/-- A content after bytes have been written at an offset. -/
def overwrite (content : Bytes) (offset : Nat) (bytes : Bytes) : Bytes :=
  content.take offset ++ List.replicate (offset - content.length) 0 ++ bytes ++
    content.drop (offset + bytes.length)

/-- Writes a raw text to an opening. -/
def writeTo (p : Process) (number : Nat) (opening : Opening) (text : String) :
    Except IoError Process :=
  if !opening.writes then .error .badDescriptor
  else match opening.stream with
    | .channel channel =>
      .ok { p with system := { p.system with writes := p.system.writes.push (channel, text) } }
    | .pipe pipe =>
      .ok { p with system :=
        { p.system with pipes := p.system.pipes.modify pipe (· ++ text) } }
    | .file place =>
      match p.system.files.node? place with
      | some (.file mode content) =>
        let bytes := Text.Raw.toBytes text
        let offset := if opening.appends then content.length else opening.offset
        let p := p.withFiles (p.system.files.put place
          (.file mode (overwrite content offset bytes)))
        .ok (p.setOpening number { opening with offset := offset + bytes.length })
      | _ => .ok p
    | .special .full => .error .noSpace
    | .special _ => .ok p
    | .directory => .error .badDescriptor

/-- Writes a raw text to a descriptor. Writing nothing never fails. -/
def write (p : Process) (descriptor : Nat) (text : String) : Except IoError Process :=
  if text = "" then .ok p
  else match p.opening? descriptor with
    | some (number, opening) => p.writeTo number opening text
    | none => .error .badDescriptor

/-- Writes a raw text to a descriptor, if that is possible. -/
def print (p : Process) (descriptor : Nat) (text : String) : Process :=
  match p.write descriptor text with
  | .ok p => p
  | .error _ => p

/-! ## Starting and ending -/

/-- The number of the process that runs on a machine first. -/
def firstNumber : Nat := 2

/-- The first process of a machine. It has nothing to read, and writes to the two ways out
    of the machine. -/
def first (m : Machine) : Process where
  system :=
    { files := m.files
      openings :=
        #[{ stream := .special .null, reads := true, writes := false },
          { stream := .channel .out, reads := false, writes := true },
          { stream := .channel .err, reads := false, writes := true }]
      processes := firstNumber }
  number := firstNumber
  ancestors := [1]
  directory := m.workingDirectory
  descriptors := [(0, 0), (1, 1), (2, 2)]

/-- The bytes that have left the machine through a channel. -/
def written (p : Process) (channel : Channel) : Bytes :=
  (p.system.writes.toList.filter (·.1 = channel)).flatMap fun write =>
    Text.Raw.toBytes write.2

end Process
end LineShell.Machine
