/-
  LineShell.Main

  The command line: runs the shell on a standard machine with an empty working directory,
  on the standard input of the process and with the variable `PATH` of its environment. The
  input is read to its end before the first line is carried out.
-/
import LineShell.Machine.Standard
import LineShell.Program

namespace LineShell.Main

/-- The longest read from standard input. -/
def readSize : USize := 65536

/-- Reads a stream to its end, in at most the given number of reads. -/
def readBytes (stream : IO.FS.Stream) : Nat → ByteArray → IO ByteArray
  | 0, read => pure read
  | more + 1, read => do
    let chunk ← stream.read readSize
    if chunk.isEmpty then pure read else readBytes stream more (read ++ chunk)

end LineShell.Main

open LineShell

/-- Runs the shell. -/
def main (args : List String) : IO UInt32 := do
  let stdin ← IO.getStdin
  let stdout ← IO.getStdout
  let stderr ← IO.getStderr
  let terminal ← stdin.isTty
  let path ← IO.getEnv "PATH"
  let input ← Main.readBytes stdin 1000000 ByteArray.empty
  let block := path.toList.map fun value => Block.entry (Utf8.encode "PATH") (Utf8.encode value)
  let call : Program.Invocation :=
    { name := Utf8.encode Config.defaultName
      args := args.map Utf8.encode
      block := block
      input := ⟨input.toList, none⟩
      terminal := terminal }
  let outcome := (Program.run Machine.host Machine.standard call).1
  stdout.write ⟨outcome.out.toArray⟩
  stderr.write ⟨outcome.err.toArray⟩
  pure outcome.code.toUInt32
