/-
  LineShell.Machine.Standard

  A machine as a host for the shell, and the machine that a session starts on: it has the
  usual directories and four programs, and an empty working directory named `work`.

  The machine stands for all that is not the shell: the system, and the programs `sh`, `env`,
  `chmod` and `rm`. It is one host among others, with which the shell is run and tested. What
  is proved about the shell holds with every host, and all that it refers to of the machine
  is how the system looks for the file of a program (`Machine.search`).
-/
import LineShell.Host
import LineShell.Machine.Execution

namespace LineShell.Machine

/-- The directories of the standard machine. -/
def standardDirectories : List Place :=
  [["dev"], ["dev", "fd"], ["etc"], ["home"], ["proc"], ["root"], ["sys"], ["tmp"], ["usr"], ["var"],
   ["usr", "bin"], ["usr", "lib"], ["usr", "local"], ["usr", "sbin"], ["tmp", "session"],
   ["tmp", "session", "work"]]

/-- The links of the standard machine. -/
def standardLinks : List (Place × String) :=
  [(["bin"], "usr/bin"), (["lib"], "usr/lib"), (["sbin"], "usr/sbin")]

/-- The programs of the standard machine. -/
def standardTools : List (Place × Tool) :=
  [(["usr", "bin", "sh"], .runScript), (["usr", "bin", "env"], .showBlock),
   (["usr", "bin", "chmod"], .changeMode), (["usr", "bin", "rm"], .remove)]

/-- The special files of the standard machine. -/
def standardSpecials : List (Place × Special) :=
  [(["dev", "null"], .null), (["dev", "zero"], .zero), (["dev", "full"], .full),
   (["dev", "stdin"], .descriptor 0), (["dev", "stdout"], .descriptor 1),
   (["dev", "stderr"], .descriptor 2)] ++
    (List.range 10).map fun number => (["dev", "fd", toString number], .descriptor number)

/-- The machine that a session starts on. -/
def standard : Machine where
  files :=
    ⟨standardDirectories.map (·, .plainDirectory) ++
      standardLinks.map (fun (place, target) => (place, .link target)) ++
      standardTools.map (fun (place, tool) => (place, .tool tool)) ++
      standardSpecials.map (fun (place, special) => (place, .special special))⟩
  workingDirectory := ["tmp", "session", "work"]

/-- The standard machine with some files added to its working directory, in order. -/
def withFiles (files : List (String × Node)) : Machine :=
  files.foldl (fun m file => m.add file.1 file.2) standard

/-- Starts a program and waits for its end. -/
def start (m : Machine) (launch : Launch) : Report × Machine :=
  let block := launch.block.map fun (key, value) =>
    (Text.Raw.ofBytes key, Text.Raw.ofBytes value)
  let list := Text.Raw.toText ((block.lookup "PATH").getD systemSearch)
  let image :=
    if launch.block.any fun (key, value) => argumentLimit < key.length + 1 + value.length
    then .error .argumentsTooLong
    else if launch.program = "" then .error .noEntry
    else search (m.load · (launch.argv.map Text.Raw.ofText)) list launch.program
  match image with
  | .error error => ({ fate := .refused error }, m)
  | .ok image =>
    let (ending, p) := (Process.first m).run block image
    (⟨p.written .out, p.written .err, .ended ending.word⟩, { m with files := p.system.files })

/-- The machine as the shell sees it. -/
def host : Host Machine := ⟨pathExists, start⟩

end LineShell.Machine
