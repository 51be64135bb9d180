/-
  LineShell.Builtin.Standard

  The builtins of a shell that is given no others.
-/
import LineShell.Builtin.Env
import LineShell.Builtin.Exit

namespace LineShell.Builtin

/-- The builtins `exit` and `env`. -/
def standard : List Builtin := [Exit.builtin, Env.builtin]

end LineShell.Builtin
