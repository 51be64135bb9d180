/-
  LineShell.Proofs.Listing

  What `env` prints.

  `env` writes the key of a variable, an equals sign and its value, each of which was read
  as a text on its own when the shell captured its block. Since an equals sign is never a
  part of a longer sequence, the three together are the entry, read as a whole. So `env`
  prints the block that the shell was given, and not the one that it hands down: in its
  own order, with all repetitions. `Block.listing` is this text.

  The main statement says so for an `env` anywhere in a session with the builtins `exit` and
  `env`, in which no command of any kind ever changes the variables.
-/
import LineShell.Proofs.Attribution
import LineShell.Proofs.Capture
import LineShell.Proofs.StatusRange

namespace LineShell

/-! ## The text -/

namespace Block

/-- The entries that have an equals sign behind their first byte, each as a text on a line
    of its own. -/
def listing (entries : List Bytes) : Bytes :=
  (entries.filter fun bytes => equalsSign ∈ bytes.tail).flatMap fun bytes =>
    Utf8.encode (Utf8.decodeLossy bytes ++ "\n")

/-- The captured variables are printed as the entries that they were captured from. -/
theorem flatten_pieces_capture (entries : List Bytes) :
    ((capture entries).flatMap Builtin.Env.pieces).flatten = listing entries := by
  induction entries with
  | nil => rfl
  | cons bytes entries ih =>
    -- The entry is captured and printed just if it has an equals sign behind the first byte.
    by_cases hsign : equalsSign ∈ bytes.tail
    · obtain ⟨key, value, hkey, rfl⟩ := exists_entry hsign
      have hline : (Builtin.Env.pieces (Utf8.decodeLossy key, Utf8.decodeLossy value)).flatten
          = Utf8.encode (Utf8.decodeLossy (entry key value) ++ "\n") := by
        simp [Builtin.Env.pieces, decodeLossy_entry]
      rw [capture_cons_entry hkey, List.flatMap_cons, List.flatten_append, ih, hline, listing,
        listing, List.filter_cons_of_pos (by simpa using hsign), List.flatMap_cons]
    · rw [capture_cons_of_not_mem hsign, ih, listing, listing,
        List.filter_cons_of_neg (by simpa using hsign)]

end Block

/-! ## One command -/

namespace Shell

variable {σ : Type} {sh : Shell σ} {st : State σ}

/-- An `env` that asks nothing of standard output that fails writes all variables. It has
    the status 0, and nothing else changes but the register of the last status. -/
theorem run_env (hsh : sh.builtins = Builtin.standard) (args : List String)
    (hfaults : (sh.run ("env" :: args) st).2.out.faults = st.out.faults) :
    ∃ out, st.out.writeAll (st.env.vars.flatMap Builtin.Env.pieces) = (.ok (), out)
      ∧ sh.run ("env" :: args) st
        = (.ok (staleFlow st.env), ({ st with out } : State σ).record 0) := by
  rcases written : st.out.writeAll (st.env.vars.flatMap Builtin.Env.pieces) with ⟨answer, out⟩
  have attempted : sh.attempt "env" args st = perform (Builtin.Env.action st.env args) st :=
    attempt_env hsh args st
  rw [perform_eq, Builtin.Env.perform_action, written] at attempted
  cases answer with
  | error error =>
    -- The failure of the write would be one more fault.
    have hadded := Sink.faults_of_writeAll written
    rw [(frame_of_run attempted).1] at hfaults
    exact absurd (hadded.symm.trans hfaults) (List.cons_ne_self _ _)
  | ok =>
    have haccepts : sh.accepts st.env "env" args = true := by
      rw [accepts_standard hsh]
      rfl
    refine ⟨out, rfl, ?_⟩
    rw [ends_iff.mp (.succeeds attempted), haccepts]
    rfl

end Shell

/-! ## Sessions -/

namespace Session

variable {σ : Type} {sh : Shell σ} {deeds : List (Deed σ)} {env last : Environment}

theorem Chain.vars (hsh : sh.builtins = Builtin.standard) (h : Chain sh env deeds last) :
    last.vars = env.vars
      ∧ ∀ deed ∈ deeds, deed.before.env.vars = env.vars ∧ deed.after.env.vars = env.vars := by
  induction h with
  | nil => exact ⟨rfl, List.forall_mem_nil _⟩
  | @cons deed later env last starts ran _ ih =>
    have hafter : deed.after.env.vars = env.vars := by
      have hrun := Shell.vars_of_run hsh deed.words deed.before
      rw [show sh.run deed.words deed.before = (deed.result, deed.after) from ran] at hrun
      rw [← starts]
      exact hrun
    obtain ⟨hlast, hlater⟩ := ih
    refine ⟨hlast.trans hafter, List.forall_mem_cons.mpr ⟨⟨by rw [starts], hafter⟩, ?_⟩⟩
    intro other hother
    rw [← hafter]
    exact hlater other hother

/-- **`env` shows the captured block.** In a session with the builtins `exit` and `env` that
    starts from the entries of a block, no command changes the variables. And an `env`, with
    any arguments, that asks nothing of standard output which fails prints, in their order,
    all entries with an equals sign behind the first byte, each as a text and a newline. An
    entry that is text is so printed as it is. Nothing else is written or started, and if no
    command before it has ended the shell, the shell goes on with the status 0. -/
theorem output_of_env (hsh : sh.builtins = Builtin.standard) (world : σ) (entries : List Bytes)
    (out err : Device) (steps : List Step) :
    let start := Program.startOn world entries out err
    (∀ deed ∈ allDeeds sh start steps, deed.before.env.vars = Block.capture entries
        ∧ deed.after.env.vars = Block.capture entries)
      ∧ (play sh start steps).2.env.vars = Block.capture entries
      ∧ (∀ done deed later args, allDeeds sh start steps = done ++ deed :: later →
        deed.words = "env" :: args → deed.after.out.faults = deed.before.out.faults →
          deed.after.out.own = deed.before.out.own ++ Block.listing entries
          ∧ deed.after.out.shown = deed.before.out.shown ++ Block.listing entries
          ∧ deed.after.err = deed.before.err ∧ deed.after.children = deed.before.children
          ∧ ((∀ other ∈ done, ∀ status, other.result ≠ .ok (.terminate status)) →
            deed.result = .ok (.resume 0)))
      ∧ ∀ text, Utf8.encode (Utf8.decodeLossy (Utf8.encode text) ++ "\n")
        = Utf8.encode text ++ [0x0A] := by
  intro start
  have hchain := chain_allDeeds sh start steps
  obtain ⟨hlast, hvars⟩ := hchain.vars hsh
  refine ⟨hvars, hlast, ?_, ?_⟩
  · intro done deed later args hdeeds hwords hfaults
    rw [hdeeds] at hchain
    obtain ⟨hdone, ran⟩ := hchain.split
    have hbefore : deed.before.env.vars = Block.capture entries := (hdone.vars hsh).1
    obtain ⟨words, before, result, after⟩ := deed
    cases hwords
    have hrun : sh.run ("env" :: args) before = (result, after) := ran
    obtain ⟨printed, written, henv⟩ := Shell.run_env hsh args (by rw [hrun]; exact hfaults)
    rw [hrun] at henv
    cases henv
    rw [hbefore] at written
    obtain ⟨hown, hshown⟩ := Sink.writeAll_of_ok written
    rw [Block.flatten_pieces_capture] at hown hshown
    refine ⟨hown, hshown, rfl, rfl, ?_⟩
    intro hgoes
    -- Where no command has ended the shell, the flag is down.
    have hspares : ∀ builtin ∈ sh.builtins, builtin.Spares Environment.shouldExit := by
      intro builtin hmem
      rw [hsh] at hmem
      exact (Builtin.spares_of_standard hmem).part Environment.shouldExit
    have hdown := hdone.shouldExit_of_goesOn hspares rfl hgoes
    rw [Shell.staleFlow, hdown]
    rfl
  · intro text
    rw [Utf8.decodeLossy_encode, Utf8.encode_append]
    rfl

/-- Some entries: a repeated key, an empty key in front of a first equals sign, no sign at
    all, and a sequence that the equals sign breaks in two. -/
def sampleEntries : List Bytes :=
  ["PATH=/bin", "A=1", "=x", "=a=b", "B", "A=2"].map Utf8.encode ++ [[0xC3, 0x3D, 0xA9]]

/-- An `env` behind a program and behind an `exit` that is refused. -/
theorem output_of_env_third :
    Sample.shell.builtins = Builtin.standard
      ∧ ∃ first second deed,
        allDeeds Sample.shell (Program.startOn () sampleEntries .reliable .reliable)
            [.line "false", .line "exit abc", .line "env x"] = [first, second] ++ deed :: []
          ∧ deed.words = "env" :: ["x"] ∧ deed.after.out.faults = deed.before.out.faults
          ∧ deed.after.out.own = deed.before.out.own
            ++ Utf8.encode "PATH=/bin\nA=1\n=a=b\nA=2\n\uFFFD=\uFFFD\n"
          ∧ deed.result = .ok (.resume 0) := by
  have hsh : Sample.shell.builtins = Builtin.standard := rfl
  obtain ⟨first, second, deed, hdeeds, hfirst, hsecond, hwords, hfaults⟩ :
      ∃ first second deed,
        allDeeds Sample.shell (Program.startOn () sampleEntries .reliable .reliable)
            [.line "false", .line "exit abc", .line "env x"] = [first, second] ++ deed :: []
          ∧ first.result = .ok (.resume 1) ∧ second.result = .ok (.resume 2)
          ∧ deed.words = "env" :: ["x"] ∧ deed.after.out.faults = deed.before.out.faults :=
    ⟨_, _, _, rfl, rfl, rfl, rfl, rfl⟩
  obtain ⟨-, -, hprinted, -⟩ := output_of_env hsh () sampleEntries .reliable .reliable
    [.line "false", .line "exit abc", .line "env x"]
  obtain ⟨hown, -, -, -, hresult⟩ := hprinted _ _ _ _ hdeeds hwords hfaults
  refine ⟨hsh, first, second, deed, hdeeds, hwords, hfaults, ?_, hresult ?_⟩
  · rw [hown]
    exact congrArg (deed.before.out.own ++ ·) (by decide)
  · intro other hother status
    rcases List.mem_cons.mp hother with rfl | hlast
    · rw [hfirst]
      exact nofun
    · rw [List.mem_singleton.mp hlast, hsecond]
      exact nofun

end Session
end LineShell
