/-
  LineShell.Proofs.ArgumentReading

  What the reading of arguments from left to right comes to, told without the order.

  The first `--` divides the arguments. In front of it stand the requests for help, the
  options, which are all refused, and operands; behind it stand operands only. The main
  statements are that arguments are refused if there is an option or if there are more
  operands than the limit allows, wherever these stand, and that otherwise the order is for
  help if any word asks for it, and for the operands if none does.
-/
import LineShell.Arguments

namespace LineShell.Arguments

/-! ## The arguments as a whole -/

/-- The arguments in front of the first `--`. -/
def leading (args : List String) : List String := args.takeWhile (· ≠ separator)

/-- The arguments behind the first `--`. -/
def trailing (args : List String) : List String := (args.dropWhile (· ≠ separator)).tail

/-- The arguments that are operands. -/
def positionals (args : List String) : List String :=
  (leading args).filter (fun arg => !helpWords.contains arg) ++ trailing args

/-- Whether an option is among the arguments. -/
def hasOption (args : List String) : Bool :=
  (leading args).any fun arg => isOption arg && arg != "--help"

/-- Whether one of the arguments asks for help. -/
def asksHelp (args : List String) : Bool := (leading args).any helpWords.contains

/-- The argument that a refusal names. -/
def Refusal.arg? : Refusal → Option String
  | unrecognized arg => some arg
  | afterHelp => none

variable {limit : Nat} {arg : String} {args : List String} {progress : Progress}

theorem leading_cons (h : arg ≠ separator) (args : List String) :
    leading (arg :: args) = arg :: leading args := by
  rw [leading, List.takeWhile_cons_of_pos (by simpa using h), leading]

theorem leading_separator (args : List String) : leading (separator :: args) = [] := by
  rw [leading, List.takeWhile_cons_of_neg (by simp)]

theorem trailing_cons (h : arg ≠ separator) (args : List String) :
    trailing (arg :: args) = trailing args := by
  rw [trailing, List.dropWhile_cons_of_pos (by simpa using h), trailing]

theorem trailing_separator (args : List String) : trailing (separator :: args) = args := by
  rw [trailing, List.dropWhile_cons_of_neg (by simp), List.tail_cons]

theorem positionals_separator (args : List String) : positionals (separator :: args) = args := by
  rw [positionals, leading_separator, trailing_separator]
  rfl

/-- A word that asks for help is no operand. -/
theorem positionals_of_help (hsep : arg ≠ separator) (h : arg ∈ helpWords)
    (args : List String) : positionals (arg :: args) = positionals args := by
  rw [positionals, leading_cons hsep, trailing_cons hsep,
    List.filter_cons_of_neg (by simpa using h), positionals]

theorem positionals_of_not_help (hsep : arg ≠ separator) (h : arg ∉ helpWords)
    (args : List String) : positionals (arg :: args) = arg :: positionals args := by
  rw [positionals, leading_cons hsep, trailing_cons hsep,
    List.filter_cons_of_pos (by simpa using h), List.cons_append, positionals]

theorem hasOption_cons (hsep : arg ≠ separator) (args : List String) :
    hasOption (arg :: args) = ((isOption arg && arg != "--help") || hasOption args) := by
  rw [hasOption, leading_cons hsep, List.any_cons, hasOption]

theorem asksHelp_cons (hsep : arg ≠ separator) (args : List String) :
    asksHelp (arg :: args) = (helpWords.contains arg || asksHelp args) := by
  rw [asksHelp, leading_cons hsep, List.any_cons, asksHelp]

/-- A word that asks for help is no option. -/
theorem not_option_of_help (h : arg ∈ helpWords) : (isOption arg && arg != "--help") = false := by
  have hwords : arg = "--help" ∨ arg = "help" := by simpa [helpWords] using h
  rcases hwords with rfl | rfl <;> decide

/-- What starts like an option and asks for no help is one. -/
theorem option_of_not_help (h : arg ∉ helpWords) :
    (isOption arg && arg != "--help") = isOption arg := by
  have hne : arg ≠ "--help" := by
    intro heq
    exact h (by rw [heq]; decide)
  simp [hne]

/-! ## One argument -/

namespace Progress

/-- What is known after one more operand. -/
def withOperand (progress : Progress) (arg : String) : Progress :=
  { progress with operands := progress.operands ++ [arg] }

theorem length_withOperand (progress : Progress) (arg : String) :
    (progress.withOperand arg).operands.length = progress.operands.length + 1 :=
  List.length_append

theorem read_help (hopen : progress.optionsEnded = false) (h : arg ∈ helpWords) :
    progress.read limit arg = .ok { progress with helpAsked := true } := by
  rw [read, if_pos (by simpa [hopen] using h)]

theorem read_separator (hopen : progress.optionsEnded = false) :
    progress.read limit separator = .ok { progress with optionsEnded := true } := by
  rw [read, if_neg (by rw [hopen]; decide), if_pos (by rw [hopen]; decide), if_pos rfl]

/-- An option is refused, and it is named if no help was asked for before it. -/
theorem read_option (hopen : progress.optionsEnded = false) (hhelp : arg ∉ helpWords)
    (hsep : arg ≠ separator) (h : isOption arg = true) :
    progress.read limit arg
      = .error (if progress.helpAsked then .afterHelp else .unrecognized arg) := by
  rw [read, if_neg (by simpa [hopen] using hhelp), if_pos (by simpa [hopen] using h),
    if_neg hsep]
  split <;> rfl

/-- Any other argument is an operand, if the limit allows one more. -/
theorem read_operand
    (h : progress.optionsEnded = true ∨ (arg ∉ helpWords ∧ isOption arg = false)) :
    progress.read limit arg
      = if progress.operands.length < limit then .ok (progress.withOperand arg)
        else .error (.unrecognized arg) := by
  rw [read]
  rcases h with hended | ⟨hhelp, hoption⟩
  · rw [if_neg (by simp [hended]), if_neg (by simp [hended]), withOperand]
  · rw [if_neg (by simp [hhelp]), if_neg (by simp [hoption]), withOperand]

/-- An argument that is read leaves the others to be read after it. -/
theorem foldlM_of_ok {next : Progress} (h : progress.read limit arg = .ok next)
    (args : List String) :
    (arg :: args).foldlM (read limit) progress = args.foldlM (read limit) next := by
  rw [List.foldlM_cons, h]
  rfl

/-- An argument that is refused ends the reading. -/
theorem foldlM_of_error {refusal : Refusal} (h : progress.read limit arg = .error refusal)
    (args : List String) : (arg :: args).foldlM (read limit) progress = .error refusal := by
  rw [List.foldlM_cons, h]
  rfl

/-! ## Behind the separator -/

/-- Once the options have ended, all arguments are operands. -/
theorem foldlM_of_ended (progress : Progress) (hended : progress.optionsEnded = true)
    (h : progress.operands.length + args.length ≤ limit) :
    args.foldlM (read limit) progress
      = .ok { progress with operands := progress.operands ++ args } := by
  induction args generalizing progress with
  | nil =>
    rw [List.foldlM_nil, List.append_nil]
    rfl
  | cons arg args ih =>
    rw [List.length_cons] at h
    have hread : progress.read limit arg = .ok (progress.withOperand arg) := by
      rw [read_operand (.inl hended), if_pos (by omega)]
    have hlen := progress.length_withOperand arg
    rw [foldlM_of_ok hread, ih (progress.withOperand arg) hended (by omega), withOperand,
      List.append_assoc, List.singleton_append]

/-- If they are too many, one of them is refused. -/
theorem foldlM_of_ended_lt (progress : Progress) (hended : progress.optionsEnded = true)
    (h : progress.operands.length ≤ limit ∧ limit < progress.operands.length + args.length) :
    ∃ refusal, args.foldlM (read limit) progress = .error refusal
      ∧ ∀ a ∈ refusal.arg?, a ∈ args := by
  induction args generalizing progress with
  | nil =>
    rw [List.length_nil] at h
    omega
  | cons arg args ih =>
    rw [List.length_cons] at h
    -- Either this operand is the one for which there is no room, or there is room for it and
    -- a later one is refused.
    by_cases hroom : progress.operands.length < limit
    · have hread : progress.read limit arg = .ok (progress.withOperand arg) := by
        rw [read_operand (.inl hended), if_pos hroom]
      have hlen := progress.length_withOperand arg
      rw [foldlM_of_ok hread]
      obtain ⟨refusal, hrefused, hnamed⟩ :=
        ih (progress.withOperand arg) hended ⟨by omega, by omega⟩
      exact ⟨refusal, hrefused, fun a ha => List.mem_cons_of_mem arg (hnamed a ha)⟩
    · have hread : progress.read limit arg = .error (.unrecognized arg) := by
        rw [read_operand (.inl hended), if_neg hroom]
      exact ⟨.unrecognized arg, foldlM_of_error hread args, by simp [Refusal.arg?]⟩

/-! ## In front of it -/

/-- Arguments without an option, and with no more operands than the limit allows, are all
    read. -/
theorem foldlM_of_open (progress : Progress) (hopen : progress.optionsEnded = false)
    (hoption : hasOption args = false)
    (h : progress.operands.length + (positionals args).length ≤ limit) :
    ∃ ended, args.foldlM (read limit) progress
      = .ok ⟨progress.helpAsked || asksHelp args, ended,
          progress.operands ++ positionals args⟩ := by
  induction args generalizing progress with
  | nil =>
    refine ⟨false, ?_⟩
    rw [← hopen, List.foldlM_nil]
    simp [asksHelp, leading, positionals, trailing]
    rfl
  | cons arg args ih =>
    by_cases hsep : arg = separator
    · -- From here on there are only operands, and no more requests for help.
      subst hsep
      rw [positionals_separator] at h ⊢
      have hrest := foldlM_of_ended { progress with optionsEnded := true } rfl h
      rw [foldlM_of_ok (read_separator hopen), hrest, asksHelp, leading_separator]
      exact ⟨true, by simp⟩
    rw [hasOption_cons hsep, Bool.or_eq_false_iff] at hoption
    rw [asksHelp_cons hsep]
    -- In front of the separator an argument asks for help or is an operand.
    by_cases hhelp : arg ∈ helpWords
    · rw [positionals_of_help hsep hhelp] at h ⊢
      rw [foldlM_of_ok (read_help hopen hhelp)]
      obtain ⟨ended, hread⟩ := ih { progress with helpAsked := true } hopen hoption.2 h
      exact ⟨ended, by rw [hread]; simp [hhelp]⟩
    · rw [option_of_not_help hhelp] at hoption
      rw [positionals_of_not_help hsep hhelp] at h ⊢
      rw [List.length_cons] at h
      have hread : progress.read limit arg = .ok (progress.withOperand arg) := by
        rw [read_operand (.inr ⟨hhelp, hoption.1⟩), if_pos (by omega)]
      have hlen := progress.length_withOperand arg
      obtain ⟨ended, hrest⟩ :=
        ih (progress.withOperand arg) hopen hoption.2 (by omega)
      exact ⟨ended, by rw [foldlM_of_ok hread, hrest]; simp [hhelp, withOperand]⟩

/-- If there is an option or the operands are too many, one of the arguments is refused. -/
theorem foldlM_of_refused (progress : Progress) (hopen : progress.optionsEnded = false)
    (hlimit : progress.operands.length ≤ limit)
    (h : hasOption args = true
      ∨ limit < progress.operands.length + (positionals args).length) :
    ∃ refusal, args.foldlM (read limit) progress = .error refusal
      ∧ ∀ a ∈ refusal.arg?, a ∈ args := by
  induction args generalizing progress with
  | nil =>
    rcases h with h | h
    · cases h
    · exact absurd h (Nat.not_lt.mpr hlimit)
  | cons arg args ih =>
    by_cases hsep : arg = separator
    · subst hsep
      -- Behind the separator there is no option, so the operands are too many.
      have hlt : limit < progress.operands.length + args.length := by
        rcases h with h | h
        · rw [hasOption, leading_separator] at h
          cases h
        · rw [positionals_separator] at h
          exact h
      rw [foldlM_of_ok (read_separator hopen)]
      obtain ⟨refusal, hrefused, hnamed⟩ := foldlM_of_ended_lt
        { progress with optionsEnded := true } rfl ⟨hlimit, hlt⟩
      exact ⟨refusal, hrefused, fun a ha => List.mem_cons_of_mem _ (hnamed a ha)⟩
    rw [hasOption_cons hsep] at h
    by_cases hhelp : arg ∈ helpWords
    · rw [not_option_of_help hhelp, Bool.false_or, positionals_of_help hsep hhelp] at h
      rw [foldlM_of_ok (read_help hopen hhelp)]
      obtain ⟨refusal, hrefused, hnamed⟩ :=
        ih { progress with helpAsked := true } hopen hlimit h
      exact ⟨refusal, hrefused, fun a ha => List.mem_cons_of_mem arg (hnamed a ha)⟩
    rw [option_of_not_help hhelp, positionals_of_not_help hsep hhelp, List.length_cons] at h
    cases hoption : isOption arg with
    | true =>
      -- This argument is refused, and what comes after it does not count.
      refine ⟨_, foldlM_of_error (read_option hopen hhelp hsep hoption) args, ?_⟩
      split <;> simp [Refusal.arg?]
    | false =>
      rw [hoption, Bool.false_or] at h
      by_cases hroom : progress.operands.length < limit
      · have hread : progress.read limit arg = .ok (progress.withOperand arg) := by
          rw [read_operand (.inr ⟨hhelp, hoption⟩), if_pos hroom]
        have hlen := progress.length_withOperand arg
        rw [foldlM_of_ok hread]
        obtain ⟨refusal, hrefused, hnamed⟩ := ih (progress.withOperand arg) hopen (by omega)
          (h.imp id (by omega))
        exact ⟨refusal, hrefused, fun a ha => List.mem_cons_of_mem arg (hnamed a ha)⟩
      · -- It is the one operand too many.
        have hread : progress.read limit arg = .error (.unrecognized arg) := by
          rw [read_operand (.inr ⟨hhelp, hoption⟩), if_neg hroom]
        exact ⟨.unrecognized arg, foldlM_of_error hread args, by simp [Refusal.arg?]⟩

/-! ## Where the reading stops -/

/-- Arguments that are refused have a first one that is. -/
theorem exists_of_foldlM_error {refusal : Refusal}
    (h : args.foldlM (read limit) progress = .error refusal) :
    ∃ before arg after next, args = before ++ arg :: after
      ∧ before.foldlM (read limit) progress = .ok next ∧ next.read limit arg = .error refusal := by
  induction args generalizing progress with
  | nil => cases h
  | cons arg args ih =>
    rcases hread : progress.read limit arg with refused | next
    · rw [foldlM_of_error hread] at h
      cases h
      exact ⟨[], arg, args, progress, rfl, rfl, hread⟩
    · rw [foldlM_of_ok hread] at h
      obtain ⟨before, stop, after, last, rfl, hbefore, hstop⟩ := ih h
      exact ⟨arg :: before, stop, after, last, rfl, by rw [foldlM_of_ok hread, hbefore], hstop⟩

/-- What comes behind it does not count. -/
theorem foldlM_append_of_error {next : Progress} {refusal : Refusal} {before : List String}
    (hbefore : before.foldlM (read limit) progress = .ok next)
    (h : next.read limit arg = .error refusal) (after : List String) :
    (before ++ arg :: after).foldlM (read limit) progress = .error refusal := by
  rw [List.foldlM_append, hbefore]
  exact foldlM_of_error h after

end Progress

/-! ## All arguments -/

/-- Arguments are refused if there is an option or if the operands are too many. -/
theorem read_of_refused (h : hasOption args = true ∨ limit < (positionals args).length) :
    ∃ refusal, read limit args = .error refusal ∧ ∀ a ∈ refusal.arg?, a ∈ args := by
  obtain ⟨refusal, hrefused, hnamed⟩ :=
    Progress.foldlM_of_refused {} rfl (Nat.zero_le limit) (by simpa using h)
  exact ⟨refusal, by rw [read, hrefused]; rfl, hnamed⟩

example : read 1 ["1", "2", "--help"] = .error (.unrecognized "2") := rfl

/-- Otherwise they ask for help, if any word does, or else give the operands. -/
theorem read_of_accepted (hoption : hasOption args = false)
    (h : (positionals args).length ≤ limit) :
    read limit args = .ok (if asksHelp args then .help else .operands (positionals args)) := by
  obtain ⟨ended, hread⟩ := Progress.foldlM_of_open {} rfl hoption (by simpa using h)
  rw [read, hread]
  show Except.ok (Progress.order _) = _
  rw [Progress.order]
  simp

end LineShell.Arguments
