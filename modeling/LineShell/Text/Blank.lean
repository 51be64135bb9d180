/-
  LineShell.Text.Blank

  The Unicode property White_Space, and the removal of such characters from the end of
  a text.
-/

namespace LineShell.Text

/-- The code points with the property White_Space, as inclusive ranges in order. -/
def blankRanges : List (Nat × Nat) :=
  [(0x09, 0x0D), (0x20, 0x20), (0x85, 0x85), (0xA0, 0xA0), (0x1680, 0x1680),
   (0x2000, 0x200A), (0x2028, 0x2029), (0x202F, 0x202F), (0x205F, 0x205F),
   (0x3000, 0x3000)]

/-- Whether a character has the property White_Space. -/
def isBlank (c : Char) : Bool :=
  blankRanges.any fun (low, high) => low ≤ c.toNat && c.toNat ≤ high

/-- A text without the blanks at its end. -/
def trimEnd (s : String) : String :=
  String.ofList (s.toList.reverse.dropWhile isBlank).reverse

/-- A newline at the end is trimmed. -/
theorem trimEnd_append_newline (s : String) : trimEnd (s ++ "\n") = trimEnd s := by
  have hblank : isBlank '\n' = true := by decide
  have hnewline : "\n".toList = ['\n'] := rfl
  rw [trimEnd, String.toList_append, hnewline, List.reverse_append, List.reverse_singleton,
    List.singleton_append, List.dropWhile_cons_of_pos hblank, trimEnd]

end LineShell.Text
