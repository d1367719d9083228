/-
# Lines of a text

A line feed ends a line.  A carriage return before it belongs to the end of the
line, not to its text.
-/

namespace SharedBudget.Text

/-- The parts of a text between its line feeds. -/
def splitLines : List Char → List (List Char)
  | [] => [[]]
  | c :: cs =>
    if c = '\n' then [] :: splitLines cs
    else
      match splitLines cs with
      | [] => [[c]]
      | line :: lines => (c :: line) :: lines

/-- A line without a carriage return at its end. -/
def dropReturn (line : List Char) : List Char :=
  if line.getLast? = some '\r' then line.dropLast else line

/-- The lines of a text that a line feed follows. -/
def lines (s : String) : List String :=
  (splitLines s.toList).map fun line => String.ofList (dropReturn line)

/-- No line has a line feed in it. -/
theorem newline_not_mem_splitLines {cs line : List Char} (h : line ∈ splitLines cs) :
    '\n' ∉ line := by
  induction cs generalizing line with
  | nil => simp_all [splitLines]
  | cons c cs ih =>
    by_cases hc : c = '\n'
    · simp only [splitLines, hc, if_true, List.mem_cons] at h
      rcases h with rfl | h
      · simp
      · exact ih h
    · have hc' : ¬ '\n' = c := fun e => hc e.symm
      rw [splitLines, if_neg hc] at h
      split at h
      · rw [List.mem_singleton.1 h, List.mem_singleton]
        exact hc'
      · rename_i first others hs
        rcases List.mem_cons.1 h with rfl | h
        · rw [List.mem_cons, not_or]
          exact ⟨hc', ih (hs ▸ List.mem_cons_self ..)⟩
        · exact ih (hs ▸ List.mem_cons_of_mem _ h)

end SharedBudget.Text
