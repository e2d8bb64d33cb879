import EventLedger.Text.Lines
import Mathlib.Data.List.DropRight

/-! The lines of bytes, and of bytes to which others are appended. What stood after the last line feed
goes on in the first line of what is appended. -/

namespace EventLedger.Text

/-- What stands after the last line feed. -/
def unfinished (bs : List UInt8) : List UInt8 := bs.rtakeWhile (· != lineFeed)

/-- The lines that are ended by a line feed. -/
def finishedLines (bs : List UInt8) : List (List UInt8) :=
  (bs.splitOn lineFeed).dropLast.map chompReturn

theorem unfinished_of_not_mem {bs : List UInt8} (h : lineFeed ∉ bs) : unfinished bs = bs := by
  refine List.rtakeWhile_eq_self_iff.mpr fun b member => ?_
  have other : b ≠ lineFeed := fun same => h (same ▸ member)
  simpa using other

theorem unfinished_append_cons {tail : List UInt8} (h : lineFeed ∉ tail) (front : List UInt8) :
    unfinished (front ++ lineFeed :: tail) = tail := by
  have all : ∀ b ∈ tail.reverse, (b != lineFeed) = true := by
    intro b member
    have other : b ≠ lineFeed := fun same => h (same ▸ List.mem_reverse.mp member)
    simpa using other
  rw [unfinished, List.rtakeWhile, List.reverse_append, List.reverse_cons, List.append_assoc,
    List.takeWhile_append_of_pos all]
  simp

theorem exists_last_lineFeed (bs : List UInt8) :
    lineFeed ∉ bs ∨ ∃ front tail, bs = front ++ lineFeed :: tail ∧ lineFeed ∉ tail := by
  by_cases member : lineFeed ∈ bs
  · obtain ⟨tail, front, reversed, none⟩ := List.eq_append_cons_of_mem (List.mem_reverse.mpr member)
    refine Or.inr ⟨front.reverse, tail.reverse, ?_, fun found => none (List.mem_reverse.mp found)⟩
    rw [← List.reverse_reverse bs, reversed]
    simp
  · exact Or.inl member

theorem splitOn_append {line : List UInt8} (h : lineFeed ∉ line) (bs : List UInt8) :
    (bs ++ line).splitOn lineFeed = (bs.splitOn lineFeed).dropLast ++ [unfinished bs ++ line] := by
  rcases exists_last_lineFeed bs with none | ⟨front, tail, rfl, none⟩
  · have both : lineFeed ∉ bs ++ line := by simp [none, h]
    rw [List.splitOn_eq_singleton both, List.splitOn_eq_singleton none, unfinished_of_not_mem none]
    rfl
  · have both : lineFeed ∉ tail ++ line := by simp [none, h]
    rw [unfinished_append_cons none, List.append_assoc, List.cons_append,
      List.splitOn_append_cons_self, List.splitOn_append_cons_self, List.splitOn_eq_singleton both,
      List.splitOn_eq_singleton none, List.dropLast_concat]

/-- Bytes of one line that are appended finish none. -/
theorem finishedLines_append {line : List UInt8} (h : lineFeed ∉ line) (bs : List UInt8) :
    finishedLines (bs ++ line) = finishedLines bs := by
  rw [finishedLines, splitOn_append h, List.dropLast_concat, finishedLines]

theorem unfinished_append {line : List UInt8} (h : lineFeed ∉ line) (bs : List UInt8) :
    unfinished (bs ++ line) = unfinished bs ++ line := by
  rcases exists_last_lineFeed bs with none | ⟨front, tail, rfl, none⟩
  · rw [unfinished_of_not_mem none, unfinished_of_not_mem (by simp [none, h])]
  · rw [List.append_assoc, List.cons_append, unfinished_append_cons none,
      unfinished_append_cons (by simp [none, h])]

theorem lines_eq_finished (bs : List UInt8) :
    lines bs = finishedLines bs ++ if unfinished bs = [] then [] else [unfinished bs] := by
  have parts := splitOn_append List.not_mem_nil bs
  rw [List.append_nil, List.append_nil] at parts
  rw [lines, finishedLines]
  rw [parts, List.dropLast_concat, List.getLast?_concat]
  cases unfinished bs <;> simp

theorem lines_of_not_mem {bs : List UInt8} (h : lineFeed ∉ bs) (some : bs ≠ []) : lines bs = [bs] := by
  rw [lines, List.splitOn_eq_singleton h]
  simp [some]

/-- A line that is appended begins where the bytes before it broke off. -/
theorem lines_append_line {line : List UInt8} (h : lineFeed ∉ line) (bs rest : List UInt8) :
    lines (bs ++ line ++ lineFeed :: rest) =
      finishedLines bs ++ chompReturn (unfinished bs ++ line) :: lines rest := by
  have some : rest.splitOn lineFeed ≠ [] := List.splitOn_ne_nil _ _
  rw [lines, finishedLines]
  rw [List.splitOn_append_cons_self, splitOn_append h, List.dropLast_append_of_ne_nil some,
    List.getLast?_append_of_ne_nil _ some]
  simp [lines]

/-- How bytes break into lines. A line is ended by a line feed, or by a carriage return and a line feed;
    the last one need not be ended if there is anything in it. -/
inductive Breaks : List UInt8 → List (List UInt8) → Prop where
  | nothing : Breaks [] []
  | unended {line : List UInt8} (whole : lineFeed ∉ line) (filled : line ≠ []) : Breaks line [line]
  | feed {line rest : List UInt8} {ls : List (List UInt8)} (whole : lineFeed ∉ line)
      (plain : line.getLast? ≠ some carriageReturn) (others : Breaks rest ls) :
      Breaks (line ++ lineFeed :: rest) (line :: ls)
  | returnFeed {line rest : List UInt8} {ls : List (List UInt8)} (whole : lineFeed ∉ line)
      (others : Breaks rest ls) : Breaks (line ++ carriageReturn :: lineFeed :: rest) (line :: ls)

theorem lines_line {line : List UInt8} (whole : lineFeed ∉ line) (rest : List UInt8) :
    lines (line ++ lineFeed :: rest) = chompReturn line :: lines rest := by
  have first := lines_append_line whole [] rest
  rwa [List.nil_append] at first

theorem breaks_lines (bs : List UInt8) : Breaks bs (lines bs) := by
  induction size : bs.length using Nat.strong_induction_on generalizing bs with
  | _ n ih =>
    by_cases member : lineFeed ∈ bs
    · obtain ⟨line, rest, rfl, whole⟩ := List.eq_append_cons_of_mem member
      have shorter : rest.length < n := by
        rw [← size, List.length_append, List.length_cons]
        omega
      have others := ih rest.length shorter rest rfl
      rw [lines_line whole, chompReturn]
      split
      · rename_i last
        have ended := List.dropLast_append_getLast? _ last
        have whole' : lineFeed ∉ line.dropLast := fun found => whole (List.dropLast_subset _ found)
        have joined : line ++ lineFeed :: rest = line.dropLast ++ carriageReturn :: lineFeed :: rest := by
          conv_lhs => rw [← ended, List.append_assoc, List.singleton_append]
        rw [joined]
        exact .returnFeed whole' others
      · rename_i plain
        exact .feed whole plain others
    · by_cases empty : bs = []
      · subst empty
        exact .nothing
      · rw [lines_of_not_mem member empty]
        exact .unended member empty

end EventLedger.Text
