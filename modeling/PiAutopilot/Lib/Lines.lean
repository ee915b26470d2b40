import Mathlib.Data.List.Basic

set_option autoImplicit false

/-! # Lines of a byte file, as a buffered line reader yields them -/

namespace PiAutopilot.Lib

def newline : UInt8 := 10
def carriageReturn : UInt8 := 13

def withoutReturn (line : List UInt8) : List UInt8 :=
  if line.getLast? = some carriageReturn then line.dropLast else line

def linesFrom (current : List UInt8) : List UInt8 → List (List UInt8)
  | [] => if current = [] then [] else [current]
  | byte :: rest =>
    if byte = newline then withoutReturn current :: linesFrom [] rest
    else linesFrom (current ++ [byte]) rest

def lines (text : List UInt8) : List (List UInt8) := linesFrom [] text

structure PlainLine (line : List UInt8) : Prop where
  nonempty : line ≠ []
  unbroken : newline ∉ line
  unreturned : line.getLast? ≠ some carriageReturn

def EndsLine (text : List UInt8) : Prop := text = [] ∨ text.getLast? = some newline

theorem lines_from_unbroken (current : List UInt8) {line : List UInt8} (rest : List UInt8) (unbroken : newline ∉ line) :
    linesFrom current (line ++ rest) = linesFrom (current ++ line) rest := by
  induction line generalizing current with
  | nil => simp only [List.nil_append, List.append_nil]
  | cons byte line ih =>
    rw [List.mem_cons, not_or] at unbroken
    rw [List.cons_append, linesFrom, if_neg (Ne.symm unbroken.1), ih _ unbroken.2, List.append_assoc, List.singleton_append]

-- Everything up to a newline is cut into lines without regard to what follows it.
theorem lines_from_ended (current : List UInt8) {text : List UInt8} (rest : List UInt8) (ended : text.getLast? = some newline) :
    linesFrom current (text ++ rest) = linesFrom current text ++ lines rest := by
  induction text generalizing current with
  | nil => cases ended
  | cons byte text ih =>
    rw [List.cons_append, linesFrom, linesFrom]
    cases text with
    | nil =>
      have atNewline : byte = newline := by simpa using ended
      rw [if_pos atNewline, if_pos atNewline]
      rfl
    | cons next text =>
      split
      · rw [ih _ ended, List.cons_append]
      · exact ih _ ended

theorem lines_append {text rest : List UInt8} (ends : EndsLine text) : lines (text ++ rest) = lines text ++ lines rest := by
  rcases ends with empty | ended
  · rw [empty]
    rfl
  · exact lines_from_ended [] rest ended

theorem lines_unterminated {line : List UInt8} (plain : PlainLine line) : lines line = [line] := by
  have cut := lines_from_unbroken [] [] plain.unbroken
  rw [List.append_nil, List.nil_append] at cut
  rw [lines, cut, linesFrom, if_neg plain.nonempty]

theorem lines_terminated {line : List UInt8} (plain : PlainLine line) : lines (line ++ [newline]) = [line] := by
  rw [lines, lines_from_unbroken [] [newline] plain.unbroken, List.nil_append, linesFrom, if_pos rfl,
    withoutReturn, if_neg plain.unreturned]
  rfl

end PiAutopilot.Lib
