import Hypeman.Foundations.Bytes

/-!
# Words of the shell

How a POSIX shell splits a command into words: token recognition with the three ways of quoting. A
character of a word is kept with whether it was quoted, since expansions, patterns, assignments and
reserved words only arise from characters that are not. There are no words where the text has an
operator, a comment, the beginning of an expansion or a quotation without end.

* `Lexer.next`: one character.
* `words`: the words of a text.
* `Lexer.run_append`: a text is read part by part.
-/

namespace Hypeman.Foundations.ShellWords

open Bytes

structure WordChar where
  byte : UInt8
  quoted : Bool
deriving DecidableEq, Repr

/-- The quotation that the next character stands in. -/
inductive Mode
  | plain
  /-- After a backslash. -/
  | escape
  | single
  | double
  /-- After a backslash between double quotes. -/
  | doubleEscape
deriving DecidableEq, Repr

/-- The words that are complete, and the word that is being read, if there is one. -/
structure Lexer where
  words : List (List WordChar) := []
  current : Option (List WordChar) := none
  mode : Mode := .plain
deriving DecidableEq, Repr

namespace Lexer

/-- The current word has another character. -/
def append (l : Lexer) (c : UInt8) (quoted : Bool) (mode : Mode) : Lexer :=
  { l with current := some (l.current.getD [] ++ [⟨c, quoted⟩]), mode := mode }

/-- A quotation begins: there is a word, though it may be empty. -/
def enter (l : Lexer) (mode : Mode) : Lexer :=
  { l with current := some (l.current.getD []), mode := mode }

def delimit (l : Lexer) : Lexer :=
  { l with words := l.words ++ l.current.toList, current := none }

def next (l : Lexer) (c : UInt8) : Option Lexer :=
  if c = 0 then none
  else match l.mode with
  | .plain =>
    if c ∈ ascii " \t" then some l.delimit
    else if c ∈ ascii "'" then some (l.enter .single)
    else if c ∈ ascii "\"" then some (l.enter .double)
    else if c ∈ ascii "\\" then some { l with mode := .escape }
    else if c ∈ ascii "|&;<>()\n$`" ∨ c ∈ ascii "#" ∧ l.current = none then none
    else some (l.append c false .plain)
  | .escape =>
    -- a backslash before the end of a line joins the lines
    if c ∈ ascii "\n" then some { l with mode := .plain } else some (l.append c true .plain)
  | .single =>
    if c ∈ ascii "'" then some { l with mode := .plain } else some (l.append c true .single)
  | .double =>
    if c ∈ ascii "\"" then some { l with mode := .plain }
    else if c ∈ ascii "\\" then some { l with mode := .doubleEscape }
    else if c ∈ ascii "$`" then none
    else some (l.append c true .double)
  | .doubleEscape =>
    if c ∈ ascii "\n" then some { l with mode := .double }
    else if c ∈ ascii "$`\"\\" then some (l.append c true .double)
    else some ((l.append 0x5C true .double).append c true .double)

/-- The characters of a text. -/
def run (l : Lexer) (s : List UInt8) : Option Lexer := s.foldlM next l

theorem run_append (l : Lexer) (s t : List UInt8) :
    l.run (s ++ t) = (l.run s).bind fun l => l.run t :=
  List.foldlM_append

theorem run_cons (l : Lexer) (c : UInt8) (s : List UInt8) :
    l.run (c :: s) = (l.next c).bind fun l => l.run s :=
  List.foldlM_cons

/-- Between single quotes every character but the quote stands for itself. -/
theorem next_single {c : UInt8} (hnul : c ≠ 0) (hquote : c ≠ 0x27) (done : List (List WordChar))
    (w : List WordChar) :
    next ⟨done, some w, .single⟩ c = some ⟨done, some (w ++ [⟨c, true⟩]), .single⟩ := by
  simp [next, ascii, append, hnul, hquote]

/-- A blank after a word. -/
theorem next_blank (done : List (List WordChar)) (w : List WordChar) :
    next ⟨done, some w, .plain⟩ 0x20 = some ⟨done ++ [w], none, .plain⟩ :=
  rfl

end Lexer

def words (s : List UInt8) : Option (List (List WordChar)) :=
  (Lexer.run {} s).bind fun l => if l.mode = .plain then some l.delimit.words else none

end Hypeman.Foundations.ShellWords
