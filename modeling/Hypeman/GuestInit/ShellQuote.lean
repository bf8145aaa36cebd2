import Hypeman.Foundations.ShellWords

/-!
# Quoting of the entrypoint

The guest's init runs the entrypoint of the image through a shell (`lib/system/init/mode_exec.go`),
with every argument in single quotes.

* `run_shellQuote`: what the shell reads from one quoted argument.
* `words_shellQuoteArgs`: the words of the quoted arguments are the arguments.
-/

namespace Hypeman.GuestInit

open Foundations Foundations.ShellWords

/-- `strings.ReplaceAll(s, "'", "'\\''")`. -/
def escapeQuotes (s : List UInt8) : List UInt8 :=
  s.flatMap fun c => if c = 0x27 then [0x27, 0x5C, 0x27, 0x27] else [c]

def shellQuote (s : List UInt8) : List UInt8 := 0x27 :: escapeQuotes s ++ [0x27]

def shellQuoteArgs (args : List (List UInt8)) : List UInt8 :=
  if args.isEmpty then [] else [0x20].intercalate (args.map shellQuote)

/-- An argument as a word of which every character is quoted. -/
def quotedWord (arg : List UInt8) : List WordChar := arg.map fun c => ⟨c, true⟩

/-- A quote ends the quotation, stands behind a backslash, and the quotation begins anew. -/
theorem run_quote (done : List (List WordChar)) (w : List WordChar) :
    Lexer.run ⟨done, some w, .single⟩ [0x27, 0x5C, 0x27, 0x27] =
      some ⟨done, some (w ++ [⟨0x27, true⟩]), .single⟩ :=
  rfl

theorem run_escapeQuotes {s : List UInt8} (hs : 0 ∉ s) (done : List (List WordChar))
    (w : List WordChar) :
    Lexer.run ⟨done, some w, .single⟩ (escapeQuotes s) =
      some ⟨done, some (w ++ quotedWord s), .single⟩ := by
  induction s generalizing w with
  | nil => rw [quotedWord, List.map_nil, List.append_nil]; rfl
  | cons c s ih =>
    rw [List.mem_cons, not_or] at hs
    obtain ⟨hc, hs⟩ := hs
    have hword : w ++ quotedWord (c :: s) = (w ++ [⟨c, true⟩]) ++ quotedWord s := by
      simp [quotedWord]
    rw [escapeQuotes, List.flatMap_cons, Lexer.run_append, hword]
    split
    · next hquote =>
      rw [run_quote, Option.bind_some, hquote]
      exact ih hs _
    · next hquote =>
      rw [Lexer.run_cons, Lexer.next_single (Ne.symm hc) hquote, Option.bind_some]
      exact ih hs _

/-- A quoted argument is one word. -/
theorem run_shellQuote {arg : List UInt8} (harg : 0 ∉ arg) (done : List (List WordChar)) :
    Lexer.run ⟨done, none, .plain⟩ (shellQuote arg) =
      some ⟨done, some (quotedWord arg), .plain⟩ := by
  have hopen : Lexer.next ⟨done, none, .plain⟩ 0x27 = some ⟨done, some [], .single⟩ := rfl
  rw [shellQuote, List.cons_append, Lexer.run_cons, hopen, Option.bind_some, Lexer.run_append,
    run_escapeQuotes harg, Option.bind_some]
  rfl

theorem run_shellQuoteArgs {arg : List UInt8} {args : List (List UInt8)} (harg : 0 ∉ arg)
    (hargs : ∀ arg ∈ args, 0 ∉ arg) (done : List (List WordChar)) :
    ∃ before last, Lexer.run ⟨done, none, .plain⟩ ([0x20].intercalate
        ((arg :: args).map shellQuote)) = some ⟨before, some last, .plain⟩ ∧
      before ++ [last] = done ++ (arg :: args).map quotedWord := by
  induction args generalizing arg done with
  | nil => exact ⟨done, quotedWord arg, by simpa using run_shellQuote harg done, rfl⟩
  | cons next args ih =>
    obtain ⟨hnext, hargs⟩ := List.forall_mem_cons.mp hargs
    obtain ⟨before, last, hrun, hwords⟩ := ih hnext hargs (done ++ [quotedWord arg])
    refine ⟨before, last, ?_, by simpa using hwords⟩
    rw [List.map_cons, List.map_cons, List.intercalate_cons_cons, List.append_assoc,
      Lexer.run_append, run_shellQuote harg, Option.bind_some, List.singleton_append,
      Lexer.run_cons, Lexer.next_blank, Option.bind_some]
    exact hrun

/-- The shell reads the arguments as they are, and every character of them is quoted. -/
theorem words_shellQuoteArgs (args : List (List UInt8)) (h : ∀ arg ∈ args, 0 ∉ arg) :
    words (shellQuoteArgs args) = some (args.map quotedWord) := by
  cases args with
  | nil => rfl
  | cons arg args =>
    obtain ⟨harg, hargs⟩ := List.forall_mem_cons.mp h
    obtain ⟨before, last, hrun, hwords⟩ := run_shellQuoteArgs harg hargs []
    rw [shellQuoteArgs, List.isEmpty_cons, if_neg Bool.false_ne_true, words, hrun,
      Option.bind_some]
    exact congrArg some hwords

/-- The arguments `it's`, the empty one and `$(id) *`. -/
theorem words_shellQuoteArgs_sample :
    words (shellQuoteArgs (["it's", "", "$(id) *"].map Bytes.ascii)) =
      some ((["it's", "", "$(id) *"].map Bytes.ascii).map quotedWord) :=
  words_shellQuoteArgs _ (by decide)

end Hypeman.GuestInit
