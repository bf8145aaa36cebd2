import Hypeman.Foundations.Bytes

/-!
# The exit sentinel on the serial console

Before it shuts the machine down, init (`lib/system/init/mode_exec.go`, `lib/system/init/logger.go`)
writes the exit code of the application and a description of it to the serial console, in one line
of its log. The host (`lib/instances/query.go`) finds that line in the end of the console log. The
console carries whatever the application writes as well, so the line may continue one that the
application left unfinished.

* `formatExitSentinel`, `Info`: the line that init writes.
* `parseExitSentinel`: what the host reads, over the last `tailSize` bytes of the log.
* `sentinel_read_back`: the host reads whatever code init writes exactly if the unfinished line
  before the sentinel, as far as the tail holds it, does not hold the text that marks a sentinel.
* `sentinel_after_unfinished_line`: without that condition the host reads another code.
-/

namespace Hypeman.Instances.ExitSentinel

open Foundations.Bytes

/-! ## What init writes -/

/-- The verb `%q` and `strconv.Unquote`. A quoted text is in double quotes and on one line. -/
structure Quoting where
  quote : List UInt8 → List UInt8
  unquote : List UInt8 → Option (List UInt8)
  unquote_quote : ∀ m, unquote (quote m) = some m
  quote_line : ∀ m, 0x0A ∉ quote m
  quote_end : ∀ m, ∃ body, quote m = body ++ ascii "\""

/-- `exitSentinelPrefix` of the host. -/
def exitSentinelPrefix : List UInt8 := ascii "HYPEMAN-EXIT "

/-- `formatExitSentinel` of init. -/
def formatExitSentinel (q : Quoting) (code : Int64) (message : List UInt8) : List UInt8 :=
  ascii "HYPEMAN-EXIT code=" ++ itoa code.toInt ++ ascii " message=" ++ q.quote message

/-- A time in UTC, to the second. -/
structure Timestamp where
  year : Nat
  month : Nat
  day : Nat
  hour : Nat
  minute : Nat
  second : Nat

/-- The digits of a number, with zeros before them to the given width. -/
def padded (width n : Nat) : List UInt8 := (digits n).leftpad width 0x30

/-- `Format(time.RFC3339)`. -/
def Timestamp.format (t : Timestamp) : List UInt8 :=
  padded 4 t.year ++ (ascii "-" ++ padded 2 t.month ++ ascii "-" ++ padded 2 t.day ++ ascii "T" ++
    padded 2 t.hour ++ ascii ":" ++ padded 2 t.minute ++ ascii ":" ++ padded 2 t.second ++
    ascii "Z")

/-- The phases under which init logs the sentinel. -/
inductive Phase
  | entrypoint
  | systemd

def Phase.text : Phase → List UInt8
  | .entrypoint => ascii "hypeman-init:entrypoint"
  | .systemd => ascii "hypeman-init:systemd"

/-- The end of a line as the log file has it: a terminal adds a carriage return. -/
inductive LineEnd
  | plain
  | terminal

/-- What a terminal puts before the newline. -/
def LineEnd.carriage : LineEnd → List UInt8
  | .plain => []
  | .terminal => [0x0D]

/-- What the logger writes before a message. -/
def header (ts : Timestamp) (phase : Phase) : List UInt8 :=
  ts.format ++ ascii " [INFO] [" ++ phase.text ++ ascii "] "

def Info (eol : LineEnd) (ts : Timestamp) (phase : Phase) (msg : List UInt8) : List UInt8 :=
  header ts phase ++ msg ++ eol.carriage ++ [0x0A]

/-! ## What the host reads -/

def tailSize : Nat := 8192

/-- `readTail`, on a file that is `none` where it cannot be read. -/
def readTail (file : Option (List UInt8)) (n : Nat) : Option (List UInt8) :=
  file.map fun data => data.drop (data.length - n)

/-- `strings.Trim(s, "\"")`. -/
def trimQuotes (s : List UInt8) : List UInt8 := (s.dropWhile (· == 0x22)).rdropWhile (· == 0x22)

def parseExitSentinelLine (q : Quoting) (line : List UInt8) : Option (Int64 × List UInt8) :=
  match cut exitSentinelPrefix (trimSpace line) with
  | none => none
  | some (_, sentinel) =>
    if ascii "code=" <+: sentinel then
      let sentinel := sentinel.drop 5
      match cut (ascii " ") sentinel with
      | none => (atoi sentinel).map fun code => (code, [])
      | some (number, rest) =>
        match atoi number with
        | none => none
        | some code =>
          if ascii "message=" <+: rest then
            let msgStr := rest.drop 8
            match q.unquote msgStr with
            | some unquoted => some (code, unquoted)
            | none => some (code, trimQuotes msgStr)
          else some (code, [])
    else none

/-- `parseExitSentinel`: the last line of the tail that is a sentinel. -/
def parseExitSentinel (q : Quoting) (file : Option (List UInt8)) : Option (Int64 × List UInt8) :=
  match readTail file tailSize with
  | none => none
  | some data => (lines data).reverse.findSome? (parseExitSentinelLine q)

/-! ## The line as it was written -/

theorem padded_ne_nil (width n : Nat) : padded width n ≠ [] := by
  simp [padded, List.leftpad, digits_ne_nil]

theorem padded_range (width n : Nat) : ∀ b ∈ padded width n, 0x30 ≤ b ∧ b ≤ 0x39 := by
  intro b hb
  rcases List.mem_append.mp hb with hzero | hdigit
  · obtain rfl := List.eq_of_mem_replicate hzero
    decide
  · exact digits_range n b hdigit

/-- A byte that is not a digit is not in padded digits. -/
theorem not_mem_padded {b : UInt8} (hb : ¬ (0x30 ≤ b ∧ b ≤ 0x39)) (width n : Nat) :
    b ∉ padded width n :=
  fun hmem => hb (padded_range width n b hmem)

/-- The header holds no byte with which the text of the sentinel or another line begins. -/
theorem not_mem_header {b : UInt8} (hb : b = 0x48 ∨ b = 0x0A) (ts : Timestamp) (phase : Phase) :
    b ∉ header ts phase := by
  have hdigit : ¬ (0x30 ≤ b ∧ b ≤ 0x39) := by rcases hb with rfl | rfl <;> decide
  have hphase : b ∉ phase.text := by rcases hb with rfl | rfl <;> cases phase <;> decide
  have hfixed : b ∉ ascii "-" ∧ b ∉ ascii "T" ∧ b ∉ ascii ":" ∧ b ∉ ascii "Z" ∧
      b ∉ ascii " [INFO] [" ∧ b ∉ ascii "] " := by
    rcases hb with rfl | rfl <;> decide
  simp only [header, Timestamp.format, List.mem_append, not_mem_padded hdigit, hphase, hfixed,
    or_self, not_false_eq_true]

/-- The header begins with a digit. -/
theorem header_eq (ts : Timestamp) (phase : Phase) :
    ∃ d rest, header ts phase = d :: rest ∧ 0x30 ≤ d ∧ d ≤ 0x39 := by
  obtain ⟨d, ds, hyear⟩ := List.exists_cons_of_ne_nil (padded_ne_nil 4 ts.year)
  refine ⟨d, _, by rw [header, Timestamp.format, hyear]; rfl, ?_⟩
  exact padded_range 4 ts.year d (by rw [hyear]; exact List.mem_cons_self)

theorem not_mem_itoa {b : UInt8} (hdigit : ¬ (0x30 ≤ b ∧ b ≤ 0x39)) (hminus : b ≠ 0x2D) (i : Int) :
    b ∉ itoa i := by
  have hdigits : b ∉ digits i.natAbs := fun hmem => hdigit (digits_range _ b hmem)
  have hsign : b ∉ ascii "-" := fun hmem => hminus (List.mem_singleton.mp hmem)
  rw [itoa]
  split_ifs
  · simp [hsign, hdigits]
  · exact hdigits

theorem not_mem_formatExitSentinel (q : Quoting) (code : Int64) (message : List UInt8) :
    0x0A ∉ formatExitSentinel q code message := by
  have htext : (0x0A : UInt8) ∉ ascii "HYPEMAN-EXIT code=" ∧
      (0x0A : UInt8) ∉ ascii " message=" := by
    decide
  simp only [formatExitSentinel, List.mem_append, htext, q.quote_line,
    not_mem_itoa (by decide : ¬ (0x30 ≤ (0x0A : UInt8) ∧ (0x0A : UInt8) ≤ 0x39)) (by decide),
    or_self, not_false_eq_true]

theorem trimRight_carriage (eol : LineEnd) {b : UInt8} (hb : Solid b) (s : List UInt8) (n : Nat) :
    trimRight (n + 1) (s ++ [b] ++ eol.carriage) = s ++ [b] := by
  cases eol with
  | plain =>
    rw [LineEnd.carriage, List.append_nil]
    exact trimRight_solid hb s (n + 1)
  | terminal =>
    rw [LineEnd.carriage, trimRight_return]
    exact trimRight_solid hb s n

/-- White space is taken off before the header, and the carriage return after the sentinel. -/
theorem trimSpace_line (q : Quoting) (eol : LineEnd) (ts : Timestamp) (phase : Phase)
    (code : Int64) (message a : List UInt8) {n : Nat}
    (hn : (a ++ (header ts phase ++ formatExitSentinel q code message ++ eol.carriage)).length =
      n) :
    trimSpace (a ++ (header ts phase ++ formatExitSentinel q code message ++ eol.carriage)) =
      trimLeft n a ++ (header ts phase ++ formatExitSentinel q code message) := by
  obtain ⟨d, rest, hheader, hdigit⟩ := header_eq ts phase
  obtain ⟨body, hbody⟩ : ∃ body, formatExitSentinel q code message = body ++ ascii "\"" := by
    obtain ⟨body, hquote⟩ := q.quote_end message
    exact ⟨_, by rw [formatExitSentinel, hquote, ← List.append_assoc]⟩
  rw [trimSpace, hn]
  rw [hheader, hbody] at hn ⊢
  obtain ⟨n, rfl⟩ : ∃ k, n = k + 1 := Nat.exists_eq_add_one_of_ne_zero (by simp at hn; omega)
  have htrim := trimLeft_append (solid_of_digit hdigit)
    (rest ++ (body ++ ascii "\"") ++ eol.carriage) (n + 1) a
  have hend := trimRight_carriage eol (by decide : Solid 0x22)
    (trimLeft (n + 1) a ++ d :: rest ++ body) n
  simp only [List.append_assoc, List.cons_append] at htrim hend ⊢
  rw [htrim]
  exact hend

/-- What follows the text that marks the sentinel. -/
def fields (q : Quoting) (code : Int64) (message : List UInt8) : List UInt8 :=
  ascii "code=" ++ (itoa code.toInt ++ (ascii " " ++ (ascii "message=" ++ q.quote message)))

theorem formatExitSentinel_eq (q : Quoting) (code : Int64) (message : List UInt8) :
    formatExitSentinel q code message = exitSentinelPrefix ++ fields q code message := by
  have hmark : ascii "HYPEMAN-EXIT code=" = exitSentinelPrefix ++ ascii "code=" := by
    decide +kernel
  have hspace : ascii " message=" = ascii " " ++ ascii "message=" := by decide +kernel
  simp only [formatExitSentinel, fields, hmark, hspace, List.append_assoc]

theorem parseExitSentinelLine_fields {q : Quoting} {line before : List UInt8} {code : Int64}
    {message : List UInt8}
    (hcut : cut exitSentinelPrefix (trimSpace line) = some (before, fields q code message)) :
    parseExitSentinelLine q line = some (code, message) := by
  have hspace : cut (ascii " ") (itoa code.toInt ++ (ascii " " ++ (ascii "message=" ++
      q.quote message))) = some (itoa code.toInt, ascii "message=" ++ q.quote message) :=
    cut_eq_of_not_mem (not_mem_itoa (by decide) (by decide) _)
  have hcode : (fields q code message).drop 5 = itoa code.toInt ++ (ascii " " ++
      (ascii "message=" ++ q.quote message)) := List.drop_left' rfl
  have hmessage : (ascii "message=" ++ q.quote message).drop 8 = q.quote message :=
    List.drop_left' rfl
  have hfields : ascii "code=" <+: fields q code message := List.prefix_append _ _
  simp only [parseExitSentinelLine, hcut, if_pos hfields, hcode, hspace, atoi_itoa,
    if_pos (List.prefix_append (ascii "message=") (q.quote message)), hmessage, q.unquote_quote]

theorem not_mem_of_digit {d : UInt8} (hdigit : 0x30 ≤ d ∧ d ≤ 0x39) {text : List UInt8}
    (htext : ∀ b ∈ text, ¬ (0x30 ≤ b ∧ b ≤ 0x39)) : d ∉ text :=
  fun hmem => htext d hmem hdigit

/-- The line of the sentinel is read as it was written, after anything that does not hold the text
that marks it. -/
theorem parseExitSentinelLine_written (q : Quoting) (eol : LineEnd) (ts : Timestamp) (phase : Phase)
    (code : Int64) (message : List UInt8) {a : List UInt8} (ha : ¬ exitSentinelPrefix <:+: a) :
    parseExitSentinelLine q
      (a ++ (header ts phase ++ formatExitSentinel q code message ++ eol.carriage)) =
        some (code, message) := by
  obtain ⟨n, hn⟩ : ∃ n,
      (a ++ (header ts phase ++ formatExitSentinel q code message ++ eol.carriage)).length = n :=
    ⟨_, rfl⟩
  obtain ⟨d, rest, hheader, hdigit⟩ := header_eq ts phase
  have hmark : exitSentinelPrefix = 0x48 :: ascii "YPEMAN-EXIT " := rfl
  have hd : d ∉ exitSentinelPrefix :=
    not_mem_of_digit hdigit (by simp [exitSentinelPrefix, ascii])
  have hrest : 0x48 ∉ rest := fun hmem => not_mem_header (.inl rfl) ts phase
    (by rw [hheader]; exact List.mem_cons_of_mem d hmem)
  have hclear : ¬ exitSentinelPrefix <:+: trimLeft n a :=
    fun hin => ha (hin.trans (trimLeft_suffix n a).isInfix)
  have hcut : cut exitSentinelPrefix (trimLeft n a ++ (header ts phase ++
      formatExitSentinel q code message)) =
        some (trimLeft n a ++ d :: rest, fields q code message) := by
    rw [hheader, formatExitSentinel_eq, ← List.append_assoc, hmark]
    rw [hmark] at hclear hd
    exact cut_eq_of_clear hclear hd hrest
  rw [← trimSpace_line q eol ts phase code message a hn] at hcut
  exact parseExitSentinelLine_fields hcut

/-- After a part that holds the text that marks a sentinel, the code that is read does not depend on
the one that is written. -/
theorem parseExitSentinelLine_marked (q : Quoting) (eol : LineEnd) (ts : Timestamp) (phase : Phase)
    {a : List UInt8} (ha : exitSentinelPrefix <:+: a) (n : Nat) :
    ∃ read, ∀ code message,
      (a ++ (header ts phase ++ formatExitSentinel q code message ++ eol.carriage)).length = n →
      (parseExitSentinelLine q
        (a ++ (header ts phase ++ formatExitSentinel q code message ++ eol.carriage))).map
          Prod.fst =
          read := by
  have hin : exitSentinelPrefix <:+: trimLeft n a := by
    obtain ⟨x, y, rfl⟩ := ha
    refine ⟨trimLeft n x, y, ?_⟩
    have htrim := trimLeft_append (by decide : Solid 0x48) (ascii "YPEMAN-EXIT " ++ y) n x
    rw [List.append_assoc, List.append_assoc]
    exact htrim.symm
  obtain ⟨before, after, hcut⟩ := exists_cut (by decide) hin
  -- the number ends before the space in the header at the latest
  have hspace : ascii " " <:+: after.drop 5 ++ header ts phase :=
    ⟨after.drop 5 ++ ts.format, ascii "[INFO] [" ++ phase.text ++ ascii "] ", by
      have hinfo : ascii " [INFO] [" = ascii " " ++ ascii "[INFO] [" := by decide +kernel
      simp only [header, hinfo, List.append_assoc]⟩
  obtain ⟨number, rest, hnumber⟩ := exists_cut (by decide) hspace
  refine ⟨if ascii "code=" <+: after then atoi number else none, fun code message hlength => ?_⟩
  have hcode : ascii "code=" <+: after ++ (header ts phase ++ formatExitSentinel q code message) ↔
      ascii "code=" <+: after := by
    obtain ⟨d, tail, hheader, hdigit⟩ := header_eq ts phase
    have hd : d ∉ ascii "code=" := not_mem_of_digit hdigit (by simp [ascii])
    refine ⟨fun h => ?_, fun h => h.trans (List.prefix_append _ _)⟩
    rw [hheader, List.cons_append] at h
    exact prefix_of_prefix_append hd h
  rw [parseExitSentinelLine, trimSpace_line q eol ts phase code message a hlength, hcut]
  simp only [hcode]
  split
  next hafter =>
    have hfive : 5 ≤ after.length := hafter.length_le
    rw [List.drop_append_of_le_length hfive, ← List.append_assoc, hnumber]
    dsimp only
    cases atoi number with
    | none => rfl
    | some k =>
      dsimp only
      split
      · split <;> rfl
      · rfl
  next => rfl

/-! ## The tail of the log -/

/-- The bytes before a line that ends the log which the tail holds with it. -/
def inTail (app line : List UInt8) : List UInt8 := app.drop ((app ++ line).length - tailSize)

/-- The tail holds the line that the log ends in, if it is not longer than the tail. -/
theorem readTail_append (app : List UInt8) {line : List UInt8} (h : line.length ≤ tailSize) :
    readTail (some (app ++ line)) tailSize = some (inTail app line ++ line) := by
  have hdrop : (app ++ line).length - tailSize ≤ app.length := by
    rw [List.length_append]
    omega
  rw [readTail, Option.map_some, List.drop_append_of_le_length hdrop, inTail]

/-- The lines before the sentinel, and the sentinel that continues the last of them. -/
theorem parseExitSentinel_append (q : Quoting) (eol : LineEnd) (ts : Timestamp) (phase : Phase)
    (before : List UInt8) : ∃ front : List (List UInt8), ∀ app c m,
    (Info eol ts phase (formatExitSentinel q c m)).length ≤ tailSize →
    inTail app (Info eol ts phase (formatExitSentinel q c m)) = before →
    parseExitSentinel q (some (app ++ Info eol ts phase (formatExitSentinel q c m))) =
      (parseExitSentinelLine q (lastLine before ++
        (header ts phase ++ formatExitSentinel q c m ++ eol.carriage))).or
        (front.reverse.findSome? (parseExitSentinelLine q)) := by
  obtain ⟨front, hlines⟩ := lines_append before
  refine ⟨front, ?_⟩
  intro app c m htail hbefore
  have hline : 0x0A ∉ header ts phase ++ formatExitSentinel q c m ++ eol.carriage := by
    have hcarriage : 0x0A ∉ eol.carriage := by cases eol <;> decide
    simp only [List.mem_append, not_mem_header (.inr rfl), not_mem_formatExitSentinel, hcarriage,
      or_self, not_false_eq_true]
  have hend : ∀ line, [line, []].reverse.findSome? (parseExitSentinelLine q) =
      parseExitSentinelLine q line := by
    intro line
    have hnil : parseExitSentinelLine q [] = none := rfl
    cases hparse : parseExitSentinelLine q line <;> simp [hnil, hparse]
  rw [parseExitSentinel, readTail_append app htail, hbefore]
  dsimp only
  rw [Info, hlines _ hline, List.reverse_append, List.findSome?_append, hend]

/-- **The sentinel is read back**, whatever the code of its length, exactly if the unfinished line
that it continues does not hold the text that marks a sentinel as far as the tail holds the line. -/
theorem sentinel_read_back (q : Quoting) (eol : LineEnd) (ts : Timestamp) (phase : Phase)
    (app : List UInt8) (c : Int64) (m : List UInt8)
    (htail : (Info eol ts phase (formatExitSentinel q c m)).length ≤ tailSize) :
    (∀ c' : Int64, (itoa c'.toInt).length = (itoa c.toInt).length →
      parseExitSentinel q (some (app ++ Info eol ts phase (formatExitSentinel q c' m))) =
        some (c', m)) ↔
    ¬ exitSentinelPrefix <:+:
      lastLine (inTail app (Info eol ts phase (formatExitSentinel q c m))) := by
  obtain ⟨before, hbefore⟩ : ∃ before,
      inTail app (Info eol ts phase (formatExitSentinel q c m)) = before := ⟨_, rfl⟩
  obtain ⟨front, hparse⟩ := parseExitSentinel_append q eol ts phase before
  have hlength : ∀ c' : Int64, (itoa c'.toInt).length = (itoa c.toInt).length →
      (formatExitSentinel q c' m).length = (formatExitSentinel q c m).length := by
    intro c' hc'
    simp only [formatExitSentinel, List.length_append, hc']
  -- the tail begins at the same byte for all these codes
  have hsame : ∀ c' : Int64, (itoa c'.toInt).length = (itoa c.toInt).length →
      parseExitSentinel q (some (app ++ Info eol ts phase (formatExitSentinel q c' m))) =
        (parseExitSentinelLine q (lastLine before ++
          (header ts phase ++ formatExitSentinel q c' m ++ eol.carriage))).or
          (front.reverse.findSome? (parseExitSentinelLine q)) := by
    intro c' hc'
    refine hparse app c' m ?_ (hbefore ▸ ?_)
    · simpa only [Info, List.length_append, hlength c' hc'] using htail
    · simp only [inTail, Info, List.length_append, hlength c' hc']
  rw [hbefore]
  constructor
  · intro hall hmark
    obtain ⟨c', hne, hc'⟩ := exists_itoa_length c
    obtain ⟨read, hread⟩ := parseExitSentinelLine_marked q eol ts phase hmark _
    have hcode := hread c m rfl
    have hcode' := hread c' m (by simp only [List.length_append, hlength c' hc'])
    -- both codes are the one that the unfinished line holds, or that of an earlier line
    have hc := (hsame c rfl).symm.trans (hall c rfl)
    have hc' := (hsame c' hc').symm.trans (hall c' hc')
    rw [← hcode'] at hcode
    have hfst := congrArg (Option.map Prod.fst) hc
    have hfst' := congrArg (Option.map Prod.fst) hc'
    rw [Option.map_or, hcode] at hfst
    rw [Option.map_or, hfst] at hfst'
    exact hne (Option.some.inj hfst').symm
  · intro hclear c' hc'
    rw [hsame c' hc', parseExitSentinelLine_written q eol ts phase c' m hclear]
    rfl

/-! ## A quoting -/

def hexDigit (n : Nat) : UInt8 := if n < 10 then UInt8.ofNat (0x30 + n) else UInt8.ofNat (0x57 + n)

def hexValue (b : UInt8) : Nat := if b ≤ 0x39 then b.toNat - 0x30 else b.toNat - 0x57

/-- A byte between double quotes: printable characters stand for themselves. -/
def escape (b : UInt8) : List UInt8 :=
  if b = 0x22 ∨ b = 0x5C then [0x5C, b]
  else if 0x20 ≤ b ∧ b ≤ 0x7E then [b]
  else [0x5C, 0x78, hexDigit (b.toNat / 16), hexDigit (b.toNat % 16)]

/-- The bytes before the closing quote. -/
def unescape : List UInt8 → Option (List UInt8)
  | 0x5C :: 0x78 :: high :: low :: s =>
    (unescape s).map (UInt8.ofNat (16 * hexValue high + hexValue low) :: ·)
  | 0x5C :: b :: s => (unescape s).map (b :: ·)
  | [0x22] => some []
  | b :: s => if b = 0x22 then none else (unescape s).map (b :: ·)
  | [] => none

theorem hexValue_hexDigit : ∀ n < 16, hexValue (hexDigit n) = n := by decide

/-- A byte that is neither a quote nor a backslash stands for itself. -/
theorem unescape_cons {b : UInt8} (hb : ¬ (b = 0x22 ∨ b = 0x5C)) (s : List UInt8) :
    unescape (b :: s) = (unescape s).map (b :: ·) := by
  obtain ⟨hquote, hslash⟩ := not_or.mp hb
  rw [unescape, if_neg hquote]
  · rintro _ _ _ rfl
    exact absurd rfl hslash
  · rintro _ _ rfl
    exact absurd rfl hslash
  · rintro rfl
    exact absurd rfl hquote

theorem unescape_escape (b : UInt8) (s : List UInt8) :
    unescape (escape b ++ s) = (unescape s).map (b :: ·) := by
  rw [escape]
  split_ifs with hquote hprint
  · rcases hquote with rfl | rfl <;> simp [unescape]
  · exact unescape_cons hquote s
  · have hlt := b.toNat_lt
    have hback : UInt8.ofNat (16 * (b.toNat / 16) + b.toNat % 16) = b := by
      rw [Nat.div_add_mod, UInt8.ofNat_toNat]
    have hhigh := hexValue_hexDigit (b.toNat / 16) (by omega)
    have hlow := hexValue_hexDigit (b.toNat % 16) (by omega)
    simp only [List.cons_append, List.nil_append, unescape, hhigh, hlow, hback]

theorem unescape_flatMap (m : List UInt8) :
    unescape (m.flatMap escape ++ ascii "\"") = some m := by
  induction m with
  | nil => rfl
  | cons b m ih => rw [List.flatMap_cons, List.append_assoc, unescape_escape, ih, Option.map_some]

theorem not_mem_escape (b : UInt8) : 0x0A ∉ escape b := by
  have hhex : ∀ n < 16, hexDigit n ≠ 0x0A := by decide
  have hlt := b.toNat_lt
  rw [escape]
  split_ifs with hquote hprint
  · rcases hquote with rfl | rfl <;> decide
  · rw [List.mem_singleton]
    rintro rfl
    exact absurd hprint (by decide)
  · have hhigh := hhex (b.toNat / 16) (by omega)
    have hlow := hhex (b.toNat % 16) (by omega)
    simp [hhigh.symm, hlow.symm]

/-- A quoting that agrees with Go's on printable ASCII text. -/
def asciiQuoting : Quoting where
  quote m := ascii "\"" ++ (m.flatMap escape ++ ascii "\"")
  unquote
    | 0x22 :: s => unescape s
    | _ => none
  unquote_quote := unescape_flatMap
  quote_line m := by
    have hquote : (0x0A : UInt8) ∉ ascii "\"" := by decide
    simp [hquote, not_mem_escape]
  quote_end m := ⟨ascii "\"" ++ m.flatMap escape, by simp⟩

/-! ## Runs -/

def stopTime : Timestamp where
  year := 2026
  month := 2
  day := 13
  hour := 15
  minute := 26
  second := 27

/-- A finished line that looks like a sentinel does not matter. -/
theorem sentinel_read_back_finished :
    parseExitSentinel asciiQuoting (some (ascii "HYPEMAN-EXIT code=0\nbye" ++
      Info .terminal stopTime .entrypoint
        (formatExitSentinel asciiQuoting (-1) (ascii "say \"no\"")))) =
      some (-1, ascii "say \"no\"") :=
  (sentinel_read_back asciiQuoting .terminal stopTime .entrypoint
    (ascii "HYPEMAN-EXIT code=0\nbye") (-1) (ascii "say \"no\"") (by decide +kernel)).mpr
    (by decide +kernel) (-1) rfl

/-- The console after the application has exited with code 1 and init has said so, when a process
that the application left behind still writes. -/
def unfinished : List UInt8 :=
  stopTime.format ++
    ascii " [ERROR] [hypeman-init:entrypoint] app exited with code 1 (exit code 1)" ++
    [0x0D, 0x0A] ++ ascii "HYPEMAN-EXIT code=0 "

/-- The sentinel then continues the line that the process began, and the first text that marks a
sentinel is its own. -/
theorem sentinel_after_unfinished_line :
    (Info .terminal stopTime .entrypoint
      (formatExitSentinel asciiQuoting 1 (ascii "exit code 1"))).length ≤ tailSize ∧
    parseExitSentinel asciiQuoting (some (unfinished ++ Info .terminal stopTime .entrypoint
      (formatExitSentinel asciiQuoting 1 (ascii "exit code 1")))) = some (0, []) := by
  decide +kernel

end Hypeman.Instances.ExitSentinel
