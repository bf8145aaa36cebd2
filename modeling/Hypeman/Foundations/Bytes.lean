import Mathlib.Data.List.DropRight

/-!
# Byte strings

The operations of Go's `strings` and `strconv` packages on texts that need not be valid UTF-8, as
executable functions on lists of bytes: cutting at the first occurrence of a text, taking off white
space, lines, and decimal numbers.

* `cut_eq`: where a text is cut that is preceded by nothing that looks like it.
* `lines_append`: the lines of a text that ends in a line.
* `atoi_itoa`: a number that is written is read back.
-/

namespace Hypeman.Foundations.Bytes

def ascii (s : String) : List UInt8 := s.toList.map fun c => UInt8.ofNat c.toNat

/-! ## Cutting -/

/-- The texts before and after the first occurrence of `sep`: `s[:i]` and `s[i+len(sep):]` for
`i = strings.Index(s, sep)`. -/
def cut (sep : List UInt8) : List UInt8 → Option (List UInt8 × List UInt8)
  | [] => if sep = [] then some ([], []) else none
  | b :: s =>
    if sep <+: b :: s then some ([], (b :: s).drop sep.length)
    else (cut sep s).map fun parts => (b :: parts.1, parts.2)

/-- A text is cut at an occurrence that no other one precedes. -/
theorem cut_eq {sep before after : List UInt8}
    (h : ∀ front back, before = front ++ back → back ≠ [] → ¬ sep <+: back ++ (sep ++ after)) :
    cut sep (before ++ (sep ++ after)) = some (before, after) := by
  induction before with
  | nil =>
    cases hs : sep ++ after with
    | nil =>
      obtain ⟨rfl, rfl⟩ := List.append_eq_nil_iff.mp hs
      rfl
    | cons b s =>
      rw [List.nil_append, cut, if_pos (hs ▸ List.prefix_append sep after), ← hs, List.drop_left]
  | cons b before ih =>
    have hfirst := h [] (b :: before) rfl (List.cons_ne_nil b before)
    rw [List.cons_append] at hfirst ⊢
    rw [cut, if_neg hfirst, ih]
    · rfl
    · rintro front back rfl hne
      exact h (b :: front) back rfl hne

/-- An occurrence of a text begins with its first byte. -/
theorem not_prefix_of_head {x b : UInt8} {xs s : List UInt8} (h : b ≠ x) : ¬ x :: xs <+: b :: s :=
  fun hp => h (List.cons_prefix_cons.mp hp).1.symm

/-- A text is cut where its first byte stands for the first time. -/
theorem cut_eq_of_not_mem {x : UInt8} {xs before after : List UInt8} (hx : x ∉ before) :
    cut (x :: xs) (before ++ (x :: xs ++ after)) = some (before, after) := by
  refine cut_eq ?_
  rintro front (_ | ⟨b, back⟩) rfl hne hp
  · exact hne rfl
  · have hbx : b ≠ x := fun heq => hx (heq ▸ List.mem_append_right front List.mem_cons_self)
    exact not_prefix_of_head hbx hp

/-- What stands before a byte that the text does not contain holds an occurrence or none that begins
there. -/
theorem prefix_of_prefix_append {sep back s : List UInt8} {b : UInt8} (hb : b ∉ sep)
    (h : sep <+: back ++ b :: s) : sep <+: back := by
  by_cases hlen : sep.length ≤ back.length
  · exact List.prefix_of_prefix_length_le h (List.prefix_append back _) hlen
  · have hlong : back ++ [b] <+: sep := by
      refine List.prefix_of_prefix_length_le ?_ h (by simp; omega)
      exact ⟨s, by simp⟩
    exact absurd (hlong.subset (by simp)) hb

/-- The text is found after a part `a` that does not hold it and a part that neither continues nor
begins it. -/
theorem cut_eq_of_clear {x b : UInt8} {xs a rest after : List UInt8} (ha : ¬ x :: xs <:+: a)
    (hb : b ∉ x :: xs) (hx : x ∉ rest) :
    cut (x :: xs) (a ++ b :: rest ++ (x :: xs ++ after)) = some (a ++ b :: rest, after) := by
  have hbx : b ≠ x := fun heq => hb (heq ▸ List.mem_cons_self)
  have hnot : x ∉ b :: rest := by
    rintro (_ | ⟨_, hmem⟩)
    · exact hbx rfl
    · exact hx hmem
  refine cut_eq ?_
  intro front back hsplit hne hp
  rcases List.append_eq_append_iff.mp hsplit.symm with ⟨mid, rfl, hback⟩ | ⟨mid, rfl, hmid⟩
  · -- the occurrence would begin in `a`
    rw [hback, List.append_assoc, List.cons_append] at hp
    exact ha ((prefix_of_prefix_append hb hp).isInfix.trans ⟨front, [], by simp⟩)
  · -- or with a byte of the second part
    cases back with
    | nil => exact hne rfl
    | cons c back =>
      have hc : c ∈ b :: rest := hmid ▸ List.mem_append_right mid List.mem_cons_self
      have hcx : c ≠ x := fun heq => hnot (heq ▸ hc)
      exact not_prefix_of_head hcx hp

/-- An occurrence in the first part of a text is found there, whatever follows. -/
theorem exists_cut {sep t : List UInt8} (hne : sep ≠ []) (h : sep <:+: t) :
    ∃ before after, ∀ u, cut sep (t ++ u) = some (before, after ++ u) := by
  induction t with
  | nil => exact absurd (List.infix_nil.mp h) hne
  | cons b t ih =>
    by_cases hp : sep <+: b :: t
    · obtain ⟨after, hafter⟩ := hp
      refine ⟨[], after, fun u => ?_⟩
      have hu : b :: t ++ u = sep ++ (after ++ u) := by rw [← hafter, List.append_assoc]
      rw [List.cons_append] at hu ⊢
      rw [cut, hu, if_pos (List.prefix_append sep _), List.drop_left]
    · have htail : sep <:+: t := (List.infix_cons_iff.mp h).resolve_left hp
      obtain ⟨before, after, hcut⟩ := ih htail
      refine ⟨b :: before, after, fun u => ?_⟩
      have hnot : ¬ sep <+: b :: (t ++ u) := fun hlong =>
        hp (List.prefix_of_prefix_length_le hlong (List.prefix_append (b :: t) u)
          (Nat.le_succ_of_le htail.length_le))
      rw [List.cons_append, cut, if_neg hnot, hcut]
      rfl

/-! ## White space -/

/-- The encodings of the white space of `unicode.IsSpace`. -/
def spaces : List (List UInt8) :=
  [[0x09], [0x0A], [0x0B], [0x0C], [0x0D], [0x20], [0xC2, 0x85], [0xC2, 0xA0],
    [0xE1, 0x9A, 0x80], [0xE2, 0x80, 0x80], [0xE2, 0x80, 0x81], [0xE2, 0x80, 0x82],
    [0xE2, 0x80, 0x83], [0xE2, 0x80, 0x84], [0xE2, 0x80, 0x85], [0xE2, 0x80, 0x86],
    [0xE2, 0x80, 0x87], [0xE2, 0x80, 0x88], [0xE2, 0x80, 0x89], [0xE2, 0x80, 0x8A],
    [0xE2, 0x80, 0xA8], [0xE2, 0x80, 0xA9], [0xE2, 0x80, 0xAF], [0xE2, 0x81, 0x9F],
    [0xE3, 0x80, 0x80]]

/-- At most `n` characters of white space taken off the front. -/
def trimLeft : Nat → List UInt8 → List UInt8
  | 0, s => s
  | n + 1, s =>
    match spaces.find? (· <+: s) with
    | some w => trimLeft n (s.drop w.length)
    | none => s

/-- At most `n` characters of white space taken off the end. -/
def trimRight : Nat → List UInt8 → List UInt8
  | 0, s => s
  | n + 1, s =>
    match spaces.find? (· <:+ s) with
    | some w => trimRight n (s.take (s.length - w.length))
    | none => s

/-- `strings.TrimSpace`. -/
def trimSpace (s : List UInt8) : List UInt8 := trimRight s.length (trimLeft s.length s)

/-- A byte that is in no white space. -/
def Solid (b : UInt8) : Prop := ∀ w ∈ spaces, b ∉ w

instance (b : UInt8) : Decidable (Solid b) := inferInstanceAs (Decidable (∀ w ∈ spaces, b ∉ w))

theorem solid_of_digit {b : UInt8} (hb : 0x30 ≤ b ∧ b ≤ 0x39) : Solid b := by
  have hnone : (spaces.all fun w => w.all fun c => !decide (0x30 ≤ c ∧ c ≤ 0x39)) = true := by
    decide
  intro w hw hmem
  have hb' := List.all_eq_true.mp (List.all_eq_true.mp hnone w hw) b hmem
  simp [hb] at hb'

/-- White space is taken off no further than a solid byte. -/
theorem trimLeft_append {b : UInt8} (hb : Solid b) (s : List UInt8) (n : Nat) (a : List UInt8) :
    trimLeft n (a ++ b :: s) = trimLeft n a ++ b :: s := by
  induction n generalizing a with
  | zero => rfl
  | succ n ih =>
    have hfind : spaces.find? (· <+: a ++ b :: s) = spaces.find? (· <+: a) := by
      rw [← List.head?_filter, ← List.head?_filter]
      congr 1
      refine List.filter_congr fun w hw => decide_eq_decide.mpr ⟨?_, fun h => ?_⟩
      · exact prefix_of_prefix_append (hb w hw)
      · exact h.trans (List.prefix_append a _)
    rw [trimLeft, trimLeft, hfind]
    cases hfound : spaces.find? (· <+: a) with
    | none => rfl
    | some w =>
      obtain ⟨rest, rfl⟩ : w <+: a := by simpa using List.find?_some hfound
      simp only [List.append_assoc, List.drop_left]
      exact ih rest

theorem trimLeft_suffix (n : Nat) (a : List UInt8) : trimLeft n a <:+ a := by
  induction n generalizing a with
  | zero => exact List.suffix_refl a
  | succ n ih =>
    rw [trimLeft]
    split
    · exact (ih _).trans (List.drop_suffix _ a)
    · exact List.suffix_refl a

theorem trimRight_solid {b : UInt8} (hb : Solid b) (s : List UInt8) (n : Nat) :
    trimRight n (s ++ [b]) = s ++ [b] := by
  cases n with
  | zero => rfl
  | succ n =>
    have hnone : spaces.find? (· <:+ s ++ [b]) = none := by
      rw [List.find?_eq_none]
      intro w hw hsuffix
      simp only [decide_eq_true_eq] at hsuffix
      have hne : w ≠ [] := by
        rintro rfl
        exact absurd hw (by decide)
      have hlast := hsuffix.getLast hne
      exact hb w hw (by rw [List.getLast_concat] at hlast; exact hlast ▸ List.getLast_mem hne)
    rw [trimRight, hnone]

/-- A carriage return at the end is taken off alone. -/
theorem trimRight_return (s : List UInt8) (n : Nat) :
    trimRight (n + 1) (s ++ [0x0D]) = trimRight n s := by
  have halone : ∀ w ∈ spaces, w.getLast? = some 0x0D → w = [0x0D] := by decide
  have hne : ∀ w ∈ spaces, w ≠ [] := by decide
  have hfind : spaces.find? (· <:+ s ++ [0x0D]) = some [0x0D] := by
    cases hfound : spaces.find? (· <:+ s ++ [0x0D]) with
    | none =>
      have hnot := List.find?_eq_none.mp hfound [0x0D] (by decide)
      simp at hnot
    | some w =>
      have hw := List.mem_of_find?_eq_some hfound
      have hsuffix := List.find?_some hfound
      simp only [decide_eq_true_eq] at hsuffix
      have hlast := hsuffix.getLast (hne w hw)
      rw [List.getLast_concat] at hlast
      rw [halone w hw (by rw [List.getLast?_eq_some_getLast (hne w hw), hlast])]
  rw [trimRight, hfind]
  simp

/-! ## Lines -/

/-- `strings.Split(s, "\n")`. -/
def lines (s : List UInt8) : List (List UInt8) := s.splitOn 0x0A

/-- What stands after the last end of a line. -/
def lastLine (s : List UInt8) : List UInt8 := s.rtakeWhile (· != 0x0A)

theorem not_mem_lastLine (s : List UInt8) : 0x0A ∉ lastLine s :=
  fun hmem => by simpa using List.mem_rtakeWhile_imp hmem

theorem eq_lastLine_or (s : List UInt8) :
    s = lastLine s ∨ ∃ front, s = front ++ 0x0A :: lastLine s := by
  have hs : s.rdropWhile (· != 0x0A) ++ lastLine s = s := List.rdropWhile_append_rtakeWhile
  rcases List.eq_nil_or_concat' (s.rdropWhile (· != 0x0A)) with hnil | ⟨front, b, hfront⟩
  · rw [hnil, List.nil_append] at hs
    exact .inl hs.symm
  · have hne : s.rdropWhile (· != 0x0A) ≠ [] := by simp [hfront]
    have hb : b = 0x0A := by
      have hlast := List.rdropWhile_last_not _ s hne
      simp only [hfront, List.getLast_concat] at hlast
      simpa using hlast
    rw [hfront, hb, List.append_assoc] at hs
    exact .inr ⟨front, hs.symm⟩

/-- The line that is written after a text continues the text's last line. -/
theorem lines_append (s : List UInt8) : ∃ front, ∀ line, 0x0A ∉ line →
    lines (s ++ (line ++ [0x0A])) = front ++ [lastLine s ++ line, []] := by
  have hone : ∀ line, 0x0A ∉ line →
      lines (lastLine s ++ (line ++ [0x0A])) = [lastLine s ++ line, []] := by
    intro line hline
    have hlast : 0x0A ∉ lastLine s ++ line := by simp [not_mem_lastLine, hline]
    rw [← List.append_assoc, lines, List.splitOn_append_cons_self_of_not_mem hlast]
    rfl
  rcases eq_lastLine_or s with hs | ⟨front, hs⟩
  · rw [← hs] at hone ⊢
    exact ⟨[], hone⟩
  · refine ⟨lines front, fun line hline => ?_⟩
    rw [← hone line hline]
    nth_rewrite 1 [hs]
    rw [List.append_assoc, lines, List.cons_append, List.splitOn_append_cons_self]
    rfl

/-! ## Decimal numbers -/

def digits (n : Nat) : List UInt8 := (Nat.toDigits 10 n).map fun c => UInt8.ofNat c.toNat

/-- The number that digits denote. -/
def value (ds : List UInt8) : Nat := Nat.ofDigitChars 10 (ds.map fun b => Char.ofNat b.toNat) 0

/-- `strconv.Itoa`, the verb `%d`. -/
def itoa (i : Int) : List UInt8 :=
  if i < 0 then ascii "-" ++ digits i.natAbs else digits i.natAbs

/-- The sign and the digits of a number. -/
def signed : List UInt8 → Bool × List UInt8
  | 0x2D :: ds => (true, ds)
  | 0x2B :: ds => (false, ds)
  | ds => (false, ds)

/-- Decimal digits only. -/
def Digits (ds : List UInt8) : Prop := ∀ b ∈ ds, 0x30 ≤ b ∧ b ≤ 0x39

instance (ds : List UInt8) : Decidable (Digits ds) := List.decidableBAll _ ds

/-- `strconv.Atoi`: an optional sign and at least one digit, in the range of an `int`. -/
def atoi (s : List UInt8) : Option Int64 :=
  let (neg, ds) := signed s
  if ds ≠ [] ∧ Digits ds then
    let v : Int := if neg then -(value ds : Int) else value ds
    if Int64.minValue.toInt ≤ v ∧ v ≤ Int64.maxValue.toInt then some (Int64.ofInt v) else none
  else none

theorem digit_char {c : Char} (h : c.isDigit) :
    (0x30 ≤ UInt8.ofNat c.toNat ∧ UInt8.ofNat c.toNat ≤ 0x39) ∧
      Char.ofNat (UInt8.ofNat c.toNat).toNat = c := by
  obtain ⟨hlow, hhigh⟩ : 48 ≤ c.toNat ∧ c.toNat ≤ 57 := Char.isDigit_iff_toNat.mp h
  have hval : (UInt8.ofNat c.toNat).toNat = c.toNat := by
    rw [UInt8.toNat_ofNat']
    omega
  refine ⟨⟨?_, ?_⟩, ?_⟩
  · rw [UInt8.le_iff_toNat_le, hval]
    exact hlow
  · rw [UInt8.le_iff_toNat_le, hval]
    exact hhigh
  · rw [hval, Char.ofNat_toNat]

theorem digits_range (n : Nat) : Digits (digits n) := by
  intro b hb
  obtain ⟨c, hc, rfl⟩ := List.mem_map.mp hb
  exact (digit_char (Nat.isDigit_of_mem_toDigits (by decide) (by decide) hc)).1

theorem digits_ne_nil (n : Nat) : digits n ≠ [] := by
  simp [digits, Nat.toDigits_ne_nil]

theorem value_digits (n : Nat) : value (digits n) = n := by
  have hback : (digits n).map (fun b => Char.ofNat b.toNat) = Nat.toDigits 10 n := by
    rw [digits, List.map_map, List.map_congr_left, List.map_id]
    intro c hc
    exact (digit_char (Nat.isDigit_of_mem_toDigits (by decide) (by decide) hc)).2
  rw [value, hback, Nat.ofDigitChars_toDigits (by decide) (by decide)]

/-- The number of digits depends on all digits but the last. -/
theorem length_digits {m n : Nat} (h : m / 10 = n / 10) :
    (digits m).length = (digits n).length := by
  have hlt : m < 10 ↔ n < 10 := by omega
  rw [digits, digits, List.length_map, List.length_map]
  by_cases hn : n < 10
  · rw [Nat.toDigits_of_lt_base hn, Nat.toDigits_of_lt_base (hlt.mpr hn)]
    rfl
  · rw [Nat.toDigits_of_base_le (by decide) (not_lt.mp hn),
      Nat.toDigits_of_base_le (by decide) (not_lt.mp (mt hlt.mp hn)), h, List.length_append,
      List.length_append]
    rfl

theorem signed_digits (n : Nat) : signed (digits n) = (false, digits n) := by
  have hrange := digits_range n
  generalize digits n = ds at hrange
  unfold signed
  split
  · exact absurd (hrange _ List.mem_cons_self) (by decide)
  · exact absurd (hrange _ List.mem_cons_self) (by decide)
  · rfl

theorem atoi_itoa (c : Int64) : atoi (itoa c.toInt) = some c := by
  have hrange : Int64.minValue.toInt ≤ c.toInt ∧ c.toInt ≤ Int64.maxValue.toInt :=
    ⟨c.minValue_le_toInt, c.toInt_le⟩
  have hdigits (n : Nat) : digits n ≠ [] ∧ Digits (digits n) :=
    ⟨digits_ne_nil n, digits_range n⟩
  by_cases hneg : c.toInt < 0
  · have hval : -(c.toInt.natAbs : Int) = c.toInt := by omega
    have hsigned : signed (itoa c.toInt) = (true, digits c.toInt.natAbs) := by
      rw [itoa, if_pos hneg]
      rfl
    simp only [atoi, hsigned, if_pos (hdigits _), value_digits, hval, if_pos hrange, if_true,
      Int64.ofInt_toInt]
  · have hval : (c.toInt.natAbs : Int) = c.toInt := by omega
    have hsigned : signed (itoa c.toInt) = (false, digits c.toInt.natAbs) := by
      rw [itoa, if_neg hneg, signed_digits]
    simp only [atoi, hsigned, if_pos (hdigits _), value_digits, hval, if_pos hrange,
      Bool.false_eq_true, if_false, Int64.ofInt_toInt]

/-- There are two numbers at least of every length. -/
theorem exists_itoa_length (c : Int64) :
    ∃ c' : Int64, c' ≠ c ∧ (itoa c'.toInt).length = (itoa c.toInt).length := by
  have hmin : Int64.minValue.toInt ≤ c.toInt := c.minValue_le_toInt
  have hmax : c.toInt ≤ Int64.maxValue.toInt := c.toInt_le
  have hmin' : Int64.minValue.toInt = -9223372036854775808 := rfl
  have hmax' : Int64.maxValue.toInt = 9223372036854775807 := rfl
  -- another last digit
  obtain ⟨d, hd, hne⟩ : ∃ d, (d = 1 ∨ d = 2) ∧ d ≠ c.toInt.natAbs % 10 := by
    by_cases hone : c.toInt.natAbs % 10 = 1
    · exact ⟨2, by omega⟩
    · exact ⟨1, by omega⟩
  obtain ⟨n, hn⟩ : ∃ n, n = 10 * (c.toInt.natAbs / 10) + d := ⟨_, rfl⟩
  have hdigits : (digits n).length = (digits c.toInt.natAbs).length := length_digits (by omega)
  by_cases hneg : c.toInt < 0
  · have hc' : (Int64.ofInt (-n)).toInt = -n := Int64.toInt_ofInt_of_le (by omega) (by omega)
    refine ⟨Int64.ofInt (-n), fun heq => ?_, ?_⟩
    · rw [heq] at hc'
      omega
    · have hneg' : -(n : Int) < 0 := by omega
      rw [hc', itoa, itoa, if_pos hneg, if_pos hneg', Int.natAbs_neg, Int.natAbs_natCast,
        List.length_append, List.length_append, hdigits]
  · have hc' : (Int64.ofInt n).toInt = n := Int64.toInt_ofInt_of_le (by omega) (by omega)
    refine ⟨Int64.ofInt n, fun heq => ?_, ?_⟩
    · rw [heq] at hc'
      omega
    · have hneg' : ¬ (n : Int) < 0 := by omega
      rw [hc', itoa, itoa, if_neg hneg, if_neg hneg', Int.natAbs_natCast, hdigits]

end Hypeman.Foundations.Bytes
