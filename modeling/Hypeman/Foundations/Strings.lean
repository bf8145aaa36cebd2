import Mathlib.Data.List.DropRight
import Mathlib.Data.List.Infix

/-!
# Text operations

The operations of Go's `strings` package that the models use, as executable functions on `String`
through the list of its characters.
-/

namespace Hypeman.Foundations.Strings

/-- `unicode.IsSpace`. -/
def isSpace (c : Char) : Bool :=
  c.toNat ∈ [0x09, 0x0A, 0x0B, 0x0C, 0x0D, 0x20, 0x85, 0xA0, 0x1680, 0x2028, 0x2029, 0x202F,
    0x205F, 0x3000] || (0x2000 ≤ c.toNat && c.toNat ≤ 0x200A)

/-- `strings.TrimSpace`. -/
def trimSpace (s : String) : String :=
  String.ofList ((s.toList.dropWhile isSpace).rdropWhile isSpace)

theorem trimSpace_of_forall {s : String} (h : ∀ c ∈ s.toList, isSpace c = false) :
    trimSpace s = s := by
  have hfront : s.toList.dropWhile isSpace = s.toList := by
    rw [List.dropWhile_eq_self_iff]
    intro hlen
    simp [h _ (List.getElem_mem hlen)]
  have hback : s.toList.rdropWhile isSpace = s.toList := by
    rw [List.rdropWhile_eq_self_iff]
    intro hne
    simp [h _ (List.getLast_mem hne)]
  rw [trimSpace, hfront, hback, String.ofList_toList]

/-- `strings.ToLower` on ASCII text. -/
def toLower (s : String) : String := String.ofList (s.toList.map Char.toLower)

theorem toLower_of_forall {s : String} (h : ∀ c ∈ s.toList, c.toLower = c) : toLower s = s := by
  have hmap : s.toList.map Char.toLower = s.toList := by
    conv_rhs => rw [← List.map_id s.toList]
    exact List.map_congr_left h
  rw [toLower, hmap, String.ofList_toList]

/-- `strings.ToUpper` on ASCII text. -/
def toUpper (s : String) : String := String.ofList (s.toList.map Char.toUpper)

/-- `strings.Fields`. -/
def fields (s : String) : List String :=
  ((s.toList.splitOnP isSpace).filter (· ≠ [])).map String.ofList

def Field (s : String) : Prop := s ≠ "" ∧ ∀ c ∈ s.toList, isSpace c = false

theorem forall_mem_splitOnP {α : Type*} {p : α → Bool} {xs part : List α}
    (h : part ∈ xs.splitOnP p) : ∀ x ∈ part, p x = false := by
  induction xs generalizing part with
  | nil =>
    cases List.mem_singleton.mp (List.splitOnP_nil (p := p) ▸ h)
    exact fun x hx => nomatch hx
  | cons a xs ih =>
    rw [List.splitOnP_cons_eq_if_modifyHead] at h
    split at h
    · rcases List.mem_cons.mp h with rfl | h
      · exact fun x hx => nomatch hx
      · exact ih h
    · next ha =>
      cases hsplit : xs.splitOnP p with
      | nil => exact absurd hsplit (List.splitOnP_ne_nil p xs)
      | cons head parts =>
        rw [hsplit] at h ih
        rcases List.mem_cons.mp h with rfl | h
        · intro x hx
          rcases List.mem_cons.mp hx with rfl | hx
          · simpa using ha
          · exact ih List.mem_cons_self x hx
        · exact ih (List.mem_cons_of_mem _ h)

theorem field_of_mem_fields {s t : String} (h : t ∈ fields s) : Field t := by
  obtain ⟨part, hpart, rfl⟩ := List.mem_map.mp h
  obtain ⟨hsplit, hne⟩ := List.mem_filter.mp hpart
  refine ⟨by simpa using hne, ?_⟩
  rw [String.toList_ofList]
  exact forall_mem_splitOnP hsplit

/-- Fields that are joined by a space come apart again. -/
theorem fields_join {ts : List String} (h : ∀ t ∈ ts, Field t) :
    fields (" ".intercalate ts) = ts := by
  rw [fields, String.toList_intercalate]
  induction ts with
  | nil => rfl
  | cons t ts ih =>
    obtain ⟨hne, hspaces⟩ := h t List.mem_cons_self
    have hne : t.toList ≠ [] := by simpa using hne
    cases ts with
    | nil => simp [List.splitOnP_eq_singleton hspaces, hne]
    | cons t' ts =>
      have hrest := ih fun x hx => h x (List.mem_cons_of_mem t hx)
      have hjoin : " ".toList.intercalate ((t :: t' :: ts).map String.toList) =
          t.toList ++ ' ' :: " ".toList.intercalate ((t' :: ts).map String.toList) := by
        simp [List.intercalate_cons_cons]
      rw [hjoin, List.splitOnP_append_cons_of_forall_mem hspaces ' ' rfl,
        List.filter_cons_of_pos (by simpa using hne), List.map_cons, hrest, String.ofList_toList]

/-- `strings.HasPrefix(s, p)`. -/
def hasPrefix (s p : String) : Bool := p.toList.isPrefixOf s.toList

/-- `strings.HasSuffix(s, p)`. -/
def hasSuffix (s p : String) : Bool := p.toList.isSuffixOf s.toList

/-- `strings.TrimPrefix(s, p)`. -/
def trimPrefix (s p : String) : String :=
  if hasPrefix s p then String.ofList (s.toList.drop p.toList.length) else s

/-- `strings.TrimSuffix(s, p)`. -/
def trimSuffix (s p : String) : String :=
  if hasSuffix s p then String.ofList (s.toList.take (s.toList.length - p.toList.length)) else s

/-- `strings.Contains(s, sub)`. -/
def contains (s sub : String) : Bool := decide (sub.toList <:+: s.toList)

/-- `strings.ContainsAny(s, chars)`. -/
def containsAny (s chars : String) : Bool := s.toList.any (chars.toList.contains ·)

/-- `strings.Count(s, c)` for a separator of one character. -/
def count (s : String) (c : Char) : Nat := s.toList.count c

/-- `strings.Split(s, c)` for a separator of one character. -/
def split (s : String) (c : Char) : List String := (s.toList.splitOn c).map String.ofList

/-- The text before the last `c`, if there is one: `s[:strings.LastIndex(s, c)]`. -/
def beforeLast (s : String) (c : Char) : Option String :=
  match s.toList.reverse.dropWhile (· != c) with
  | [] => none
  | _ :: before => some (String.ofList before.reverse)

/-- A text whose last part has no separator is cut before it. -/
theorem beforeLast_append {a b : String} {c : Char} (h : c ∉ b.toList) :
    beforeLast (a ++ String.ofList [c] ++ b) c = some a := by
  have hall : ∀ x ∈ b.toList.reverse, (x != c) = true := by
    intro x hx
    simp only [bne_iff_ne, ne_eq]
    rintro rfl
    exact h (List.mem_reverse.mp hx)
  simp only [beforeLast, String.toList_append, String.toList_ofList, List.reverse_append,
    List.reverse_singleton]
  rw [List.dropWhile_append_of_pos hall]
  simp

/-- `strings.Cut(s, c)` for a separator of one character: the texts before and after the first `c`,
the second empty if there is none. -/
def cut (s : String) (c : Char) : String × String :=
  (String.ofList (s.toList.takeWhile (· != c)),
    String.ofList ((s.toList.dropWhile (· != c)).drop 1))

/-- A text whose first part has no separator is cut after that part. -/
theorem cut_append {a b : String} {c : Char} (h : c ∉ a.toList) :
    cut (a ++ String.ofList [c] ++ b) c = (a, b) := by
  have hall : ∀ x ∈ a.toList, (x != c) = true := by
    intro x hx
    simp only [bne_iff_ne, ne_eq]
    rintro rfl
    exact h hx
  simp only [cut, String.toList_append, String.toList_ofList, List.append_assoc]
  rw [List.takeWhile_append_of_pos hall, List.dropWhile_append_of_pos hall]
  simp

/-- Two parts with a separator between them are told apart if the first has none. -/
theorem append_sep_inj {a a' b b' : String} {c : Char} (ha : c ∉ a.toList) (ha' : c ∉ a'.toList)
    (h : a ++ String.ofList [c] ++ b = a' ++ String.ofList [c] ++ b') : a = a' ∧ b = b' := by
  have hcut := congrArg (cut · c) h
  rw [cut_append ha, cut_append ha'] at hcut
  exact Prod.mk.inj hcut

/-- A fixed beginning may be taken off both sides of a test for a longer beginning. -/
theorem hasPrefix_append_iff (a s p : String) : hasPrefix (a ++ s) (a ++ p) = hasPrefix s p := by
  rw [Bool.eq_iff_iff]
  simp only [hasPrefix, String.toList_append, List.isPrefixOf_iff_prefix,
    List.prefix_append_right_inj]

theorem hasPrefix_append (a s : String) : hasPrefix (a ++ s) a = true := by
  simp [hasPrefix]

end Hypeman.Foundations.Strings
