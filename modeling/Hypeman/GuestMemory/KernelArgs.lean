import Hypeman.Foundations.LastWins
import Hypeman.Foundations.Strings
import Hypeman.Foundations.Table

/-!
# Kernel arguments

`MergeKernelArgs` (`lib/guestmemory/kernel_args.go`) joins the kernel arguments of several texts. It
keeps the order of the keys apart from their values, and so leaves one token for each key: the last
one, at the place of the first.

* `MergeKernelArgs_eq`: the result in terms of the tokens of all texts.
* `MergeKernelArgs_merges`: the last value of each key in the order of first occurrence; a result
  merged with itself is the same; texts may be merged one after the other or at once.
-/

namespace Hypeman.GuestMemory

open Foundations Foundations.Strings

def argKey (token : String) : String := (cut token '=').1

/-- `order` and `values` of `MergeKernelArgs`. -/
structure MergedArgs where
  order : List String := []
  values : Table String String := ∅

/-- The body of its loops. -/
def MergedArgs.add (m : MergedArgs) (tok : String) : MergedArgs :=
  let k := argKey tok
  { order := if (m.values.lookup k).isSome then m.order else m.order ++ [k]
    values := m.values.insert k tok }

def MergeKernelArgs (base : String) (extras : List String) : String :=
  let m := (fields base).foldl MergedArgs.add {}
  let m := extras.foldl (fun m extra => (fields extra).foldl MergedArgs.add m) m
  " ".intercalate (m.order.map fun k => (m.values.lookup k).getD "")

/-- The tokens of all texts, in the order in which they are read. -/
def givenTokens (base : String) (extras : List String) : List String :=
  fields base ++ extras.flatMap fields

/-- The order is that of the first occurrences, and the values are the last ones. -/
theorem foldl_add (ts : List String) :
    (ts.foldl MergedArgs.add {}).order = (ts.map argKey).eraseDups ∧
      ∀ k, (ts.foldl MergedArgs.add {}).values.lookup k = lastWith argKey k ts := by
  induction ts using List.reverseRecOn with
  | nil => exact ⟨rfl, fun k => rfl⟩
  | append_singleton ts t ih =>
    obtain ⟨horder, hvalues⟩ := ih
    rw [List.foldl_append, List.foldl_cons, List.foldl_nil]
    constructor
    · rw [List.map_append, List.map_singleton, eraseDups_append_singleton, MergedArgs.add]
      simp only [hvalues, isSome_lastWith, horder]
    · intro k
      rw [MergedArgs.add, Table.lookup_insert, lastWith_append, lastWith_singleton, hvalues k]
      split <;> rfl

theorem MergeKernelArgs_eq (base : String) (extras : List String) :
    MergeKernelArgs base extras =
      " ".intercalate (lastWins argKey (givenTokens base extras)) := by
  obtain ⟨horder, hvalues⟩ := foldl_add (givenTokens base extras)
  have hfold : extras.foldl (fun m extra => (fields extra).foldl MergedArgs.add m)
      ((fields base).foldl MergedArgs.add {}) =
        (givenTokens base extras).foldl MergedArgs.add {} := by
    rw [givenTokens, List.foldl_append, List.foldl_flatMap]
  rw [MergeKernelArgs, hfold, horder]
  simp only [hvalues]
  congr 1
  rw [lastWins, ← List.filterMap_eq_map]
  refine List.filterMap_congr fun k hk => ?_
  obtain ⟨t, ht⟩ := Option.isSome_iff_exists.mp (isSome_lastWith.mpr (List.mem_eraseDups.mp hk))
  simp [ht]

/-- The tokens of the result are what remains of all tokens. -/
theorem fields_MergeKernelArgs (base : String) (extras : List String) :
    fields (MergeKernelArgs base extras) = lastWins argKey (givenTokens base extras) := by
  rw [MergeKernelArgs_eq]
  refine fields_join fun t ht => ?_
  obtain ⟨hmem, -⟩ := key_of_lastWith (mem_lastWins.mp ht)
  rcases List.mem_append.mp hmem with hbase | hextra
  · exact field_of_mem_fields hbase
  · obtain ⟨extra, -, hextra⟩ := List.mem_flatMap.mp hextra
    exact field_of_mem_fields hextra

/-- A result that is merged with more texts. -/
theorem MergeKernelArgs_MergeKernelArgs (base : String) (extras more : List String) :
    MergeKernelArgs (MergeKernelArgs base extras) more = MergeKernelArgs base (extras ++ more) := by
  rw [MergeKernelArgs_eq _ more, givenTokens, fields_MergeKernelArgs, lastWins_append,
    MergeKernelArgs_eq base, givenTokens, givenTokens, List.flatMap_append, List.append_assoc]

/-- Each key keeps the last token that is given, in the order in which the keys come first; a result
merged with itself is unchanged, and texts may be merged one after the other. -/
theorem MergeKernelArgs_merges (a b c : String) (extras : List String) :
    (∃ tokens, MergeKernelArgs a extras = " ".intercalate tokens ∧
      tokens.map argKey = ((givenTokens a extras).map argKey).eraseDups ∧
      ∀ t ∈ tokens, lastWith argKey (argKey t) (givenTokens a extras) = some t) ∧
    MergeKernelArgs (MergeKernelArgs a extras) [MergeKernelArgs a extras] =
      MergeKernelArgs a extras ∧
    MergeKernelArgs (MergeKernelArgs a [b]) [c] = MergeKernelArgs a [b, c] := by
  refine ⟨⟨_, MergeKernelArgs_eq a extras, map_key_lastWins _, fun t => mem_lastWins.mp⟩, ?_,
    MergeKernelArgs_MergeKernelArgs a [b] [c]⟩
  rw [MergeKernelArgs_eq (MergeKernelArgs a extras), givenTokens, List.flatMap_singleton,
    fields_MergeKernelArgs, lastWins_append_self, MergeKernelArgs_eq]

end Hypeman.GuestMemory
