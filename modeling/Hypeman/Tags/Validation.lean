import Hypeman.Foundations.Table
import Mathlib.Data.List.Sort

/-!
# Tags of resources

A model of `lib/tags/validate.go`: what the user may put into the tags of a resource.
-/

namespace Hypeman.Tags

open Foundations

/-- The characters of `allowedPattern`. -/
def allowedChar (c : Char) : Bool :=
  ('A' ≤ c && c ≤ 'Z') || ('a' ≤ c && c ≤ 'z') || ('0' ≤ c && c ≤ '9') ||
    " _.:/=+@-".toList.contains c

/-- The checks of one pair in `Validate`. -/
def validatePair (quote : String → String) (key value : String) : Except String Unit :=
  let keyLen := key.length
  let valueLen := value.length
  if keyLen < 1 ∨ 128 < keyLen then
    .error s!"invalid tags: key {quote key} length {keyLen} out of range [1,128]"
  else if !key.toList.all allowedChar then
    .error s!"invalid tags: key {quote key} contains unsupported characters"
  else if 256 < valueLen then
    .error s!"invalid tags: value for key {quote key} length {valueLen} out of range [0,256]"
  else if !value.toList.all allowedChar then
    .error s!"invalid tags: value for key {quote key} contains unsupported characters"
  else .ok ()

/-- `Validate`: the pairs are checked in the order of their keys. -/
def Validate (quote : String → String) (tags : Table String String) : Except String Unit :=
  if 50 < tags.keys.length then
    .error s!"invalid tags: too many entries: {tags.keys.length} (max 50)"
  else
    (tags.keys.insertionSort (· ≤ ·)).forM fun key =>
      validatePair quote key ((tags.lookup key).getD "")

end Hypeman.Tags
