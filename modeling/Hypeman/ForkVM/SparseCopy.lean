import Mathlib.Data.List.GetD
import Mathlib.Data.List.TakeDrop

/-!
# Copying a sparse file

Model of `lib/forkvm/copy_sparse_unix.go`: the destination is made as long as the source and then
only the extents with data are copied, in chunks, with reads and writes that may be short. What the
system calls return is given; the answers to `SEEK_DATA` and `SEEK_HOLE` agree with the source
(`SparseCalls.Sound`), and apart from that they are arbitrary.

* `filled`: the destination when the copy has come as far as an offset.
* `copyRegularFileSparse_spec`: the copy ends, and if it succeeds the destination is the source.
-/

namespace Hypeman.ForkVM

/-- The errors of the system calls, as far as they are told apart. -/
inductive Errno
  | enxio
  /-- One of `EINVAL`, `ENOTSUP` and `EOPNOTSUPP`. -/
  | unsupported (text : String)
  | other (text : String)
deriving DecidableEq, Repr

def Errno.text : Errno → String
  | .enxio => "no such device or address"
  | .unsupported text | .other text => text

/-- The errors of a copy; `unsupported` wraps `ErrSparseCopyUnsupported`. -/
inductive CopyError
  | unsupported (text : String)
  | failed (text : String)
deriving DecidableEq, Repr

/-- What the system calls return. The file under the copy does not change, so each depends only on
where it is made; reads and writes return the number of bytes. -/
structure SparseCalls where
  openSource : Except Errno Unit := .ok ()
  stat : Except Errno Unit := .ok ()
  openDestination : Except Errno Unit := .ok ()
  ftruncate : Except Errno Unit := .ok ()
  close : Except Errno Unit := .ok ()
  seekData : Nat → Except Errno Nat
  seekHole : Nat → Except Errno Nat
  pread : Nat → Nat → Except Errno Nat
  pwrite : Nat → Nat → Except Errno Nat

/-- Loops get an amount of fuel; `none` means that it was not enough. -/
abbrev Copy := ExceptT CopyError Option

/-- A call whose error ends the copy. -/
def attempt {α : Type} (context : String) (r : Except Errno α) : Copy α :=
  ExceptT.mk (some (r.mapError fun err => .failed (context ++ err.text)))

def CopyError.wrap (context : String) : CopyError → CopyError
  | .unsupported text => .unsupported (context ++ text)
  | .failed text => .failed (context ++ text)

def writeAt (file : List UInt8) (pos : Nat) (data : List UInt8) : List UInt8 :=
  (file ++ List.replicate (pos - file.length) 0).take pos ++ data ++ file.drop (pos + data.length)

/-- The inner loop of `copyFileExtent`: `data` is what of the chunk is still to be written. -/
def writeChunk (io : SparseCalls) : Nat → List UInt8 → List UInt8 → Nat → Copy (List UInt8)
  | fuel, dst, data, pos =>
    if data.isEmpty then pure dst
    else match fuel with
    | 0 => ExceptT.mk none
    | fuel + 1 => do
      let wn ← attempt "" (io.pwrite pos data.length)
      if wn = 0 then throw (.failed "short write")
      else writeChunk io fuel (writeAt dst pos (data.take wn)) (data.drop wn) (pos + wn)

def copyFileExtent (io : SparseCalls) (src : List UInt8) :
    Nat → List UInt8 → Nat → Nat → Copy (List UInt8)
  | fuel, dst, pos, remaining =>
    if remaining = 0 then pure dst
    else match fuel with
    | 0 => ExceptT.mk none
    | fuel + 1 => do
      let n ← attempt "" (io.pread pos (min remaining 1048576))
      if n = 0 then throw (.failed "unexpected EOF")
      else
        let dst ← writeChunk io (fuel + 1) dst ((src.drop pos).take n) pos
        copyFileExtent io src fuel dst (pos + n) (remaining - n)

/-- The end of the extent that begins at `dataStart`, as the loop of `copyRegularFileSparse` asks
for it. -/
def extentEnd (io : SparseCalls) (srcPath : String) (size dataStart : Nat) : Copy Nat :=
  match io.seekHole dataStart with
  | .error .enxio => pure size
  | .error (.unsupported text) =>
    throw (.unsupported s!"SEEK_HOLE unsupported for {srcPath}: {text}")
  | .error err => throw (.failed s!"seek hole at offset {dataStart}: {err.text}")
  | .ok dataEnd => pure (min dataEnd size)

/-- The loop of `copyRegularFileSparse`. -/
def copyExtents (io : SparseCalls) (srcPath : String) (src : List UInt8) :
    Nat → List UInt8 → Nat → Copy (List UInt8)
  | fuel, dst, offset =>
    if ¬ offset < src.length then pure dst
    else match fuel with
    | 0 => ExceptT.mk none
    | fuel + 1 =>
      match io.seekData offset with
      | .error .enxio => pure dst
      | .error (.unsupported text) =>
        throw (.unsupported s!"SEEK_DATA unsupported for {srcPath}: {text}")
      | .error err => throw (.failed s!"seek data at offset {offset}: {err.text}")
      | .ok dataStart =>
        if src.length ≤ dataStart then pure dst
        else do
          let dataEnd ← extentEnd io srcPath src.length dataStart
          if dataEnd < dataStart then
            throw (.failed s!"invalid sparse extent ({dataStart}..{dataEnd}) for {srcPath}")
          else
            let dst ← ExceptT.adapt (.wrap s!"copy sparse extent [{dataStart},{dataEnd}): ")
              (copyFileExtent io src (fuel + 1) dst dataStart (dataEnd - dataStart))
            copyExtents io srcPath src fuel dst dataEnd

/-- `copyRegularFileSparse`: the destination after the copy of a file with the content `src`. -/
def copyRegularFileSparse (io : SparseCalls) (srcPath : String) (src : List UInt8) (fuel : Nat) :
    Copy (List UInt8) := do
  attempt "" io.openSource
  attempt "stat source file: " io.stat
  attempt "" io.openDestination
  attempt "truncate destination file: " io.ftruncate
  let dst ← copyExtents io srcPath src fuel (List.replicate src.length 0) 0
  attempt "" io.close
  return dst

/-- The answers of the system calls for a file with the content `src`: between an offset and the
data that is found from there on, and where none is found, all bytes are zero; a hole is found after
the beginning of the data; and no more is read or written than asked for. -/
structure SparseCalls.Sound (src : List UInt8) (io : SparseCalls) : Prop where
  data : ∀ offset dataStart, io.seekData offset = .ok dataStart →
    offset ≤ dataStart ∧ ∀ i, offset ≤ i → i < dataStart → src.getD i 0 = 0
  noData : ∀ offset, io.seekData offset = .error .enxio → ∀ i, offset ≤ i → src.getD i 0 = 0
  hole : ∀ offset dataStart dataEnd, io.seekData offset = .ok dataStart →
    io.seekHole dataStart = .ok dataEnd → dataStart < dataEnd
  pread : ∀ pos n k, io.pread pos n = .ok k → k ≤ n
  pwrite : ∀ pos n k, io.pwrite pos n = .ok k → k ≤ n

/-! ## Computations that end -/

section Ends

variable {α β : Type} {P : α → Prop} {Q : β → Prop}

/-- The computation ends, and a result satisfies `P`. -/
def Ends (P : α → Prop) (r : Copy α) : Prop :=
  ∃ x, r.run = some x ∧ ∀ a, x = .ok a → P a

theorem Ends.pure {a : α} (h : P a) : Ends P (pure a : Copy α) :=
  ⟨.ok a, rfl, fun _ heq => Except.ok.inj heq ▸ h⟩

theorem Ends.throw (e : CopyError) : Ends P (throw e : Copy α) :=
  ⟨.error e, rfl, fun _ heq => nomatch heq⟩

theorem Ends.attempt {context : String} {r : Except Errno α} (h : ∀ a, r = .ok a → P a) :
    Ends P (attempt context r) := by
  cases r with
  | error err => exact ⟨_, rfl, fun _ heq => nomatch heq⟩
  | ok a => exact ⟨_, rfl, fun _ heq => Except.ok.inj heq ▸ h a rfl⟩

theorem Ends.bind {r : Copy α} {f : α → Copy β} (hr : Ends P r) (hf : ∀ a, P a → Ends Q (f a)) :
    Ends Q (r >>= f) := by
  obtain ⟨x, hx, hP⟩ := hr
  cases x with
  | error e => exact ⟨.error e, by simp [ExceptT.run_bind, hx], fun _ heq => nomatch heq⟩
  | ok a =>
    obtain ⟨y, hy, hQ⟩ := hf a (hP a rfl)
    exact ⟨y, by simp [ExceptT.run_bind, hx, hy], hQ⟩

theorem ends_attempt_bind {context : String} {r : Except Errno α} {f : α → Copy β}
    (hf : ∀ a, Ends Q (f a)) : Ends Q (attempt context r >>= f) :=
  .bind (P := fun _ => True) (.attempt fun _ _ => True.intro) fun a _ => hf a

theorem Ends.adapt {r : Copy α} (hr : Ends P r) (f : CopyError → CopyError) :
    Ends P (ExceptT.adapt f r) := by
  obtain ⟨x, hx, hP⟩ := hr
  have hr : r = some x := hx
  cases x with
  | error e => exact ⟨.error (f e), by rw [hr]; rfl, fun _ heq => nomatch heq⟩
  | ok a => exact ⟨.ok a, by rw [hr]; rfl, hP⟩

end Ends

/-! ## The copy -/

/-- The destination when everything before `offset` is copied. -/
def filled (src : List UInt8) (offset : Nat) : List UInt8 :=
  src.take offset ++ List.replicate (src.length - offset) 0

variable {io : SparseCalls} {src : List UInt8}

theorem filled_length : filled src src.length = src := by
  simp [filled]

theorem filled_succ {k : Nat} (h : src.getD k 0 = 0) : filled src k = filled src (k + 1) := by
  by_cases hlen : k < src.length
  · have hzero : src[k] = 0 := by simpa [List.getD_eq_getElem?_getD, hlen] using h
    have hrest : src.length - k = (src.length - (k + 1)) + 1 := by omega
    rw [filled, filled, List.take_add_one, hrest, List.replicate_succ]
    simp [hlen, hzero]
  · have hk : src.length ≤ k := by omega
    have hk' : src.length ≤ k + 1 := by omega
    simp [filled, List.take_of_length_le, hk, hk']

/-- What is skipped is zero in both files. -/
theorem filled_skip {offset dataStart : Nat} (hle : offset ≤ dataStart)
    (h : ∀ i, offset ≤ i → i < dataStart → src.getD i 0 = 0) :
    filled src offset = filled src dataStart := by
  obtain ⟨k, rfl⟩ := Nat.exists_eq_add_of_le hle
  clear hle
  induction k with
  | zero => rfl
  | succ k ih =>
    rw [ih fun i hi hlt => h i hi (by omega)]
    exact filled_succ (h (offset + k) (by omega) (by omega))

/-- A chunk that is written where the copy has come. -/
theorem writeAt_filled {pos n : Nat} (h : pos + n ≤ src.length) :
    writeAt (filled src pos) pos ((src.drop pos).take n) = filled src (pos + n) := by
  have hfront : (src.take pos).length = pos := by
    rw [List.length_take]
    omega
  have hchunk : ((src.drop pos).take n).length = n := by
    rw [List.length_take, List.length_drop]
    omega
  have hlength : (filled src pos).length = src.length := by
    rw [filled, List.length_append, hfront, List.length_replicate]
    omega
  have hpad : pos - src.length = 0 := by omega
  have hrest : src.length - pos - n = src.length - (pos + n) := by omega
  rw [writeAt, hchunk, hlength, hpad, List.replicate_zero, List.append_nil]
  conv_lhs => rw [filled, List.take_left' hfront]
  rw [filled, List.take_add, ← List.drop_drop, List.drop_left' hfront, List.drop_replicate, hrest]

theorem writeChunk_spec (hio : io.Sound src) {fuel pos n : Nat} (hfuel : n ≤ fuel)
    (hpos : pos + n ≤ src.length) :
    Ends (· = filled src (pos + n))
      (writeChunk io fuel (filled src pos) ((src.drop pos).take n) pos) := by
  induction fuel generalizing pos n with
  | zero =>
    obtain rfl : n = 0 := by omega
    rw [writeChunk, if_pos (by simp)]
    exact .pure rfl
  | succ fuel ih =>
    rw [writeChunk]
    split
    · next hempty =>
      have hn : n = 0 := by
        have := congrArg List.length (List.isEmpty_iff.mp hempty)
        rw [List.length_take, List.length_drop, List.length_nil] at this
        omega
      rw [hn]
      exact .pure rfl
    · have hchunk : ((src.drop pos).take n).length = n := by
        rw [List.length_take, List.length_drop]
        omega
      refine Ends.bind (.attempt fun wn hwn => hio.pwrite _ _ _ hwn) fun wn hle => ?_
      rw [hchunk] at hle
      split
      · exact .throw _
      · next hne =>
        rw [List.take_take, Nat.min_eq_left hle, writeAt_filled (by omega), List.drop_take,
          List.drop_drop]
        have hrest : pos + wn + (n - wn) = pos + n := by omega
        rw [← hrest]
        exact ih (by omega) (by omega)

theorem copyFileExtent_spec (hio : io.Sound src) {fuel pos remaining : Nat}
    (hfuel : remaining ≤ fuel) (hpos : pos + remaining ≤ src.length) :
    Ends (· = filled src (pos + remaining))
      (copyFileExtent io src fuel (filled src pos) pos remaining) := by
  induction fuel generalizing pos remaining with
  | zero =>
    obtain rfl : remaining = 0 := by omega
    exact .pure rfl
  | succ fuel ih =>
    rw [copyFileExtent]
    split
    · next hzero =>
      rw [hzero]
      exact .pure rfl
    · refine Ends.bind (.attempt fun n hn => hio.pread _ _ _ hn) fun n hle => ?_
      split
      · exact .throw _
      · next hne =>
        refine Ends.bind (writeChunk_spec hio (n := n) (by omega) (by omega)) fun dst hdst => ?_
        have hrest : pos + n + (remaining - n) = pos + remaining := by omega
        rw [hdst, ← hrest]
        exact ih (by omega) (by omega)

theorem extentEnd_spec (hio : io.Sound src) (srcPath : String) {offset dataStart : Nat}
    (hdata : io.seekData offset = .ok dataStart) (hlt : dataStart < src.length) :
    Ends (fun dataEnd => dataStart < dataEnd ∧ dataEnd ≤ src.length)
      (extentEnd io srcPath src.length dataStart) := by
  unfold extentEnd
  split
  · exact .pure ⟨hlt, Nat.le_refl _⟩
  · exact .throw _
  · exact .throw _
  · next dataEnd hhole =>
    have := hio.hole offset dataStart dataEnd hdata hhole
    exact .pure ⟨by omega, by omega⟩

theorem copyExtents_spec (hio : io.Sound src) (srcPath : String) {fuel offset : Nat}
    (hfuel : src.length ≤ offset + fuel) (hoffset : offset ≤ src.length) :
    Ends (· = src) (copyExtents io srcPath src fuel (filled src offset) offset) := by
  induction fuel generalizing offset with
  | zero =>
    obtain rfl : offset = src.length := by omega
    rw [copyExtents, if_pos (Nat.lt_irrefl _)]
    exact .pure filled_length
  | succ fuel ih =>
    rw [copyExtents]
    split
    · obtain rfl : offset = src.length := by omega
      exact .pure filled_length
    · split
      · next hdata =>
        refine .pure ?_
        rw [filled_skip hoffset fun i hi _ => hio.noData offset hdata i hi, filled_length]
      · exact .throw _
      · exact .throw _
      · next dataStart hdata =>
        obtain ⟨hle, hzero⟩ := hio.data offset dataStart hdata
        split
        · next hbeyond =>
          refine .pure ?_
          rw [filled_skip hoffset fun i hi hlt => hzero i hi (by omega), filled_length]
        · next hinside =>
          refine Ends.bind (extentEnd_spec hio srcPath hdata (by omega)) fun dataEnd hend => ?_
          rw [if_neg (by omega), filled_skip hle hzero]
          refine Ends.bind ((copyFileExtent_spec hio (by omega) (by omega)).adapt _) fun dst hdst =>
            ?_
          have hreached : dataStart + (dataEnd - dataStart) = dataEnd := by omega
          rw [hdst, hreached]
          exact ih (by omega) hend.2

/-- Whatever the layout of the source and however short the reads and writes are: with a round for
each byte the copy ends, and if it succeeds the destination has the bytes of the source. -/
theorem copyRegularFileSparse_spec (hio : io.Sound src) (srcPath : String) {fuel : Nat}
    (hfuel : src.length ≤ fuel) :
    ∃ result, (copyRegularFileSparse io srcPath src fuel).run = some result ∧
      ∀ dst, result = .ok dst → dst = src := by
  have hends : Ends (· = src) (copyRegularFileSparse io srcPath src fuel) := by
    unfold copyRegularFileSparse
    refine ends_attempt_bind fun _ => ?_
    refine ends_attempt_bind fun _ => ?_
    refine ends_attempt_bind fun _ => ?_
    refine ends_attempt_bind fun _ => ?_
    have hstart : List.replicate src.length (0 : UInt8) = filled src 0 := by simp [filled]
    rw [hstart]
    refine Ends.bind (copyExtents_spec hio srcPath (by omega) (by omega)) fun dst hdst => ?_
    exact ends_attempt_bind fun _ => .pure hdst
  exact hends

/-- The calls for a file with a hole of two bytes and a byte of data. -/
def sampleCalls : SparseCalls where
  seekData offset := if offset ≤ 2 then .ok 2 else .error .enxio
  seekHole _ := .ok 3
  pread _ n := .ok (min n 1)
  pwrite _ n := .ok (min n 1)

theorem sampleCalls_sound : sampleCalls.Sound [0, 0, 7] where
  data offset dataStart h := by
    by_cases hle : offset ≤ 2
    · cases (if_pos hle).symm.trans h
      refine ⟨hle, fun i _ hlt => ?_⟩
      obtain rfl | rfl : i = 0 ∨ i = 1 := by omega
      · rfl
      · rfl
    · cases (if_neg hle).symm.trans h
  noData offset h i hi := by
    by_cases hle : offset ≤ 2
    · cases (if_pos hle).symm.trans h
    · exact List.getD_eq_default _ _ (by simpa using (by omega : 3 ≤ i))
  hole offset dataStart dataEnd h hhole := by
    by_cases hle : offset ≤ 2
    · cases (if_pos hle).symm.trans h
      cases hhole
      decide
    · cases (if_neg hle).symm.trans h
  pread pos n k h := Except.ok.inj h ▸ Nat.min_le_left n 1
  pwrite pos n k h := Except.ok.inj h ▸ Nat.min_le_left n 1

theorem copyRegularFileSparse_spec_sample :
    (copyRegularFileSparse sampleCalls "overlay.raw" [0, 0, 7] 3).run = some (.ok [0, 0, 7]) ∧
    ∃ result, (copyRegularFileSparse sampleCalls "overlay.raw" [0, 0, 7] 3).run = some result ∧
      ∀ dst, result = .ok dst → dst = [0, 0, 7] :=
  ⟨rfl, copyRegularFileSparse_spec sampleCalls_sound "overlay.raw" (by decide)⟩

end Hypeman.ForkVM
