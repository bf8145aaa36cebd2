import Hypeman.UffdPager.Cache

/-!
# A pager session

A session of the userfaultfd pager (`lib/uffdpager/server_faults_linux.go` and
`complete_linux.go`): the mappings of a restored guest are checked when they are received, page
faults are served one page at a time, and a completion copies every page and then unregisters the
ranges. One goroutine does all of this, so that a session is a sequence of steps; what the kernel
answers and when a caller gives up is chosen by the environment.

* `normalizeMappings`, `findMapping`, `readPage`, `populatePage`: the functions of a session.
* `Copy`: what was copied into guest memory; the log of copies is the memory's history.
* `session`: the session as a system.
* `Steps`: all that a step can do.
-/

namespace Hypeman.UffdPager

open Foundations

/-- `guestRegionUffdMapping`. -/
structure Mapping where
  baseHostVirtAddr : UInt64
  size : UInt64
  offset : UInt64
  pageSize : UInt64
  pageSizeKiB : UInt64
deriving DecidableEq, Repr

/-! ## The functions of a session -/

/-- The page size of a mapping: the field, the older field of that meaning, or the system's. -/
def Mapping.normalize (getpagesize : UInt64) (m : Mapping) : Mapping :=
  let pageSize := if m.pageSize = 0 then m.pageSizeKiB else m.pageSize
  { m with pageSize := if pageSize = 0 then getpagesize else pageSize }

/-- The loop of `normalizeMappings`, from index `i`. -/
def normalizeFrom (getpagesize : UInt64) : ℕ → List Mapping → Except String (List Mapping)
  | _, [] => .ok []
  | i, m :: ms =>
    let m := m.normalize getpagesize
    if m.size = 0 then .error s!"mapping {i} has zero size"
    else if m.pageSize &&& (m.pageSize - 1) ≠ 0 then
      .error s!"mapping {i} page size {m.pageSize} is not a power of two"
    else match normalizeFrom getpagesize (i + 1) ms with
      | .ok ms => .ok (m :: ms)
      | .error err => .error err

def normalizeMappings (getpagesize : UInt64) (mappings : List Mapping) :
    Except String (List Mapping) :=
  if mappings = [] then .error "no uffd mappings received"
  else normalizeFrom getpagesize 0 mappings

/-- What `findMapping` returns for an address it finds. -/
structure Fault where
  mapping : Mapping
  pageAddr : Int64
  pageOffset : Int64
  pageSize : Int64
deriving DecidableEq, Repr

/-- The range of a mapping holds the address, by the comparisons of `findMapping`. -/
def Mapping.holds (m : Mapping) (faultAddr : Int64) : Bool :=
  let start := m.baseHostVirtAddr.toInt64
  let stop := start + m.size.toInt64
  !(faultAddr < start || faultAddr ≥ stop)

def Mapping.fault (m : Mapping) (faultAddr : Int64) : Fault :=
  let start := m.baseHostVirtAddr.toInt64
  let pageSize := m.pageSize.toInt64
  let pageAddr := faultAddr &&& ~~~(pageSize - 1)
  { mapping := m, pageAddr, pageOffset := m.offset.toInt64 + (pageAddr - start), pageSize }

def findMapping (mappings : List Mapping) (faultAddr : Int64) : Option Fault :=
  (mappings.find? (·.holds faultAddr)).map (·.fault faultAddr)

/-- `ReadAt` for `n` bytes of the backing file; `none` is a short read or an error. -/
def readAt (file : List UInt8) (offset : Int64) (n : ℕ) : Option (List UInt8) :=
  if offset < 0 then none
  else if offset.toNatClampNeg + n ≤ file.length then
    some ((file.drop offset.toNatClampNeg).take n)
  else none

/-- A copy into guest memory: where, from which offset of the backing file, what, and whether
`populateAll` made it or the fault path. -/
structure Copy where
  dst : UInt64
  offset : Int64
  page : List UInt8
  eager : Bool
deriving DecidableEq, Repr

/-- The copy wrote the byte at the address. -/
def Copy.covers (c : Copy) (addr : UInt64) : Prop := (addr - c.dst).toNat < c.page.length

instance (c : Copy) (addr : UInt64) : Decidable (c.covers addr) :=
  inferInstanceAs (Decidable ((addr - c.dst).toNat < c.page.length))

/-- Some copy wrote the byte at the address. -/
def Populated (log : List Copy) (addr : UInt64) : Prop := ∃ c ∈ log, c.covers addr

instance (log : List Copy) (addr : UInt64) : Decidable (Populated log addr) :=
  inferInstanceAs (Decidable (∃ c ∈ log, c.covers addr))

def Copy.Present (log : List Copy) (c : Copy) : Prop :=
  ∀ k < c.page.length, Populated log (c.dst + UInt64.ofNat k)

instance (log : List Copy) (c : Copy) : Decidable (c.Present log) :=
  inferInstanceAs (Decidable (∀ k < c.page.length, Populated log (c.dst + UInt64.ofNat k)))

/-- How the kernel answers a copy: done, `EEXIST`, `EAGAIN`, or another error. -/
inductive Answer
  | copied
  | present
  | again
  | failed
deriving DecidableEq, Repr

/-- `uffdCopy`: the log after it, and whether it succeeded. The kernel says that a page is present
only if it is. -/
def uffdCopy (log : List Copy) (c : Copy) (answer : Answer) : Option (List Copy × Bool) :=
  if c.page = [] then some (log, false)
  else match answer with
    | .copied => some (log ++ [c], true)
    | .present => if c.Present log then some (log, true) else none
    | .again => some (log, false)
    | .failed => some (log, false)

/-- `populatePage` with the attempts that are left and the answers of the kernel to them. -/
def populatePage (log : List Copy) (c : Copy) : ℕ → List Answer → Option (List Copy × Bool)
  | 0, [] => some (log, false)
  | n + 1, .again :: answers => populatePage log c n answers
  | _ + 1, [answer] => uffdCopy log c answer
  | _, _ => none

def maxAttempts : ℕ := 5

/-! ## The session -/

/-- What a session is opened with. -/
structure Backing where
  mappings : List Mapping
  file : List UInt8
  cacheKey : String
  /-- The budget of the page cache the server shares among its sessions. -/
  cacheMaxBytes : ℤ

/-- Where the goroutine of the session is. -/
inductive Phase
  /-- In the fault loop. -/
  | serving
  /-- In `populateAll`, with the mappings that are left, the offset in the first of them, and
  whether an error was noted. -/
  | populating (rest : List Mapping) (off : UInt64) (failed : Bool)
  /-- `completeAndUnregister` returned nil. -/
  | detached
deriving DecidableEq, Repr

structure Session where
  log : List Copy
  cache : PageCache
  phase : Phase
  /-- `unregisterAll` was entered. -/
  unregistered : Bool

inductive SessionEvent
  /-- A page fault, whether the read of the backing file succeeds, and the kernel's answer. -/
  | fault (addr : Int64) (readOk : Bool) (answer : Answer)
  /-- Another session of the server adds a page to the cache. -/
  | cached (cacheKey : String) (offset : Int64) (data : List UInt8)
  | complete
  /-- `populateAll` handles one page. -/
  | page (readOk : Bool) (answers : List Answer)
  /-- `populateAll` goes on to the next mapping. -/
  | advance
  /-- The caller of the completion has given up. -/
  | abandon
  /-- `populateAll` ends, and `unregisterAll` succeeds or fails. -/
  | unregister (ok : Bool)
deriving DecidableEq, Repr

variable (b : Backing)

/-- `readPage`, with the cache after it. -/
def Session.readPage (s : Session) (offset pageSize : Int64) (readOk : Bool) :
    PageCache × Option (List UInt8) :=
  match s.cache.Borrow b.cacheKey offset pageSize.toInt with
  | (cache, some page) => (cache, some page)
  | (cache, none) =>
    match if readOk then readAt b.file offset pageSize.toNatClampNeg else none with
    | some page => (cache.Add b.cacheKey offset page, some page)
    | none => (cache, none)

/-- `servePageFault`. A page of negative length cannot be made: the server would stop. -/
def Session.servePageFault (s : Session) (addr : Int64) (readOk : Bool) (answer : Answer) :
    Option Session :=
  match findMapping b.mappings addr with
  | none => some s
  | some f =>
    if f.pageSize < 0 then none
    else match s.readPage b f.pageOffset f.pageSize readOk with
      | (cache, none) => some { s with cache }
      | (cache, some page) =>
        (uffdCopy s.log ⟨f.pageAddr.toUInt64, f.pageOffset, page, false⟩ answer).map fun r =>
          { s with log := r.1, cache }

/-- The loop of `populateAll` over a mapping goes on at this offset. -/
def Mapping.hasPage (m : Mapping) (off : UInt64) : Bool :=
  !(m.pageSize.toInt64 ≤ 0) && off + m.pageSize ≤ m.size

def Mapping.copyAt (m : Mapping) (off : UInt64) (page : List UInt8) : Copy :=
  ⟨m.baseHostVirtAddr + off, (m.offset + off).toInt64, page, true⟩

/-- One page of `populateAll`: the log after it, and whether it succeeded. -/
def Mapping.populate (m : Mapping) (off : UInt64) (log : List Copy) (readOk : Bool)
    (answers : List Answer) : Option (List Copy × Bool) :=
  match if readOk then readAt b.file (m.offset + off).toInt64 m.pageSize.toNat else none with
  | none => some (log, false)
  | some page => populatePage log (m.copyAt off page) maxAttempts answers

def session : System Session SessionEvent where
  init := { log := [], cache := NewPageCache b.cacheMaxBytes, phase := .serving,
            unregistered := false }
  step s
    | .fault addr readOk answer =>
      match s.phase with
      | .serving => s.servePageFault b addr readOk answer
      | _ => none
    | .cached cacheKey offset data =>
      -- sessions with one cache key have backing files with one content
      if cacheKey = b.cacheKey ∧ readAt b.file offset data.length ≠ some data then none
      else some { s with cache := s.cache.Add cacheKey offset data }
    | .complete =>
      match s.phase with
      | .serving => some { s with phase := .populating b.mappings 0 false }
      | _ => none
    | .page readOk answers =>
      match s.phase with
      | .populating (m :: rest) off failed =>
        if m.hasPage off then
          (m.populate b off s.log readOk answers).map fun r =>
            { s with log := r.1
                     phase := .populating (m :: rest) (off + m.pageSize) (failed || !r.2) }
        else none
      | _ => none
    | .advance =>
      match s.phase with
      | .populating (m :: rest) off failed =>
        if m.hasPage off then none else some { s with phase := .populating rest 0 failed }
      | _ => none
    | .abandon =>
      match s.phase with
      | .populating _ _ _ => some { s with phase := .serving }
      | _ => none
    | .unregister ok =>
      match s.phase with
      | .populating [] _ failed =>
        if failed then some { s with phase := .serving }
        else some { s with unregistered := true
                           phase := if ok then .detached else .serving }
      | _ => none

/-! ## What a step does -/

/-- The ways a copy can go. -/
inductive Copies (log : List Copy) (c : Copy) : List Copy × Bool → Prop
  | copied : Copies log c (log ++ [c], true)
  | present (hpresent : c.Present log) : Copies log c (log, true)
  | error : Copies log c (log, false)

theorem uffdCopy_copies {log : List Copy} {c : Copy} {answer : Answer} {r : List Copy × Bool}
    (h : uffdCopy log c answer = some r) : Copies log c r := by
  unfold uffdCopy at h
  split at h
  · cases h
    exact .error
  · cases answer with
    | copied =>
      cases h
      exact .copied
    | present =>
      dsimp only at h
      split at h
      · next hpresent =>
        cases h
        exact .present hpresent
      · cases h
    | again | failed =>
      cases h
      exact .error

theorem populatePage_copies {log : List Copy} {c : Copy} {n : ℕ} {answers : List Answer}
    {r : List Copy × Bool} (h : populatePage log c n answers = some r) : Copies log c r := by
  induction n generalizing answers with
  | zero =>
    cases answers with
    | nil =>
      cases h
      exact .error
    | cons => cases h
  | succ n ih =>
    unfold populatePage at h
    split at h
    · next heq => cases heq
    · next n' answers' heq =>
      cases heq
      exact ih h
    · exact uffdCopy_copies h
    · cases h

inductive Steps (b : Backing) (s : Session) : Session → Prop
  | cached {cacheKey : String} {offset : Int64} {data : List UInt8}
      (hdata : cacheKey = b.cacheKey → readAt b.file offset data.length = some data) :
      Steps b s { s with cache := s.cache.Add cacheKey offset data }
  | missed {addr : Int64} (hphase : s.phase = .serving)
      (hnone : findMapping b.mappings addr = none) : Steps b s s
  | unread {f : Fault} {cache : PageCache} {readOk : Bool} (hphase : s.phase = .serving)
      (hread : s.readPage b f.pageOffset f.pageSize readOk = (cache, none)) :
      Steps b s { s with cache }
  | fault {addr : Int64} {f : Fault} {cache : PageCache} {readOk : Bool} {page : List UInt8}
      {r : List Copy × Bool} (hphase : s.phase = .serving)
      (hfind : findMapping b.mappings addr = some f) (hsize : ¬ f.pageSize < 0)
      (hread : s.readPage b f.pageOffset f.pageSize readOk = (cache, some page))
      (hcopy : Copies s.log ⟨f.pageAddr.toUInt64, f.pageOffset, page, false⟩ r) :
      Steps b s { s with log := r.1, cache }
  | complete (hphase : s.phase = .serving) :
      Steps b s { s with phase := .populating b.mappings 0 false }
  | unreadPage {m : Mapping} {rest : List Mapping} {off : UInt64} {failed : Bool}
      (hphase : s.phase = .populating (m :: rest) off failed) (hpage : m.hasPage off = true) :
      Steps b s { s with phase := .populating (m :: rest) (off + m.pageSize) true }
  | page {m : Mapping} {rest : List Mapping} {off : UInt64} {failed : Bool} {page : List UInt8}
      {r : List Copy × Bool} (hphase : s.phase = .populating (m :: rest) off failed)
      (hpage : m.hasPage off = true)
      (hread : readAt b.file (m.offset + off).toInt64 m.pageSize.toNat = some page)
      (hcopy : Copies s.log (m.copyAt off page) r) :
      Steps b s { s with log := r.1
                         phase := .populating (m :: rest) (off + m.pageSize) (failed || !r.2) }
  | advance {m : Mapping} {rest : List Mapping} {off : UInt64} {failed : Bool}
      (hphase : s.phase = .populating (m :: rest) off failed) (hpage : m.hasPage off = false) :
      Steps b s { s with phase := .populating rest 0 failed }
  | back {rest : List Mapping} {off : UInt64} {failed : Bool}
      (hphase : s.phase = .populating rest off failed) : Steps b s { s with phase := .serving }
  | unregister {off : UInt64} (ok : Bool) (hphase : s.phase = .populating [] off false) :
      Steps b s { s with unregistered := true, phase := if ok then .detached else .serving }

variable {b} {s s' : Session}

theorem servePageFault_steps {addr : Int64} {readOk : Bool} {answer : Answer}
    (hphase : s.phase = .serving) (h : s.servePageFault b addr readOk answer = some s') :
    Steps b s s' := by
  unfold Session.servePageFault at h
  split at h
  · next hnone =>
    cases h
    exact .missed hphase hnone
  · next f hfind =>
    split at h
    · cases h
    · next hsize =>
      split at h
      · next cache hread =>
        cases h
        exact .unread hphase hread
      · next cache page hread =>
        obtain ⟨r, hr, rfl⟩ := Option.map_eq_some_iff.mp h
        exact .fault hphase hfind hsize hread (uffdCopy_copies hr)

theorem session_steps {e : SessionEvent} (h : (session b).step s e = some s') : Steps b s s' := by
  cases e with simp only [session] at h
  | fault addr readOk answer =>
    split at h
    · next hphase => exact servePageFault_steps hphase h
    · cases h
  | cached cacheKey offset data =>
    split at h
    · cases h
    · next hdata =>
      cases h
      exact .cached fun hkey => not_not.mp fun hne => hdata ⟨hkey, hne⟩
  | complete =>
    split at h
    · next hphase =>
      cases h
      exact .complete hphase
    · cases h
  | page readOk answers =>
    split at h
    · next m rest off failed hphase =>
      split at h
      · next hpage =>
        obtain ⟨r, hr, rfl⟩ := Option.map_eq_some_iff.mp h
        unfold Mapping.populate at hr
        split at hr
        · cases hr
          simpa using Steps.unreadPage (b := b) hphase hpage
        · next page hread =>
          split at hread
          · exact .page hphase hpage hread (populatePage_copies hr)
          · cases hread
      · cases h
    · cases h
  | advance =>
    split at h
    · next m rest off failed hphase =>
      split at h
      · cases h
      · next hpage =>
        cases h
        exact .advance hphase (Bool.eq_false_iff.mpr hpage)
    · cases h
  | abandon =>
    split at h
    · next hphase =>
      cases h
      exact .back hphase
    · cases h
  | unregister ok =>
    split at h
    · next off failed hphase =>
      split at h
      · cases h
        exact .back hphase
      · next hfailed =>
        cases h
        rw [Bool.not_eq_true] at hfailed
        exact .unregister ok (hfailed ▸ hphase)
    · cases h

end Hypeman.UffdPager
