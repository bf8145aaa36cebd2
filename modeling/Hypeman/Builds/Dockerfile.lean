import Hypeman.Foundations.Strings

/-!
# Base images of a Dockerfile

Models of the two readings of the `FROM` lines of a Dockerfile that decide what a build may pull:
`extractInternalBaseImageRepos` (`lib/builds/manager.go`) for images of the internal registry, and
`ParseDockerfileFROMs` (`lib/builds/dockerfile.go`) for all of them.
-/

namespace Hypeman.Builds

open Foundations.Strings

/-- A reference as `name.ParseReference` returns it: the repository and the tag or the digest. -/
structure ParsedReference where
  context : String
  tag : Option String
  digest : Option String

/-- The functions outside this repository that the reading of a Dockerfile calls. -/
structure BuildLib where
  /-- `name.ParseReference`. -/
  parseReference : String → Option ParsedReference
  /-- `strings.ToLower`. -/
  lower : String → String

def stripRegistryScheme (registryURL : String) : String :=
  if hasPrefix registryURL "https://" then trimPrefix registryURL "https://"
  else trimPrefix registryURL "http://"

/-- The image of a `FROM` line: the first word after `FROM` and its flags, with the words after
it. -/
def fromImage (line : String) : Option (String × List String) :=
  if !hasPrefix (toUpper line) "FROM " then none
  else match ((fields line).drop 1).dropWhile (hasPrefix · "--") with
    | [] => none
    | image :: rest => some (image, rest)

/-- The lines that `bufio.Scanner` yields: it stops at a line that does not fit its buffer. -/
def scanLines (content : String) : List String :=
  (split content '\n').takeWhile (·.utf8ByteSize < 65536)

/-- The repository of an image of the internal registry, without digest and tag. -/
def internalRepo (registryHost imageRef : String) : Option String :=
  if toLower imageRef = "scratch" ∨ !hasPrefix imageRef (registryHost ++ "/") then none
  else
    let repo := trimPrefix imageRef (registryHost ++ "/")
    let repo := (beforeLast repo '@').getD repo
    some ((beforeLast repo ':').getD repo)

def addNew (xs : List String) (x : String) : List String := if x ∈ xs then xs else xs ++ [x]

def extractInternalBaseImageRepos (dockerfile registryURL : String) : List String :=
  let repos := (scanLines dockerfile).filterMap fun raw =>
    (fromImage (trimSpace raw)).bind fun image =>
      internalRepo (stripRegistryScheme registryURL) image.1
  repos.foldl addNew []

variable (lib : BuildLib)

def normalizeImageRef (ref : String) : String :=
  match lib.parseReference ref with
  | none => trimPrefix ref "docker.io/"
  | some parsed =>
    let repo := trimPrefix (trimPrefix parsed.context "index.docker.io/") "docker.io/"
    match parsed.tag, parsed.digest with
    | some tag, _ => repo ++ ":" ++ tag
    | none, some digest => repo ++ "@" ++ digest
    | none, none => repo

/-- `strings.EqualFold(word, "AS")`; the long s folds to `s`. -/
def isAs (word : String) : Bool :=
  match word.toList with
  | [a, s] => (a == 'a' || a == 'A') && (s == 's' || s == 'S' || s == Char.ofNat 0x17F)
  | _ => false

/-- The name after the first `AS` of the words after the image. -/
def stageAlias : List String → Option String
  | word :: name :: rest => if isAs word then some name else stageAlias (name :: rest)
  | _ => none

/-- The state of the loop of `ParseDockerfileFROMs`: the stage names and the references. -/
structure FromState where
  stageNames : List String
  refs : List String

def parseFromLine (st : FromState) (raw : String) : FromState :=
  let trimmed := trimSpace raw
  if trimmed = "" ∨ hasPrefix trimmed "#" then st
  else match fromImage trimmed with
    | none => st
    | some (imageRef, rest) =>
      let st := match stageAlias rest with
        | some name => { st with stageNames := lib.lower name :: st.stageNames }
        | none => st
      if imageRef = "scratch" ∨ lib.lower imageRef ∈ st.stageNames ∨
          contains imageRef "$\x7b" then st
      else { st with refs := addNew st.refs (normalizeImageRef lib imageRef) }

def ParseDockerfileFROMs (content : String) : List String :=
  ((split content '\n').foldl (parseFromLine lib) ⟨[], []⟩).refs

end Hypeman.Builds
