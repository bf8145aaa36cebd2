import Hypeman.Foundations.Table
import Hypeman.Foundations.Strings

/-!
# The image store

A model of the image directory of the server (`lib/images/storage.go`,
`lib/images/storage_refs.go`): the metadata and disk of a digest, in the shared content layout or
in the older layout with one directory per repository, and the tag links of the repositories, which
have two places as well. Files are read back as they were written, and the file system does not
fail.
`resolveImageLayout` selects one layout for every operation on a digest. Links are kept by
repository and tag; that the directories of nested repositories overlap is left out.
-/

namespace Hypeman.Images

open Foundations Foundations.Strings

/-! ## References -/

structure NormalizedRef where
  raw : String
  repository : String
  /-- Empty for a digest reference. -/
  tag : String
  /-- The hexadecimal part of the digest; empty for a tag reference. -/
  digestHex : String
  isDigest : Bool
deriving DecidableEq

/-- `ResolvedRef`: a reference with the SHA-256 digest the registry gave for it. -/
structure ResolvedRef extends NormalizedRef where
  resolved : String
deriving DecidableEq

/-- Parsing of references (`ParseNormalizedRef`, over the `reference` package) and hashing of
credentials. -/
structure ImageLib where
  parseNormalizedRef : String → Option NormalizedRef
  sha256 : String → String

/-! ## Metadata -/

/-- The values of `imageMetadata.Status`. -/
inductive Status
  | pending
  | pulling
  | converting
  | ready
  | failed
deriving DecidableEq, Repr

def isPendingImageStatus : Status → Bool
  | .pending | .pulling | .converting => true
  | .ready | .failed => false

structure ImageTagClaim where
  repository : String
  tag : String
  previousTagDigest : String
  tagGeneration : Nat
deriving DecidableEq, Repr

/-- The fields of `imageMetadata` that decide about tags and about removal. Build identifiers are
fresh and are numbered here; `requestName` is `Request.Name`. -/
structure ImageMetadata where
  name : String
  digestHex : String
  status : Status
  requestName : Option String
  buildID : Nat
  requestedTag : String
  previousTagDigest : String
  tagGeneration : Nat
  tagClaimCanceled : Bool
  tagClaims : List ImageTagClaim
deriving DecidableEq, Repr

/-- `imageMetadata` of a pull that has not ended. -/
def ImageMetadata.isPending (md : ImageMetadata) : Bool := isPendingImageStatus md.status

/-! ## Layouts -/

/-- The directory of one digest in one layout: its `metadata.json` and whether the disk is there. -/
structure DigestDir where
  md : Option ImageMetadata
  disk : Bool
deriving DecidableEq, Repr

def DigestDir.empty : DigestDir := ⟨none, false⟩

structure Store where
  /-- `content/<digest>`. -/
  content : Table String DigestDir
  /-- `<repository>/<digest>`. -/
  legacy : Table (String × String) DigestDir
  /-- The links `repositories/<repository>/<tag>`. -/
  repositoryTags : Table (String × String) String
  /-- The links `<repository>/<tag>`. -/
  legacyTags : Table (String × String) String
deriving DecidableEq

/-- `imageLayout`: which of the two directories of a digest is used. -/
inductive ImageLayout
  | content
  | legacy
deriving DecidableEq, Repr

namespace Store

variable (s : Store)

def contentDir (digestHex : String) : DigestDir := (s.content.lookup digestHex).getD .empty

def legacyDir (repository digestHex : String) : DigestDir :=
  (s.legacy.lookup (repository, digestHex)).getD .empty

def legacyImageExists (repository digestHex : String) : Bool :=
  (s.legacyDir repository digestHex).md.isSome && (s.legacyDir repository digestHex).disk

/-- `metadataStatus` of the content layout. -/
def contentStatus (digestHex : String) : Option Status := (s.contentDir digestHex).md.map (·.status)

def resolveImageLayout (repository digestHex : String) : ImageLayout :=
  if s.legacyImageExists repository digestHex && s.contentStatus digestHex != some .ready then
    .legacy
  else if (s.contentDir digestHex).md.isSome || (s.contentDir digestHex).disk then .content
  else if (s.legacyDir repository digestHex).md.isSome then .legacy
  else .content

/-- The directory a layout stands for. -/
def dir (repository digestHex : String) : ImageLayout → DigestDir
  | .content => s.contentDir digestHex
  | .legacy => s.legacyDir repository digestHex

/-- Replace the directory a layout stands for. -/
def setDir (repository digestHex : String) (d : DigestDir) : ImageLayout → Store
  | .content => { s with content := s.content.insert digestHex d }
  | .legacy => { s with legacy := s.legacy.insert (repository, digestHex) d }

/-- Why `readMetadataAt` fails. -/
inductive ReadError
  | notFound
  | diskMissing
deriving DecidableEq, Repr

/-- `readMetadataAt`: the metadata of a ready image whose disk is missing is an error. -/
def readMetadataAt (d : DigestDir) : Except ReadError ImageMetadata :=
  match d.md with
  | none => .error .notFound
  | some md => if md.status = .ready ∧ d.disk = false then .error .diskMissing else .ok md

def readMetadata (repository digestHex : String) : Except ReadError ImageMetadata :=
  readMetadataAt (s.dir repository digestHex (s.resolveImageLayout repository digestHex))

def writeMetadata (repository digestHex : String) (md : ImageMetadata) : Store :=
  let layout := s.resolveImageLayout repository digestHex
  s.setDir repository digestHex { s.dir repository digestHex layout with md := some md } layout

/-! ## Tags -/

/-- `resolveTag`: the link in the newer place is preferred. -/
def resolveTag (repository tag : String) : Option String :=
  (s.repositoryTags.lookup (repository, tag)).or (s.legacyTags.lookup (repository, tag))

/-- `createTagSymlink`: the link stands beside the layout of its digest, and a link in the other
place is removed. -/
def createTagSymlink (repository tag digestHex : String) : Store :=
  match s.resolveImageLayout repository digestHex with
  | .content =>
    { s with
      repositoryTags := s.repositoryTags.insert (repository, tag) digestHex
      legacyTags := s.legacyTags.erase (repository, tag) }
  | .legacy =>
    { s with
      legacyTags := s.legacyTags.insert (repository, tag) digestHex
      repositoryTags := s.repositoryTags.erase (repository, tag) }

/-- `contentTagCount`, as far as it is used: some link in the newer place resolves to the digest. -/
def contentTagged (digestHex : String) : Bool :=
  s.repositoryTags.keys.any fun (repository, tag) =>
    s.resolveTag repository tag == some digestHex

def contentPullInProgress (digestHex : String) : Bool :=
  (s.contentStatus digestHex).any isPendingImageStatus

def contentIsDigestOnly (lib : ImageLib) (digestHex : String) : Bool :=
  match readMetadataAt (s.contentDir digestHex) with
  | .error _ => false
  | .ok md => (lib.parseNormalizedRef md.name).any (·.isDigest)

def removeDigestIfUnreferenced (lib : ImageLib) (repository digestHex : String)
    (preserveDigestOnly : Bool) : Store :=
  let s' := { s with legacy := s.legacy.erase (repository, digestHex) }
  if (s.content.lookup digestHex).isNone then s'
  else if s'.contentTagged digestHex || s'.contentPullInProgress digestHex ||
      (preserveDigestOnly && s'.contentIsDigestOnly lib digestHex) then s'
  else { s' with content := s'.content.erase digestHex }

/-! ## Reading after an update -/

section

variable {s}

@[simp] theorem content_createTagSymlink (repository tag digestHex : String) :
    (s.createTagSymlink repository tag digestHex).content = s.content := by
  unfold createTagSymlink
  split <;> rfl

end

end Store

end Hypeman.Images
