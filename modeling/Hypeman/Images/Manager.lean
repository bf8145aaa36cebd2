import Hypeman.Foundations.System
import Hypeman.Images.Store

/-!
# The image manager

How `CreateImage` uses an image that is there already (`lib/images/manager.go`), with the
bookkeeping that decides which digest a tag gets (`lib/images/tag_manager.go`): the generation of a
tag, the digest requested for it last, the claims recorded in the metadata of a pull, and the link
on disk. Every definition is one critical section of `createMu`.
-/

namespace Hypeman.Images

open Foundations Foundations.Strings

/-! ## Credentials -/

structure AuthConfig where
  username : String
  password : String
  auth : String
  identityToken : String
  registryToken : String
deriving DecidableEq, Repr

def credentialsPresent : Option AuthConfig → Bool
  | none => false
  | some c => c.username ≠ "" || c.password ≠ "" || c.auth ≠ "" || c.identityToken ≠ "" ||
      c.registryToken ≠ ""

/-- `credentialFingerprint`; the empty text stands for the zero array. -/
def credentialFingerprint (lib : ImageLib) (credentials : Option AuthConfig) : String :=
  match credentials with
  | some c =>
    if credentialsPresent credentials then
      lib.sha256 (c.username ++ "\x00" ++ c.password ++ "\x00" ++ c.auth ++ "\x00" ++
        c.identityToken ++ "\x00" ++ c.registryToken)
    else ""
  | none => ""

/-! ## State -/

/-- How far the job of a pull has got. -/
inductive PullStage
  | queued
  | pulling
  | converting
deriving DecidableEq, Repr

/-- A queued job of `buildImage`. -/
structure Pull where
  ref : ResolvedRef
  stage : PullStage
deriving DecidableEq

/-- `inflightImagePull`; `buildID` tells which job registered it. -/
structure InflightPull where
  fingerprint : String
  buildID : Nat
deriving DecidableEq, Repr

/-- `manager`, with the directory it works on and the jobs in its queue by build identifier. -/
structure Manager where
  store : Store
  tagGenerations : Table String Nat
  requestedTags : Table String String
  inflightPulls : Table String InflightPull
  pulls : Table Nat Pull
  nextBuildID : Nat
deriving DecidableEq

def tagKey (repository tag : String) : String := repository ++ ":" ++ tag

/-- `Image`, the fields that callers here read. -/
structure Image where
  name : String
  digestHex : String
  status : Status
deriving DecidableEq, Repr

def ImageMetadata.toImageFor (md : ImageMetadata) (reference : String) : Image :=
  ⟨reference, md.digestHex, md.status⟩

namespace Manager

variable (lib : ImageLib) (m : Manager)

/-! ## Tags -/

/-- The value of `tagGenerations` at a key, zero if there is none. -/
def generation (key : String) : Nat := (m.tagGenerations.lookup key).getD 0

/-- `nextTagGeneration`; the new generation is the value after it. -/
def nextTagGeneration (repository tag : String) : Manager :=
  let key := tagKey repository tag
  { m with tagGenerations := m.tagGenerations.insert key (m.generation key + 1) }

def trackRequestedTag (repository tag digestHex : String) : Manager :=
  { m with requestedTags := m.requestedTags.insert (tagKey repository tag) digestHex }

def createTagSymlink (repository tag digestHex : String) : Manager :=
  { m with store := m.store.createTagSymlink repository tag digestHex }

def writeMetadata (repository digestHex : String) (md : ImageMetadata) : Manager :=
  { m with store := m.store.writeMetadata repository digestHex md }

def claimReadyTag (repository tag digestHex : String) : Manager :=
  let m' := (m.nextTagGeneration repository tag).createTagSymlink repository tag digestHex
  { m' with requestedTags := m'.requestedTags.erase (tagKey repository tag) }

def restoreRequestedTag (repository tag digestHex : String) (generation : Nat) : Manager :=
  if tag = "" then m
  else
    let key := tagKey repository tag
    if (m.tagGenerations.lookup key).all (· ≤ generation) then
      { m with
        tagGenerations := m.tagGenerations.insert key generation
        requestedTags := m.requestedTags.insert key digestHex }
    else m

/-- The pull recorded in `md` was started for this very tag, by the test of `claimTagForStatus`. -/
def isPrimary (md : ImageMetadata) (repository tag : String) : Bool :=
  md.requestedTag == tag && hasPrefix md.name (repository ++ ":")

def findClaim (md : ImageMetadata) (repository tag : String) : Option ImageTagClaim :=
  md.tagClaims.find? fun claim => claim.repository == repository && claim.tag == tag

/-- The claim that `claimTagForStatus` adds for a reference: the digest the tag has now and the
next generation. -/
def newTagClaim (ref : ResolvedRef) : ImageTagClaim where
  repository := ref.repository
  tag := ref.tag
  previousTagDigest := (m.store.resolveTag ref.repository ref.tag).getD ""
  tagGeneration := m.generation (tagKey ref.repository ref.tag) + 1

/-- The last case of `claimTagForStatus`: the tag is added to the claims of a pending pull. -/
def addTagClaim (md : ImageMetadata) (ref : ResolvedRef) : Manager :=
  let claim := m.newTagClaim ref
  let m₁ := m.nextTagGeneration ref.repository ref.tag
  let m₂ :=
    if claim.previousTagDigest = "" then m₁.createTagSymlink ref.repository ref.tag ref.resolved
    else m₁
  (m₂.writeMetadata ref.repository ref.resolved
    { md with tagClaims := md.tagClaims ++ [claim] }).trackRequestedTag
      ref.repository ref.tag ref.resolved

def claimTagForStatus (md : ImageMetadata) (ref : ResolvedRef) : Manager :=
  if ref.tag = "" then m
  else if md.status = .ready then m.claimReadyTag ref.repository ref.tag ref.resolved
  else if isPrimary md ref.repository ref.tag then
    let m' := m.trackRequestedTag ref.repository ref.tag ref.resolved
    if md.tagClaimCanceled then
      m'.writeMetadata ref.repository ref.resolved { md with tagClaimCanceled := false }
    else m'
  else match findClaim md ref.repository ref.tag with
    | some claim =>
      m.restoreRequestedTag claim.repository claim.tag ref.resolved claim.tagGeneration
    | none => m.addTagClaim md ref

/-! ## Creating an image -/

/-- Why `CreateImage` fails once the registry has answered. -/
inductive CreateError
  | invalidName
  | credentialConflict
deriving DecidableEq, Repr

def inflightCredentialsMatch (digestHex : String) (credentials : Option AuthConfig) : Bool :=
  ((m.inflightPulls.lookup digestHex).map (·.fingerprint)).getD "" ==
    credentialFingerprint lib credentials

/-- `reuseExistingImage`: the metadata found, if the image need not be pulled. -/
def reuseExistingImage (ref : ResolvedRef) (credentials : Option AuthConfig) :
    Except CreateError (Manager × Option ImageMetadata) :=
  match m.store.readMetadata ref.repository ref.resolved with
  | .error _ => .ok (m, none)
  | .ok md =>
    if md.status = .failed then
      .ok ({ m with
        store := m.store.removeDigestIfUnreferenced lib ref.repository ref.resolved false }, none)
    else if md.status ≠ .ready ∧
        m.inflightCredentialsMatch lib ref.resolved credentials = false then
      .error .credentialConflict
    else .ok (m.claimTagForStatus md ref, some md)

/-! ## Pulling -/

/-- `updateStatusByDigest` for a status that is not final. -/
def updateStatusByDigest (ref : ResolvedRef) (status : Status) (buildID : Nat) : Manager :=
  let layout := m.store.resolveImageLayout ref.repository ref.resolved
  let dir := m.store.dir ref.repository ref.resolved layout
  match Store.readMetadataAt dir with
  | .error _ => m
  | .ok md =>
    if md.buildID ≠ buildID then m
    else
      { m with
        store := m.store.setDir ref.repository ref.resolved
          { dir with md := some { md with status := status } } layout }

end Manager

end Hypeman.Images
