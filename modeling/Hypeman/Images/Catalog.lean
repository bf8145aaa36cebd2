import Hypeman.Foundations.Loop
import Hypeman.Images.Manager

/-!
# Listing and tagging images

Models of `GetImage` and `TagImage` (`lib/images/manager.go`, `lib/images/tag.go`) with the
cancellation of pending claims (`lib/images/tag_manager.go`) and the listing of the image directory
(`lib/images/storage_refs.go`).
-/

namespace Hypeman.Images

open Foundations Foundations.Strings

/-! ## Listing -/

namespace Store

variable (s : Store)

/-- The tag links in the order of the walk over the image directory, in which the directory
`repositories` stands among the repositories of the older layout. -/
def walkTags : List ((String × String) × String) :=
  let legacy := s.legacyTags.entries.map fun e => (e.1, e.2)
  legacy.filter (fun e => decide (e.1.1 < "repositories")) ++
    s.repositoryTags.entries.map (fun e => (e.1, e.2)) ++
    legacy.filter (fun e => !decide (e.1.1 < "repositories"))

/-- `appendMetadataForTag` for a link, as far as its metadata can be read: the tag, its digest and
the metadata under the name of the tag. -/
def tagMetadata (e : (String × String) × String) :
    Option ((String × String) × String × ImageMetadata) :=
  match s.readMetadata e.1.1 e.2 with
  | .ok md => some (e.1, e.2, { md with name := e.1.1 ++ ":" ++ e.1.2 })
  | .error _ => none

/-- The tags of the listing; the first link of a tag counts. -/
def listedTags : List ((String × String) × String × ImageMetadata) :=
  (s.walkTags.filterMap s.tagMetadata).eraseDupsBy (fun a b => a.1 == b.1)

/-- The metadata of the older layout that no listed tag leads to. -/
def unreferencedLegacy : List (String × String) :=
  ((s.legacy.entries.filter (·.2.md.isSome)).map (·.1)).filter fun key =>
    !s.listedTags.any fun t => t.1.1 == key.1 && t.2.1 == key.2

/-- The shared content that neither a listed tag nor such metadata leads to. -/
def unreferencedContent : List String :=
  ((s.content.entries.filter (·.2.md.isSome)).map (·.1)).filter fun d =>
    !(s.listedTags.any (·.2.1 == d) || s.unreferencedLegacy.any (·.2 == d))

def listAllMetadata : List ImageMetadata :=
  s.listedTags.map (·.2.2) ++
    s.unreferencedLegacy.filterMap (fun key => (s.readMetadata key.1 key.2).toOption) ++
    s.unreferencedContent.filterMap (fun d => (readMetadataAt (s.contentDir d)).toOption)

def listTags (repository : String) : List String :=
  (((s.repositoryTags.keys ++ s.legacyTags.keys).filter (·.1 == repository)).map (·.2)).eraseDups

def tagsForDigest (repository digestHex : String) : List String :=
  (s.listTags repository).filter fun tag => s.resolveTag repository tag == some digestHex

/-- The digest and metadata a reference resolves to: `resolveRefMetadata`. -/
def resolveRefMetadata (ref : NormalizedRef) : Except ReadError (String × ImageMetadata) :=
  match (if ref.isDigest then some ref.digestHex else s.resolveTag ref.repository ref.tag) with
  | none => .error .notFound
  | some d =>
    match s.readMetadata ref.repository d with
    | .ok md => .ok (d, md)
    | .error err => .error err

end Store

namespace Manager

variable (lib : ImageLib) (m : Manager)

/-- Why a request for an existing image fails. -/
inductive ImageError
  | invalidName
  | notReady
  | read (err : Store.ReadError)
deriving DecidableEq, Repr

def getImage (name : String) : Except ImageError Image :=
  match lib.parseNormalizedRef name with
  | none => .error .invalidName
  | some ref =>
    match m.store.resolveRefMetadata ref with
    | .ok (_, md) => .ok (md.toImageFor ref.raw)
    | .error err => .error (.read err)

/-! ## Cancelling claims -/

/-- `cancelTagClaim` for all tags of a list: the metadata, if it changed. -/
def cancelTagClaims (md : ImageMetadata) (ref : NormalizedRef) (repository : String)
    (tags : List String) : Option ImageMetadata :=
  let claimed := ref.repository == repository && tags.contains md.requestedTag &&
    !md.tagClaimCanceled
  let kept := md.tagClaims.filter fun c => !(c.repository == repository && tags.contains c.tag)
  if claimed || kept.length != md.tagClaims.length then
    some { md with
      tagClaimCanceled := md.tagClaimCanceled || claimed
      tagClaims := kept }
  else none

/-- The reference of a request, or else of the name. -/
def requestRef (md : ImageMetadata) : Option NormalizedRef :=
  match md.requestName.bind fun name => if name = "" then none else lib.parseNormalizedRef name with
  | some ref => some ref
  | none => lib.parseNormalizedRef md.name

/-- The round of `cancelPendingTags` for one listed image. -/
def cancelPendingDigest (repository : String) (tags : List String) (s : Store)
    (md : ImageMetadata) : Store :=
  let canonical := (s.readMetadata repository md.digestHex).toOption.getD md
  match requestRef lib canonical with
  | none => s
  | some ref =>
    match cancelTagClaims canonical ref repository tags with
    | some changed => s.writeMetadata ref.repository md.digestHex changed
    | none => s

def cancelPendingTags (repository : String) (tags : List String) : Manager :=
  if tags.isEmpty then m
  else
    let pending := (m.store.listAllMetadata.filter (·.isPending)).eraseDupsBy
      (fun a b => a.digestHex == b.digestHex)
    { m with store := pending.foldl (cancelPendingDigest lib repository tags) m.store }

/-! ## Moving a tag -/

/-- `promoteLegacyTags`: links of the older layout to the digest move beside the content. -/
def promoteLegacyTags (s : Store) (repository digestHex : String) : Store :=
  if (s.legacy.lookup (repository, digestHex)).isNone then s
  else
    (s.tagsForDigest repository digestHex).foldl (fun s tag =>
      if (s.repositoryTags.lookup (repository, tag)).isNone then
        s.createTagSymlink repository tag digestHex
      else s) s

def promoteImageToContent (s : Store) (sourceRepository digestHex : String)
    (sourceMeta : ImageMetadata) : Except ImageError Store :=
  match Store.readMetadataAt (s.contentDir digestHex) with
  | .ok md =>
    if md.status = .ready then .ok (promoteLegacyTags s sourceRepository digestHex)
    else if md.isPending then .error .notReady
    else install
  | .error .diskMissing => .error (.read .diskMissing)
  | .error .notFound => install
where
  /-- The disk and the metadata are linked into the content. -/
  install : Except ImageError Store :=
    let layout := s.resolveImageLayout sourceRepository digestHex
    if (s.dir sourceRepository digestHex layout).disk then
      .ok (promoteLegacyTags (s.setDir sourceRepository digestHex ⟨some sourceMeta, true⟩ .content)
        sourceRepository digestHex)
    else .error (.read .diskMissing)

def installTag (s : Store) (source target : NormalizedRef) (digestHex : String)
    (md : ImageMetadata) : Except ImageError Store :=
  let promoted :=
    if source.repository = target.repository then .ok s
    else promoteImageToContent s source.repository digestHex md
  promoted.map fun s =>
    (s.createTagSymlink target.repository target.tag digestHex).writeMetadata target.repository
      digestHex md

def cleanupReplacedTag (s : Store) (ref : NormalizedRef) (previous digestHex : String) : Store :=
  if previous = "" ∨ previous = digestHex then s
  else if (s.tagsForDigest ref.repository previous).isEmpty then
    s.removeDigestIfUnreferenced lib ref.repository previous true
  else s

/-- `TagImage`; the claims to the target stay cancelled if the link cannot be made. -/
def tagImage (source target : String) : Manager × Option ImageError :=
  match lib.parseNormalizedRef source, lib.parseNormalizedRef target with
  | some sourceRef, some targetRef =>
    if targetRef.isDigest then (m, some .invalidName)
    else
      let previous := (m.store.resolveTag targetRef.repository targetRef.tag).getD ""
      match m.store.resolveRefMetadata sourceRef with
      | .error err => (m, some (.read err))
      | .ok (digestHex, md) =>
        if md.status ≠ .ready then (m, some .notReady)
        else
          let m₁ := m.cancelPendingTags lib targetRef.repository [targetRef.tag]
          match installTag m₁.store sourceRef targetRef digestHex md with
          | .error err => (m₁, some err)
          | .ok s =>
            let m₂ := ({ m₁ with store := s } : Manager).nextTagGeneration targetRef.repository
              targetRef.tag
            ({ m₂ with
              requestedTags :=
                m₂.requestedTags.erase (tagKey targetRef.repository targetRef.tag)
              store := cleanupReplacedTag lib m₂.store targetRef previous digestHex }, none)
  | _, _ => (m, some .invalidName)

end Manager

end Hypeman.Images
