import Hypeman.Foundations.LastWins
import Hypeman.Images.Catalog

/-!
# Promotions that are cut short

`promoteImageToContent` (`lib/images/storage.go`) as a system of the file operations it makes one
after the other, so that the states of its runs are the stores that a failure or a crash can leave
behind, and `RecoverInterruptedBuilds` (`lib/images/manager.go`) after a restart. While its disk is
linked, the content is marked as being converted, and a later promotion takes the mark for a pull.

* `Reachable.kept`: what every run keeps that loses no link.
* `tagImage_of_idle`: an image is tagged if no pull of its digest is in progress.
* `promotion_retryable`: after a run that does not end between the two marks the image is ready, and
  can be tagged, before and after a recovery.
* `promotion_stuck`: two runs after which it is not so.
-/

namespace Hypeman.Images

open Foundations

/-- Content that is ready is used. -/
theorem Store.resolveImageLayout_of_contentStatus {s : Store} {r d : String}
    (h : s.contentStatus d = some .ready) : s.resolveImageLayout r d = .content := by
  obtain ⟨md, hmd, -⟩ := Option.map_eq_some_iff.mp h
  simp [resolveImageLayout, h, hmd]

/-! ## Promotion, one file operation at a time -/

namespace Promotion

/-- How far `promoteImageToContent` has got. -/
inductive Phase
  /-- At most the directory of the content has been made. -/
  | checking
  /-- The content is marked as being converted, and its disk is linked. -/
  | converting (linked : Bool)
  /-- The content is ready: the links that are to be moved, and those that have been. -/
  | tags (todo done : List String)
  /-- A link could not be moved: those that were moved before are moved back. -/
  | rollback (todo : List String)
deriving DecidableEq, Repr

structure Config where
  store : Store
  phase : Phase
deriving DecidableEq

inductive Event
  | makeDirectory
  | writePending
  | linkDisk
  | writeReady
  | contentReady
  /-- The next link is moved; `staleLeft` if the old one could not be removed. -/
  | renameTag (staleLeft : Bool)
  | renameFails
  /-- `restoreTagSymlink`: both places are restored, neither is, or only the new link is removed. -/
  | restoreTag
  | keepTag
  | loseTag
deriving DecidableEq, Repr

section

variable (repository digestHex : String) (sourceMeta : ImageMetadata)

/-- There is no content, or that of a pull that failed. -/
def lacksContent (s : Store) : Bool :=
  match Store.readMetadataAt (s.contentDir digestHex) with
  | .ok md => md.status != .ready && !md.isPending
  | .error .notFound => true
  | .error .diskMissing => false

/-- The disk and the metadata are to be installed. -/
def installs (s : Store) : Bool :=
  lacksContent digestHex s &&
    (s.dir repository digestHex (s.resolveImageLayout repository digestHex)).disk

/-- The links that `promoteLegacyTags` stages. -/
def stagedTags (s : Store) : List String :=
  if (s.legacy.lookup (repository, digestHex)).isNone then []
  else (s.tagsForDigest repository digestHex).filter fun tag =>
    (s.repositoryTags.lookup (repository, tag)).isNone

/-- Replace the files of the content. -/
def setContent (s : Store) (dir : DigestDir) : Store := s.setDir repository digestHex dir .content

/-- One file operation of `promoteImageToContent`, or the failure of one. -/
def step (c : Config) (e : Event) : Option Config :=
  let s := c.store
  let dir := s.contentDir digestHex
  match c.phase, e with
  | .checking, .makeDirectory =>
    if installs repository digestHex s then
      some ⟨setContent repository digestHex s dir, .checking⟩
    else none
  | .checking, .writePending =>
    if installs repository digestHex s then
      some ⟨setContent repository digestHex s
        { dir with md := some { sourceMeta with status := .converting } }, .converting false⟩
    else none
  | .converting false, .linkDisk =>
    some ⟨setContent repository digestHex s { dir with disk := true }, .converting true⟩
  | .converting true, .writeReady =>
    let s' := setContent repository digestHex s { dir with md := some sourceMeta }
    some ⟨s', .tags (stagedTags repository digestHex s') []⟩
  | .checking, .contentReady =>
    if (Store.readMetadataAt dir).toOption.any (·.status == .ready) then
      some ⟨s, .tags (stagedTags repository digestHex s) []⟩
    else none
  | .tags (tag :: todo) done, .renameTag staleLeft =>
    some ⟨{ s with
      repositoryTags := s.repositoryTags.insert (repository, tag) digestHex
      legacyTags := if staleLeft then s.legacyTags else s.legacyTags.erase (repository, tag) },
      .tags todo (tag :: done)⟩
  | .tags (_ :: _) done, .renameFails => some ⟨s, .rollback done⟩
  | .rollback (tag :: todo), .restoreTag =>
    some ⟨{ s with
      repositoryTags := s.repositoryTags.erase (repository, tag)
      legacyTags := s.legacyTags.insert (repository, tag) digestHex }, .rollback todo⟩
  | .rollback (_ :: todo), .keepTag => some ⟨s, .rollback todo⟩
  | .rollback (tag :: todo), .loseTag =>
    some ⟨{ s with repositoryTags := s.repositoryTags.erase (repository, tag) }, .rollback todo⟩
  | _, _ => none

/-- `promoteImageToContent` on a store. -/
def system (s : Store) : System Config Event :=
  ⟨⟨s, .checking⟩, step repository digestHex sourceMeta⟩

end

/-- No link is lost while links are moved back. -/
def LosesNoLink (_ : Config) (e : Event) : Prop := e ≠ .loseTag

instance (c : Config) (e : Event) : Decidable (LosesNoLink c e) :=
  inferInstanceAs (Decidable (e ≠ .loseTag))

def Phase.IsConverting : Phase → Prop
  | .converting _ => True
  | _ => False

/-! ### What a run keeps -/

def IsReady (dir : DigestDir) : Prop := (∃ md, dir.md = some md ∧ md.status = .ready) ∧ dir.disk

theorem isReady_of_read {dir : DigestDir} {md : ImageMetadata}
    (h : Store.readMetadataAt dir = .ok md) (hready : md.status = .ready) :
    dir.md = some md ∧ dir.disk = true := by
  obtain ⟨_ | md', disk⟩ := dir
  · cases h
  · simp only [Store.readMetadataAt] at h
    split at h
    · cases h
    · next hdisk =>
      cases h
      exact ⟨rfl, by simpa [hready] using hdisk⟩

theorem IsReady.read {dir : DigestDir} (h : IsReady dir) :
    ∃ md, Store.readMetadataAt dir = .ok md ∧ md.status = .ready := by
  obtain ⟨⟨md, hmd, hready⟩, hdisk⟩ := h
  exact ⟨md, by simp [Store.readMetadataAt, hmd, hdisk], hready⟩

variable {r d : String} {sourceMeta : ImageMetadata} {s now : Store} {c c' : Config}
  {phase : Phase}

/-- What a phase says about the content and the links. -/
def Phase.Fits (s : Store) (r d : String) (now : Store) : Phase → Prop
  | .checking => now.contentDir d = s.contentDir d
  | .converting linked => linked = true → (now.contentDir d).disk = true
  | .tags todo done =>
    IsReady (now.contentDir d) ∧ ∀ tag ∈ todo ++ done, now.resolveTag r tag = some d
  | .rollback todo => IsReady (now.contentDir d) ∧ ∀ tag ∈ todo, now.resolveTag r tag = some d

/-- What a promotion from `s` leaves as it is, and what its phase adds. -/
structure Kept (s : Store) (r d : String) (c : Config) : Prop where
  tags : ∀ r' tag, c.store.resolveTag r' tag = s.resolveTag r' tag
  legacy : ∀ r' d', c.store.legacyDir r' d' = s.legacyDir r' d'
  others : ∀ d', d' ≠ d → c.store.contentDir d' = s.contentDir d'
  fits : c.phase.Fits s r d c.store

theorem contentDir_setContent (s : Store) (dir : DigestDir) (d' : String) :
    (setContent r d s dir).contentDir d' = if d' = d then dir else s.contentDir d' := by
  simp only [setContent, Store.setDir, Store.contentDir, Table.lookup_insert]
  split <;> rfl

/-- Replacing the files of the content keeps the rest. -/
theorem Kept.setContent (h : Kept s r d c) (dir : DigestDir)
    (hfits : phase.Fits s r d (setContent r d c.store dir)) :
    Kept s r d ⟨Promotion.setContent r d c.store dir, phase⟩ := by
  refine ⟨h.tags, h.legacy, fun d' hd' => ?_, hfits⟩
  rw [contentDir_setContent, if_neg hd']
  exact h.others d' hd'

/-- So does changing links without changing where a tag leads. -/
theorem Kept.setLinks (h : Kept s r d c) {new old : Table (String × String) String}
    (htags : ∀ r' tag, ({ c.store with repositoryTags := new, legacyTags := old } :
      Store).resolveTag r' tag = c.store.resolveTag r' tag) (hfits : phase.Fits s r d c.store) :
    Kept s r d ⟨{ c.store with repositoryTags := new, legacyTags := old }, phase⟩ := by
  refine ⟨fun r' tag => (htags r' tag).trans (h.tags r' tag), h.legacy, h.others, ?_⟩
  cases phase with
  | checking | converting => exact hfits
  | tags | rollback =>
    exact ⟨hfits.1, fun tag htag => (htags r tag).trans (hfits.2 tag htag)⟩

theorem resolveTag_of_mem_stagedTags {tag : String} (h : tag ∈ stagedTags r d s) :
    s.resolveTag r tag = some d := by
  unfold stagedTags at h
  split at h
  · cases h
  · have hmem := (List.mem_filter.mp h).1
    simpa using (List.mem_filter.mp hmem).2

theorem fits_stagedTags (h : IsReady (now.contentDir d)) :
    (Phase.tags (stagedTags r d now) []).Fits s r d now := by
  refine ⟨h, fun tag htag => ?_⟩
  rw [List.append_nil] at htag
  exact resolveTag_of_mem_stagedTags htag

/-- A tag that leads to the digest does so after one of its links is moved. -/
theorem resolveTag_moved {tag : String} (htag : now.resolveTag r tag = some d)
    {new old : Option String} {repositoryTags legacyTags : Table (String × String) String}
    (hnew : Table.Sets (r, tag) new now.repositoryTags repositoryTags)
    (hold : Table.Sets (r, tag) old now.legacyTags legacyTags) (hlink : new.or old = some d)
    (r' tag' : String) :
    ({ now with repositoryTags := repositoryTags, legacyTags := legacyTags } : Store).resolveTag
      r' tag' = now.resolveTag r' tag' := by
  rw [Store.resolveTag, hnew, hold]
  split
  · next heq =>
    cases heq
    rw [htag, hlink]
  · rfl

/-- Every file operation that loses no link keeps this. -/
theorem Kept.step (hready : sourceMeta.status = .ready) (h : Kept s r d c) {e : Event}
    (hok : LosesNoLink c e) (hstep : step r d sourceMeta c e = some c') : Kept s r d c' := by
  obtain ⟨now, phase⟩ := c
  have hfits := h.fits
  unfold Promotion.step at hstep
  dsimp only at hstep hfits
  split at hstep
  case h_1 =>
    split at hstep <;> cases hstep
    refine h.setContent _ ?_
    rw [Phase.Fits, contentDir_setContent, if_pos rfl]
    exact hfits
  case h_2 =>
    split at hstep <;> cases hstep
    exact h.setContent _ nofun
  case h_3 =>
    cases hstep
    refine h.setContent _ fun _ => ?_
    rw [contentDir_setContent, if_pos rfl]
  case h_4 =>
    cases hstep
    refine h.setContent _ (fits_stagedTags ?_)
    rw [contentDir_setContent, if_pos rfl]
    exact ⟨⟨sourceMeta, rfl, hready⟩, hfits rfl⟩
  case h_5 =>
    split at hstep <;> cases hstep
    next hcontent =>
    refine ⟨h.tags, h.legacy, h.others, fits_stagedTags ?_⟩
    cases hread : Store.readMetadataAt (now.contentDir d) with
    | error err =>
      rw [hread] at hcontent
      cases hcontent
    | ok md =>
      rw [hread] at hcontent
      have hstatus : md.status = .ready := by simpa [Except.toOption] using hcontent
      obtain ⟨hmd, hdisk⟩ := isReady_of_read hread hstatus
      exact ⟨⟨md, hmd, hstatus⟩, hdisk⟩
  case h_6 tag todo done staleLeft =>
    cases hstep
    have htag := hfits.2 tag (by simp)
    refine h.setLinks ?_
      ⟨hfits.1, fun tag' htag' => hfits.2 tag' (by simp at htag' ⊢; tauto)⟩
    cases staleLeft with
    | true => exact resolveTag_moved htag (.insert _ _ _) (.refl _ _) rfl
    | false => exact resolveTag_moved htag (.insert _ _ _) (.erase _ _) rfl
  case h_7 =>
    cases hstep
    exact h.setLinks (fun _ _ => rfl)
      ⟨hfits.1, fun tag htag => hfits.2 tag (List.mem_append_right _ htag)⟩
  case h_8 tag todo =>
    cases hstep
    have htag := hfits.2 tag List.mem_cons_self
    exact h.setLinks (resolveTag_moved htag (.erase _ _) (.insert _ _ _) rfl)
      ⟨hfits.1, fun tag' htag' => hfits.2 tag' (List.mem_cons_of_mem _ htag')⟩
  case h_9 =>
    cases hstep
    exact h.setLinks (fun _ _ => rfl)
      ⟨hfits.1, fun tag htag => hfits.2 tag (List.mem_cons_of_mem _ htag)⟩
  case h_10 => exact absurd rfl hok
  case h_11 => cases hstep

/-- What every run keeps that loses no link. -/
theorem Reachable.kept (hready : sourceMeta.status = .ready)
    (h : (system r d sourceMeta s).Reachable LosesNoLink c) : Kept s r d c := by
  have hinit : Kept s r d ⟨s, .checking⟩ := ⟨fun _ _ => rfl, fun _ _ => rfl, fun _ _ => rfl, rfl⟩
  exact h.invariant hinit fun _ _ _ hkept hok hstep => hkept.step hready hok hstep

/-! ### Runs that come to their end -/

/-- Links are moved beside content that is ready. -/
theorem createTagSymlink_of_contentStatus (h : s.contentStatus d = some .ready) (tag : String) :
    s.createTagSymlink r tag d =
      { s with
        repositoryTags := s.repositoryTags.insert (r, tag) d
        legacyTags := s.legacyTags.erase (r, tag) } := by
  rw [Store.createTagSymlink, Store.resolveImageLayout_of_contentStatus h]

/-- The links are moved one after the other. -/
theorem run_tags (todo done : List String) (h : now.contentStatus d = some .ready) :
    ∃ done', (system r d sourceMeta s).Run LosesNoLink ⟨now, .tags todo done⟩
      ⟨todo.foldl (fun s tag => s.createTagSymlink r tag d) now, .tags [] done'⟩ := by
  induction todo generalizing now done with
  | nil => exact ⟨done, .refl⟩
  | cons tag todo ih =>
    have hstatus : (now.createTagSymlink r tag d).contentStatus d = some .ready := by
      rwa [Store.contentStatus, Store.contentDir, Store.content_createTagSymlink]
    obtain ⟨done', hrun⟩ := ih (tag :: done) hstatus
    have hok : LosesNoLink ⟨now, .tags (tag :: todo) done⟩ (.renameTag false) := by rintro ⟨⟩
    refine ⟨done', .cons hok ?_ hrun⟩
    rw [createTagSymlink_of_contentStatus h]
    rfl

/-- Moving the links that have not been moved yet is moving those that are staged. -/
theorem foldl_stagedTags {tags : List String} (hnodup : tags.Nodup) :
    tags.foldl (fun s tag => if (s.repositoryTags.lookup (r, tag)).isNone then
        s.createTagSymlink r tag d else s) now =
      (tags.filter fun tag => (now.repositoryTags.lookup (r, tag)).isNone).foldl
        (fun s tag => s.createTagSymlink r tag d) now := by
  induction tags generalizing now with
  | nil => rfl
  | cons tag tags ih =>
    obtain ⟨htag, hnodup⟩ := List.nodup_cons.mp hnodup
    rw [List.foldl_cons, ih hnodup, List.filter_cons]
    split
    · rw [List.foldl_cons]
      congr 1
      refine List.filter_congr fun tag' htag' => ?_
      have hne : (r, tag') ≠ (r, tag) := by
        rintro ⟨⟩
        exact htag htag'
      unfold Store.createTagSymlink
      split
      · rw [Table.lookup_insert, if_neg hne]
      · rw [Table.lookup_erase, if_neg hne]
    · rfl

theorem promoteLegacyTags_eq (s : Store) : Manager.promoteLegacyTags s r d =
    (stagedTags r d s).foldl (fun s tag => s.createTagSymlink r tag d) s := by
  unfold Manager.promoteLegacyTags stagedTags
  split
  · rfl
  · exact foldl_stagedTags ((nodup_eraseDups _).filter _)

theorem setContent_setContent (s : Store) (dir dir' : DigestDir) :
    setContent r d (setContent r d s dir) dir' = setContent r d s dir' := by
  simp only [setContent, Store.setDir, AList.insert_insert]

/-- The three writes of an installation. -/
theorem reachable_of_installs (h : installs r d s = true) :
    (system r d sourceMeta s).Reachable LosesNoLink
      ⟨setContent r d s ⟨some sourceMeta, true⟩,
        .tags (stagedTags r d (setContent r d s ⟨some sourceMeta, true⟩)) []⟩ := by
  have hpending : (system r d sourceMeta s).Reachable LosesNoLink
      ⟨setContent r d s
        { s.contentDir d with md := some { sourceMeta with status := .converting } },
        .converting false⟩ :=
    .step .init (e := .writePending) nofun (by simp [system, step, h])
  have hlinked := System.Reachable.step hpending (e := .linkDisk) nofun rfl
  refine .step hlinked (e := .writeReady) nofun ?_
  simp [system, step, contentDir_setContent, setContent_setContent]

/-- **A promotion that succeeds is a run to the end**, with the store that it returns. -/
theorem reachable_of_promoteImageToContent (hready : sourceMeta.status = .ready) {s' : Store}
    (h : Manager.promoteImageToContent s r d sourceMeta = .ok s') :
    ∃ done, (system r d sourceMeta s).Reachable LosesNoLink ⟨s', .tags [] done⟩ := by
  -- whichever way the content becomes ready, the links are moved from there
  have hmoved {now : Store} (hreach : (system r d sourceMeta s).Reachable LosesNoLink
      ⟨now, .tags (stagedTags r d now) []⟩) (hstatus : now.contentStatus d = some .ready)
      (hs' : Manager.promoteLegacyTags now r d = s') :
      ∃ done, (system r d sourceMeta s).Reachable LosesNoLink ⟨s', .tags [] done⟩ := by
    obtain ⟨done, hrun⟩ := run_tags (stagedTags r d now) [] hstatus
    rw [← promoteLegacyTags_eq, hs'] at hrun
    exact ⟨done, hreach.run hrun⟩
  have hinstalled (hcontent : lacksContent d s = true)
      (hok : Manager.promoteImageToContent.install s r d sourceMeta = .ok s') :
      ∃ done, (system r d sourceMeta s).Reachable LosesNoLink ⟨s', .tags [] done⟩ := by
    unfold Manager.promoteImageToContent.install at hok
    dsimp only at hok
    split at hok
    · next hdisk =>
      refine hmoved (reachable_of_installs ?_) ?_ (Except.ok.inj hok)
      · rw [installs, hcontent, hdisk, Bool.and_true]
      · rw [Store.contentStatus, contentDir_setContent, if_pos rfl, Option.map_some, hready]
    · cases hok
  unfold Manager.promoteImageToContent at h
  split at h
  · next content hread =>
    split at h
    · next hstatus =>
      refine hmoved (.step .init (e := .contentReady) nofun ?_) ?_ (Except.ok.inj h)
      · simp [system, step, hread, hstatus, Except.toOption]
      · rw [Store.contentStatus, (isReady_of_read hread hstatus).1, Option.map_some, hstatus]
    · next hstatus =>
      split at h
      · cases h
      · next hpending => exact hinstalled (by simp [lacksContent, hread, hstatus, hpending]) h
  · cases h
  · next hread => exact hinstalled (by rw [lacksContent, hread]) h

end Promotion

/-! ## Digests without a pull -/

namespace Store

structure Idle (s : Store) (d : String) : Prop where
  content : s.contentPullInProgress d = false
  contents : ∀ d' md, (s.contentDir d').md = some md → md.isPending = true → md.digestHex ≠ d
  legacies : ∀ r d' md, (s.legacyDir r d').md = some md → md.isPending = true → md.digestHex ≠ d

structure SameDigest (d : String) (s s' : Store) : Prop where
  content : s'.contentDir d = s.contentDir d
  legacy : ∀ r, s'.legacyDir r d = s.legacyDir r d

variable {s s' s'' : Store} {r d : String} {md : ImageMetadata}

theorem SameDigest.refl (s : Store) : SameDigest d s s := ⟨rfl, fun _ => rfl⟩

theorem SameDigest.trans (h : SameDigest d s s') (h' : SameDigest d s' s'') : SameDigest d s s'' :=
  ⟨h'.content.trans h.content, fun r => (h'.legacy r).trans (h.legacy r)⟩

theorem SameDigest.readMetadata (h : SameDigest d s s') (r : String) :
    s'.readMetadata r d = s.readMetadata r d := by
  have hlayout : s'.resolveImageLayout r d = s.resolveImageLayout r d := by
    rw [resolveImageLayout, resolveImageLayout, legacyImageExists, legacyImageExists, contentStatus,
      contentStatus, h.content, h.legacy]
  rw [Store.readMetadata, Store.readMetadata, hlayout]
  cases s.resolveImageLayout r d <;> simp only [dir, h.content, h.legacy]

theorem sameDigest_setDir {d' : String} (hne : d' ≠ d) (dir : DigestDir) (layout : ImageLayout) :
    SameDigest d s (s.setDir r d' dir layout) := by
  cases layout with
  | content =>
    refine ⟨?_, fun _ => rfl⟩
    simp only [setDir, contentDir, Table.lookup_insert, if_neg hne.symm]
  | legacy =>
    refine ⟨rfl, fun r' => ?_⟩
    have hkey : (r', d) ≠ (r, d') := fun heq => hne (Prod.ext_iff.mp heq).2.symm
    simp only [setDir, legacyDir, Table.lookup_insert, if_neg hkey]

/-! ### The listing -/

theorem mem_of_mem_eraseDupsBy {α : Type*} {f : α → α → Bool} {l : List α} {a : α}
    (h : a ∈ l.eraseDupsBy f) : a ∈ l := by
  induction hn : l.length using Nat.strongRecOn generalizing l with
  | ind n ih =>
    cases l with
    | nil => exact h
    | cons b l =>
      rw [List.eraseDupsBy_cons] at h
      rcases List.mem_cons.mp h with rfl | hmem
      · exact List.mem_cons_self
      · have hlt : (l.filter fun c => decide (f c b = false)).length < n := by
          rw [← hn, List.length_cons]
          exact Nat.lt_succ_of_le (List.length_filter_le _ _)
        exact List.mem_cons_of_mem _ (List.mem_filter.mp (ih _ hlt hmem rfl)).1

theorem md_of_readMetadataAt {dir : DigestDir} (h : readMetadataAt dir = .ok md) :
    dir.md = some md := by
  unfold readMetadataAt at h
  split at h
  · cases h
  · split at h <;> cases h
    assumption

/-- Content that is ready is what is read. -/
theorem readMetadata_of_contentStatus (h : s.contentStatus d = some .ready) (r : String) :
    s.readMetadata r d = readMetadataAt (s.contentDir d) := by
  rw [readMetadata, resolveImageLayout_of_contentStatus h, dir]

theorem readMetadata_of_resolveRefMetadata {sourceRef : NormalizedRef}
    (hread : s.resolveRefMetadata sourceRef = .ok (d, md)) :
    s.readMetadata sourceRef.repository d = .ok md := by
  unfold resolveRefMetadata at hread
  split at hread
  · cases hread
  · split at hread <;> cases hread
    assumption

theorem Idle.digestHex_ne_of_read (h : s.Idle d) {r d' : String}
    (hread : s.readMetadata r d' = .ok md) (hpending : md.isPending = true) :
    md.digestHex ≠ d := by
  have hmd := md_of_readMetadataAt hread
  cases hlayout : s.resolveImageLayout r d' with
  | content =>
    rw [hlayout] at hmd
    exact h.contents d' md hmd hpending
  | legacy =>
    rw [hlayout] at hmd
    exact h.legacies r d' md hmd hpending

/-- Whatever is listed as pending is a pull of another digest. -/
theorem Idle.digestHex_ne (h : s.Idle d) (hmem : md ∈ s.listAllMetadata)
    (hpending : md.isPending = true) : md.digestHex ≠ d := by
  rw [listAllMetadata, List.mem_append, List.mem_append] at hmem
  rcases hmem with (htag | hlegacy) | hcontent
  · obtain ⟨⟨key, d', md'⟩, hlisted, rfl⟩ := List.mem_map.mp htag
    obtain ⟨⟨key', d''⟩, -, he⟩ := List.mem_filterMap.mp (mem_of_mem_eraseDupsBy hlisted)
    unfold tagMetadata at he
    split at he
    · next md hread =>
      cases he
      have hne := h.digestHex_ne_of_read hread hpending
      exact hne
    · cases he
  · obtain ⟨key, -, hread⟩ := List.mem_filterMap.mp hlegacy
    cases hok : s.readMetadata key.1 key.2 with
    | error err =>
      rw [hok] at hread
      cases hread
    | ok md' =>
      rw [hok] at hread
      cases hread
      exact h.digestHex_ne_of_read hok hpending
  · obtain ⟨d', -, hread⟩ := List.mem_filterMap.mp hcontent
    cases hok : readMetadataAt (s.contentDir d') with
    | error err =>
      rw [hok] at hread
      cases hread
    | ok md' =>
      rw [hok] at hread
      cases hread
      exact h.contents d' _ (md_of_readMetadataAt hok) hpending

end Store

namespace Manager

variable {lib : ImageLib} {m : Manager} {r d : String} {md : ImageMetadata}

/-- Cancelling claims does not touch a digest without a pull. -/
theorem sameDigest_cancelPendingTags (h : m.store.Idle d) (repository : String)
    (tags : List String) :
    Store.SameDigest d m.store (m.cancelPendingTags lib repository tags).store := by
  unfold cancelPendingTags
  split
  · exact .refl _
  · refine foldl_relates .refl (fun h h' => h.trans h') (fun md hmd s => ?_) _
    obtain ⟨hmem, hpending⟩ := List.mem_filter.mp (Store.mem_of_mem_eraseDupsBy hmd)
    unfold cancelPendingDigest
    dsimp only
    split
    · exact .refl s
    · split
      · exact Store.sameDigest_setDir (h.digestHex_ne hmem hpending) _ _
      · exact .refl s

/-- The content of a ready image is made if no pull of it is in progress. -/
theorem promoteImageToContent_of_ready {s : Store} (hread : s.readMetadata r d = .ok md)
    (hready : md.status = .ready) (hidle : s.contentPullInProgress d = false) :
    ∃ s', promoteImageToContent s r d md = .ok s' := by
  have hdisk := (Promotion.isReady_of_read hread hready).2
  have hinstall : ∃ s', promoteImageToContent.install s r d md = .ok s' := by
    unfold promoteImageToContent.install
    dsimp only
    rw [if_pos hdisk]
    exact ⟨_, rfl⟩
  unfold promoteImageToContent
  split
  · next content hcontent =>
    split
    · exact ⟨_, rfl⟩
    · have hpending : content.isPending = false := by
        simpa [Store.contentPullInProgress, Store.contentStatus, ImageMetadata.isPending,
          Store.md_of_readMetadataAt hcontent] using hidle
      rw [hpending]
      exact hinstall
  · next hmissing =>
    -- ready content is what is read, and its disk would have been missed then
    have hstatus : s.contentStatus d = some .ready := by
      unfold Store.readMetadataAt at hmissing
      split at hmissing
      · cases hmissing
      · next content hmd =>
        split at hmissing
        · next hboth => rw [Store.contentStatus, hmd, Option.map_some, hboth.1]
        · cases hmissing
    rw [Store.readMetadata_of_contentStatus hstatus, hmissing] at hread
    cases hread
  · exact hinstall

/-- **A ready image is tagged** if no pull of its digest is in progress. -/
theorem tagImage_of_idle {source target : String} {sourceRef targetRef : NormalizedRef}
    (hsource : lib.parseNormalizedRef source = some sourceRef)
    (htarget : lib.parseNormalizedRef target = some targetRef)
    (hdigest : targetRef.isDigest = false)
    (hread : m.store.resolveRefMetadata sourceRef = .ok (d, md)) (hready : md.status = .ready)
    (hidle : m.store.Idle d) : (m.tagImage lib source target).2 = none := by
  have hmeta := Store.readMetadata_of_resolveRefMetadata hread
  have hsame : Store.SameDigest d m.store
      (m.cancelPendingTags lib targetRef.repository [targetRef.tag]).store :=
    sameDigest_cancelPendingTags hidle _ _
  obtain ⟨s, hs⟩ : ∃ s, installTag (m.cancelPendingTags lib targetRef.repository
      [targetRef.tag]).store sourceRef targetRef d md = .ok s := by
    unfold installTag
    dsimp only
    split
    · exact ⟨_, rfl⟩
    · obtain ⟨s', hs'⟩ := promoteImageToContent_of_ready
        ((hsame.readMetadata sourceRef.repository).trans hmeta) hready
        (by rw [Store.contentPullInProgress, Store.contentStatus, hsame.content]
            exact hidle.content)
      rw [hs']
      exact ⟨_, rfl⟩
  simp only [tagImage, hsource, htarget, hdigest, hread, hready, hs, ne_eq, not_true_eq_false,
    Bool.false_eq_true, if_false]

/-! ## Recovery -/

section

variable (lib) (m)

/-- `recoverInterruptedBuild`; `none` if it does nothing. `expired` tells that the credentials of a
pull were borrowed and its content is not in the cache. -/
def recoverInterruptedBuild (expired : ImageMetadata → Bool) (md : ImageMetadata) :
    Option Manager :=
  if md.isPending = false ∨ md.requestName = none ∨ md.digestHex = "" then none
  else (lib.parseNormalizedRef md.name).map fun normalized =>
    let ref : ResolvedRef := { normalized with resolved := md.digestHex }
    if expired md then m.updateStatusByDigest ref .failed md.buildID
    else { m with pulls := m.pulls.insert md.buildID ⟨ref, .queued⟩ }

/-- One round of the loop of `RecoverInterruptedBuilds`, with the digests seen. -/
def recoverRound (expired : ImageMetadata → Bool) (x : List String × Manager)
    (md : ImageMetadata) : List String × Manager :=
  if md.digestHex ∈ x.1 then x
  else match x.2.recoverInterruptedBuild lib expired md with
    | none => x
    | some m' => (md.digestHex :: x.1, m')

/-- `RecoverInterruptedBuilds` for the listed images in the order of their creation. -/
def recoverInterruptedBuilds (expired : ImageMetadata → Bool) (metas : List ImageMetadata) :
    Manager :=
  (metas.foldl (recoverRound lib expired) ([], m)).2

end

end Manager

namespace Store

variable {s s' s'' : Store} {r d : String} {md : ImageMetadata}

/-- Nothing is done to a digest without a pull, and no pull of it is started. -/
structure Untouched (d : String) (s s' : Store) : Prop extends SameDigest d s s' where
  tags : ∀ r tag, s'.resolveTag r tag = s.resolveTag r tag
  idle : s.Idle d → s'.Idle d

theorem Untouched.refl (s : Store) : Untouched d s s := ⟨.refl s, fun _ _ => rfl, id⟩

theorem Untouched.trans (h : Untouched d s s') (h' : Untouched d s' s'') : Untouched d s s'' :=
  ⟨h.toSameDigest.trans h'.toSameDigest, fun r tag => (h'.tags r tag).trans (h.tags r tag),
    fun hidle => h'.idle (h.idle hidle)⟩

/-- Ending the pull of another digest does nothing to this one. -/
theorem untouched_setDir {d' : String} (hne : d' ≠ d) {dir : DigestDir} (layout : ImageLayout)
    (hdir : ∀ md, dir.md = some md → md.isPending = false) :
    Untouched d s (s.setDir r d' dir layout) := by
  have hsame : SameDigest d s (s.setDir r d' dir layout) := sameDigest_setDir hne dir layout
  refine ⟨hsame, fun _ _ => by cases layout <;> rfl, fun h => ⟨?_, fun d'' md hmd hp => ?_,
    fun r'' d'' md hmd hp => ?_⟩⟩
  · rw [contentPullInProgress, contentStatus, hsame.content]
    exact h.content
  · cases layout with
    | legacy => exact h.contents d'' md hmd hp
    | content =>
      simp only [setDir, contentDir, Table.lookup_insert] at hmd
      split at hmd
      · exact absurd hp (by simp [hdir md hmd])
      · exact h.contents d'' md hmd hp
  · cases layout with
    | content => exact h.legacies r'' d'' md hmd hp
    | legacy =>
      simp only [setDir, legacyDir, Table.lookup_insert] at hmd
      split at hmd
      · exact absurd hp (by simp [hdir md hmd])
      · exact h.legacies r'' d'' md hmd hp

end Store

namespace Manager

variable {lib : ImageLib} {m : Manager} {r d : String} {md : ImageMetadata}
  {expired : ImageMetadata → Bool}

theorem untouched_recoverInterruptedBuild {m' : Manager}
    (hne : md.isPending = true → md.digestHex ≠ d)
    (h : m.recoverInterruptedBuild lib expired md = some m') :
    Store.Untouched d m.store m'.store := by
  unfold recoverInterruptedBuild at h
  split at h
  · cases h
  · next hpending =>
    obtain ⟨normalized, -, rfl⟩ := Option.map_eq_some_iff.mp h
    have hdigest := hne (by simpa using fun hp => hpending (.inl hp))
    dsimp only
    split
    · unfold updateStatusByDigest
      dsimp only
      split
      · exact .refl _
      · split
        · exact .refl _
        · refine Store.untouched_setDir hdigest _ fun md' hmd' => ?_
          cases hmd'
          rfl
    · exact .refl _

/-- Recovery does nothing to a digest without a pull. -/
theorem untouched_recoverInterruptedBuilds {metas : List ImageMetadata}
    (hne : ∀ md ∈ metas, md.isPending = true → md.digestHex ≠ d) :
    Store.Untouched d m.store (m.recoverInterruptedBuilds lib expired metas).store := by
  refine foldl_relates
    (R := fun x y : List String × Manager => Store.Untouched d x.2.store y.2.store)
    (fun _ => .refl _) (fun h h' => h.trans h') (fun md hmd x => ?_) ([], m)
  unfold recoverRound
  split
  · exact .refl _
  · split
    · exact .refl _
    · next m' hm' => exact untouched_recoverInterruptedBuild (hne md hmd) hm'

end Manager

/-! ## After a promotion -/

namespace Promotion

/-- The source can be read as a ready image with the digest, and tagged. -/
def Retryable (lib : ImageLib) (source d : String) (s : Store) : Prop :=
  ∃ sourceRef, lib.parseNormalizedRef source = some sourceRef ∧
    (∃ md, s.resolveRefMetadata sourceRef = .ok (d, md) ∧ md.status = .ready) ∧
    ∀ (m : Manager) (target : String) (targetRef : NormalizedRef), m.store = s →
      lib.parseNormalizedRef target = some targetRef → targetRef.isDigest = false →
        (m.tagImage lib source target).2 = none

variable {lib : ImageLib} {source d : String} {sourceRef : NormalizedRef} {s s' : Store}
  {md : ImageMetadata} {c : Config}

theorem retryable_of_idle (hparse : lib.parseNormalizedRef source = some sourceRef)
    (hread : s.resolveRefMetadata sourceRef = .ok (d, md)) (hready : md.status = .ready)
    (hidle : s.Idle d) : Retryable lib source d s := by
  refine ⟨sourceRef, hparse, ⟨md, hread, hready⟩, fun m target targetRef hm htarget hdigest => ?_⟩
  subst hm
  exact Manager.tagImage_of_idle hparse htarget hdigest hread hready hidle

/-- A reference is read as before if its tag leads to the same digest, with what is read there. -/
theorem resolveRefMetadata_of_tags {md' : ImageMetadata}
    (htags : ∀ r tag, s'.resolveTag r tag = s.resolveTag r tag)
    (hread : s.resolveRefMetadata sourceRef = .ok (d, md))
    (hnow : s'.readMetadata sourceRef.repository d = .ok md') :
    s'.resolveRefMetadata sourceRef = .ok (d, md') := by
  unfold Store.resolveRefMetadata at hread ⊢
  rw [htags]
  split at hread
  · cases hread
  · split at hread <;> cases hread
    simp only [hnow]

/-- Ready content in its place is what is read, and no pull. -/
theorem Kept.idle_of_isReady {r : String} (h : Kept s r d c)
    (hready : IsReady (c.store.contentDir d)) (hidle : s.Idle d) :
    c.store.Idle d ∧ c.store.contentStatus d = some .ready := by
  obtain ⟨⟨md, hmd, hstatus⟩, -⟩ := hready
  have hcontent : c.store.contentStatus d = some .ready := by
    rw [Store.contentStatus, hmd, Option.map_some, hstatus]
  refine ⟨⟨?_, fun d' md' hmd' hpending => ?_, fun r' d' md' hmd' => ?_⟩, hcontent⟩
  · rw [Store.contentPullInProgress, hcontent]
    rfl
  · by_cases hd : d' = d
    · subst hd
      cases hmd.symm.trans hmd'
      rw [ImageMetadata.isPending, hstatus] at hpending
      cases hpending
    · rw [h.others d' hd] at hmd'
      exact hidle.contents d' md' hmd' hpending
  · rw [h.legacy] at hmd'
    exact hidle.legacies r' d' md' hmd'

/-- Where a run may end: the source is ready and no pull of the digest is in progress. -/
theorem Kept.ready (h : Kept s sourceRef.repository d c)
    (hphase : ¬ c.phase.IsConverting) (hread : s.resolveRefMetadata sourceRef = .ok (d, md))
    (hready : md.status = .ready) (hidle : s.Idle d) :
    c.store.Idle d ∧
      ∃ md', c.store.resolveRefMetadata sourceRef = .ok (d, md') ∧ md'.status = .ready := by
  obtain ⟨now, phase⟩ := c
  have hcontent (hnow : IsReady (now.contentDir d)) : now.Idle d ∧
      ∃ md', now.resolveRefMetadata sourceRef = .ok (d, md') ∧ md'.status = .ready := by
    obtain ⟨hidle', hstatus⟩ := h.idle_of_isReady hnow hidle
    obtain ⟨md', hmd', hready'⟩ := hnow.read
    rw [← Store.readMetadata_of_contentStatus hstatus] at hmd'
    exact ⟨hidle', md', resolveRefMetadata_of_tags h.tags hread hmd', hready'⟩
  have hfits := h.fits
  cases phase with
  | checking =>
    have hsame : Store.SameDigest d s now := ⟨hfits, fun r => h.legacy r d⟩
    have hcontents : ∀ d', now.contentDir d' = s.contentDir d' := fun d' => by
      by_cases hd : d' = d
      · exact hd ▸ hfits
      · exact h.others d' hd
    refine ⟨⟨?_, fun d' => ?_, fun r d' => ?_⟩, md, ?_, hready⟩
    · rw [Store.contentPullInProgress, Store.contentStatus, hcontents]
      exact hidle.content
    · rw [hcontents]
      exact hidle.contents d'
    · rw [h.legacy]
      exact hidle.legacies r d'
    · refine resolveRefMetadata_of_tags h.tags hread ?_
      rw [hsame.readMetadata]
      exact Store.readMetadata_of_resolveRefMetadata hread
  | converting linked => exact absurd True.intro hphase
  | tags todo done => exact hcontent hfits.1
  | rollback todo => exact hcontent hfits.1

/-- After a run of `promoteImageToContent` that loses no link and does not end while the content is
being converted, the source is ready and **can be tagged again**, and so it is after a restart; no
pull of the digest being in progress before. -/
theorem promotion_retryable (hparse : lib.parseNormalizedRef source = some sourceRef)
    (hread : s.resolveRefMetadata sourceRef = .ok (d, md)) (hready : md.status = .ready)
    (hidle : s.Idle d)
    (hrun : (system sourceRef.repository d md s).Reachable LosesNoLink c)
    (hphase : ¬ c.phase.IsConverting) :
    Retryable lib source d c.store ∧
      ∀ (expired : ImageMetadata → Bool) (m : Manager) (metas : List ImageMetadata),
        m.store = c.store → metas.Perm c.store.listAllMetadata →
          Retryable lib source d (m.recoverInterruptedBuilds lib expired metas).store := by
  obtain ⟨hidle', md', hread', hready'⟩ :=
    (Reachable.kept hready hrun).ready hphase hread hready hidle
  refine ⟨retryable_of_idle hparse hread' hready' hidle', fun expired m metas hm hperm => ?_⟩
  have huntouched : Store.Untouched d c.store
      (m.recoverInterruptedBuilds lib expired metas).store := by
    rw [← hm]
    refine Manager.untouched_recoverInterruptedBuilds fun x hx => hidle'.digestHex_ne ?_
    exact hperm.mem_iff.mp hx
  have hmeta := huntouched.readMetadata sourceRef.repository
  rw [Store.readMetadata_of_resolveRefMetadata hread'] at hmeta
  exact retryable_of_idle hparse (resolveRefMetadata_of_tags huntouched.tags hread' hmeta) hready'
    (huntouched.idle hidle')

/-! ### An example -/

def exampleRefs : List NormalizedRef :=
  [⟨"acme/app:v1", "acme/app", "v1", "", false⟩, ⟨"acme/app:v2", "acme/app", "v2", "", false⟩,
    ⟨"acme/base:v1", "acme/base", "v1", "", false⟩]

def exampleLib : ImageLib where
  parseNormalizedRef name := exampleRefs.find? (·.raw == name)
  sha256 := id

def exampleMeta : ImageMetadata where
  name := "acme/app:v1"
  digestHex := "d1"
  status := .ready
  requestName := some "acme/app:v1"
  buildID := 1
  requestedTag := "v1"
  previousTagDigest := ""
  tagGeneration := 1
  tagClaimCanceled := false
  tagClaims := []

/-- The image in the older layout, with two tags. -/
def exampleStore : Store where
  content := ∅
  legacy := (∅ : Table _ _).insert ("acme/app", "d1") ⟨some exampleMeta, true⟩
  repositoryTags := ∅
  legacyTags := (AList.singleton ("acme/app", "v1") "d1").insert ("acme/app", "v2") "d1"

def exampleManager (s : Store) : Manager := ⟨s, ∅, ∅, ∅, ∅, 2⟩

def exampleAfter (es : List Event) : Option Config :=
  (system "acme/app" "d1" exampleMeta exampleStore).replay System.Always es

theorem promotion_retryable_restored : ∃ c,
    (system "acme/app" "d1" exampleMeta exampleStore).Reachable
      LosesNoLink c ∧
    c.phase = .rollback [] ∧ Retryable exampleLib "acme/app:v1" "d1" c.store := by
  obtain ⟨c, hreach, hphase⟩ := System.exists_reachable_of_replay
    (system "acme/app" "d1" exampleMeta exampleStore)
    LosesNoLink (fun c => c.phase = .rollback [])
    [.writePending, .linkDisk, .writeReady, .renameTag false, .renameFails, .restoreTag]
    (by decide +kernel)
  have hidle : exampleStore.Idle "d1" := by
    refine ⟨rfl, fun d' md hmd => (nomatch hmd), fun r d' md hmd hpending => ?_⟩
    simp only [Store.legacyDir, exampleStore, Table.lookup_insert] at hmd
    split at hmd <;> cases hmd
    cases hpending
  have hparse : exampleLib.parseNormalizedRef "acme/app:v1" =
      some ⟨"acme/app:v1", "acme/app", "v1", "", false⟩ := by decide
  have hread : exampleStore.resolveRefMetadata
      ⟨"acme/app:v1", "acme/app", "v1", "", false⟩ = .ok ("d1", exampleMeta) := by
    decide +kernel
  refine ⟨c, hreach, hphase, (promotion_retryable hparse hread rfl hidle hreach ?_).1⟩
  rw [hphase]
  exact id

/-- Both tags of the image are moved. -/
theorem reachable_example : ∃ s' done,
    Manager.promoteImageToContent exampleStore "acme/app" "d1" exampleMeta = .ok s' ∧
    (system "acme/app" "d1" exampleMeta exampleStore).Reachable LosesNoLink
      ⟨s', .tags [] done⟩ := by
  have hok : (Manager.promoteImageToContent exampleStore "acme/app" "d1"
      exampleMeta).toOption.isSome = true := by decide +kernel
  cases h : Manager.promoteImageToContent exampleStore "acme/app" "d1" exampleMeta with
  | error err =>
    rw [h] at hok
    cases hok
  | ok s' =>
    obtain ⟨done, hreach⟩ := reachable_of_promoteImageToContent rfl h
    exact ⟨s', done, rfl, hreach⟩

/-- The image can be tagged neither after a failure to link the disk nor after the restart; and if
a link is lost while links are moved back, the image of that tag is not found. -/
theorem promotion_stuck :
    (exampleAfter [.writePending]).any (fun c =>
      let m := exampleManager c.store
      let recovered := m.recoverInterruptedBuilds exampleLib (fun _ => false)
        c.store.listAllMetadata
      [m, recovered].all fun m => (m.tagImage exampleLib "acme/app:v1"
        "acme/base:v1").2 == some .notReady) = true ∧
    (exampleAfter [.writePending, .linkDisk, .writeReady, .renameTag false, .renameFails,
      .loseTag]).any (fun c => (exampleManager c.store).getImage exampleLib
        "acme/app:v2" matches .error (.read .notFound)) = true := by
  decide +kernel

end Promotion

end Hypeman.Images
