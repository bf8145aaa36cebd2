import Hypeman.Builds.RegistryToken

/-!
# Pulling the base images of a Dockerfile

What `ParseDockerfileFROMs` (`lib/builds/dockerfile.go`) finds and what the token of `CreateBuild`
(`lib/builds/manager.go`) grants for it, against the `FROM` instructions of a Dockerfile that has no
line continuations. The code differs from them in three places: it wants a blank after `FROM`, it
takes the name that an instruction gives its own stage for an earlier one, and only `${` for a
variable. The token cuts off what follows the last colon, which in a digest is a part of it.

* `baseImages`: the images that have to be pulled; `readImages`: those that the code takes.
* `ParseDockerfileFROMs_of_plain`: the Dockerfiles that are read as written.
* `base_images_granted_iff`: of such a Dockerfile the code finds the base images and the token
  grants them exactly if what is referred to by digest is granted for another reason.
* `digest_not_granted`: Dockerfiles that fail.
-/

namespace Hypeman.Builds

open Foundations.Strings

/-! ## The instructions of a Dockerfile -/

/-- A `FROM` instruction: the image and the words after it. -/
abbrev FromInstruction := String × List String

def fromInstruction (line : String) : Option FromInstruction :=
  match fields (trimSpace line) with
  | [] => none
  | word :: words =>
    if toUpper word = "FROM" then
      match words.dropWhile (hasPrefix · "--") with
      | [] => none
      | image :: rest => some (image, rest)
    else none

variable (lib : BuildLib)

/-- The images of the instructions that are neither `scratch`, nor variable, nor a stage: one before
the instruction, or with `own` also that of the instruction. -/
def imagesFrom (isVariable : String → Bool) (own : Bool) :
    List String → List FromInstruction → List String
  | _, [] => []
  | stages, (image, rest) :: more =>
    let named := (stageAlias rest).elim stages (lib.lower · :: stages)
    let known := if own then named else stages
    if image = "scratch" ∨ isVariable image ∨ lib.lower image ∈ known then
      imagesFrom isVariable own named more
    else image :: imagesFrom isVariable own named more

/-- The images that the Dockerfile needs. -/
def baseImages (dockerfile : String) : List String :=
  imagesFrom lib (contains · "$") false [] ((split dockerfile '\n').filterMap fromInstruction)

/-- The images that `ParseDockerfileFROMs` takes. -/
def readImages (dockerfile : String) : List String :=
  imagesFrom lib (contains · "$\x7b") true []
    ((split dockerfile '\n').filterMap fun line => fromImage (trimSpace line))

/-- The references of images, each once and in the order in which they come first. -/
def references (images : List String) : List String :=
  (images.map (normalizeImageRef lib)).foldl addNew []

/-- The repository of a reference, as `normalizeImageRef` writes it. -/
def ParsedReference.repository (p : ParsedReference) : String :=
  trimPrefix (trimPrefix p.context "index.docker.io/") "docker.io/"

def imageRepo (image : String) : String :=
  ((lib.parseReference image).map (·.repository)).getD ""

def ByDigest (image : String) : Prop := ∃ p, lib.parseReference image = some p ∧ p.tag = none

/-- What `name.ParseReference` returns: a repository, with a tag or with a digest. -/
structure ReferenceLaws : Prop where
  repository_ne : ∀ {ref p}, lib.parseReference ref = some p → p.repository ≠ ""
  repository_at : ∀ {ref p}, lib.parseReference ref = some p → '@' ∉ p.repository.toList
  tag_or_digest : ∀ {ref p}, lib.parseReference ref = some p →
    (∃ tag, p.tag = some tag ∧ ':' ∉ tag.toList) ∨
      p.tag = none ∧ ∃ algorithm hex, p.digest = some (algorithm ++ ":" ++ hex) ∧ ':' ∉ hex.toList

/-! ## What the code reads -/

variable {lib}

theorem fromImage_skipped {line : String} (h : line = "" ∨ hasPrefix line "#" = true) :
    fromImage line = none := by
  have hupper : hasPrefix (toUpper line) "FROM " = false := by
    rcases h with rfl | h
    · rfl
    · simp only [hasPrefix, List.isPrefixOf_iff_prefix] at h
      obtain ⟨rest, hrest⟩ := h
      simp [hasPrefix, toUpper, ← hrest, List.isPrefixOf]
  simp [fromImage, hupper]

theorem parseFromLine_none {st : FromState} {line : String}
    (h : fromImage (trimSpace line) = none) : parseFromLine lib st line = st := by
  simp [parseFromLine, h]

theorem parseFromLine_some {st : FromState} {line image : String} {rest : List String}
    (h : fromImage (trimSpace line) = some (image, rest)) :
    parseFromLine lib st line =
      let named := (stageAlias rest).elim st.stageNames (lib.lower · :: st.stageNames)
      if image = "scratch" ∨ contains image "$\x7b" ∨ lib.lower image ∈ named then ⟨named, st.refs⟩
      else ⟨named, addNew st.refs (normalizeImageRef lib image)⟩ := by
  have hkept : ¬ (trimSpace line = "" ∨ hasPrefix (trimSpace line) "#" = true) := by
    intro hskip
    rw [fromImage_skipped hskip] at h
    cases h
  simp only [parseFromLine, if_neg hkept, h, or_comm (a := contains image _ = true)]
  cases stageAlias rest <;> rfl

theorem foldl_parseFromLine (lines : List String) (st : FromState) :
    (lines.foldl (parseFromLine lib) st).refs =
      ((imagesFrom lib (contains · "$\x7b") true st.stageNames
        (lines.filterMap fun line => fromImage (trimSpace line))).map
          (normalizeImageRef lib)).foldl addNew st.refs := by
  induction lines generalizing st with
  | nil => rfl
  | cons line lines ih =>
    rw [List.foldl_cons, ih]
    cases himage : fromImage (trimSpace line) with
    | none => simp only [List.filterMap_cons, himage, parseFromLine_none himage]
    | some instruction =>
      obtain ⟨image, rest⟩ := instruction
      simp only [List.filterMap_cons, himage, imagesFrom, parseFromLine_some himage, if_true]
      split <;> rfl

theorem ParseDockerfileFROMs_eq (dockerfile : String) :
    ParseDockerfileFROMs lib dockerfile = references lib (readImages lib dockerfile) :=
  foldl_parseFromLine _ _

/-! ## Dockerfiles that are read as written -/

/-- The instruction names its variables with braces and does not give its stage the name of its
image, unless that is nothing to be pulled. -/
def FromInstruction.Plain (lib : BuildLib) (instruction : FromInstruction) : Prop :=
  (contains instruction.1 "$" = true → contains instruction.1 "$\x7b" = true) ∧
    (instruction.1 = "scratch" ∨ contains instruction.1 "$" = true ∨
      ∀ name ∈ stageAlias instruction.2, lib.lower name ≠ lib.lower instruction.1)

theorem imagesFrom_eq {instructions : List FromInstruction} {stages : List String}
    (h : ∀ instruction ∈ instructions, instruction.Plain lib) :
    imagesFrom lib (contains · "$\x7b") true stages instructions =
      imagesFrom lib (contains · "$") false stages instructions := by
  induction instructions generalizing stages with
  | nil => rfl
  | cons instruction more ih =>
    obtain ⟨image, rest⟩ := instruction
    obtain ⟨hvariable, hown⟩ := h _ (.head _)
    have hbrace : contains image "$\x7b" = contains image "$" := by
      rw [Bool.eq_iff_iff]
      refine ⟨fun hb => ?_, hvariable⟩
      simp only [contains, decide_eq_true_eq] at hb ⊢
      exact (List.IsPrefix.isInfix ⟨['\x7b'], rfl⟩).trans hb
    have hknown : (image = "scratch" ∨ contains image "$" = true ∨
        lib.lower image ∈ (stageAlias rest).elim stages (lib.lower · :: stages)) ↔
        (image = "scratch" ∨ contains image "$" = true ∨ lib.lower image ∈ stages) := by
      rcases hown with hscratch | hdollar | hown
      · simp [show image = "scratch" from hscratch]
      · simp [show contains image "$" = true from hdollar]
      · cases halias : stageAlias rest with
        | none => rfl
        | some name => simp [Ne.symm (hown name halias)]
    simp only [imagesFrom, hbrace, if_true, hknown, ih fun i hi => h i (.tail _ hi)]
    rfl

theorem isSpace_of_letter {c : Char} (hlow : 65 ≤ c.toNat) (hhigh : c.toNat ≤ 122) :
    isSpace c = false := by
  simp [isSpace]
  omega

theorem isSpace_toUpper (c : Char) : isSpace c.toUpper = isSpace c := by
  unfold Char.toUpper
  split
  next hlower =>
    rw [isSpace_of_letter (c := c), isSpace_of_letter] <;>
      grind [UInt32.toNat_add, Char.toNat, UInt32.le_iff_toNat_le]
  next => rfl

/-- A line that begins with `FROM` and a blank has `FROM` as its first word. -/
theorem fields_of_from {line : String} (h : hasPrefix (toUpper line) "FROM " = true) :
    ∃ word words, fields line = word :: words ∧ toUpper word = "FROM" := by
  obtain ⟨tail, htail⟩ := List.isPrefixOf_iff_prefix.mp h
  have hmap : line.toList.map Char.toUpper = ['F', 'R', 'O', 'M'] ++ ' ' :: tail := by
    simpa [toUpper] using htail.symm
  obtain ⟨first, more, hline, hfirst, hmore⟩ := List.map_eq_append_iff.mp hmap
  obtain ⟨blank, rest, rfl, hblank, -⟩ := List.map_eq_cons_iff.mp hmore
  have hword : ∀ c ∈ first, isSpace c = false := by
    intro c hc
    have hmem : c.toUpper ∈ ['F', 'R', 'O', 'M'] := hfirst ▸ List.mem_map_of_mem hc
    rw [← isSpace_toUpper]
    revert hmem
    generalize c.toUpper = d
    intro hmem
    simp only [List.mem_cons, List.not_mem_nil, or_false] at hmem
    rcases hmem with rfl | rfl | rfl | rfl <;> rfl
  have hsep : isSpace blank = true := by
    rw [← isSpace_toUpper, hblank]
    rfl
  have hne : first ≠ [] := by
    rintro rfl
    cases hfirst
  have hfields : fields line = String.ofList first ::
      ((rest.splitOnP isSpace).filter (· ≠ [])).map String.ofList := by
    rw [fields, hline, List.splitOnP_append_cons_of_forall_mem hword blank hsep,
      List.filter_cons_of_pos (by simpa using hne), List.map_cons]
  refine ⟨_, _, hfields, ?_⟩
  rw [toUpper, String.toList_ofList, hfirst]

theorem fromImage_eq_fromInstruction {line : String} (h : fromInstruction line ≠ none →
    hasPrefix (toUpper (trimSpace line)) "FROM " = true) :
    fromImage (trimSpace line) = fromInstruction line := by
  by_cases hfrom : hasPrefix (toUpper (trimSpace line)) "FROM " = true
  · obtain ⟨word, words, hfields, hword⟩ := fields_of_from hfrom
    rw [fromImage, if_neg (by simp [hfrom]), fromInstruction, hfields]
    exact (if_pos hword).symm
  · rw [fromImage, if_pos (by simpa using hfrom)]
    by_contra hne
    exact hfrom (h (Ne.symm hne))

/-- A Dockerfile is read as written if every `FROM` is followed by a blank and its instructions are
plain. -/
theorem readImages_eq_baseImages {dockerfile : String}
    (hblank : ∀ line ∈ split dockerfile '\n', fromInstruction line ≠ none →
      hasPrefix (toUpper (trimSpace line)) "FROM " = true)
    (hplain : ∀ instruction ∈ (split dockerfile '\n').filterMap fromInstruction,
      instruction.Plain lib) : readImages lib dockerfile = baseImages lib dockerfile := by
  have hread : (split dockerfile '\n').filterMap (fun line => fromImage (trimSpace line)) =
      (split dockerfile '\n').filterMap fromInstruction :=
    List.filterMap_congr fun line hline => fromImage_eq_fromInstruction (hblank line hline)
  rw [readImages, hread, baseImages, imagesFrom_eq hplain]

/-- **A plain Dockerfile is read as written**: if every `FROM` is followed by a blank, no stage has
the name of its own image and variables have braces, `ParseDockerfileFROMs` returns the references
of the base images, each once and in the order of the file. -/
theorem ParseDockerfileFROMs_of_plain {dockerfile : String}
    (hblank : ∀ line ∈ split dockerfile '\n', fromInstruction line ≠ none →
      hasPrefix (toUpper (trimSpace line)) "FROM " = true)
    (hplain : ∀ instruction ∈ (split dockerfile '\n').filterMap fromInstruction,
      instruction.Plain lib) :
    ParseDockerfileFROMs lib dockerfile = references lib (baseImages lib dockerfile) := by
  rw [ParseDockerfileFROMs_eq, readImages_eq_baseImages hblank hplain]

/-! ## What the token grants -/

theorem mem_foldl_addNew {x : String} {l acc : List String} :
    x ∈ l.foldl addNew acc ↔ x ∈ acc ∨ x ∈ l := by
  induction l generalizing acc with
  | nil => simp
  | cons y l ih =>
    have hadd : x ∈ addNew acc y ↔ x ∈ acc ∨ x = y := by
      unfold addNew
      split
      next hy => exact ⟨.inl, fun h => h.elim id fun hxy => hxy ▸ hy⟩
      next => simp
    rw [List.foldl_cons, ih, hadd, List.mem_cons, or_assoc]

theorem mem_references {ref : String} {images : List String} :
    ref ∈ references lib images ↔ ∃ image ∈ images, normalizeImageRef lib image = ref := by
  simp [references, mem_foldl_addNew]

/-- A reference without what follows its last colon. -/
def beforeColon (ref : String) : String :=
  match beforeLast ref ':' with
  | some repo => if repo = "" then ref else repo
  | none => ref

theorem mem_baseImageRepos {dockerfile repo : String} :
    repo ∈ baseImageRepos lib dockerfile ↔
      ∃ image ∈ readImages lib dockerfile, beforeColon (normalizeImageRef lib image) = repo := by
  have hrepos : baseImageRepos lib dockerfile =
    ((ParseDockerfileFROMs lib dockerfile).map beforeColon).foldl addNew [] := rfl
  simp [hrepos, mem_foldl_addNew, ParseDockerfileFROMs_eq, mem_references]

/-- Of a tagged image the repository is left, of one with a digest also a part of the digest. -/
theorem beforeColon_normalizeImageRef (hlaws : ReferenceLaws lib) {image : String}
    (hparse : (lib.parseReference image).isSome = true) :
    (¬ ByDigest lib image ∧ beforeColon (normalizeImageRef lib image) = imageRepo lib image) ∨
      ByDigest lib image ∧ ∃ algorithm,
        beforeColon (normalizeImageRef lib image) = imageRepo lib image ++ "@" ++ algorithm := by
  obtain ⟨p, hp⟩ := Option.isSome_iff_exists.mp hparse
  have hrepo : imageRepo lib image = p.repository := by simp [imageRepo, hp]
  have hne := hlaws.repository_ne hp
  rcases hlaws.tag_or_digest hp with ⟨tag, htag, hcolon⟩ | ⟨htag, algorithm, hex, hdigest, hcolon⟩
  · refine .inl ⟨?_, ?_⟩
    · rintro ⟨p', hp', hnone⟩
      cases hp.symm.trans hp'
      cases htag.symm.trans hnone
    · have hnormal : normalizeImageRef lib image = p.repository ++ ":" ++ tag := by
        simp [normalizeImageRef, hp, htag, ParsedReference.repository]
      rw [hnormal, hrepo, beforeColon, beforeLast_append (c := ':') hcolon]
      simp [hne]
  · refine .inr ⟨⟨p, hp, htag⟩, algorithm, ?_⟩
    have hnormal : normalizeImageRef lib image =
        p.repository ++ "@" ++ algorithm ++ ":" ++ hex := by
      simp [normalizeImageRef, hp, htag, hdigest, ParsedReference.repository, String.append_assoc]
    rw [hnormal, hrepo, beforeColon, beforeLast_append (c := ':') hcolon]
    simp [hne]

variable {registryURL id : String} {req : CreateBuildRequest} {tarball : Option String}

def Grants (claims : RegistryTokenClaims) (repo : String) : Prop :=
  scopeFor claims repo = some .pull ∨ scopeFor claims repo = some .push

variable (registryURL id req) in
/-- The repositories that the token grants whatever the base images are. -/
def otherRepos : List String :=
  ("builds/" ++ id) :: (extractInternalBaseImageRepos req.dockerfile registryURL ++
    (cacheAccess req).map (·.repo))

theorem scope_repoAccess {p : RepoPermission}
    (h : p ∈ repoAccess lib registryURL id req tarball) : p.scope = .pull ∨ p.scope = .push := by
  simp only [repoAccess, List.mem_cons, List.mem_append, List.mem_map] at h
  rcases h with rfl | (⟨repo, -, rfl⟩ | hcache) | hbase
  · exact .inr rfl
  · exact .inl rfl
  · unfold cacheAccess at hcache
    grind
  · exact .inl (scope_of_mem_baseImageAccess hbase)

theorem grants_iff {claims : RegistryTokenClaims}
    (hclaims : claims.repoAccess = repoAccess lib registryURL id req tarball)
    (hgiven : req.dockerfile ≠ "") (repo : String) :
    Grants claims repo ↔ repo ∈ otherRepos registryURL id req ∨
      repo ∈ baseImageRepos lib req.dockerfile := by
  have hmem : repo ∈ (repoAccess lib registryURL id req tarball).map (·.repo) ↔
      repo ∈ otherRepos registryURL id req ∨ repo ∈ baseImageRepos lib req.dockerfile := by
    simp [repoAccess, otherRepos, baseImageAccess, dockerfileContent, hgiven, List.map_map,
      Function.comp_def, or_assoc]
  rw [← hmem, Grants, scopeFor, hclaims]
  have hne : (repoAccess lib registryURL id req tarball).isEmpty = false := rfl
  simp only [hne, Bool.not_false, if_true]
  constructor
  · intro h
    have hsome : ((repoAccess lib registryURL id req tarball).find? (·.repo == repo)).isSome := by
      rcases h with h | h <;> rw [← Option.isSome_map, h] <;> rfl
    obtain ⟨p, hp⟩ := Option.isSome_iff_exists.mp hsome
    exact List.mem_map.mpr ⟨p, List.mem_of_find?_eq_some hp, by simpa using List.find?_some hp⟩
  · intro h
    obtain ⟨p, hp, rfl⟩ := List.mem_map.mp h
    have hsome : ((repoAccess lib registryURL id req tarball).find? (·.repo == p.repo)).isSome :=
      List.find?_isSome.mpr ⟨p, hp, by simp⟩
    obtain ⟨first, hfirst⟩ := Option.isSome_iff_exists.mp hsome
    rw [hfirst, Option.map_some, Option.some.injEq, Option.some.injEq]
    exact scope_repoAccess (List.mem_of_find?_eq_some hfirst)

variable (lib registryURL id req) in
/-- What is given by a digest is granted for another reason, or the Dockerfile also names the
repository with a tag. -/
def DigestsGranted : Prop :=
  ∀ image ∈ baseImages lib req.dockerfile, ByDigest lib image →
    imageRepo lib image ∈ otherRepos registryURL id req ∨
      ∃ other ∈ baseImages lib req.dockerfile,
        ¬ ByDigest lib other ∧ imageRepo lib other = imageRepo lib image

/-- The cut references name the repository of an image exactly if it has a tag somewhere. -/
theorem granted_iff_digestsGranted (hlaws : ReferenceLaws lib)
    (hparse : ∀ image ∈ baseImages lib req.dockerfile, (lib.parseReference image).isSome = true) :
    (∀ image ∈ baseImages lib req.dockerfile,
      imageRepo lib image ∈ otherRepos registryURL id req ∨
        ∃ other ∈ baseImages lib req.dockerfile,
          beforeColon (normalizeImageRef lib other) = imageRepo lib image) ↔
      DigestsGranted lib registryURL id req := by
  refine forall₂_congr fun image himage => ?_
  by_cases hdigest : ByDigest lib image
  · simp only [hdigest, forall_const]
    refine or_congr_right (exists_congr fun other => and_congr_right fun hother => ?_)
    rcases beforeColon_normalizeImageRef hlaws (hparse other hother) with
      ⟨htagged, hcut⟩ | ⟨hby, algorithm, hcut⟩
    · rw [hcut]
      exact (and_iff_right htagged).symm
    · -- a repository has no `@`
      obtain ⟨p, hp, -⟩ := hdigest
      have hat : '@' ∉ (imageRepo lib image).toList := by
        simpa [imageRepo, hp] using hlaws.repository_at hp
      refine ⟨fun heq => absurd ?_ hat, fun h => absurd hby h.1⟩
      rw [← heq, hcut]
      simp
  · rcases beforeColon_normalizeImageRef hlaws (hparse image himage) with ⟨-, hcut⟩ | ⟨hby, -⟩
    · exact ⟨fun _ hby => absurd hby hdigest, fun _ => .inr ⟨image, himage, hcut⟩⟩
    · exact absurd hby hdigest

/-- **Base images.** For a Dockerfile in the request that is read as written and whose base images
parse, the token grants at least a pull on the repository of every base image and
`ParseDockerfileFROMs` returns their references, each once and in order, if and only if what is
given by a digest is granted for another reason. -/
theorem base_images_granted_iff {Token : Type} {reg : Registry Token} {token : Token} {now : Int}
    (hlaws : ReferenceLaws lib) (hgiven : req.dockerfile ≠ "")
    (hparse : ∀ image ∈ baseImages lib req.dockerfile, (lib.parseReference image).isSome = true)
    (htoken : createBuildToken reg lib registryURL id req tarball now = .ok token)
    (hblank : ∀ line ∈ split req.dockerfile '\n', fromInstruction line ≠ none →
      hasPrefix (toUpper (trimSpace line)) "FROM " = true)
    (hplain : ∀ instruction ∈ (split req.dockerfile '\n').filterMap fromInstruction,
      instruction.Plain lib) :
    (∃ claims, reg.parse token = .ok claims ∧
      (∀ image ∈ baseImages lib req.dockerfile, Grants claims (imageRepo lib image)) ∧
      ParseDockerfileFROMs lib req.dockerfile = references lib (baseImages lib req.dockerfile)) ↔
    DigestsGranted lib registryURL id req := by
  obtain ⟨claims, rfl, hclaims⟩ := issued_sign (.inl htoken :
    _ ∨ refreshBuildToken reg lib registryURL none id req tarball now = .ok token)
  have hread := readImages_eq_baseImages hblank hplain
  simp only [reg.parse_sign, Except.ok.injEq, exists_eq_left', ParseDockerfileFROMs_eq, hread,
    and_true, grants_iff hclaims hgiven, mem_baseImageRepos]
  exact granted_iff_digestsGranted hlaws hparse

/-! ## Dockerfiles that fail -/

def nodeDigest : String :=
  "sha256:e3b0c44298fc1c149afbf4c8996fb92427ae41e4649b934ca495991b7852b855"

/-- A library that parses the image `node`, with the tag `latest`, and with one digest. -/
def nodeLib : BuildLib where
  parseReference ref :=
    if ref = "node" then some ⟨"index.docker.io/library/node", some "latest", none⟩
    else if ref = "node@" ++ nodeDigest then
      some ⟨"index.docker.io/library/node", none, some nodeDigest⟩
    else none
  lower := toLower

theorem nodeLib_parse {ref : String} {p : ParsedReference}
    (h : nodeLib.parseReference ref = some p) :
    p = ⟨"index.docker.io/library/node", some "latest", none⟩ ∨
      p = ⟨"index.docker.io/library/node", none, some nodeDigest⟩ := by
  simp only [nodeLib] at h
  grind

theorem nodeLib_laws : ReferenceLaws nodeLib where
  repository_ne h := by rcases nodeLib_parse h with rfl | rfl <;> decide
  repository_at h := by rcases nodeLib_parse h with rfl | rfl <;> decide
  tag_or_digest h := by
    rcases nodeLib_parse h with rfl | rfl
    · exact .inl ⟨"latest", rfl, by decide⟩
    · exact .inr ⟨rfl, "sha256", trimPrefix nodeDigest "sha256:", by decide +kernel,
        by decide +kernel⟩

def dockerfileRequest (dockerfile : String) : CreateBuildRequest :=
  { tenantRequest "" with dockerfile := dockerfile }

/-- For an image with a digest the token names no repository; and an image whose stage has the same
name is not found, nor one after a tab, while a variable without braces is taken for an image. -/
theorem digest_not_granted :
    (∃ token, createBuildToken plainRegistry nodeLib "https://registry.local" "b1"
        (dockerfileRequest ("FROM node@" ++ nodeDigest)) none 0 = .ok token ∧
      baseImages nodeLib ("FROM node@" ++ nodeDigest) = ["node@" ++ nodeDigest] ∧
      imageRepo nodeLib ("node@" ++ nodeDigest) = "library/node" ∧
      ¬ Grants token "library/node") ∧
    (∀ dockerfile ∈ ["FROM node AS node", "FROM\tnode"],
      baseImages nodeLib dockerfile = ["node"] ∧ ParseDockerfileFROMs nodeLib dockerfile = []) ∧
    baseImages nodeLib "FROM $BASE" = [] ∧
      ParseDockerfileFROMs nodeLib "FROM $BASE" = ["$BASE"] := by
  refine ⟨⟨_, rfl, by decide +kernel, by decide +kernel, ?_⟩, by decide +kernel, by decide +kernel⟩
  unfold Grants
  decide +kernel

theorem base_images_granted_node :
    ∃ token, createBuildToken plainRegistry nodeLib "https://registry.local" "b1"
        (dockerfileRequest "FROM node AS build") none 0 = .ok token ∧
      ∃ claims, plainRegistry.parse token = .ok claims ∧
        (∀ image ∈ baseImages nodeLib "FROM node AS build",
          Grants claims (imageRepo nodeLib image)) ∧
        ParseDockerfileFROMs nodeLib "FROM node AS build" =
          references nodeLib (baseImages nodeLib "FROM node AS build") := by
  have hbase : baseImages nodeLib (dockerfileRequest "FROM node AS build").dockerfile =
      ["node"] := by decide +kernel
  have hparse : nodeLib.parseReference "node" =
    some ⟨"index.docker.io/library/node", some "latest", none⟩ := rfl
  have htoken : createBuildToken plainRegistry nodeLib "https://registry.local" "b1"
    (dockerfileRequest "FROM node AS build") none 0 = .ok _ := rfl
  refine ⟨_, htoken, (base_images_granted_iff nodeLib_laws (by decide) ?_ htoken
    (by decide +kernel) (by unfold FromInstruction.Plain; decide +kernel)).mpr ?_⟩
  · intro image himage
    rw [hbase, List.mem_singleton] at himage
    rw [himage, hparse]
    rfl
  · rintro image himage ⟨p, hp, htag⟩
    rw [hbase, List.mem_singleton] at himage
    rw [himage, hparse] at hp
    cases hp
    cases htag

/-- A stage that is built on, and one from nothing. -/
theorem ParseDockerfileFROMs_stages :
    ParseDockerfileFROMs nodeLib "FROM node AS build\nFROM build\nFROM scratch" =
      references nodeLib (baseImages nodeLib "FROM node AS build\nFROM build\nFROM scratch") :=
  ParseDockerfileFROMs_of_plain (by decide +kernel) (by
    unfold FromInstruction.Plain
    decide +kernel)

end Hypeman.Builds
