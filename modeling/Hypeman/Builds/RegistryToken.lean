import Hypeman.Builds.Dockerfile

/-!
# The registry token of a build

Models of the permissions that `CreateBuild` and `refreshBuildToken` put into the registry token of
a build (`lib/builds/manager.go`), of the token itself (`lib/builds/registry_token.go`) and of
`validateRegistryToken` (`lib/middleware/oapi_auth.go`), which interprets it: the first entry for
the repository of a request decides.

A tenant's token pushes to `builds/<id>` and to `cache/<CacheScope>`, and the scope is used as the
caller gave it. A scope `global/<name>` therefore names a repository of the shared cache.

* `write_confined_iff`: the token of a tenant build writes to nothing but its own repository and
  one tenant cache, outside the shared one, exactly when the request is not such that its scope
  names a shared repository that no earlier entry restricts to pulling.
* `scope_reaches_global_cache`: a token that writes to the shared cache.
-/

namespace Hypeman.Builds

open Foundations.Strings

/-! ## Tokens -/

/-- `RepoPermission.Scope`, and `Scope` of the legacy form; `other` is any other text. -/
inductive Scope
  | pull
  | push
  | other (text : String)
deriving DecidableEq, Repr

structure RepoPermission where
  repo : String
  scope : Scope
deriving DecidableEq, Repr

/-- `RegistryTokenClaims`; times are in nanoseconds. -/
structure RegistryTokenClaims where
  subject : String
  issuedAt : Int
  expiresAt : Int
  issuer : String
  buildID : String
  repoAccess : List RepoPermission
  repositories : List String
  scope : Scope
deriving DecidableEq, Repr

/-- Signing of tokens (`jwt`) and the routes of the registry (`mux`). A token read back before it
expires has the claims it was signed with. -/
structure Registry (Token : Type) where
  /-- `jwt.NewWithClaims(…).SignedString` with the server's secret. -/
  sign : RegistryTokenClaims → Token
  /-- `jwt.ParseWithClaims` with the server's secret. -/
  parse : Token → Except String RegistryTokenClaims
  parse_sign : ∀ claims, parse (sign claims) = .ok claims
  /-- `extractRepoFromPath`: the empty text for a path that names no repository. -/
  extractRepo : String → String

def isWriteOperation (method : String) : Bool :=
  ["PUT", "POST", "PATCH", "DELETE"].contains method

variable {Token : Type} (reg : Registry Token)

/-- The scope the claims give for a repository: that of the first entry for it, or the common
scope of the legacy form. -/
def scopeFor (claims : RegistryTokenClaims) (repo : String) : Option Scope :=
  if !claims.repoAccess.isEmpty then
    (claims.repoAccess.find? (·.repo == repo)).map (·.scope)
  else if claims.repositories.contains repo then some claims.scope
  else none

def validateRegistryToken (token : Token) (requestPath method : String) :
    Except String RegistryTokenClaims :=
  match reg.parse token with
  | .error err => .error s!"parse token: {err}"
  | .ok claims =>
    if claims.repoAccess.isEmpty && claims.repositories.isEmpty then
      .error "not a registry token"
    else
      let repo := reg.extractRepo requestPath
      if repo = "" then
        if requestPath = "/v2/" ∨ requestPath = "/v2" then .ok claims
        else .error "could not extract repository from path"
      else match scopeFor claims repo with
        | none => .error s!"repository not allowed by token: {repo}"
        | some scope =>
          if isWriteOperation method && scope != .push then
            .error "token does not allow write operations"
          else .ok claims

/-- The token lets some write operation on the repository through. -/
def Writable (token : Token) (repo : String) : Prop :=
  ∃ path method, reg.extractRepo path = repo ∧ repo ≠ "" ∧ isWriteOperation method = true ∧
    (validateRegistryToken reg token path method).isOk = true

/-- `GenerateToken`; `now` is the time of the call. -/
def GenerateToken (buildID : String) (repoAccess : List RepoPermission) (ttl now : Int) :
    Except String Token :=
  if buildID = "" then .error "build ID is required"
  else if repoAccess.isEmpty then .error "at least one repository permission is required"
  else .ok (reg.sign {
    subject := "builder-" ++ buildID
    issuedAt := now
    expiresAt := now + ttl
    issuer := "hypeman"
    buildID := buildID
    repoAccess := repoAccess
    repositories := []
    scope := .other "" })

/-! ## Permissions of a build -/

/-- The fields of `CreateBuildRequest` that the token depends on; `timeoutSeconds` is that of the
build policy, if there is one. -/
structure CreateBuildRequest where
  dockerfile : String
  cacheScope : String
  globalCacheKey : String
  isAdminBuild : Bool
  timeoutSeconds : Option Int64
deriving DecidableEq, Repr

variable (lib : BuildLib) (registryURL : String)

def cacheAccess (req : CreateBuildRequest) : List RepoPermission :=
  if req.isAdminBuild then
    if req.globalCacheKey ≠ "" then [⟨"cache/global/" ++ req.globalCacheKey, .push⟩] else []
  else
    (if req.globalCacheKey ≠ "" then [⟨"cache/global/" ++ req.globalCacheKey, .pull⟩] else []) ++
      if req.cacheScope ≠ "" then [⟨"cache/" ++ req.cacheScope, .push⟩] else []

/-- The repositories of the base images of the Dockerfile, tags cut off. -/
def baseImageRepos (dockerfile : String) : List String :=
  ((ParseDockerfileFROMs lib dockerfile).map fun ref =>
    match beforeLast ref ':' with
    | some repo => if repo = "" then ref else repo
    | none => ref).foldl addNew []

/-- The Dockerfile of a build: that of the request, or else the one in the stored source
(`tarball`), if it can be read. -/
def dockerfileContent (req : CreateBuildRequest) (tarball : Option String) : String :=
  if req.dockerfile = "" then tarball.getD "" else req.dockerfile

def baseImageAccess (dockerfile : String) : List RepoPermission :=
  if dockerfile ≠ "" then (baseImageRepos lib dockerfile).map (⟨·, .pull⟩) else []

def repoAccess (id : String) (req : CreateBuildRequest) (tarball : Option String) :
    List RepoPermission :=
  ⟨"builds/" ++ id, .push⟩ ::
    ((extractInternalBaseImageRepos req.dockerfile registryURL).map (⟨·, .pull⟩) ++
      cacheAccess req ++ baseImageAccess lib (dockerfileContent req tarball))

/-- The life of a token: the build timeout (ten minutes unless the policy says otherwise), at least
half an hour. -/
def tokenTTL (req : CreateBuildRequest) : Int :=
  let timeout : Int64 := match req.timeoutSeconds with
    | some seconds => if seconds ≤ 0 then 600 else seconds
    | none => 600
  -- nanoseconds, which wrap around
  let ttl := timeout * 1000000000
  (if ttl < 1800000000000 then 1800000000000 else ttl).toInt

/-- The token `CreateBuild` issues for the build it has given the id `id`. -/
def createBuildToken (id : String) (req : CreateBuildRequest) (tarball : Option String)
    (now : Int) : Except String Token :=
  GenerateToken reg id (repoAccess lib registryURL id req tarball) (tokenTTL req) now

/-- The token `refreshBuildToken` issues when the build is recovered; `config` is whether the build
configuration can be read. -/
def refreshBuildToken (config : Option String) (id : String) (req : CreateBuildRequest)
    (tarball : Option String) (now : Int) : Except String Token :=
  match config with
  | some err => .error s!"read build config: {err}"
  | none => GenerateToken reg id (repoAccess lib registryURL id req tarball) (tokenTTL req) now

/-! ## Where a tenant's token writes -/

/-- The token writes to the build's own repository and to one tenant cache at most, never to the
shared cache and never to the repository of another build. -/
def Confined (token : Token) (id : String) : Prop :=
  ∃ cache, hasPrefix cache "cache/" = true ∧ ∀ repo, Writable reg token repo →
    (repo = "builds/" ++ id ∨ repo = cache) ∧ hasPrefix repo "cache/global/" = false ∧
      (hasPrefix repo "builds/" = true → repo = "builds/" ++ id)

/-- The scope of the request names a repository of the shared cache that requests can name, and
neither the base images of the internal registry nor the shared cache key of the request puts a
pull entry for it before the push entry. -/
def ScopeLeaks (req : CreateBuildRequest) : Prop :=
  hasPrefix req.cacheScope "global/" = true ∧
    "cache/" ++ req.cacheScope ∉ extractInternalBaseImageRepos req.dockerfile registryURL ∧
    ¬ (req.globalCacheKey ≠ "" ∧ req.cacheScope = "global/" ++ req.globalCacheKey) ∧
    ∃ path, reg.extractRepo path = "cache/" ++ req.cacheScope

variable {reg lib registryURL} {id : String} {req : CreateBuildRequest} {tarball : Option String}
  {token : Token} {repo : String}

/-- A repository is writable when some path names it and the first entry for it says push. -/
theorem writable_sign_iff {claims : RegistryTokenClaims} (h : claims.repoAccess ≠ []) :
    Writable reg (reg.sign claims) repo ↔
      (∃ path, reg.extractRepo path = repo) ∧ repo ≠ "" ∧
        (claims.repoAccess.find? (·.repo == repo)).map (·.scope) = some .push := by
  have hne : claims.repoAccess.isEmpty = false := by simpa using h
  have hvalid : ∀ path method, reg.extractRepo path = repo → repo ≠ "" →
      isWriteOperation method = true →
        ((validateRegistryToken reg (reg.sign claims) path method).isOk = true ↔
          (claims.repoAccess.find? (·.repo == repo)).map (·.scope) = some .push) := by
    intro path method hpath hrepo hwrite
    simp only [validateRegistryToken, reg.parse_sign, hne, Bool.false_and, Bool.false_eq_true,
      if_false, hpath, hrepo, scopeFor, Bool.not_false, if_true, hwrite, Bool.true_and]
    cases (claims.repoAccess.find? (·.repo == repo)).map (·.scope) with
    | none => simp [Except.isOk, Except.toBool]
    | some scope => by_cases hs : scope = .push <;> simp [hs, Except.isOk, Except.toBool]
  constructor
  · rintro ⟨path, method, hpath, hrepo, hwrite, hok⟩
    exact ⟨⟨path, hpath⟩, hrepo, (hvalid path method hpath hrepo hwrite).mp hok⟩
  · rintro ⟨⟨path, hpath⟩, hrepo, hscope⟩
    exact ⟨path, "PUT", hpath, hrepo, by decide,
      (hvalid path "PUT" hpath hrepo (by decide)).mpr hscope⟩

/-- Both functions sign the same entries. -/
theorem issued_sign {config : Option String} {now : Int}
    (h : createBuildToken reg lib registryURL id req tarball now = .ok token ∨
      refreshBuildToken reg lib registryURL config id req tarball now = .ok token) :
    ∃ claims, token = reg.sign claims ∧
      claims.repoAccess = repoAccess lib registryURL id req tarball := by
  have hgen : GenerateToken reg id (repoAccess lib registryURL id req tarball) (tokenTTL req) now =
      .ok token := by
    rcases h with h | h
    · exact h
    · unfold refreshBuildToken at h
      cases config with
      | some err => cases h
      | none => exact h
  unfold GenerateToken at hgen
  split at hgen
  · cases hgen
  split at hgen
  · cases hgen
  cases hgen
  exact ⟨_, rfl, rfl⟩

theorem hasPrefix_builds_global (id : String) :
    hasPrefix ("builds/" ++ id) "cache/global/" = false := by
  simp [hasPrefix, List.isPrefixOf]

theorem hasPrefix_cache_builds (scope : String) :
    hasPrefix ("cache/" ++ scope) "builds/" = false := by
  simp [hasPrefix, List.isPrefixOf]

/-- The shared repositories are those with a scope under `global/`. -/
theorem hasPrefix_cache_global (scope : String) :
    hasPrefix ("cache/" ++ scope) "cache/global/" = hasPrefix scope "global/" :=
  hasPrefix_append_iff "cache/" scope "global/"

variable (registryURL req) in
/-- The pull entries that come before the entry of the tenant cache. -/
def earlierPulls : List RepoPermission :=
  (extractInternalBaseImageRepos req.dockerfile registryURL).map (⟨·, .pull⟩) ++
    if req.globalCacheKey ≠ "" then [⟨"cache/global/" ++ req.globalCacheKey, .pull⟩] else []

/-- The entries of a tenant build: its own repository, pulls, the tenant cache, pulls. -/
theorem repoAccess_tenant (hadmin : req.isAdminBuild = false) :
    repoAccess lib registryURL id req tarball =
      ⟨"builds/" ++ id, .push⟩ :: (earlierPulls registryURL req ++
        ((if req.cacheScope ≠ "" then [⟨"cache/" ++ req.cacheScope, .push⟩] else []) ++
          baseImageAccess lib (dockerfileContent req tarball))) := by
  simp only [repoAccess, cacheAccess, hadmin, Bool.false_eq_true, if_false, earlierPulls,
    List.append_assoc]

theorem scope_of_mem_baseImageAccess {dockerfile : String} {p : RepoPermission}
    (h : p ∈ baseImageAccess lib dockerfile) : p.scope = .pull := by
  unfold baseImageAccess at h
  split at h
  · obtain ⟨r, -, rfl⟩ := List.mem_map.mp h
    rfl
  · cases h

theorem scope_of_mem_earlierPulls {p : RepoPermission} (h : p ∈ earlierPulls registryURL req) :
    p.scope = .pull := by
  rcases List.mem_append.mp h with h | h
  · obtain ⟨r, -, rfl⟩ := List.mem_map.mp h
    rfl
  · split at h
    · rw [List.mem_singleton.mp h]
    · cases h

/-- No earlier entry is about the tenant cache exactly when neither kind of pull entry is. -/
theorem find_earlierPulls_eq_none :
    (earlierPulls registryURL req).find? (·.repo == "cache/" ++ req.cacheScope) = none ↔
      "cache/" ++ req.cacheScope ∉ extractInternalBaseImageRepos req.dockerfile registryURL ∧
        ¬ (req.globalCacheKey ≠ "" ∧ req.cacheScope = "global/" ++ req.globalCacheKey) := by
  have hglobal : "cache/global/" ++ req.globalCacheKey = "cache/" ++ req.cacheScope ↔
      req.cacheScope = "global/" ++ req.globalCacheKey := by
    have hsplit : "cache/global/" ++ req.globalCacheKey =
        "cache/" ++ ("global/" ++ req.globalCacheKey) := by
      rw [← String.append_assoc]
      rfl
    rw [hsplit, String.append_right_inj, eq_comm]
  rw [earlierPulls, List.find?_append, Option.or_eq_none_iff, List.find?_eq_none,
    List.find?_eq_none]
  refine and_congr ?_ ?_
  · constructor
    · intro h hmem
      exact h _ (List.mem_map_of_mem hmem) (by simp)
    · intro h p hp
      obtain ⟨r, hr, rfl⟩ := List.mem_map.mp hp
      simp only [beq_iff_eq]
      rintro rfl
      exact h hr
  · split
    · next hkey => simp [hglobal, hkey]
    · next hkey => simp [hkey]

/-- The repositories a tenant's token writes to: its own, and the tenant cache when no earlier
entry is about it. -/
theorem writable_tenant {claims : RegistryTokenClaims} (hadmin : req.isAdminBuild = false)
    (hclaims : claims.repoAccess = repoAccess lib registryURL id req tarball) (repo : String) :
    Writable reg (reg.sign claims) repo ↔
      (∃ path, reg.extractRepo path = repo) ∧
        (repo = "builds/" ++ id ∨
          req.cacheScope ≠ "" ∧ repo = "cache/" ++ req.cacheScope ∧
            (earlierPulls registryURL req).find? (·.repo == repo) = none) := by
  have heq := hclaims.trans (repoAccess_tenant hadmin)
  rw [writable_sign_iff (by rw [heq]; exact List.cons_ne_nil _ _), heq]
  refine and_congr_right fun _ => ?_
  by_cases hown : repo = "builds/" ++ id
  · subst hown
    simp [String.append_eq_empty_iff]
  have hne : ("builds/" ++ id == repo) = false := by simpa using Ne.symm hown
  simp only [List.find?_cons, hne, List.find?_append, hown, false_or]
  cases hfind : (earlierPulls registryURL req).find? (·.repo == repo) with
  | some p =>
    have hpull := scope_of_mem_earlierPulls (List.mem_of_find?_eq_some hfind)
    simp [hpull]
  | none =>
    have hlater : ((baseImageAccess lib (dockerfileContent req tarball)).find?
        (·.repo == repo)).map (·.scope) ≠ some .push := by
      intro h
      obtain ⟨p, hp, hs⟩ := Option.map_eq_some_iff.mp h
      rw [scope_of_mem_baseImageAccess (List.mem_of_find?_eq_some hp)] at hs
      cases hs
    by_cases hscope : req.cacheScope = ""
    · simp [hscope, hlater]
    · by_cases hcache : repo = "cache/" ++ req.cacheScope
      · subst hcache
        simp [hscope, String.append_eq_empty_iff]
      · have hne' : ("cache/" ++ req.cacheScope == repo) = false := by simpa using Ne.symm hcache
        simp [hscope, hcache, hne', hlater]

/-- A scope that leaks makes a shared repository writable. -/
theorem not_confined_of_scopeLeaks {claims : RegistryTokenClaims}
    (hadmin : req.isAdminBuild = false)
    (hclaims : claims.repoAccess = repoAccess lib registryURL id req tarball)
    (hleak : ScopeLeaks reg registryURL req) : ¬ Confined reg (reg.sign claims) id := by
  rintro ⟨cache, -, hconf⟩
  obtain ⟨hglobal, hbase, hkey, hpath⟩ := hleak
  have hscope : req.cacheScope ≠ "" := by
    intro he
    rw [he] at hglobal
    revert hglobal
    decide
  have hwrite := (writable_tenant hadmin hclaims _).mpr
    ⟨hpath, .inr ⟨hscope, rfl, find_earlierPulls_eq_none.mpr ⟨hbase, hkey⟩⟩⟩
  have hout := (hconf _ hwrite).2.1
  rw [hasPrefix_cache_global, hglobal] at hout
  cases hout

/-- A scope that does not leak confines the token, to the tenant cache it names. -/
theorem confined_of_not_scopeLeaks {claims : RegistryTokenClaims}
    (hadmin : req.isAdminBuild = false)
    (hclaims : claims.repoAccess = repoAccess lib registryURL id req tarball)
    (hleak : ¬ ScopeLeaks reg registryURL req) : Confined reg (reg.sign claims) id := by
  refine ⟨"cache/" ++ req.cacheScope, hasPrefix_append _ _, fun repo hwrite => ?_⟩
  obtain ⟨hpath, rfl | ⟨-, rfl, hfind⟩⟩ := (writable_tenant hadmin hclaims repo).mp hwrite
  · exact ⟨.inl rfl, hasPrefix_builds_global id, fun _ => rfl⟩
  · obtain ⟨hbase, hkey⟩ := find_earlierPulls_eq_none.mp hfind
    refine ⟨.inr rfl, ?_, fun hb => ?_⟩
    · rw [hasPrefix_cache_global]
      by_contra hglobal
      exact hleak ⟨by simpa using hglobal, hbase, hkey, hpath⟩
    · rw [hasPrefix_cache_builds] at hb
      cases hb

/-- **Where a tenant's token writes.** The token that `CreateBuild` or `refreshBuildToken` issues
for a build of a tenant is confined to its own repository and one tenant cache exactly when the
request's scope does not leak. -/
theorem write_confined_iff (config : Option String) {now : Int}
    (hadmin : req.isAdminBuild = false)
    (h : createBuildToken reg lib registryURL id req tarball now = .ok token ∨
      refreshBuildToken reg lib registryURL config id req tarball now = .ok token) :
    Confined reg token id ↔ ¬ ScopeLeaks reg registryURL req := by
  obtain ⟨claims, rfl, hclaims⟩ := issued_sign h
  constructor
  · intro hconf hleak
    exact not_confined_of_scopeLeaks hadmin hclaims hleak hconf
  · exact confined_of_not_scopeLeaks hadmin hclaims

/-- A registry that hands out its claims as tokens and routes the manifests tagged `latest`. -/
def plainRegistry : Registry RegistryTokenClaims where
  sign claims := claims
  parse := .ok
  parse_sign _ := rfl
  extractRepo path :=
    if hasPrefix path "/v2/" && hasSuffix path "/manifests/latest" then
      trimSuffix (trimPrefix path "/v2/") "/manifests/latest"
    else ""

def plainBuildLib : BuildLib where
  parseReference _ := none
  lower := toLower

def tenantRequest (cacheScope : String) : CreateBuildRequest where
  dockerfile := "FROM node:20"
  cacheScope := cacheScope
  globalCacheKey := ""
  isAdminBuild := false
  timeoutSeconds := none

theorem write_confined_acme :
    ∃ token, createBuildToken plainRegistry plainBuildLib "https://registry.local" "b1"
        (tenantRequest "acme") none 0 = .ok token ∧ Confined plainRegistry token "b1" := by
  refine ⟨_, rfl, (write_confined_iff none rfl (.inl rfl)).mpr ?_⟩
  rintro ⟨hglobal, -⟩
  revert hglobal
  decide

/-- **A scope reaches the shared cache.** The token of a tenant build with the scope `global/node`
writes to `cache/global/node`. -/
theorem scope_reaches_global_cache :
    ¬ ∀ req tarball now token, req.isAdminBuild = false →
      createBuildToken plainRegistry plainBuildLib "https://registry.local" "b1" req tarball now =
        .ok token → Confined plainRegistry token "b1" := by
  intro h
  refine not_confined_of_scopeLeaks rfl rfl ?_
    (h (tenantRequest "global/node") none 0 _ rfl rfl)
  refine ⟨by decide, by decide, by decide, "/v2/cache/global/node/manifests/latest", by decide⟩

end Hypeman.Builds
