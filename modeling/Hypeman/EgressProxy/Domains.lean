import Hypeman.Foundations.Strings

/-!
# Destination hosts and allowed domain patterns

Model of `lib/egressproxy/domains.go`: the normal form of a destination host, the patterns an
inject rule may list (an exact host or address, or `*.` and a name of at least two labels), and
the matchers they compile to. What the code takes from Go's `net`, `net/textproto`, `unicode` and
`strconv` packages is a parameter, `GoLib`.
-/

namespace Hypeman.EgressProxy

open Hypeman.Foundations.Strings

/-- The functions of Go's standard library that the egress proxy calls. -/
structure GoLib where
  /-- `net.SplitHostPort`, without the error text. -/
  splitHostPort : String → Option (String × String)
  /-- `net.ParseIP` followed by `IP.String`. -/
  parseIP : String → Option String
  /-- `unicode.ToLower`. -/
  toLower : Char → Char
  /-- `textproto.CanonicalMIMEHeaderKey`. -/
  canonicalMIMEHeaderKey : String → String
  /-- `strconv.Quote`, the verb `%q`. -/
  quote : String → String

/-- `domainMatcher`; the empty text stands for a field that is not set. -/
structure DomainMatcher where
  exact : String
  wildcardSuffix : String
deriving DecidableEq, Repr

variable (lib : GoLib)

def normalizeDestinationHost (raw : String) : String :=
  let host := trimSpace raw
  if host = "" then ""
  else
    let host := match lib.splitHostPort host with
      | some (h, _) => h
      | none => host
    let host := trimPrefix host "["
    let host := trimSuffix host "]"
    let host := trimSuffix host "."
    let host := String.ofList (host.toList.map lib.toLower)
    match lib.parseIP host with
    | some ip => ip
    | none => host

/-- The test of one label in `isValidDNSName`. -/
def isValidDNSLabel (label : String) : Bool :=
  let cs := label.toList
  label != "" && label.utf8ByteSize ≤ 63 &&
    cs.all (fun ch => ('a' ≤ ch && ch ≤ 'z') || ('0' ≤ ch && ch ≤ '9') || ch == '-') &&
    cs.head? != some '-' && cs.getLast? != some '-'

def isValidDNSName (host : String) : Bool :=
  host != "" && host.utf8ByteSize ≤ 253 && (split host '.').all isValidDNSLabel

def NormalizeAllowedDomainPattern (pattern : String) : Except String String :=
  let p := trimSpace pattern
  if p = "" then .error "allowed domain pattern must be non-empty"
  else if contains p "://" || containsAny p "/?#" then
    .error s!"allowed domain pattern {lib.quote p} must be a host pattern without scheme/path"
  else if (lib.splitHostPort p).isSome then
    .error s!"allowed domain pattern {lib.quote p} must not include a port"
  else if hasPrefix p "*." then
    let suffixRaw := trimPrefix p "*."
    if contains suffixRaw ":" then
      .error s!"allowed wildcard domain pattern {lib.quote p} must not include a port"
    else
      let base := normalizeDestinationHost lib suffixRaw
      if base = "" then
        .error s!"allowed wildcard domain pattern {lib.quote p} has empty suffix"
      else if (lib.parseIP base).isSome then
        .error s!"allowed wildcard domain pattern {lib.quote p} cannot target an IP"
      else if !isValidDNSName base then
        .error s!"allowed wildcard domain pattern {lib.quote p} has invalid hostname suffix"
      else if count base '.' < 1 then
        .error
          s!"allowed wildcard domain pattern {lib.quote p} must target at least a two-label domain"
      else .ok ("*." ++ base)
  else if contains p "*" then
    .error s!"allowed domain pattern {lib.quote p} has unsupported wildcard syntax"
  else
    let host := normalizeDestinationHost lib p
    if host = "" then .error s!"allowed domain pattern {lib.quote p} has empty host"
    else if (lib.parseIP host).isSome then .ok host
    else if !isValidDNSName host then
      .error s!"allowed domain pattern {lib.quote p} has invalid hostname"
    else .ok host

/-- The matcher of one normalised pattern. -/
def matcherOf (normalized : String) : DomainMatcher :=
  if hasPrefix normalized "*." then
    { exact := "", wildcardSuffix := "." ++ trimPrefix normalized "*." }
  else { exact := normalized, wildcardSuffix := "" }

/-- `compileDomainMatchers`: the first pattern that is refused refuses the list. -/
def compileDomainMatchers (patterns : List String) : Except String (List DomainMatcher) :=
  patterns.mapM fun raw => (NormalizeAllowedDomainPattern lib raw).map matcherOf

end Hypeman.EgressProxy
