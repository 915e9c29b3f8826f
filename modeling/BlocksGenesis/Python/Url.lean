import BlocksGenesis.Python.Lower

/-! `urllib.parse.urlsplit`, as far as the scheme, the netloc and the host of a URL. -/

namespace Python.Url

/-- What it calls: `str.lower`, and what it asks of a netloc that has brackets or is not ASCII, which
is that the brackets hold an address and that NFKC brings out no delimiter. -/
structure Library where
  lower : String → String
  accepts : String → Bool

def isC0OrSpace (c : Char) : Bool := c.toNat ≤ 32

def isUnsafe (c : Char) : Bool := c == '\t' || c == '\r' || c == '\n'

/-- The URL without what is stripped from its left, and without what is removed wherever it is. -/
def cleaned (url : List Char) : List Char := (url.dropWhile isC0OrSpace).filter (fun c => !isUnsafe c)

def isSchemeChar (c : Char) : Bool := c.isAlphanum || c == '+' || c == '-' || c == '.'

def isDelimiter (c : Char) : Bool := c == '/' || c == '?' || c == '#'

/-- The scheme and what follows it. -/
def splitScheme (url : List Char) : List Char × List Char :=
  let start := url.takeWhile (· != ':')
  if start.length < url.length && (start.head?).any Char.isAlpha && start.all isSchemeChar then
    (start.map Char.toLower, url.drop (start.length + 1))
  else ([], url)

def netlocOf (rest : List Char) : List Char :=
  if rest.take 2 = ['/', '/'] then (rest.drop 2).takeWhile (fun c => !isDelimiter c) else []

def needsCheck (netloc : List Char) : Bool := netloc.contains '[' || netloc.any (fun c => 128 ≤ c.toNat)

structure SplitResult where
  scheme : List Char
  netloc : List Char

def urlsplit (lib : Library) (url : String) : Except Exc SplitResult :=
  let parts := splitScheme (cleaned url.toList)
  let netloc := netlocOf parts.2
  if netloc.contains '[' != netloc.contains ']' then .error (.valueError "Invalid IPv6 URL")
  else if needsCheck netloc && !lib.accepts (String.ofList netloc) then .error (.valueError "invalid netloc")
  else .ok ⟨parts.1, netloc⟩

/-- `netloc.rpartition("@")[2]`. -/
def hostinfo (netloc : List Char) : List Char := netloc.rtakeWhile (· != '@')

/-- The host as it is written: between brackets, or up to the port. -/
def hostChars (netloc : List Char) : List Char :=
  let info := hostinfo netloc
  if info.contains '[' then ((info.dropWhile (· != '[')).drop 1).takeWhile (· != ']')
  else info.takeWhile (· != ':')

/-- In lower case but for a zone. -/
def lowerHost (lower : String → String) (host : List Char) : String :=
  lower (String.ofList (host.takeWhile (· != '%'))) ++ String.ofList (host.dropWhile (· != '%'))

/-- `urlparse(url).hostname`. -/
def hostname (lib : Library) (url : String) : Except Exc (Option String) := do
  let parts ← urlsplit lib url
  let host := hostChars parts.netloc
  return if host.isEmpty then none else some (lowerHost lib.lower host)

end Python.Url
