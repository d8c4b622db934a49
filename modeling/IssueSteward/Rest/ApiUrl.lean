import IssueSteward.Text.CharSet

/-!
# Addresses of an API

An address is accepted when it has the form of a URI: an authority alone, a path alone, a star, or a
scheme, an authority and perhaps a path, a query and a fragment. An authority holds at most one
colon outside brackets and before no at sign, and percent signs only before an at sign or in
brackets. Only characters that need no encoding there may stand in it; paths and queries are more
liberal.
-/

namespace IssueSteward.Rest.ApiUrl

open Text

/-- The greatest number of bytes of an address. -/
def greatestSize : Nat := 65534

/-- The greatest number of characters of a scheme. -/
def greatestScheme : Nat := 64

/-- The greatest number of colons that are counted in an authority. -/
def greatestColons : Nat := 8

/-- The characters of a scheme. -/
def schemeChars : CharSet where
  ranges := [(0x2B, 0x2B), (0x2D, 0x2E), (0x30, 0x39), (0x41, 0x5A), (0x61, 0x7A), (0x7E, 0x7E)]

/-- The characters of an authority, percent signs apart. -/
def authorityChars : CharSet where
  ranges := [(0x21, 0x21), (0x24, 0x24), (0x26, 0x2E), (0x30, 0x3B), (0x3D, 0x3D), (0x40, 0x5B),
    (0x5D, 0x5D), (0x5F, 0x5F), (0x61, 0x7A), (0x7E, 0x7E)]

/-- The characters of a path. -/
def pathChars : CharSet where
  ranges := [(0x21, 0x22), (0x24, 0x3B), (0x3D, 0x3D), (0x40, 0x5F), (0x61, 0x7E),
    (0x80, 0x10FFFF)]

/-- The characters of a query. -/
def queryChars : CharSet where
  ranges := [(0x21, 0x21), (0x24, 0x3B), (0x3D, 0x3D), (0x3F, 0x7E), (0x80, 0x10FFFF)]

/-- How an address begins. -/
inductive Start where
  /-- Without a scheme. -/
  | bare
  /-- With a scheme that is too long. -/
  | overlong
  /-- With a scheme, after which and its colon and slashes the text is given. -/
  | scheme (rest : List Char)

/-- How an address begins, of which `n` characters are known to be characters of a scheme. -/
def start (n : Nat) : List Char → Start
  | ':' :: '/' :: '/' :: s => if n ≤ greatestScheme then .scheme s else .overlong
  | c :: s => if schemeChars.contains c then start (n + 1) s else .bare
  | [] => .bare

/-- What is known of an authority from its beginning on. -/
structure AuthorityScan where
  /-- The colons since the last at sign or closing bracket. -/
  colons : Nat := 0
  /-- Whether a bracket was opened. -/
  opened : Bool := false
  /-- Whether the bracket was closed. -/
  closed : Bool := false
  /-- Whether there was a percent sign since the last at sign or closing bracket. -/
  percent : Bool := false
  /-- Whether the last character is an at sign. -/
  endsInAt : Bool := false

/-- What is known of an authority after one more character, if that may stand there. -/
def AuthorityScan.step (a : AuthorityScan) (c : Char) : Option AuthorityScan :=
  let a := { a with endsInAt := c = '@' }
  if c = ':' then
    if a.colons < greatestColons then some { a with colons := a.colons + 1 } else none
  -- A bracket encloses an address with colons of its own, and there is at most one.
  else if c = '[' then
    if a.percent || a.opened then none else some { a with opened := true }
  else if c = ']' then
    if a.opened && !a.closed then some { a with closed := true, colons := 0, percent := false }
    else none
  -- What precedes an at sign names a user, whose colons and percent signs do not count.
  else if c = '@' then some { a with colons := 0, percent := false }
  else if c = '%' then some { a with percent := true }
  else if authorityChars.contains c then some a
  else none

/-- Whether an authority may end where it does. -/
def AuthorityScan.mayEnd (a : AuthorityScan) : Bool :=
  a.opened == a.closed && a.colons ≤ 1 && !a.endsInAt && !a.percent

/-- Whether a text has the form of an authority. -/
def isAuthority (s : List Char) : Bool :=
  (s.foldlM AuthorityScan.step {}).any AuthorityScan.mayEnd

/-- Whether a character ends an authority. -/
def endsAuthority (c : Char) : Bool := c = '/' || c = '?' || c = '#'

/-- The part of a text that is a path, which a question mark or a number sign ends. -/
def pathOf (s : List Char) : List Char := s.takeWhile fun c => c != '?' && c != '#'

/-- Whether a text has the form of a path, perhaps with a query and a fragment after it. -/
def isPath (s : List Char) : Bool :=
  (pathOf s).all pathChars.contains &&
    match s.dropWhile fun c => c != '?' && c != '#' with
    | '?' :: query => (query.takeWhile (· != '#')).all queryChars.contains
    | _ => true

/-- Whether a text is an authority followed by a path. -/
def isAddress (s : List Char) : Bool :=
  let authority := s.takeWhile (!endsAuthority ·)
  !authority.isEmpty && isAuthority authority && isPath (s.dropWhile (!endsAuthority ·))

/-- Whether a text has the form of an address. -/
def accepts (url : String) : Bool :=
  url.utf8ByteSize ≤ greatestSize &&
    -- The four forms: nothing else but a star, a path, a scheme first, an authority alone.
    match url.toList with
    | [] => false
    | ['*'] => true
    | '/' :: s => isPath ('/' :: s)
    | s =>
      match start 0 s with
      | .overlong => false
      | .scheme rest => isAddress rest
      | .bare => !s.any endsAuthority && isAuthority s

/-- Whether an address has a scheme. -/
def hasScheme (url : String) : Bool :=
  match start 0 url.toList with
  | .scheme _ => true
  | _ => false

/-- Whether an address is an authority alone. -/
def isAuthorityAlone (url : String) : Bool :=
  url != "*" && !url.startsWith "/" && !hasScheme url

/-- The path of an address without the slashes at its end. -/
def basePath (url : String) : String :=
  let s := url.toList
  let rest := match start 0 s with
    | .scheme rest => rest
    | _ => s
  let path := pathOf (rest.dropWhile (!endsAuthority ·))
  String.ofList (path.reverse.dropWhile (· == '/')).reverse

end IssueSteward.Rest.ApiUrl
