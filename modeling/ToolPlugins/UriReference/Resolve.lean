import ToolPlugins.UriReference.Reader

/-!
References seen from one another. A reference without a scheme is completed by a base; references that
mean the same by their form alone have one normal form.
-/

namespace ToolPlugins.UriReference

/-! ### Normal forms -/

/-- The text with every percent octet in capital letters, or as the character that it stands for where
    this has no meaning of its own. -/
def plainOctets : List Char → List Char
  | '%' :: a :: b :: rest =>
    let code := (Text.hexValue? a).getD 0 * 16 + (Text.hexValue? b).getD 0
    let c := Char.ofNat code
    if code < 0x80 && isUnreserved c then c :: plainOctets rest
    else '%' :: a.toUpper :: b.toUpper :: plainOctets rest
  | c :: rest => c :: plainOctets rest
  | [] => []

/-- The text in small letters, but for its percent octets. -/
def smallLetters : List Char → List Char
  | '%' :: a :: b :: rest => '%' :: a :: b :: smallLetters rest
  | c :: rest => c.toLower :: smallLetters rest
  | [] => []

/-- Whether a segment of a path stands for the place itself; its dot may be a percent octet. -/
def isHere (segment : List Char) : Bool := plainOctets segment == ['.']

/-- Whether a segment of a path leads one step back; its dots may be percent octets. -/
def isBack (segment : List Char) : Bool := plainOctets segment == ['.', '.']

/-- The segments of a path without those that only lead around; `before` are the segments before them,
    the last one first. -/
def dropDots (before : List (List Char)) : List (List Char) → List (List Char)
  | [] => before.reverse
  | segment :: rest =>
    let before := if isBack segment then before.tail else before
    if isHere segment || isBack segment then
      if rest.isEmpty then ([] :: before).reverse else dropDots before rest
    else dropDots (segment :: before) rest

/-- A path that starts with a slash, without segments that only lead around. -/
def straight (path : List Char) : List Char :=
  match path with
  | '/' :: rest => '/' :: ['/'].intercalate (dropDots [] (rest.splitOn '/'))
  | _ => path

/-- The reference with a path that cannot be taken for an authority. -/
def guarded (r : UriReference) : UriReference :=
  match r.authority, r.path with
  | none, '/' :: '/' :: _ => { r with path := '/' :: '.' :: r.path }
  | _, _ => r

/-- The normal form of a host. -/
def normalHost : UriHost → UriHost
  | .name text => .name (smallLetters (plainOctets text))
  | .ip6 _ address => .ip6 address.text address
  | .later text => .later (text.map Char.toLower)

/-- The normal form of an authority: an empty port is left out. -/
def normalAuthority (a : UriAuthority) : UriAuthority :=
  { user := a.user.map plainOctets
    host := normalHost a.host
    port := a.port.filter fun port => !port.isEmpty }

/-- The normal form of a reference. -/
def normalize (r : UriReference) : UriReference :=
  let path := plainOctets r.path
  guarded
    { scheme := r.scheme.map fun scheme => scheme.map Char.toLower
      authority := r.authority.map normalAuthority
      path := if r.scheme.isSome then straight path else path
      query := r.query.map plainOctets
      fragment := r.fragment.map plainOctets }

/-! ### Resolution -/

/-- Why a reference cannot be seen from a base. -/
inductive ResolveFault where
  | baseWithFragment
  | rootlessBase
  deriving DecidableEq, Repr

def ResolveFault.message : ResolveFault → String
  | .baseWithFragment => "base URI/IRI with fragment"
  | .rootlessBase => "relative reference must be empty or start with '#' when resolved against " ++
      "authority-less base URI/IRI with rootless path"

/-- The path of a reference after the path of a base up to its last slash. -/
def mergePath (base r : UriReference) : List Char :=
  if base.authority.isSome && base.path.isEmpty then '/' :: r.path
  else (base.path.reverse.dropWhile (· != '/')).reverse ++ r.path

/-- A reference seen from a base that has a scheme. -/
def seenFrom (base r : UriReference) : Except ResolveFault UriReference :=
  if base.fragment.isSome then .error .baseWithFragment
  else if r.scheme.isSome then .ok (guarded { r with path := straight r.path })
  else if base.authority.isNone && !base.isRooted && (r.withoutFragment).text != "" then
    .error .rootlessBase
  else
    let r := { r with scheme := base.scheme }
    if r.authority.isSome then .ok { r with path := straight r.path }
    else
      let r := { r with authority := base.authority }
      if r.path.isEmpty then .ok { r with path := base.path, query := r.query <|> base.query }
      else if r.isRooted then .ok (guarded { r with path := straight r.path })
      else .ok (guarded { r with path := straight (mergePath base r) })

end ToolPlugins.UriReference
