import ToolPlugins.UriReference.Address

/-!
References to resources. A reference is a scheme with its colon, an authority after two slashes, a
path, a query after a question mark and a fragment after a hash; every part but the path may be
missing.
-/

namespace ToolPlugins

/-- Where a resource is: a name, an address as it is written between brackets, or what stands between
    brackets for an address of a kind to come. -/
inductive UriHost where
  | name (text : List Char)
  | ip6 (text : List Char) (address : Ip6)
  | later (text : List Char)
  deriving DecidableEq, Repr

/-- Who answers for a resource. -/
structure UriAuthority where
  user : Option (List Char) := none
  host : UriHost
  port : Option (List Char) := none
  deriving DecidableEq, Repr

/-- A reference to a resource. -/
structure UriReference where
  scheme : Option (List Char) := none
  authority : Option UriAuthority := none
  path : List Char := []
  query : Option (List Char) := none
  fragment : Option (List Char) := none
  deriving DecidableEq, Repr

/-- A host as it is written. -/
def UriHost.text : UriHost → List Char
  | .name text => text
  | .ip6 text _ => ['['] ++ text ++ [']']
  | .later text => ['['] ++ text ++ [']']

/-- An authority as it is written. -/
def UriAuthority.text (a : UriAuthority) : List Char :=
  (a.user.elim [] fun user => user ++ ['@']) ++ a.host.text ++ (a.port.elim [] fun port => ':' :: port)

namespace UriReference

/-- A reference as it is written. -/
def text (r : UriReference) : String :=
  String.ofList <|
    (r.scheme.elim [] fun scheme => scheme ++ [':']) ++
    (r.authority.elim [] fun authority => ['/', '/'] ++ authority.text) ++
    r.path ++
    (r.query.elim [] fun query => '?' :: query) ++
    (r.fragment.elim [] fun fragment => '#' :: fragment)

/-- The reference to the whole of a resource. -/
def withoutFragment (r : UriReference) : UriReference := { r with fragment := none }

/-- Whether the path starts with a slash. -/
def isRooted (r : UriReference) : Bool := r.path.head? == some '/'

/-- Letters and digits, and the marks that never mean anything. -/
def isUnreserved (c : Char) : Bool := c.isAlphanum || ['-', '.', '_', '~'].contains c

/-- The characters without a meaning, and those that delimit parts of a part. -/
def isPlain (c : Char) : Bool :=
  isUnreserved c || ['!', '$', '&', '\x27', '(', ')', '*', '+', ',', ';', '='].contains c

end UriReference

end ToolPlugins
