import ToolPlugins.UriReference.Basic

/-!
Reading references. Only ASCII characters of the part's class and octets written with a percent sign
may stand in a part. The first fault is reported with the number of bytes before it, which is the
number of characters before it, since all of them are ASCII.
-/

namespace ToolPlugins.UriReference

/-- What is wrong with a text that is no reference, and how many bytes stand before it. -/
inductive Fault where
  | character (index : Nat)
  | octet (index : Nat)
  | address (index : Nat)
  deriving DecidableEq, Repr

def Fault.message : Fault → String
  | .character index => "unexpected character at index " ++ toString index
  | .octet index => "invalid percent-encoded octet at index " ++ toString index
  | .address index => "invalid IPv6 address at index " ++ toString index

/-- The characters of a segment of a path. -/
def isPathChar (c : Char) : Bool := isPlain c || c == ':' || c == '@'

/-- The characters of a query and of a fragment. -/
def isTailChar (c : Char) : Bool := isPathChar c || c == '/' || c == '?'

/-- The characters of a scheme. -/
def isSchemeChar (c : Char) : Bool := c.isAlphanum || c == '+' || c == '-' || c == '.'

/-- The text up to the first character that is neither in a class nor in a percent octet, and the rest
    with its index. -/
def span (isAllowed : Char → Bool) (index : Nat) :
    List Char → Except Fault (List Char × Nat × List Char)
  | [] => .ok ([], index, [])
  | '%' :: rest =>
    match rest with
    | a :: b :: more =>
      if (Text.hexValue? a).isSome && (Text.hexValue? b).isSome then do
        let (taken, index, rest) ← span isAllowed (index + 3) more
        .ok ('%' :: a :: b :: taken, index, rest)
      else .error (.octet index)
    | _ => .error (.octet index)
  | c :: rest =>
    if isAllowed c then do
      let (taken, index, rest) ← span isAllowed (index + 1) rest
      .ok (c :: taken, index, rest)
    else .ok ([], index, c :: rest)

/-- Nothing is lost, and the index counts what was taken. -/
theorem append_of_span {isAllowed : Char → Bool} {s taken left : List Char} {index next : Nat}
    (h : span isAllowed index s = .ok (taken, next, left)) :
    taken ++ left = s ∧ next = index + taken.length := by
  fun_induction span isAllowed index s generalizing taken next left with
  | case1 => cases h; simp
  | case2 index a b more _ ih =>
    cases hm : span isAllowed (index + 3) more with
    | error => simp [hm, bind, Except.bind] at h
    | ok answer =>
      simp only [hm, bind, Except.bind, Except.ok.injEq, Prod.mk.injEq] at h
      obtain ⟨rfl, rfl, rfl⟩ := h
      obtain ⟨hs, hn⟩ := ih hm
      exact ⟨by simp [hs], by simp; omega⟩
  | case3 => cases h
  | case4 => cases h
  | case5 index c rest _ _ ih =>
    cases hm : span isAllowed (index + 1) rest with
    | error => simp [hm, bind, Except.bind] at h
    | ok answer =>
      simp only [hm, bind, Except.bind, Except.ok.injEq, Prod.mk.injEq] at h
      obtain ⟨rfl, rfl, rfl⟩ := h
      obtain ⟨hs, hn⟩ := ih hm
      exact ⟨by simp [hs], by simp; omega⟩
  | case6 => cases h; simp

/-- The end of a reference: its fragment, if a hash stands here. -/
def readFragment (r : UriReference) (index : Nat) : List Char → Except Fault UriReference
  | [] => .ok r
  | '#' :: rest => do
    let (fragment, index, rest) ← span isTailChar (index + 1) rest
    if rest.isEmpty then .ok { r with fragment := some fragment } else .error (.character index)
  | _ => .error (.character index)

/-- What follows the path: a query, if a question mark stands here, and a fragment. -/
def readTail (r : UriReference) (index : Nat) : List Char → Except Fault UriReference
  | '?' :: rest => do
    let (query, index, rest) ← span isTailChar (index + 1) rest
    readFragment { r with query := some query } index rest
  | rest => readFragment r index rest

/-- The path after a scheme, and what follows it. -/
def readPath (r : UriReference) (index : Nat) (s : List Char) : Except Fault UriReference := do
  let (path, index, rest) ← span (fun c => isPathChar c || c == '/') index s
  readTail { r with path } index rest

/-- The path after an authority: nothing, or one that starts with a slash. -/
def readRootedPath (r : UriReference) (index : Nat) (s : List Char) : Except Fault UriReference := do
  let (path, next, rest) ← span (fun c => isPathChar c || c == '/') index s
  match path with
  | [] | '/' :: _ => readTail { r with path } next rest
  | _ => .error (.character index)

/-- The path of a reference without scheme and authority: no colon stands in its first segment. -/
def readLoosePath (s : List Char) : Except Fault UriReference := do
  let (first, index, rest) ← span (fun c => isPathChar c && c != ':') 0 s
  if rest.head? == some ':' then throw (.character index)
  let (others, index, rest) ← span (fun c => isPathChar c || c == '/') index rest
  readTail { path := first ++ others } index rest

/-- A host of a kind to come: `v`, hexadecimal digits, a point and a text. -/
def readLaterHost (index : Nat) (s : List Char) : Except Fault (UriHost × Nat × List Char) :=
  match s with
  | v :: rest =>
    if v = 'v' || v = 'V' then
      let digits := rest.takeWhile fun c => (Text.hexValue? c).isSome
      let index := index + 1 + digits.length
      match digits, rest.drop digits.length with
      | _ :: _, '.' :: rest =>
        let name := rest.takeWhile fun c => isPlain c || c == ':'
        if name.isEmpty then .error (.character (index + 1))
        else
          .ok (.later (v :: digits ++ '.' :: name), index + 1 + name.length, rest.drop name.length)
      | _, _ => .error (.character index)
    else .error (.character index)
  | [] => .error (.character index)

/-- What stands between brackets, whose opening one was passed, and what follows the closing one. -/
def readBrackets (index : Nat) (s : List Char) : Except Fault (UriHost × Nat × List Char) := do
  let (host, index, rest) ←
    if Ip6.starts s then
      match Ip6.read s with
      | some (address, rest) =>
        let written := s.take (s.length - rest.length)
        .ok (UriHost.ip6 written address, index + written.length, rest)
      | none => .error (.address index)
    else readLaterHost index s
  match rest with
  | ']' :: rest => .ok (host, index + 1, rest)
  | _ => .error (.character index)

/-- A host, and what follows it. -/
def readHost (index : Nat) (s : List Char) : Except Fault (UriHost × Nat × List Char) :=
  match s with
  | '[' :: rest => readBrackets (index + 1) rest
  | _ => do
    let (name, index, rest) ← span isPlain index s
    .ok (.name name, index, rest)

/-- A port, if a colon stands here, and what follows it. -/
def readPort (index : Nat) (s : List Char) : Option (List Char) × Nat × List Char :=
  match s with
  | ':' :: rest =>
    let digits := rest.takeWhile Char.isDigit
    (some digits, index + 1 + digits.length, rest.drop digits.length)
  | _ => (none, index, s)

/-- A host and a port with the path and what follows it. -/
def readServer (r : UriReference) (user : Option (List Char)) (index : Nat) (s : List Char) :
    Except Fault UriReference := do
  let (host, index, rest) ← readHost index s
  let (port, index, rest) := readPort index rest
  readRootedPath { r with authority := some { user, host, port } } index rest

/-- A host and a port that were read as one text from an index on. -/
def splitPort (text : List Char) (index : Nat) : Except Fault UriAuthority :=
  let name := text.takeWhile (· != ':')
  match text.drop name.length with
  | [] => .ok { host := .name name }
  | _ :: port =>
    if port.contains ':' then
      .error (.character (index + text.length - 1 - (text.reverse.takeWhile (· != ':')).length))
    else
      let digits := port.takeWhile Char.isDigit
      if digits.length = port.length then .ok { host := .name name, port := some port }
      else .error (.character (index + name.length + 1 + digits.length))

/-- The authority, the path and what follows it. What stands before an at sign is the user. -/
def readAuthority (r : UriReference) (index : Nat) (s : List Char) : Except Fault UriReference := do
  let (front, next, rest) ← span (fun c => isPlain c || c == ':') index s
  match front, rest with
  | user, '@' :: rest => readServer r (some user) (next + 1) rest
  | [], '[' :: _ => readServer r none index rest
  | text, _ => do
    let authority ← splitPort text index
    readRootedPath { r with authority := some authority } next rest

/-- The reference that a text writes, or the first fault of the text. -/
def ofText (text : String) : Except Fault UriReference :=
  let s := text.toList
  let scheme := s.takeWhile isSchemeChar
  match s.drop scheme.length with
  | ':' :: rest =>
    if (scheme.head?.map Char.isAlpha).getD false then
      let index := scheme.length + 1
      match rest with
      | '/' :: '/' :: rest => readAuthority { scheme := some scheme } (index + 2) rest
      | _ => readPath { scheme := some scheme } index rest
    else .error (.character 0)
  | _ =>
    match s with
    | '/' :: '/' :: rest => readAuthority {} 2 rest
    | _ => readLoosePath s

end ToolPlugins.UriReference
