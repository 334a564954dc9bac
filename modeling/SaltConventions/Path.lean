import SaltConventions.Text.Pieces

/-!
# Paths

A path is kept as the text it was written with, and is compared through its components: repeated and
trailing slashes do not count, a dot counts only as the first component of a relative path, and two
dots are kept. Joining works on the text, so a path is shown the way it was put together.
-/

namespace SaltConventions

/-- One step of a path. -/
inductive Component where
  | root
  | here
  | up
  | name (text : String)
  deriving DecidableEq, Repr, Inhabited

namespace Component

/-- The place of a component's kind in the order: root, dot, two dots, names. -/
def rank : Component → Nat
  | root => 0
  | here => 1
  | up => 2
  | name _ => 3

/-- Components in order: by kind, then names by their text. -/
def order : Component → Component → Ordering
  | name a, name b => compareOfLessAndEq a b
  | a, b => compareOfLessAndEq a.rank b.rank

def text : Component → String
  | root => "/"
  | here => "."
  | up => ".."
  | name n => n

end Component

/-- A path, as it is written. -/
structure Path where
  text : String
  deriving DecidableEq, Repr, Inhabited

namespace Path

def segments (p : Path) : List String :=
  Text.splitAt '/' p.text

def isAbsolute (p : Path) : Bool :=
  p.text.toList.head? == some '/'

/-- What a segment other than the first one of a path stands for; empty ones and dots for nothing.
-/
def innerComponent? (segment : String) : Option Component :=
  if segment = "" ∨ segment = "." then none
  else if segment = ".." then some .up
  else some (.name segment)

def components (p : Path) : List Component :=
  match p.segments with
  | [] => []
  | first :: later =>
    let rest := later.filterMap innerComponent?
    if p.isAbsolute then .root :: rest
    else if first = "." then .here :: rest
    else (innerComponent? first).toList ++ rest

/-- Appends a path: an absolute one replaces what is there, and a slash is put between if there is
text to divide and no slash yet. -/
def join (p q : Path) : Path :=
  if q.isAbsolute then q
  else if p.text = "" ∨ p.text.toList.getLast? = some '/' then ⟨p.text ++ q.text⟩
  else ⟨p.text ++ "/" ++ q.text⟩

def ofComponents (cs : List Component) : Path :=
  cs.foldl (fun p c => p.join ⟨c.text⟩) ⟨""⟩

/-- A path with some names joined to it, one after another. -/
def descend (p : Path) (names : List String) : Path :=
  names.foldl (fun p name => p.join ⟨name⟩) p

def fileName? (p : Path) : Option String :=
  match p.components.getLast? with
  | some (.name n) => some n
  | _ => none

/-- The first `n` characters of a path. -/
def beginning (p : Path) (n : Nat) : Path :=
  ⟨String.ofList (p.text.toList.take n)⟩

/-- The path without its last component, as far as it is written: the shortest beginning of the text
that has all the other components. The root and the empty path have none. -/
def parent? (p : Path) : Option Path :=
  match p.components.getLast? with
  | none => none
  | some .root => none
  | some _ =>
    let others := p.components.dropLast
    ((List.range (p.text.length + 1)).map p.beginning).find? (·.components == others)

/-- Whether the file name ends in a dot and `extension`, with something before the dot. -/
def hasExtension (extension : String) (p : Path) : Bool :=
  match p.fileName? with
  | none => false
  | some name =>
    match Text.splitAt '.' name with
    | [] => false
    | [_] => false
    | first :: later => later.getLast? == some extension && (first != "" || later.length != 1)

/-- The path with a dot and `extension` written after it. -/
def withExtension (p : Path) (extension : String) : Path :=
  ⟨p.text ++ "." ++ extension⟩

/-- Whether the components of `base` are the first ones of `p`. -/
def startsWith (p base : Path) : Bool :=
  base.components.isPrefixOf p.components

/-- `p` seen from `base`: an absolute path loses the components of `base` if it starts with them,
and dots are dropped. A relative path is taken as seen from `base` already. -/
def relativeTo (p base : Path) : Path :=
  let cs := p.components
  let inner :=
    if p.isAbsolute && p.startsWith base then cs.drop base.components.length else cs
  ofComponents (inner.filter (· != .here))

/-- Two lists of components in order. -/
def orderComponents : List Component → List Component → Ordering
  | [], [] => .eq
  | [], _ :: _ => .lt
  | _ :: _, [] => .gt
  | a :: as, b :: bs => (a.order b).then (orderComponents as bs)

/-- Paths in order, component by component. -/
def order (p q : Path) : Ordering :=
  orderComponents p.components q.components

end Path

end SaltConventions
