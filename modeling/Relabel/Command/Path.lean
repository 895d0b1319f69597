/-!
# Paths

A path is a list of names, perhaps starting at the root. Empty names and single dots say nothing
and are left out; double dots are kept. The order of paths is that of their lists of names.
-/

namespace Relabel

structure Path where
  /-- The slashes at the start of the path: none, one, or two. -/
  root : String := ""
  parts : List String := []
deriving Repr, DecidableEq, Inhabited

namespace Path

/-- The pieces of a text between slashes. -/
def splitSlashes : List Char → List (List Char)
  | [] => [[]]
  | c :: rest =>
    if c == '/' then [] :: splitSlashes rest
    else
      match splitSlashes rest with
      | piece :: pieces => (c :: piece) :: pieces
      | [] => [[c]]

def ofText (text : String) : Path :=
  let root := match (text.toList.takeWhile (· == '/')).length with
    | 0 => ""
    | 2 => "//"
    | _ => "/"
  let pieces := (splitSlashes text.toList).map String.ofList
  { root, parts := pieces.filter fun piece ↦ piece != "" && piece != "." }

def text (p : Path) : String :=
  if p.root.isEmpty && p.parts.isEmpty then "." else p.root ++ "/".intercalate p.parts

def isAbsolute (p : Path) : Bool :=
  !p.root.isEmpty

/-- The last name of a path. -/
def name (p : Path) : String :=
  p.parts.getLastD ""

def parent (p : Path) : Path :=
  { p with parts := p.parts.dropLast }

def append (p q : Path) : Path :=
  if q.isAbsolute then q else { p with parts := p.parts ++ q.parts }

/-- A name without its ending, which starts at the last dot. A dot at the start or at the end of
the name starts no ending. -/
def stemOf (name : List Char) : List Char :=
  let ending := name.reverse.takeWhile (· != '.')
  let stem := name.take (name.length - ending.length - 1)
  if ending.isEmpty || stem.isEmpty then name else stem

def stem (p : Path) : String :=
  String.ofList (stemOf p.name.toList)

/-- The path with another last name, if that is a single name. Single dots before the name stay as
they are written. -/
def withName? (p : Path) (name : String) : Option Path :=
  match ofText name with
  | ⟨"", [_]⟩ =>
    if name.endsWith "/" then none
    else
      let pieces := (splitSlashes name.toList).map String.ofList
      some { p with parts := p.parts.dropLast ++ pieces }
  | _ => none

/-- The order of lists of names. -/
def partsLe : List String → List String → Bool
  | [], _ => true
  | _ :: _, [] => false
  | a :: as, b :: bs => if a = b then partsLe as bs else a < b

def le (p q : Path) : Bool :=
  partsLe p.parts q.parts

end Path

end Relabel
