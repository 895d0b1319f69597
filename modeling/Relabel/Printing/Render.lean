import Relabel.Printing.Statement

/-!
# The printed form of a tree

A node's text is put together from the renderings of its children, so the text of a tree depends on
the tree alone.
-/

namespace Relabel

namespace Printing

/-- The rendering of a node from those of its children. -/
def rendering (n : Node) (branches : List (Field × Option Rendering)) : Rendering :=
  let p : Parts := ⟨n, branches⟩
  { node := n
    expression := expression p
    statement := statement p
    callable := callable p
    loopTarget := loopTarget p (expression p { level := Level.call })
    lead := lead p }

/-- The kinds that have no printed form. -/
def isUnsupported : Kind → Bool
  | .importCall | .exportDefaultSpecifier | .other _ => true
  | _ => false

end Printing

/-- The printed form of a tree. -/
def Node.render (n : Node) : Except PrintFault String :=
  let r := Node.fold Printing.rendering n
  match n.kind with
  | none => .error .notNode
  | some kind =>
    if kind.isStatement then r.statement {} 0
    else if Printing.isUnsupported kind then .error (.unsupportedNode kind.tag)
    else r.expression {} 0

/-- Whether the printed form of a node is a given text. -/
def Node.rendersAs (n : Node) (text : String) : Except PrintFault Bool :=
  return (← n.render) == text

end Relabel
