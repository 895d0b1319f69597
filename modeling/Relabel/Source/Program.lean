import Relabel.Source.Module
import Relabel.Source.Numbering

/-!
# Programs

A text is read as a script, and if that fails and the text mentions imports or exports, as a
module.
-/

namespace Relabel.Source

/-- The grammar that reads nested constructs one level deeper than another one. -/
def Grammar.deepen (g : Grammar) : Grammar where
  assignment := Source.assignment g
  exponentiation := Source.exponentiation g
  unary := Source.unary g
  call := Source.call g
  maker := Source.maker g
  pattern := Source.pattern g
  statement := Source.statement g
  item := Source.item g

/-- The grammar that reads constructs nested to a depth. -/
def Grammar.ofDepth : Nat → Grammar → Grammar
  | 0, g => g
  | depth + 1, g => Grammar.ofDepth depth g.deepen

/-- Constructs are nested no deeper than the text is long: between two tokens at most two levels
are entered. -/
def Grammar.forText (text : String) : Grammar :=
  .ofDepth (3 * text.length + 8) .empty

/-- A whole program: directives, and then all statements and declarations. -/
def program (g : Grammar) : Parsing Piece := do
  let start ← here
  let first ← directives g
  let rest ← collect do
    if (← lookahead).type == .endOfText then return none
    return some (← g.item)
  finish start .program (many .body (first ++ rest))

def parseAs (context : Context) (text : String) : Except ReadFault Node := do
  let c ← Cursor.start text context
  let (tree, _) ← (program (.forText text)).run c
  return number 0 tree.node

end Relabel.Source

namespace Relabel

inductive SourceType where
  | script | module
deriving Repr, DecidableEq, Inhabited

def SourceType.text : SourceType → String
  | script => "script"
  | module => "module"

/-- A program that was read from a text. -/
structure Source where
  type : SourceType
  text : String
  tree : Node

namespace Source

def parseScript (text : String) : Except ReadFault Node :=
  parseAs {} text

def parseModule (text : String) : Except ReadFault Node :=
  parseAs { isModule := true, strict := true } text

/-- Words that occur in every module that imports or exports anything. -/
def moduleHints : List String := ["import", "export"]

/-- Whether a text contains another one. -/
def mentions (hint : List Char) : List Char → Bool
  | [] => hint.isEmpty
  | c :: rest => hint.isPrefixOf (c :: rest) || mentions hint rest

def parse (text : String) : Except ReadFault Source :=
  match parseScript text with
  | .ok tree => .ok { type := .script, text, tree }
  | .error .headlessTemplate => .error .headlessTemplate
  | .error (.refused fault) =>
    if moduleHints.any fun hint ↦ mentions hint.toList text.toList then
      (fun tree ↦ { type := .module, text, tree }) <$> parseModule text
    else .error (.refused fault)

/-- The number of lines of the text. -/
def lineCount (s : Source) : Nat :=
  s.text.toList.count '\n' + 1

end Source

end Relabel
