import Relabel.Console.Emoji
import Relabel.Console.Literal
import Relabel.Console.Style
import Relabel.Text.Quoted

/-!
# Styled text

Text for a terminal with tags in square brackets. A tag starts with a lowercase letter, a slash, a
number sign or an at sign. Tags style what stands between them and are not shown themselves. A
backslash before a tag makes it plain text, and two backslashes before a tag are one. A tag with a
slash closes the last open tag of its style, or the last open tag if it names none. After an
equality sign a tag has parameters; those of a tag with an at sign are evaluated when it is closed.
In plain text, names of pictures are replaced.
-/

namespace Relabel.Console

inductive MarkupFault where
  | unmatched (tag : String) (position : Nat)
  | nothingOpen (position : Nat)
  /-- The parts of a color are no numbers. -/
  | number (digits : String)
  /-- The parameters of a tag are no literal. What the reader of literals says is left out. -/
  | parameters (text : String)
deriving Repr, DecidableEq

def MarkupFault.message : MarkupFault → String
  | unmatched tag position =>
    "closing tag '[" ++ tag ++ "]' at position " ++ toString position ++
      " doesn't match any open tag"
  | nothingOpen position =>
    "closing tag '[/]' at position " ++ toString position ++ " has nothing to close"
  | number digits =>
    if digits.isEmpty then "invalid literal for int() with base 10: ''"
    else "Exceeds the limit (4300 digits) for integer string conversion: value has " ++
      toString digits.length ++ " digits; use sys.set_int_max_str_digits() to increase the limit"
  | parameters text => "error parsing " ++ Text.quote text

namespace Markup

inductive Piece where
  | plain (text : List Char)
  | tag (content : List Char) (position : Nat)
deriving Repr, DecidableEq

def startsTag (c : Char) : Bool :=
  c.isLower || c == '#' || c == '/' || c == '@'

/-- A tag at the start of a text: the backslashes before it, and what stands in its brackets. -/
def tag? (cs : List Char) : Option (Nat × List Char) :=
  let slashes := (cs.takeWhile (· == '\\')).length
  match cs.drop slashes with
  | '[' :: rest =>
    let content := rest.takeWhile fun c ↦ c != '[' && c != ']'
    if (rest.drop content.length).head? == some ']' && content.head?.any startsTag then
      some (slashes, content)
    else none
  | _ => none

/-- What a tag with backslashes before it consists of. -/
def tagPieces (position slashes : Nat) (content : List Char) : List Piece :=
  let halves := slashes / 2
  let before := if halves = 0 then [] else [Piece.plain (List.replicate halves '\\')]
  if slashes % 2 = 1 then before ++ [.plain ('[' :: content ++ [']'])]
  else before ++ [.tag content (position + 2 * halves)]

/-- A backslash before a bracket that is part of no tag is not shown. -/
def unescape : List Char → List Char
  | '\\' :: '[' :: rest => '[' :: unescape rest
  | c :: rest => c :: unescape rest
  | [] => []

def flush (run : List Char) : List Piece :=
  if run.isEmpty then [] else [.plain (unescape run.reverse)]

/-- Divides a text into plain pieces and tags. The run holds the plain characters before the
position, last one first. -/
def piecesFrom (position : Nat) (run cs : List Char) : List Piece :=
  match cs with
  | [] => flush run
  | c :: rest =>
    match tag? (c :: rest) with
    | some (slashes, content) =>
      let length := slashes + content.length + 2
      flush run ++ tagPieces position slashes content ++
        piecesFrom (position + length) [] (rest.drop (length - 1))
    | none => piecesFrom (position + 1) (c :: run) rest
termination_by cs.length
decreasing_by
  · simp only [List.length_drop, List.length_cons]; omega
  · simp

/-- An open tag, by the normal form of its style. -/
structure Tag where
  style : List Char
  parameters : Option (List Char)

/-- Divides what stands in the brackets of a tag into a style and parameters. -/
def divide (content : List Char) : List Char × Option (List Char) :=
  let style := content.takeWhile (· != '=')
  (style, if style.length < content.length then some (content.drop (style.length + 1)) else none)

/-- Whether parameters can be evaluated: the name of a handler, with or without arguments, or a
literal. -/
def canEvaluate (parameters : List Char) : Bool :=
  let text := Style.trim parameters
  let arguments := text.dropWhile fun c ↦ Text.isWordChar c || c == '.'
  let isCall := arguments.head? == some '(' && arguments.getLast? == some ')' &&
    !arguments.contains '\n'
  arguments.isEmpty || Literal.isLiteral (if isCall then arguments else text)

/-- Closes an open tag. -/
def Tag.close (tag : Tag) : Except MarkupFault Unit :=
  match tag.style, tag.parameters with
  | '@' :: _, some parameters =>
    if parameters.isEmpty || canEvaluate parameters then .ok ()
    else .error (.parameters (String.ofList parameters))
  | _, _ => .ok ()

def normalize (style : List Char) : Except MarkupFault (List Char) :=
  (Style.normalize style).mapError .number

/-- The text that is shown, given the open tags, last one first. -/
def shown (stack : List Tag) : List Piece → Except MarkupFault (List Char)
  | [] => .ok []
  | .plain text :: rest => (Emoji.replace text ++ ·) <$> shown stack rest
  | .tag ('/' :: content) position :: rest => do
    let name := Style.trim (divide content).1
    if name.isEmpty then
      match stack with
      | [] => throw (.nothingOpen position)
      | last :: stack =>
        last.close
        shown stack rest
    else
      let style ← normalize name
      match stack.find? (·.style == style) with
      | some tag =>
        tag.close
        shown (stack.eraseP (·.style == style)) rest
      | none => throw (.unmatched (String.ofList ('/' :: content)) position)
  | .tag content _ :: rest => do
    let (style, parameters) := divide content
    shown (⟨← normalize style, parameters⟩ :: stack) rest

/-- Styles a piece. A style is read once more when it is shown, now with the parameters. -/
def Piece.paint : Piece → Except MarkupFault Unit
  | .plain _ | .tag ('/' :: _) _ => .ok ()
  | .tag content _ => do
    let (style, parameters) := divide content
    let style ← normalize style
    discard (normalize (style ++ (parameters.map (' ' :: ·)).getD []))

/-- The plain text of a styled one. -/
def render (text : String) : Except MarkupFault String := do
  let pieces := piecesFrom 0 [] text.toList
  let plain ← shown [] pieces
  pieces.forM Piece.paint
  return String.ofList plain

end Markup

end Relabel.Console
