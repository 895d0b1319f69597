/-!
# Plain identifiers

The names that may be written into a program: ASCII letters, digits, `_` and `$`, not starting
with a digit. The test looks at a single line, so one line feed after the name is not counted as
part of it. A word of the language itself is no name for a binding.
-/

namespace Relabel

def isNameStart (c : Char) : Bool :=
  c.isAlpha || c == '_' || c == '$'

def isNamePart (c : Char) : Bool :=
  c.isAlphanum || c == '_' || c == '$'

/-- The line that a text consists of: a single line feed at the end is dropped. -/
def lineOf (cs : List Char) : List Char :=
  if cs.getLast? = some '\n' then cs.dropLast else cs

/-- A name made of identifier characters only. -/
def isPlainName : List Char → Bool
  | [] => false
  | c :: rest => isNameStart c && rest.all isNamePart

def isIdentifier (name : String) : Bool :=
  isPlainName (lineOf name.toList)

/-- A part of a name: identifier characters only, and at least one of them. -/
def isNamePiece (text : String) : Bool :=
  let cs := lineOf text.toList
  !cs.isEmpty && cs.all isNamePart

/-- Words that can never be the name of a binding. -/
def reservedWords : List String :=
  ["break", "case", "catch", "class", "const", "continue", "debugger", "default", "delete",
    "do", "else", "enum", "export", "extends", "false", "finally", "for", "function", "if",
    "import", "in", "instanceof", "let", "new", "null", "return", "super", "switch", "this",
    "throw", "true", "try", "typeof", "var", "void", "while", "with", "yield"]

def isReserved (name : String) : Bool :=
  reservedWords.contains name

end Relabel
