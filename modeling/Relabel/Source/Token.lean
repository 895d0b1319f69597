import Relabel.Source.Scan
import Relabel.Syntax.Node

/-!
# Tokens
-/

namespace Relabel.Source

inductive TokenType where
  | boolean | endOfText | identifier | keyword | null | number | punctuator | text | regex
  | template
deriving Repr, DecidableEq, Inhabited

structure Token where
  type : TokenType
  /-- The spelling, with escapes resolved; of a template, the raw text. -/
  text : String := ""
  /-- What the token stands for, if it is a literal. -/
  value : Literal := .null
  /-- A number or text is written with an octal notation. -/
  octal : Bool := false
  /-- A template's first part. -/
  isHead : Bool := false
  /-- A template's last part. -/
  isTail : Bool := false
  line : Nat
  lineStart : Nat
  start : Nat
  stop : Nat
deriving Repr, Inhabited

namespace Token

def isMark (t : Token) (mark : String) : Bool :=
  t.type == .punctuator && t.text == mark

def isKeyword (t : Token) (word : String) : Bool :=
  t.type == .keyword && t.text == word

/-- A word that is special only in some places. -/
def isWord (t : Token) (word : String) : Bool :=
  t.type == .identifier && t.text == word

/-- A token that can be the name of a property. -/
def isName (t : Token) : Bool :=
  t.type == .identifier || t.type == .keyword || t.type == .boolean || t.type == .null

/-- A token that says nothing: the end of the text, an empty text, or the number zero. -/
def isVoid (t : Token) : Bool :=
  t.text.isEmpty || match t.value with
    | .number n => n.sameValue (.integer 0)
    | _ => false

end Token

def keywords : List String :=
  ["do", "if", "in", "for", "let", "new", "try", "var", "case", "else", "enum", "this", "void",
    "with", "break", "catch", "class", "const", "super", "throw", "while", "yield",
    "delete", "export", "import", "return", "switch", "typeof", "default", "extends", "finally",
    "continue", "debugger", "function", "instanceof"]

def futureReservedWords : List String :=
  ["enum", "export", "import", "super"]

/-- Words that strict code reserves. -/
def strictReservedWords : List String :=
  ["implements", "interface", "package", "private", "protected", "public", "static", "yield", "let"]

/-- Names that strict code does not allow to be bound or assigned. -/
def restrictedWords : List String :=
  ["eval", "arguments"]

def isRestricted (name : String) : Bool :=
  restrictedWords.contains name

def isStrictReserved (name : String) : Bool :=
  strictReservedWords.contains name

end Relabel.Source
