/-!
# What cannot be printed

A tree that was not read from a text may lack what its printed form needs.
-/

namespace Relabel

inductive PrintFault where
  /-- What should be printed is no node with a kind. -/
  | notNode
  | unsupportedNode (tag : String)
  | unsupportedExpression (tag : String)
  | unsupportedStatement (tag : String)
  /-- A node lacks a child. -/
  | missingChild (tag field : String)
  /-- A node lacks a list of children. -/
  | missingList (tag field : String)
  /-- An identifier is not spelled as one. -/
  | badName
  /-- A literal lacks its value. -/
  | missingValue
  | numberTooLarge
  | badRegexFlags
  | unsupportedOperator (text : String)
  /-- The variety of a declaration of variables is unknown. -/
  | unsupportedVariety (text : String)
deriving Repr, DecidableEq

def PrintFault.message : PrintFault → String
  | notNode => "Expected an ESTree node with a string type field"
  | unsupportedNode tag => "Unsupported ESTree node type: " ++ tag
  | unsupportedExpression tag => "Unsupported ESTree expression type: " ++ tag
  | unsupportedStatement tag => "Unsupported ESTree statement type: " ++ tag
  | missingChild tag field => tag ++ "." ++ field ++ " must contain an ESTree node"
  | missingList tag field => tag ++ "." ++ field ++ " must be a list"
  | badName => "Identifier.name must be a valid ECMAScript IdentifierName"
  | missingValue => "Literal.value is required; use an explicit None for null"
  | numberTooLarge =>
    "Number literal exceeds binary64; use Literal.bigint for exact integers"
  | badRegexFlags => "Invalid ECMAScript regular-expression flags"
  | unsupportedOperator text => "Unsupported binary operator: " ++ text
  | unsupportedVariety text => "Unsupported VariableDeclaration.kind: " ++ text

end Relabel
