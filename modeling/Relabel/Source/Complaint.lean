/-!
# Complaints about a text

What can be wrong with a text that should be a program, and where it was noticed. Lines and columns
of a complaint are counted from one.
-/

namespace Relabel

inductive Complaint where
  | unexpectedToken (text : String)
  | illegalToken
  | bareToken
  | unexpectedEnd
  | unexpectedIdentifier
  | unexpectedNumber
  | unexpectedString
  | unexpectedTemplate (raw : String)
  | unexpectedReserved
  | badGetterArity
  | badSetterArity
  | badSetterRest
  | constructorIsAsync
  | constructorIsAccessor
  | missingInitializer (variety : String)
  | duplicateBinding (name : String)
  | duplicateConstructor
  | duplicateProto
  | loopInitializer (loop : String)
  | generatorInLegacyContext
  | illegalBreak
  | illegalContinue
  | illegalReturn
  | illegalStrictDirective
  | escapedKeyword
  | badHexEscape
  | badAssignmentTarget
  | badForInTarget
  | badForTarget
  | badRegex
  | unclosedRegex
  | letAsName
  | secondDefault
  | lineEndAfterThrow
  | noCatchOrFinally
  | afterRestParameter
  | redeclaredLabel (name : String)
  | unknownLabel (name : String)
  | staticPrototype
  | strictCatchVariable
  | strictDelete
  | strictFunction
  | strictFunctionName
  | strictAssignment
  | strictPostfix
  | strictUpdate
  | strictWith
  | strictOctal
  | strictDuplicateParameter
  | strictParameterName
  | strictReservedWord
  | strictVariableName
  | templateOctal
deriving Repr, DecidableEq, Inhabited

def Complaint.message : Complaint → String
  | unexpectedToken text => "Unexpected token " ++ text
  | illegalToken => "Unexpected token ILLEGAL"
  | bareToken => "Unexpected token"
  | unexpectedEnd => "Unexpected end of input"
  | unexpectedIdentifier => "Unexpected identifier"
  | unexpectedNumber => "Unexpected number"
  | unexpectedString => "Unexpected string"
  | unexpectedTemplate raw => "Unexpected quasi " ++ raw
  | unexpectedReserved => "Unexpected reserved word"
  | badGetterArity => "Getter must not have any formal parameters"
  | badSetterArity => "Setter must have exactly one formal parameter"
  | badSetterRest => "Setter function argument must not be a rest parameter"
  | constructorIsAsync => "Class constructor may not be an async method"
  | constructorIsAccessor => "Class constructor may not be an accessor"
  | missingInitializer variety => "Missing initializer in " ++ variety ++ " declaration"
  | duplicateBinding name => "Duplicate binding " ++ name
  | duplicateConstructor => "A class may only have one constructor"
  | duplicateProto => "Duplicate __proto__ fields are not allowed in object literals"
  | loopInitializer loop => loop ++ " loop variable declaration may not have an initializer"
  | generatorInLegacyContext => "Generator declarations are not allowed in legacy contexts"
  | illegalBreak => "Illegal break statement"
  | illegalContinue => "Illegal continue statement"
  | illegalReturn => "Illegal return statement"
  | illegalStrictDirective =>
    "Illegal 'use strict' directive in function with non-simple parameter list"
  | escapedKeyword => "Keyword must not contain escaped characters"
  | badHexEscape => "Invalid hexadecimal escape sequence"
  | badAssignmentTarget => "Invalid left-hand side in assignment"
  | badForInTarget => "Invalid left-hand side in for-in"
  | badForTarget => "Invalid left-hand side in for-loop"
  | badRegex => "Invalid regular expression"
  | unclosedRegex => "Invalid regular expression: missing /"
  | letAsName => "let is disallowed as a lexically bound name"
  | secondDefault => "More than one default clause in switch statement"
  | lineEndAfterThrow => "Illegal newline after throw"
  | noCatchOrFinally => "Missing catch or finally after try"
  | afterRestParameter => "Rest parameter must be last formal parameter"
  | redeclaredLabel name => "Label '" ++ name ++ "' has already been declared"
  | unknownLabel name => "Undefined label '" ++ name ++ "'"
  | staticPrototype => "Classes may not have static property named prototype"
  | strictCatchVariable => "Catch variable may not be eval or arguments in strict mode"
  | strictDelete => "Delete of an unqualified identifier in strict mode."
  | strictFunction =>
    "In strict mode code, functions can only be declared at top level or inside a block"
  | strictFunctionName => "Function name may not be eval or arguments in strict mode"
  | strictAssignment => "Assignment to eval or arguments is not allowed in strict mode"
  | strictPostfix =>
    "Postfix increment/decrement may not have eval or arguments operand in strict mode"
  | strictUpdate =>
    "Prefix increment/decrement may not have eval or arguments operand in strict mode"
  | strictWith => "Strict mode code may not include a with statement"
  | strictOctal => "Octal literals are not allowed in strict mode."
  | strictDuplicateParameter => "Strict mode function may not have duplicate parameter names"
  | strictParameterName => "Parameter name eval or arguments is not allowed in strict mode"
  | strictReservedWord => "Use of future reserved word in strict mode"
  | strictVariableName => "Variable name may not be eval or arguments in strict mode"
  | templateOctal => "Octal literals are not allowed in template strings."

/-- A complaint with the place where it was noticed. -/
structure SourceFault where
  complaint : Complaint
  line : Nat
  column : Int
deriving Repr, DecidableEq, Inhabited

/-- The line is named twice: by the reader of the text, and by the report of its failure. -/
def SourceFault.message (fault : SourceFault) : String :=
  let line := "Line " ++ toString fault.line ++ ": "
  line ++ line ++ fault.complaint.message

/-- Why a text was not read. -/
inductive ReadFault where
  | refused (fault : SourceFault)
  /-- A later part of a template stands where an expression should start. It has no place in the
  text, and a run that goes on after refusals does not go on after it. -/
  | headlessTemplate
deriving Repr, DecidableEq, Inhabited

def ReadFault.message : ReadFault → String
  | refused fault => fault.message
  | headlessTemplate => "Template literal must start with a template head"

end Relabel
