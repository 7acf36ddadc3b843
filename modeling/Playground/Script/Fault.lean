import Playground.Script.Tree
import Playground.Text.Quoted

/-! What can be wrong with a script: the causes, the text that tells each of them, and the span it
is about. -/

namespace Playground.Script

/-- Why a text is not a script. -/
inductive Cause
  -- The text ends, or goes on with the wrong token.
  | endOfText
  | expected (wanted got : String)
  | unexpected (got wanted : String)
  | expressionExpected
  | identExpected
  | statementEndExpected
  | semicolonExpected
  | nestingTooDeep
  -- Characters, escapes and literals.
  | unexpectedCharacter (c : Char)
  | unterminatedComment
  | unterminatedString
  | unterminatedRegex
  | unterminatedTemplate
  | legacyComment
  | legacyOctal
  | legacyDecimal
  | digitExpected (radix : Nat)
  | identAfterNumber
  | exponentWithoutDigits
  | misplacedSeparator
  | unicodeEscapeExpected
  | invalidUnicodeEscape
  | invalidStringEscape
  | badEscape (wanted : String)
  | invalidIdentCharacter
  | escapeInReservedWord (word : String)
  | unknownRegexFlags
  | duplicateRegexFlag (flag : Char)
  -- Names.
  | reservedInStrict (name : String)
  | awaitAsName
  | evalOrArguments
  | argumentsInField
  | reservedShorthand
  | optionalProperty
  | reservedImport
  | spaceAfterHash
  -- Declarations and statements.
  | declarationNotAllowed
  | constWithoutValue
  | patternWithoutValue
  | trailingComma
  | returnOutsideFunction
  | breakOutsideLoop
  | breakWithoutLabel
  | continueOutsideLoop
  | labelAcrossFunction
  | duplicateLabel (name : String)
  | labeledFunction
  | labeledGeneratorOrAsync
  | lineBreakAfterThrow
  | withStatement
  | severalDefaults
  | severalLoopVariables
  | initializedLoopVariable
  | asyncLoopVariable
  | awaitInPlainLoop
  | importOutsideModule
  | importOfString (name : String)
  | exportOfString
  | exportWithoutSource (name : String)
  -- Functions and classes.
  | restNotLast
  | restElementNotLast
  | commaAfterRest
  | initializedRest
  | restNotIdent
  | getterWithParams
  | setterParams
  | restInSetter
  | strictDirective
  | yieldInParams
  | awaitInParams
  | awaitInFunction
  | awaitStar
  | severalConstructors
  | constructorAccessor
  | constructorGenerator
  | constructorAsync
  | constructorField
  | privateConstructor
  | severalParents
  -- Expressions.
  | invalidTarget
  | targetNotSimple
  | cannotAssign
  | notPattern
  | initializedProperty
  | deleteOfName
  | unaryBeforePower
  | mixedCoalescing
  | newTargetOutsideFunction
  | constructOptional
  | templateAfterOptional
  | invalidSuper
  | invalidImport
  | superCallOptional
  | commaInImport
  | lineBreakBeforeArrow
  | arrowNotAllowed
  | emptyParens
  | spreadInParens
deriving DecidableEq, Repr

/-- The sentence that tells a cause. -/
def Cause.message : Cause → String
  | .endOfText => "Unexpected eof"
  | .expected wanted got => "Expected '" ++ wanted ++ "', got '" ++ got ++ "'"
  | .unexpected got wanted => "Unexpected token `" ++ got ++ "`. Expected " ++ wanted
  | .expressionExpected => "Expression expected"
  | .identExpected => "Expected ident"
  | .statementEndExpected => "Expected ';', '\x7d' or <eof>"
  | .semicolonExpected => "Expected a semicolon"
  | .nestingTooDeep => "Nesting is too deep"
  | .unexpectedCharacter c => "Unexpected character " ++ Text.quoteChar c
  | .unterminatedComment => "Unterminated block comment"
  | .unterminatedString => "Unterminated string constant"
  | .unterminatedRegex => "Unterminated regexp literal"
  | .unterminatedTemplate => "Unterminated template"
  | .legacyComment => "Legacy comments cannot be used in module code"
  | .legacyOctal => "Legacy octal escape is not permitted in strict mode"
  | .legacyDecimal => "Legacy decimal escape is not permitted in strict mode"
  | .digitExpected radix =>
    "Expected " ++
      (if radix = 2 then "a binary"
        else if radix = 8 then "an octal"
        else if radix = 16 then "a hexadecimal"
        else "a decimal") ++ " digit"
  | .identAfterNumber => "Identifier cannot follow number"
  | .exponentWithoutDigits => "Expected +, - or decimal digit after e"
  | .misplacedSeparator => "A numeric separator is only allowed between two digits"
  | .unicodeEscapeExpected => "Expected unicode escape"
  | .invalidUnicodeEscape => "Invalid unicode escape"
  | .invalidStringEscape => "Invalid string escape"
  | .badEscape wanted => "Bad character escape sequence, expected " ++ wanted
  | .invalidIdentCharacter => "Invalid character in identifier"
  | .escapeInReservedWord word => "Unexpected escape sequence in reserved word: " ++ word
  | .unknownRegexFlags => "Unknown regular expression flags."
  | .duplicateRegexFlag flag => "Duplicated regular expression flag '" ++ flag.toString ++ "'."
  | .reservedInStrict name => "`" ++ name ++ "` cannot be used as an identifier in strict mode"
  | .awaitAsName => "`await` cannot be used as an identifier in an async context"
  | .evalOrArguments =>
    "'eval' and 'arguments' cannot be used as a binding identifier in strict mode"
  | .argumentsInField => "'arguments' is only allowed in functions and class methods"
  | .reservedShorthand => "Shorthand property cannot be a reserved word"
  | .optionalProperty => "An object member cannot be declared optional"
  | .reservedImport => "cannot import as reserved word"
  | .spaceAfterHash => "Unexpected space between # and identifier"
  | .declarationNotAllowed => "Declaration is not allowed"
  | .constWithoutValue => "'const' declarations must be initialized"
  | .patternWithoutValue => "Destructuring bindings require initializers"
  | .trailingComma => "Trailing comma is not allowed"
  | .returnOutsideFunction => "Return statement is not allowed here"
  | .breakOutsideLoop =>
    "A 'break' statement can only be used within an enclosing iteration or switch statement"
  | .breakWithoutLabel => "A 'break' statement can only jump to a label of an enclosing statement"
  | .continueOutsideLoop =>
    "A 'continue' statement can only jump to a label of an enclosing iteration statement"
  | .labelAcrossFunction => "Jump target cannot cross function boundary"
  | .duplicateLabel name => "Label " ++ name ++ " is already declared"
  | .labeledFunction => "Function cannot be labelled in strict mode"
  | .labeledGeneratorOrAsync => "Generator or async function cannot be labelled"
  | .lineBreakAfterThrow => "LineBreak cannot follow 'throw'"
  | .withStatement => "With statement are not allowed in strict mode"
  | .severalDefaults => "A switch block cannot have multiple defaults"
  | .severalLoopVariables => "Expected one variable binding"
  | .initializedLoopVariable => "Unexpected initializer in for in/of loop"
  | .asyncLoopVariable => "The left-hand side of a `for...of` statement may not be `async`"
  | .awaitInPlainLoop => "for await syntax is valid only for for-of statement"
  | .importOutsideModule => "'import', and 'export' cannot be used outside of module code"
  | .importOfString name =>
    "A string literal cannot be used as an imported binding.\n- Did you mean `import \x7b \""
      ++ name ++ "\" as foo \x7d`?"
  | .exportOfString => "A string literal cannot be used as an exported binding without `from`."
  | .exportWithoutSource name => "`" ++ name ++ "` cannot be used without `from` clause"
  | .restNotLast => "A rest parameter must be last in a parameter list"
  | .restElementNotLast => "Rest element must be final element"
  | .commaAfterRest => "Trailing comma isn't permitted after a rest element"
  | .initializedRest => "A rest parameter cannot have an initializer"
  | .restNotIdent => "`...` must be followed by an identifier in declaration contexts"
  | .getterWithParams => "A `get` accessor cannot have parameters"
  | .setterParams => "A `set` accessor must have exactly one parameter"
  | .restInSetter => "Rest pattern is not allowed in setter"
  | .strictDirective => "Illegal 'use strict' directive in function with non-simple parameter list."
  | .yieldInParams => "'yield' cannot be used as a parameter within generator"
  | .awaitInParams => "'await' cannot be used as a parameter within async function"
  | .awaitInFunction => "await isn't allowed in non-async function"
  | .awaitStar =>
    "await* has been removed from the async functions proposal. Use Promise.all() instead."
  | .severalConstructors => "A class can only have one constructor"
  | .constructorAccessor => "Class constructor can't be an accessor."
  | .constructorGenerator => "Constructor can't be a generator"
  | .constructorAsync => "Constructor can't be an async function"
  | .constructorField => "Classes may not have a non-static field named 'constructor'"
  | .privateConstructor => "Classes can't have a private field named '#constructor'."
  | .severalParents => "`extends` clause already seen."
  | .invalidTarget => "Invalid assignment target"
  | .targetNotSimple =>
    "The left-hand side of an assignment expression must be a variable or a property access."
  | .cannotAssign => "Cannot assign to this"
  | .notPattern => "Not a pattern"
  | .initializedProperty => "assignment property is invalid syntax"
  | .deleteOfName => "'delete' cannot be called on an identifier in strict mode"
  | .unaryBeforePower => "'**' cannot be applied to unary/await expression."
  | .mixedCoalescing =>
    "Nullish coalescing operator(??) requires parens when mixing with logical operators"
  | .newTargetOutsideFunction =>
    "'new.target' is only allowed in the body of a function declaration, "
      ++ "function expression, or class."
  | .constructOptional => "Constructor in/after an optional chaining is not allowed."
  | .templateAfterOptional => "Tagged template expression is not allowed in optional chain"
  | .invalidSuper => "Invalid access to super"
  | .invalidImport => "Invalid import"
  | .superCallOptional => "Super call cannot be optional"
  | .commaInImport => "Trailing comma is disallowed inside import(...) arguments"
  | .lineBreakBeforeArrow => "Unexpected line break between arrow head and arrow"
  | .arrowNotAllowed => "An arrow function is not allowed here"
  | .emptyParens => "Parenthesized expression cannot be empty"
  | .spreadInParens => "Parenthesized expression cannot contain spread operator"

/-- A cause with the text it is about. -/
structure Fault where
  cause : Cause
  span : Span
deriving DecidableEq, Repr

end Playground.Script
