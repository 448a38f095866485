/-!
# Kinds of tokens

A token is a reserved word, a punctuation mark, a name, a constant of one of four sorts, or the
end of the file. Reserved words and marks have a fixed spelling, and the kind is all there is to
know of them; the marks are listed with the longer spellings first, so the first that begins a
text is the longest. Every kind has a category name, by which listings call it, and a
description, by which messages call it.
-/

namespace Cpplet

/-- Reserved words. -/
inductive Keyword where
  | usingWord | namespaceWord | includeWord | returnWord | coutWord | intWord | floatWord
  | doubleWord | charWord | boolWord | constWord | voidWord | trueWord | falseWord | ifWord
  | elseWord | switchWord | caseWord | defaultWord | forWord | whileWord | doWord | breakWord
  | continueWord
deriving DecidableEq, Repr

namespace Keyword

/-- Every reserved word. -/
def all : List Keyword :=
  [.usingWord, .namespaceWord, .includeWord, .returnWord, .coutWord, .intWord, .floatWord,
    .doubleWord, .charWord, .boolWord, .constWord, .voidWord, .trueWord, .falseWord, .ifWord,
    .elseWord, .switchWord, .caseWord, .defaultWord, .forWord, .whileWord, .doWord, .breakWord,
    .continueWord]

/-- The word as it is written. -/
def spelling : Keyword → String
  | .usingWord => "using"
  | .namespaceWord => "namespace"
  | .includeWord => "include"
  | .returnWord => "return"
  | .coutWord => "cout"
  | .intWord => "int"
  | .floatWord => "float"
  | .doubleWord => "double"
  | .charWord => "char"
  | .boolWord => "bool"
  | .constWord => "const"
  | .voidWord => "void"
  | .trueWord => "true"
  | .falseWord => "false"
  | .ifWord => "if"
  | .elseWord => "else"
  | .switchWord => "switch"
  | .caseWord => "case"
  | .defaultWord => "default"
  | .forWord => "for"
  | .whileWord => "while"
  | .doWord => "do"
  | .breakWord => "break"
  | .continueWord => "continue"

/-- The category name of the word. -/
def category : Keyword → String
  | .usingWord => "USING"
  | .namespaceWord => "NAMESPACE"
  | .includeWord => "INCLUDE"
  | .returnWord => "RETURN"
  | .coutWord => "COUT"
  | .intWord => "INTEGER"
  | .floatWord => "FLOAT"
  | .doubleWord => "DOUBLE"
  | .charWord => "CHAR"
  | .boolWord => "BOOL"
  | .constWord => "CONST"
  | .voidWord => "VOID"
  | .trueWord => "TRUE"
  | .falseWord => "FALSE"
  | .ifWord => "IF"
  | .elseWord => "ELSE"
  | .switchWord => "SWITCH"
  | .caseWord => "CASE"
  | .defaultWord => "DEFAULT"
  | .forWord => "FOR"
  | .whileWord => "WHILE"
  | .doWord => "DO"
  | .breakWord => "BREAK"
  | .continueWord => "CONTINUE"

/-- The reserved word with a spelling. -/
def ofSpelling? (word : String) : Option Keyword := all.find? (·.spelling = word)

/-- The words that name a type. -/
def isType : Keyword → Bool
  | .intWord | .floatWord | .doubleWord | .charWord | .boolWord => true
  | _ => false

end Keyword

/-- Punctuation marks and operators. -/
inductive Mark where
  | increment | decrement | plusAssign | minusAssign | starAssign | slashAssign | percentAssign
  | caretAssign | shiftLeft | shiftRight | lessEqual | greaterEqual | equal | notEqual | andAnd
  | orOr | plus | minus | star | slash | percent | caret | pipe | ampersand | tilde | bang | less
  | greater | assign | question | colon | semicolon | comma | dot | leftParen | rightParen
  | leftBrace | rightBrace | hash
deriving DecidableEq, Repr

namespace Mark

/-- Every mark, those of two characters first. -/
def all : List Mark :=
  [.increment, .decrement, .plusAssign, .minusAssign, .starAssign, .slashAssign, .percentAssign,
    .caretAssign, .shiftLeft, .shiftRight, .lessEqual, .greaterEqual, .equal, .notEqual, .andAnd,
    .orOr, .plus, .minus, .star, .slash, .percent, .caret, .pipe, .ampersand, .tilde, .bang,
    .less, .greater, .assign, .question, .colon, .semicolon, .comma, .dot, .leftParen,
    .rightParen, .leftBrace, .rightBrace, .hash]

/-- The mark as it is written. -/
def spelling : Mark → String
  | .increment => "++"
  | .decrement => "--"
  | .plusAssign => "+="
  | .minusAssign => "-="
  | .starAssign => "*="
  | .slashAssign => "/="
  | .percentAssign => "%="
  | .caretAssign => "^="
  | .shiftLeft => "<<"
  | .shiftRight => ">>"
  | .lessEqual => "<="
  | .greaterEqual => ">="
  | .equal => "=="
  | .notEqual => "!="
  | .andAnd => "&&"
  | .orOr => "||"
  | .plus => "+"
  | .minus => "-"
  | .star => "*"
  | .slash => "/"
  | .percent => "%"
  | .caret => "^"
  | .pipe => "|"
  | .ampersand => "&"
  | .tilde => "~"
  | .bang => "!"
  | .less => "<"
  | .greater => ">"
  | .assign => "="
  | .question => "?"
  | .colon => ":"
  | .semicolon => ";"
  | .comma => ","
  | .dot => "."
  | .leftParen => "("
  | .rightParen => ")"
  | .leftBrace => "\x7b"
  | .rightBrace => "\x7d"
  | .hash => "#"

/-- The category name of the mark. -/
def category : Mark → String
  | .increment => "INC_OP"
  | .decrement => "DEC_OP"
  | .plusAssign => "PLUS_ASSIGN"
  | .minusAssign => "MINUS_ASSIGN"
  | .starAssign => "MUL_ASSIGN"
  | .slashAssign => "DIVIDE_ASSIGN"
  | .percentAssign => "MOD_ASSIGN"
  | .caretAssign => "XOR_ASSIGN"
  | .shiftLeft => "LEFT_OP"
  | .shiftRight => "RIGHT_OP"
  | .lessEqual => "LE_OP"
  | .greaterEqual => "GE_OP"
  | .equal => "EQUAL"
  | .notEqual => "NOT_EQUAL"
  | .andAnd => "LOG_AND"
  | .orOr => "LOG_OR"
  | .plus => "PLUS"
  | .minus => "MINUS"
  | .star => "ASTERISK"
  | .slash => "DIVIDE"
  | .percent => "MOD"
  | .caret => "XOR_OP"
  | .pipe => "OR_OP"
  | .ampersand => "AND_OP"
  | .tilde => "NOT_OP"
  | .bang => "LOG_NOT"
  | .less => "LESS"
  | .greater => "GREATER"
  | .assign => "ASSIGN"
  | .question => "QUESTION_MARK"
  | .colon => "COLON"
  | .semicolon => "SEMI"
  | .comma => "COMMA"
  | .dot => "DOT"
  | .leftParen => "LPAREN"
  | .rightParen => "RPAREN"
  | .leftBrace => "LBRACE"
  | .rightBrace => "RBRACE"
  | .hash => "HASH"

/-- The longest mark at the front of a text. -/
def front? (text : List Char) : Option Mark :=
  all.find? fun mark => mark.spelling.toList.isPrefixOf text

/-- The marks between the target and the value of an assignment. -/
def isAssignment : Mark → Bool
  | .assign | .plusAssign | .minusAssign | .starAssign | .slashAssign | .percentAssign
  | .caretAssign => true
  | _ => false

end Mark

/-- The lexical categories. -/
inductive Kind where
  /-- A reserved word. -/
  | keyword (word : Keyword)
  /-- A punctuation mark or operator. -/
  | mark (symbol : Mark)
  /-- An integer constant. -/
  | integer
  /-- A floating-point constant. -/
  | float
  /-- A character constant. -/
  | char
  /-- A string constant. -/
  | string
  /-- A name that is no reserved word. -/
  | name
  /-- The end of the file. -/
  | eof
deriving DecidableEq, Repr

namespace Kind

/-- Every kind. -/
def all : List Kind :=
  Keyword.all.map .keyword ++ Mark.all.map .mark ++
    [.integer, .float, .char, .string, .name, .eof]

/-- The category name, as listings write it. -/
def category : Kind → String
  | .keyword word => word.category
  | .mark symbol => symbol.category
  | .integer => "INTEGER_CONST"
  | .float => "FLOAT_CONST"
  | .char => "CHAR_CONST"
  | .string => "STRING_CONST"
  | .name => "ID"
  | .eof => "EOF"

/-- The kind with a category name. -/
def ofCategory? (category : String) : Option Kind := all.find? (·.category = category)

/-- The fixed spelling of a reserved word or mark. -/
def spelling? : Kind → Option String
  | .keyword word => some word.spelling
  | .mark symbol => some symbol.spelling
  | _ => none

/-- What messages call a kind: the spelling between single quotes, or the sort of token. -/
def describe : Kind → String
  | .keyword word => "'" ++ word.spelling ++ "'"
  | .mark symbol => "'" ++ symbol.spelling ++ "'"
  | .integer => "integer constant"
  | .float => "float constant"
  | .char => "char constant"
  | .string => "string constant"
  | .name => "identifier"
  | .eof => "end of file"

/-- The kinds that name a type. -/
def isType : Kind → Bool
  | .keyword word => word.isType
  | _ => false

/-- The kinds between the target and the value of an assignment. -/
def isAssignment : Kind → Bool
  | .mark symbol => symbol.isAssignment
  | _ => false

/-- The kinds whose tokens differ from one another by more than their place. -/
def hasContent : Kind → Bool
  | .integer | .float | .char | .string | .name => true
  | _ => false

end Kind

end Cpplet
