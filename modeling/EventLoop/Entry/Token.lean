/-!
# Tokens

The source text of an item is read as a list of token trees: identifiers, literals, punctuation
characters and groups in brackets. A punctuation character is joint when it touched the next one in the
source, or when it is the apostrophe of a lifetime. Printing puts one space between two tokens unless the first is
joint.
-/
namespace EventLoop.Entry

/-- The brackets of a group. -/
inductive Delimiter
  /-- Round brackets. -/
  | parenthesis
  /-- Square brackets. -/
  | bracket
  /-- Curly brackets. -/
  | brace
  deriving DecidableEq, Repr

namespace Delimiter

/-- The opening bracket. -/
def opening : Delimiter → Char
  | parenthesis => '('
  | bracket => '['
  | brace => '{'

/-- The closing bracket. -/
def closing : Delimiter → Char
  | parenthesis => ')'
  | bracket => ']'
  | brace => '}'

/-- The group that a bracket opens. -/
def ofOpening? (c : Char) : Option Delimiter :=
  if c = '(' then some parenthesis else if c = '[' then some bracket
  else if c = '{' then some brace else none

/-- The group that a bracket closes. -/
def ofClosing? (c : Char) : Option Delimiter :=
  if c = ')' then some parenthesis else if c = ']' then some bracket
  else if c = '}' then some brace else none

end Delimiter

/-- A token tree. -/
inductive Token
  /-- An identifier or keyword. -/
  | word (text : String)
  /-- A literal, as written. -/
  | literal (text : String)
  /-- A punctuation character, and whether it is joint. -/
  | punct (char : Char) (joint : Bool)
  /-- Tokens in brackets. -/
  | group (delimiter : Delimiter) (content : List Token)
  deriving Inhabited

namespace Token

/-- Whether this is an identifier. -/
def isWord : Token → Bool
  | word _ => true
  | _ => false

/-- Whether this is the given identifier. -/
def isWordOf (text : String) : Token → Bool
  | word found => found == text
  | _ => false

/-- Whether this is the given punctuation character. -/
def isPunctOf (char : Char) : Token → Bool
  | punct found _ => found == char
  | _ => false

/-- Whether this is a group in the given brackets. -/
def isGroupOf (delimiter : Delimiter) : Token → Bool
  | group found _ => found == delimiter
  | _ => false

/-- Whether nothing separates this token from the next in print. -/
def isJoint : Token → Bool
  | punct _ joint => joint
  | _ => false

mutual

/-- The texts of a token: of a group, its brackets and the texts between them. -/
def texts : Token → List String
  | word text => [text]
  | literal text => [text]
  | punct char _ => [String.singleton char]
  | group delimiter content =>
    String.singleton delimiter.opening :: (textsOf content ++ [String.singleton delimiter.closing])

/-- The texts of all tokens in order. -/
def textsOf : List Token → List String
  | [] => []
  | token :: rest => texts token ++ textsOf rest

end

mutual

/-- A token in print; curly brackets keep a space inside. -/
def print : Token → String
  | word text => text
  | literal text => text
  | punct char _ => String.singleton char
  | group .parenthesis content => "(" ++ printAll content ++ ")"
  | group .bracket content => "[" ++ printAll content ++ "]"
  | group .brace content =>
    if content.isEmpty then "\x7b \x7d" else "\x7b " ++ printAll content ++ " \x7d"

/-- Tokens in print, each separated from the next by a space unless it is joint. -/
def printAll : List Token → String
  | [] => ""
  | [token] => print token
  | token :: next :: rest =>
    print token ++ (if token.isJoint then "" else " ") ++ printAll (next :: rest)

end

end Token

end EventLoop.Entry
