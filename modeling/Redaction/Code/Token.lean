import Redaction.Code.Path

/-!
# Tokens of generated code

Generated code is a sequence of tokens, some of which are groups. Its text has one space between
tokens. Parentheses stand close to what they hold, braces at a distance of one space; what is empty
between braces is one space.
-/

namespace Redaction.Code

/-- A token, or a group of tokens. -/
inductive Token where
  | word (s : String)
  | parens (inner : List Token)
  | braces (inner : List Token)
deriving Inhabited

namespace Token

mutual
/-- The characters of a token. -/
def chars : Token → List Char
  | word s => s.toList
  | parens inner => '(' :: listChars inner ++ [')']
  | braces [] => ['\x7b', ' ', '\x7d']
  | braces (t :: ts) => '\x7b' :: ' ' :: listChars (t :: ts) ++ [' ', '\x7d']

/-- The characters of tokens, with a space between any two. -/
def listChars : List Token → List Char
  | [] => []
  | [t] => chars t
  | t :: next :: ts => chars t ++ ' ' :: listChars (next :: ts)
end

/-- **The text of a sequence of tokens.** -/
def text (ts : List Token) : String := String.ofList (listChars ts)

/-- Words as tokens. -/
def words (ws : List String) : List Token := ws.map word

/-- Names with double colons between them. -/
def joined : List String → List Token
  | [] => []
  | [s] => [word s]
  | s :: next :: rest => word s :: word "::" :: joined (next :: rest)

end Token

/-- The tokens of a path. -/
def Path.tokens (p : Path) : List Token := Token.words p.words

/-- The text of a path. -/
def Path.text (p : Path) : String := Token.text p.tokens

end Redaction.Code
