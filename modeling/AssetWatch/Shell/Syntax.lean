import AssetWatch.Text.Octets

/-!
# Shell commands

The words and commands of the shell that setup commands and scripts are written in. A text
that follows a redirection is known by its number, since it is read after the command.
-/

namespace AssetWatch.Shell

/-- What is done with the value of a parameter. -/
inductive Operator
  | value
  | length
  /-- the word stands in for a value that is missing, or empty if `empty` -/
  | default (empty : Bool)
  | assign (empty : Bool)
  | require (empty : Bool)
  /-- the word stands in for a value that is there -/
  | alternative (empty : Bool)
  | cutFront (longest : Bool)
  | cutBack (longest : Bool)
  | unknown
  deriving DecidableEq

inductive RedirectKind
  | input
  | output
  | overwrite
  | append
  | both
  | copyInput
  | copyOutput
  deriving DecidableEq

mutual

/-- A stretch of a word. What stands in quotes is neither split nor taken as a pattern. -/
inductive Piece
  | text (text : Octets) (quoted : Bool)
  | parameter (name : Octets) (operator : Operator) (word : List Piece) (quoted : Bool)
  /-- what a command writes to its output -/
  | output (body : Option Command) (quoted : Bool)
  | arithmetic (expression : List Piece) (quoted : Bool)

inductive Redirect
  | file (kind : RedirectKind) (descriptor : Nat) (target : List Piece)
  /-- the text of this number -/
  | document (descriptor : Nat) (number : Nat)

inductive Command
  | simple (line : Nat) (assignments : List (Octets × List Piece)) (words : List (List Piece))
      (redirects : List Redirect)
  | pipeline (commands : List Command) (background : Bool)
  | negation (command : Command)
  | and (first second : Command)
  | or (first second : Command)
  | sequence (first second : Command)
  | background (line : Nat) (command : Command) (redirects : List Redirect)
  | subshell (line : Nat) (body : Command) (redirects : List Redirect)
  | redirected (line : Nat) (command : Command) (redirects : List Redirect)
  | branch (test body : Command) (otherwise : Option Command)
  | loop (expected : Bool) (test body : Command)
  | each (line : Nat) (name : Octets) (words : List (List Piece)) (body : Command)
  | choice (line : Nat) (word : List Piece) (cases : List (List (List Piece) × Option Command))
  | function (line : Nat) (name : Octets) (body : Command)

end

abbrev Word := List Piece

instance : Inhabited Command := ⟨.simple 0 [] [] []⟩

def isNameStart (c : Char) : Bool := c.isAlpha || c = '_'

def isNameChar (c : Char) : Bool := c.isAlphanum || c = '_'

def isName (s : Octets) : Bool :=
  match s.toList with
  | [] => false
  | c :: rest => isNameStart c && rest.all isNameChar

/-- Parameters of one character that is not part of a name. -/
def isSpecial (c : Char) : Bool := c.isDigit || "@*#?$!-".toList.contains c

/-! ## What is read -/

inductive Keyword
  | bang | case | do | done | elif | else | esac | fi | for | if | in | then | until | while
  | open | close
  deriving DecidableEq

namespace Keyword

def table : List (String × Keyword) := [
  ("!", .bang), ("case", .case), ("do", .do), ("done", .done), ("elif", .elif), ("else", .else),
  ("esac", .esac), ("fi", .fi), ("for", .for), ("if", .if), ("in", .in), ("then", .then),
  ("until", .until), ("while", .while), ("\x7b", .open), ("\x7d", .close)]

def text (k : Keyword) : String := ((table.find? (·.2 == k)).map (·.1)).getD ""

/-- Ends a list of commands. -/
def isCloser : Keyword → Bool
  | .do | .done | .elif | .else | .esac | .fi | .then | .close => true
  | _ => false

end Keyword

inductive Token
  | newline
  | finish
  | semicolon
  | ampersand
  | andAnd
  | orOr
  | bar
  | left
  | right
  | caseEnd
  | redirect (kind : RedirectKind) (descriptor : Nat)
  /-- a text up to a line of its own follows, without tabs in front of its lines if `tabs` -/
  | here (descriptor : Nat) (tabs : Bool)
  | word (word : Word) (isQuoted : Bool)
  | keyword (keyword : Keyword)

namespace Token

/-- How a mistake names it. -/
def name : Token → String
  | .newline => "newline"
  | .finish => "end of file"
  | .word .. => "word"
  | .redirect .. | .here .. => "redirection"
  | .semicolon => "\";\""
  | .ampersand => "\"&\""
  | .andAnd => "\"&&\""
  | .orOr => "\"||\""
  | .bar => "\"|\""
  | .left => "\"(\""
  | .right => "\")\""
  | .caseEnd => "\";;\""
  | .keyword k => "\"" ++ k.text ++ "\""

/-- Ends a list of commands. -/
def isCloser : Token → Bool
  | .finish | .right | .caseEnd => true
  | .keyword k => k.isCloser
  | _ => false

end Token

/-- The plain text of a word in which nothing is quoted or replaced. -/
def Word.plain? : Word → Option Octets
  | [] => some ""
  | [.text text false] => some text
  | _ => none

end AssetWatch.Shell
