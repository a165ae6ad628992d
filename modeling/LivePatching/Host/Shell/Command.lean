/-!
# Shell commands

The part of the command language of a shell that a testcase needs: simple commands with
redirections, pipelines, lists, subshells, branches and loops.

The shell works on bytes. A byte is written as the character of the same number, so that a script
is a list of characters below 256.
-/

namespace LivePatching.Host.Shell

/-- A part of a word. Unquoted parts are split at blanks once they have a value. -/
inductive Part where
  | text (quoted : Bool) (cs : List Char)
  | parameter (quoted : Bool) (name : String)
  | arithmetic (quoted : Bool) (source : List Char)
  /-- Stands for the output of a script. -/
  | output (quoted : Bool) (source : List Char)
deriving DecidableEq, Repr

/-- A word of a command, as the parts that it is put together from. -/
abbrev Word := List Part

/-- Where a descriptor goes. -/
inductive Direction where
  | input
  | output
  | append
  /-- To where another descriptor goes. -/
  | same
deriving DecidableEq, Repr

/-- A descriptor of a command that is pointed elsewhere. -/
structure Redirection where
  descriptor : Nat
  direction : Direction
  target : Word
deriving DecidableEq, Repr

/-- What a script is made of. -/
inductive Command where
  /-- Nothing to do; what the last command answered stays. -/
  | skip
  | simple (line : Nat) (bindings : List (String × Word)) (words : List Word)
      (redirections : List Redirection)
  | seq (first second : Command)
  /-- The second only if the first succeeds. -/
  | both (first second : Command)
  /-- The second only if the first fails. -/
  | either (first second : Command)
  | negation (body : Command)
  | pipe (first second : Command)
  | subshell (body : Command)
  | background (body : Command)
  /-- Runs the body as long as the condition succeeds, or as long as it does not. -/
  | loop (wanted : Bool) (condition body : Command)
  | branch (condition yes no : Command)
  | each (name : String) (words : List Word) (body : Command)
  | redirected (line : Nat) (body : Command) (redirections : List Redirection)
deriving Repr, Inhabited

/-- What ends a script that cannot be read. -/
inductive SyntaxError where
  | unexpected (token : String)
  | endOfFile
  | unterminated
deriving DecidableEq, Repr

/-- The text of the error. -/
def SyntaxError.message : SyntaxError → String
  | unexpected token => "Syntax error: " ++ token ++ " unexpected"
  | endOfFile => "Syntax error: end of file unexpected"
  | unterminated => "Syntax error: Unterminated quoted string"

/-- A script: the commands before the first fault, one for each line that has any, and the fault
with its line. -/
structure Script where
  commands : List Command
  fault : Option (Nat × SyntaxError)
deriving Repr

end LivePatching.Host.Shell
