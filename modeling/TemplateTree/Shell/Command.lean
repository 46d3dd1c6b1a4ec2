import TemplateTree.Text.Blank

/-!
# Shell commands

What a command line consists of: words with their expansions, redirections, and
commands combined into lists, pipelines and loops; and what is known when it ended.
-/

namespace TemplateTree.Shell

/-- A part of a word.  What comes of an unquoted expansion is split at white
space. -/
inductive Part where
  | text (t : Text) (quoted : Bool)
  | value (name : Text) (quoted : Bool)
  /-- What a rule makes of the value of a variable and a word. -/
  | amended (name rule word : Text) (quoted : Bool)
  | arithmetic (t : Text)
  | output (line : Text) (quoted : Bool)
  deriving DecidableEq, Repr

abbrev Word := List Part

/-- What a redirection does. -/
inductive RedirectMode where
  | read | write | append
  /-- Use what another number stands for. -/
  | copy
  deriving DecidableEq, Repr

structure Redirect where
  stream : Nat
  mode : RedirectMode
  target : Word
  deriving DecidableEq, Repr

inductive Command where
  | nothing
  | simple (assignments : List (Text × Word)) (words : List Word) (redirects : List Redirect)
  | pipe (left right : Command)
  | negate (c : Command)
  | andThen (a b : Command)
  | orElse (a b : Command)
  | seq (a b : Command)
  /-- A list of commands, in a shell of its own or not. -/
  | group (own : Bool) (c : Command) (redirects : List Redirect)
  | forEach (name : Text) (words : List Word) (body : Command) (redirects : List Redirect)
  | choose (condition yes no : Command) (redirects : List Redirect)
  /-- Repeat while a condition has an outcome. -/
  | loop (whileTrue : Bool) (condition body : Command) (redirects : List Redirect)
  /-- Run the commands after the first list of patterns that takes a word. -/
  | branch (subject : Word) (cases : List (List Word × Command)) (redirects : List Redirect)
  deriving Repr

/-- What a command line leaves behind. -/
structure Outcome where
  out : Text
  err : Text
  /-- The exit status; a line ended by a signal has none. -/
  status : Option Nat
  deriving DecidableEq, Repr

def Outcome.isSuccess (o : Outcome) : Bool :=
  o.status = some 0

def plainWord? (w : Word) : Option Text :=
  (w.mapM fun p => match p with
    | Part.text t false => some t
    | _ => none).map List.flatten

end TemplateTree.Shell
