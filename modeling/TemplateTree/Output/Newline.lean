import TemplateTree.Files.Path

/-!
# Line endings

A generated file has one style of line endings.  Some extensions fix the style
whatever the settings say.
-/

namespace TemplateTree

/-- The style of line endings of a file. -/
inductive Newline where
  | lf | crlf
  deriving DecidableEq, Repr, Inhabited

namespace Newline

def native : Newline := .lf

def name : Newline → Text
  | .lf => "lf"
  | .crlf => "crlf"

def chars : Newline → Text
  | .lf => ['\n']
  | .crlf => ['\r', '\n']

/-- The style that a setting names, letter case apart, or holds itself. -/
def parse? (value : Text) : Option Newline :=
  let v := Text.lowerAscii value
  if v = lf.name || v = "unix" || v = lf.chars then some .lf
  else if v = crlf.name || v = "windows" || v = crlf.chars then some .crlf
  else if v = "native" || v = [] then some native
  else none

def forExtension? (ext : Text) : Option Newline :=
  let e := Text.lowerAscii ext
  if e = "sh" then some .lf
  else if e = "bat" || e = "cmd" || e = "ps1" then some .crlf
  else none

/-- The style of a file: that of its extension, else the default. -/
def forPath (default : Newline) (p : Path) : Newline :=
  ((Path.extension? p).bind forExtension?).getD default

/-- Every line ending made a line feed. -/
def toLf : Text → Text
  | [] => []
  | '\r' :: '\n' :: r => '\n' :: toLf r
  | c :: r => c :: toLf r

/-- A carriage return put before every line feed. -/
def addReturns : Text → Text
  | [] => []
  | c :: r => if c = '\n' then '\r' :: '\n' :: addReturns r else c :: addReturns r

/-- Every line ending made one of the style. -/
def apply (style : Newline) (t : Text) : Text :=
  match style with
  | .lf => toLf t
  | .crlf => addReturns (toLf t)

end Newline

end TemplateTree
