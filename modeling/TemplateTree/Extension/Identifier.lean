import TemplateTree.Template.Argument
import TemplateTree.Text.Words

/-!
# Identifiers

What extensions offer for the names that templates emit into source code: case
conversions, include guards, and tests for identifiers and reserved words of C
and C++.
-/

namespace TemplateTree.Identifier

def isStart (c : Char) : Bool :=
  c.isAlpha || c = '_'

def isPart (c : Char) : Bool :=
  c.isAlphanum || c = '_'

def isIdentifier : Text → Bool
  | [] => false
  | c :: r => isStart c && r.all isPart

def reservedWords : List String := [
  "alignas", "alignof", "and", "and_eq", "asm", "auto", "bitand", "bitor", "bool", "break",
  "case", "catch", "char", "char16_t", "char32_t", "char8_t", "class", "co_await",
  "co_return", "co_yield", "compl", "concept", "const", "const_cast", "consteval",
  "constexpr", "constinit", "continue", "decltype", "default", "delete", "do", "double",
  "dynamic_cast", "else", "enum", "explicit", "export", "extern", "false", "float", "for",
  "friend", "goto", "if", "inline", "int", "long", "mutable", "namespace", "new", "noexcept",
  "not", "not_eq", "nullptr", "operator", "or", "or_eq", "private", "protected", "public",
  "register", "reinterpret_cast", "requires", "return", "short", "signed", "sizeof", "static",
  "static_assert", "static_cast", "struct", "switch", "template", "this", "thread_local",
  "throw", "true", "try", "typedef", "typeid", "typename", "union", "unsigned", "using",
  "virtual", "void", "volatile", "wchar_t", "while", "xor", "xor_eq"]

def isReserved (t : Text) : Bool :=
  reservedWords.any fun w => w.toList = t

/-- A test of texts; other values and absent ones fail it. -/
def test (holds : Text → Bool) : Template.Test := fun v _ =>
  .ok ((v.bind Value.text?).any holds)

def caseFilter (name : String) (change : Text → Text) : Template.Filter := fun v _ =>
  match v with
  | .string t => .ok (.string (change t))
  | _ => .error (name ++ " filter expects a string")

/-- The words of ASCII letters and digits in a path, in upper case with
underscores between. -/
def guardWords (path : Text) : List Text :=
  (Text.fieldsWhere (fun c => !c.isAlphanum) path).map Text.shoutySnakeCase

def includeGuard : Template.Function := fun args =>
  match (Namespace.get? args "path").bind Value.text? with
  | none => .error "include_guard expects a `path` string argument"
  | some path =>
    match guardWords path with
    | [] => .error ("include_guard: no identifier characters in \"" ++ path ++ "\"")
    | words => .ok (.string (Text.joinWith ['_'] words))

end TemplateTree.Identifier
