import TemplateTree.Text.Blank
import TemplateTree.Text.Case

/-!
# Names and their words

A name such as `HTTPServer-name` is a sequence of words.  Words are cut at
characters that are neither letters nor numbers, between a lower-case and an
upper-case letter, and before the last capital of a run of capitals that a
lower-case letter follows.  The case styles write the words of a name anew.
-/

namespace TemplateTree.Text

/-- The case of the letters read last within a word. -/
inductive WordCase where
  | unknown | lower | upper
  deriving DecidableEq, Repr

/-- The words of a run of letters and numbers; `current` is the word under way,
reversed. -/
def humps (mode : WordCase) (current : Text) : Text → List Text
  | [] => []
  | [c] => [(c :: current).reverse]
  | c :: next :: r =>
    let mode' :=
      if isLowercase c then .lower
      else if isUppercase c then .upper
      else mode
    if mode' = .lower && isUppercase next then
      (c :: current).reverse :: humps .unknown [] (next :: r)
    else if mode = .upper && isUppercase c && isLowercase next then
      current.reverse :: humps .unknown [c] (next :: r)
    else
      humps mode' (c :: current) (next :: r)

def nameWords (t : Text) : List Text :=
  (splitWhere (fun c => !isAlphanumeric c) t).flatMap (humps .unknown [])

/-- A word in lower case; a capital sigma at its end takes the final form. -/
def lowerWord : Text → Text
  | [] => []
  | [c] => if c.toNat = 0x3A3 then [Char.ofNat 0x3C2] else lowerOf c
  | c :: r => lowerOf c ++ lowerWord r

/-- A word with its first character in upper case and the rest in lower case. -/
def capitalWord : Text → Text
  | [] => []
  | c :: r => upperOf c ++ lowerWord r

def snakeCase (t : Text) : Text :=
  joinWith ['_'] ((nameWords t).map lowerWord)

def kebabCase (t : Text) : Text :=
  joinWith ['-'] ((nameWords t).map lowerWord)

def shoutySnakeCase (t : Text) : Text :=
  joinWith ['_'] ((nameWords t).map toUpper)

def pascalCase (t : Text) : Text :=
  concat ((nameWords t).map capitalWord)

/-- Capitalised words after a first word in lower case. -/
def camelCase (t : Text) : Text :=
  match nameWords t with
  | [] => []
  | w :: ws => lowerWord w ++ concat (ws.map capitalWord)

end TemplateTree.Text
