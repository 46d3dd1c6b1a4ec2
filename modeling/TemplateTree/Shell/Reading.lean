import TemplateTree.Shell.Token

/-!
# Reading command lines

Commands read from tokens.  Reserved words count as such where a command can
begin.
-/

namespace TemplateTree.Shell

abbrev Tokens := List Token

abbrev CommandReader := Tokens → Except Text (Command × Tokens)

/-- The words that cannot begin a simple command. -/
def closingWords : List String :=
  ["then", "else", "elif", "fi", "do", "done", "\x7d", "esac"]

def openingWords : List String :=
  ["if", "while", "until", "for", "case", "in", "\x7b", "!"]

def reserved? (ts : Tokens) : Option Text :=
  match ts with
  | .word w :: _ => plainWord? w
  | _ => none

def unexpected (ts : Tokens) : Text :=
  match ts with
  | [] => endUnexpected
  | .operator t :: _ => "Syntax error: \"" ++ t ++ "\" unexpected"
  | .lineEnd :: _ => "Syntax error: newline unexpected"
  | .redirect _ _ :: _ => "Syntax error: redirection unexpected"
  | .word w :: _ =>
    let t := (plainWord? w).getD []
    if (closingWords ++ openingWords).any fun k => k.toList = t then
      "Syntax error: \"" ++ t ++ "\" unexpected"
    else "Syntax error: word unexpected"

def expectWord (word : String) (ts : Tokens) : Except Text Tokens :=
  if reserved? ts = some word.toList then .ok (ts.drop 1)
  else .error (unexpected ts ++ " (expecting \"" ++ word ++ "\")")

def skipLines (ts : Tokens) : Tokens :=
  ts.dropWhile (· = .lineEnd)

def readRedirects : Tokens → List Redirect × Tokens
  | .redirect n mode :: .word w :: rest =>
    let (more, after) := readRedirects rest
    (⟨n, mode, w⟩ :: more, after)
  | ts => ([], ts)

def assignment? (w : Word) : Option (Text × Word) :=
  let name := w.takeWhile fun p => match p with
    | .text [c] false => isNameChar c
    | _ => false
  let text := (plainWord? name).getD []
  match w.drop name.length with
  | .text ['='] false :: value =>
    if text.head?.any (fun c => !c.isDigit) then some (text, value) else none
  | _ => none

def readArguments : Tokens → List Word × List Redirect × Tokens
  | .word w :: rest =>
    let (words, redirects, after) := readArguments rest
    (w :: words, redirects, after)
  | .redirect n mode :: .word w :: rest =>
    let (words, redirects, after) := readArguments rest
    (words, ⟨n, mode, w⟩ :: redirects, after)
  | ts => ([], [], ts)

def readAssignments : Tokens → List (Text × Word) × Tokens
  | .word w :: rest =>
    match assignment? w with
    | some a =>
      let (more, after) := readAssignments rest
      (a :: more, after)
    | none => ([], .word w :: rest)
  | ts => ([], ts)

def readWords : Tokens → List Word × Tokens
  | .word w :: rest =>
    let (words, after) := readWords rest
    (w :: words, after)
  | ts => ([], ts)

def readPatterns : Tokens → Except Text (List Word × Tokens)
  | .operator ['('] :: .word w :: rest => readPatterns (.word w :: rest)
  | .word w :: .operator [')'] :: rest => .ok ([w], rest)
  | .word w :: .operator ['|'] :: rest => do
    let (ws, after) ← readPatterns rest
    return (w :: ws, after)
  | .word _ :: rest => .error (unexpected rest ++ " (expecting \")\")")
  | ts => .error (unexpected ts)

/-- What follows the separator before a reserved word. -/
def skipSeparator (ts : Tokens) : Tokens :=
  match ts with
  | .operator [';'] :: rest => skipLines rest
  | ts => skipLines ts

def endsList (ts : Tokens) : Bool :=
  match ts with
  | [] => true
  | .operator t :: _ => t = [')'] || t = [';', ';']
  | _ => (reserved? ts).any fun t => closingWords.any fun w => w.toList = t

mutual

def readList : Nat → CommandReader
  | 0, ts => .error (unexpected ts)
  | fuel + 1, ts =>
    let ts := skipLines ts
    if endsList ts then .ok (.nothing, ts)
    else do
      let (a, rest) ← readAndOr fuel ts
      match rest with
      | .operator [';'] :: more => readListFrom fuel a more
      | .operator ['&'] :: more => readListFrom fuel a more
      | .lineEnd :: more => readListFrom fuel a more
      | _ => return (a, rest)

/-- A list of commands after its first one. -/
def readListFrom : Nat → Command → CommandReader
  | 0, _, ts => .error (unexpected ts)
  | fuel + 1, a, ts => do
    let (b, rest) ← readList fuel ts
    return (.seq a b, rest)

/-- Pipelines of which each but the first depends on the outcome before it. -/
def readAndOr : Nat → CommandReader
  | 0, ts => .error (unexpected ts)
  | fuel + 1, ts => do
    let (a, rest) ← readPipeline fuel ts
    readAndOrFrom fuel a rest

def readAndOrFrom : Nat → Command → CommandReader
  | 0, _, ts => .error (unexpected ts)
  | fuel + 1, a, ts =>
    match ts with
    | .operator ['&', '&'] :: rest => do
      let (b, after) ← readPipeline fuel (skipLines rest)
      readAndOrFrom fuel (.andThen a b) after
    | .operator ['|', '|'] :: rest => do
      let (b, after) ← readPipeline fuel (skipLines rest)
      readAndOrFrom fuel (.orElse a b) after
    | _ => .ok (a, ts)

/-- Commands of which each reads what the one before it writes. -/
def readPipeline : Nat → CommandReader
  | 0, ts => .error (unexpected ts)
  | fuel + 1, ts =>
    if reserved? ts = some ['!'] then do
      let (c, rest) ← readPipeline fuel (ts.drop 1)
      return (.negate c, rest)
    else do
      let (a, rest) ← readCommand fuel ts
      readPipelineFrom fuel a rest

def readPipelineFrom : Nat → Command → CommandReader
  | 0, _, ts => .error (unexpected ts)
  | fuel + 1, a, ts =>
    match ts with
    | .operator ['|'] :: rest => do
      let (b, after) ← readCommand fuel (skipLines rest)
      readPipelineFrom fuel (.pipe a b) after
    | _ => .ok (a, ts)

def readCommand : Nat → CommandReader
  | 0, ts => .error (unexpected ts)
  | fuel + 1, ts =>
    match ts with
    | .operator ['('] :: rest => do
      let (c, after) ← readList fuel rest
      match after with
      | .operator [')'] :: more =>
        let (redirects, final) := readRedirects more
        return (.group true c redirects, final)
      | _ => throw (unexpected after ++ " (expecting \")\")")
    | .operator _ :: _ => .error (unexpected ts)
    | .lineEnd :: _ => .error (unexpected ts)
    | [] => .error (unexpected ts)
    | _ =>
      let word := (reserved? ts).getD []
      if word = ['\x7b'] then do
        let (c, after) ← readList fuel (ts.drop 1)
        let (redirects, final) := readRedirects (← expectWord "\x7d" after)
        return (.group false c redirects, final)
      else if word = "for".toList then readFor fuel (ts.drop 1)
      else if word = "case".toList then readBranch fuel (ts.drop 1)
      else if word = "if".toList then do
        let (c, after) ← readIf fuel (ts.drop 1)
        return (c, after)
      else if word = "while".toList || word = "until".toList then do
        let (condition, after) ← readList fuel (ts.drop 1)
        let (body, rest) ← readList fuel (← expectWord "do" after)
        let (redirects, final) := readRedirects (← expectWord "done" rest)
        return (.loop (word = "while".toList) condition body redirects, final)
      else if endsList ts || word = "in".toList then .error (unexpected ts)
      else
        let (assignments, afterAssignments) := readAssignments ts
        let (words, redirects, rest) := readArguments afterAssignments
        if rest.length = ts.length then .error (unexpected (ts.drop 1))
        else .ok (.simple assignments words redirects, rest)

def readFor : Nat → CommandReader
  | 0, ts => .error (unexpected ts)
  | fuel + 1, ts =>
    match reserved? ts with
    | none => .error "Syntax error: Bad for loop variable"
    | some name => do
      let afterName := skipLines (ts.drop 1)
      let (words, rest) :=
        if reserved? afterName = some "in".toList then readWords (afterName.drop 1)
        else ([], afterName)
      let (body, after) ← readList fuel (← expectWord "do" (skipSeparator rest))
      let (redirects, final) := readRedirects (← expectWord "done" after)
      return (.forEach name words body redirects, final)

def readBranch : Nat → CommandReader
  | 0, ts => .error (unexpected ts)
  | fuel + 1, ts =>
    match ts with
    | .word subject :: rest => do
      let inside ← expectWord "in" (skipLines rest)
      let (cases, after) ← readCases fuel (skipLines inside)
      let (redirects, final) := readRedirects (← expectWord "esac" after)
      return (.branch subject cases redirects, final)
    | ts => .error (unexpected ts)

def readCases : Nat → Tokens → Except Text (List (List Word × Command) × Tokens)
  | 0, ts => .error (unexpected ts)
  | fuel + 1, ts =>
    if reserved? ts = some "esac".toList || ts = [] then .ok ([], ts)
    else do
      let (patterns, inside) ← readPatterns ts
      let (body, after) ← readList fuel inside
      match after with
      | .operator [';', ';'] :: more =>
        let (others, final) ← readCases fuel (skipLines more)
        return ((patterns, body) :: others, final)
      | _ => return ([(patterns, body)], after)

def readIf : Nat → CommandReader
  | 0, ts => .error (unexpected ts)
  | fuel + 1, ts => do
    let (condition, afterCondition) ← readList fuel ts
    let (yes, rest) ← readList fuel (← expectWord "then" afterCondition)
    if reserved? rest = some "elif".toList then
      let (no, after) ← readIf fuel (rest.drop 1)
      return (.choose condition yes no [], after)
    else
      let (no, after) ←
        if reserved? rest = some "else".toList then readList fuel (rest.drop 1)
        else pure (.nothing, rest)
      let (redirects, final) := readRedirects (← expectWord "fi" after)
      return (.choose condition yes no redirects, final)

end

def readLine (t : Text) : Except Text Command := do
  let ts ← tokens (t.length + 1) t
  let (c, rest) ← readList (8 * ts.length + 8) ts
  if rest = [] then return c else throw (unexpected rest)

end TemplateTree.Shell
