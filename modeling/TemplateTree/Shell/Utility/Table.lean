import TemplateTree.Shell.Utility.Lines

/-!
# Utilities by name
-/

namespace TemplateTree.Shell.Utility

def table : List (String × Utility) := [
  ("echo", echo), ("printf", printf), ("pwd", printDirectory), ("cd", changeDirectory),
  ("cat", concatenate), ("ls", list), ("true", idle 0), (":", idle 0), ("false", idle 1),
  ("sleep", pause), ("wait", idle 0), ("test", test), ("[", bracketTest), ("exit", exit),
  ("kill", kill), ("mkdir", makeDirectory), ("touch", touch), ("rm", remove), ("cp", copy),
  ("mv", move), ("rmdir", removeDirectory), ("ln", link), ("chmod", changeMode),
  ("head", beginning), ("tail", ending), ("sort", sortLines), ("wc", count), ("seq", numbers),
  ("basename", lastSegment), ("export", setVariables), ("unset", unsetVariables),
  ("break", fun _ _ => throw .left), ("continue", fun _ _ => throw .continued)]

def find? (name : Text) : Option Utility :=
  (table.find? fun p => p.1.toList = name).map Prod.snd

end TemplateTree.Shell.Utility
