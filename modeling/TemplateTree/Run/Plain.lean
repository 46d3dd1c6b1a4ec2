import TemplateTree.Run.Session
import TemplateTree.Shell.Run

/-!
# A plain machine

The machine that a run is on if none is named.  It interprets commands, reads the clock of
the session, draws numbers from a seed, and has no variables; nothing else is known to it.
-/

namespace TemplateTree.Host

open Template

/-- A date by the number of days since the epoch: the year, month and day, from years that
begin in March and eras of four hundred years. -/
def civil (days : Int) : Int × Nat × Nat :=
  let shifted := days + 719468
  let day := (shifted % 146097).toNat
  let year := (day - day / 1460 + day / 36524 - day / 146096) / 365
  let dayOfYear := day - (365 * year + year / 4 - year / 100)
  let month := (5 * dayOfYear + 2) / 153
  let early := month < 10
  (year + shifted / 146097 * 400 + (if early then 0 else 1),
    if early then month + 3 else month - 9, dayOfYear - (153 * month + 2) / 5 + 1)

def padded (width n : Nat) : Text :=
  let digits := Text.decimal n
  List.replicate (width - digits.length) '0' ++ digits

/-- A time as text, with its date, in the calendar of the zone at longitude zero. -/
def dated (t : Instant) : Text :=
  let seconds := t / Instant.second
  let (year, month, day) := civil (seconds / 86400)
  let rest := (seconds % 86400).toNat
  let fraction := (t % Instant.second).toNat
  padded 4 year.toNat ++ ['-'] ++ padded 2 month ++ ['-'] ++ padded 2 day ++ ['T']
    ++ padded 2 (rest / 3600) ++ [':'] ++ padded 2 (rest / 60 % 60) ++ [':']
    ++ padded 2 (rest % 60) ++ (if fraction = 0 then [] else '.' :: padded 9 fraction) ++ "+00:00"

def asked (function : String) (want : Expectation α) (kind : String) (args : Namespace)
    (name : String) : Except Text (Option α) :=
  match Namespace.get? args name with
  | none => .ok none
  | some v =>
    match want.read? v with
    | some x => .ok (some x)
    | none =>
      .error ("Function `" ++ function ++ "` received " ++ name ++ "=" ++ v.toJson ++ " but `"
        ++ name ++ "` can only be a " ++ kind)

def now (time : Instant) : Function := fun args => do
  let _ ← asked "now" .truth "boolean" args "utc"
  if (← asked "now" .truth "boolean" args "timestamp").getD false then
    return .ofInt (time / Instant.second)
  else return .string (dated time)

def random (seed : Nat) : Function := fun args => do
  let start := (← asked "get_random" (.int 64) "number" args "start").getD 0
  match ← asked "get_random" (.int 64) "number" args "end" with
  | none => throw ("Function `get_random` was called without a `end` argument" : Text)
  | some stop =>
    if stop ≤ start then throw ("There is no number to be drawn" : Text)
    else
      let (drawn, _) := randNat (mkStdGen seed) 0 ((stop - start).toNat - 1)
      return .ofInt (start + drawn)

def ofProcess : Function := fun args => do
  match ← asked "get_env" .text "string" args "name" with
  | none => throw ("Function `get_env` was called without a `name` argument" : Text)
  | some name =>
    match Namespace.get? args "default" with
    | some v => return v
    | none => throw ("Environment variable `" ++ name ++ "` not found")

/-- Each moment and each question has numbers of its own to draw from. -/
abbrev plain (seed : Nat) : Host :=
  ⟨fun n =>
    { answer := fun time k q =>
        if q.name = "now" then now time q.args
        else if q.name = "get_random" then random (seed + 1009 * n + k) q.args
        else if q.name = "get_env" then ofProcess q.args
        else Outlook.none k q
      run := Shell.run }⟩

instance : Host :=
  plain 0

end TemplateTree.Host
