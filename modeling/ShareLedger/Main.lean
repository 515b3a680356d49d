import ShareLedger.Program
import Std.Time.DateTime.Timestamp
/-!
# Main

The line program on the standard input and output.

All that it says and keeps is decided by the definitions that it calls; here files are read and
written, lines are read, and texts are printed. It opens neither the full screen, which needs single
keys, nor a connection to a dashboard.
-/

namespace ShareLedger.Main

/-! ## What is found -/

/-- The moment, in seconds. -/
def moment : IO Amount := do
  let t ← Std.Time.Timestamp.now
  return Amount.clamp t.toSecondsSinceUnixEpoch.val

/-- The text of a file that there may be. -/
def textOf? (path : String) : IO (Option String) := do
  try return some (← IO.FS.readFile path)
  catch
    | .noFileOrDirectory .. => return none
    | e => throw e

/-- Makes a directory; whether that went well. -/
def makeDirectory (path : String) : IO Bool := do
  if path = "" then return true
  try
    IO.FS.createDirAll path
    return true
  catch _ => return false

/-- The names that a text may speak of. -/
def namesIn (text : String) : List String :=
  let isPart (c : Char) : Bool := Text.isLetterOrDigit c || c == '_' || c == '.'
  (Text.words (String.ofList (text.toList.map fun c => if isPart c then c else ' ')))

/-- The values that the environment has for names. -/
def valuesOf (names : List String) : IO (List (String × String)) :=
  names.filterMapM fun name => return (← IO.getEnv name).map fun value => (name, value)

/-- Random words. -/
def randomWords : Nat → IO (List UInt32)
  | 0 => return []
  | n + 1 => return UInt32.ofNat (← IO.rand 0 4294967295) :: (← randomWords n)

/-! ## Writing -/

/-- Writes a file beside its place and then moves it there, so that it is never half written. -/
def replaceFile (path text : String) : IO Unit := do
  let draft := path ++ ".tmp"
  IO.FS.writeFile draft text
  IO.FS.rename draft path

/-- Writes files. -/
def writeAll : List (String × String) → IO Unit
  | [] => return
  | (path, text) :: rest => do
    replaceFile path text
    writeAll rest

/-- Writes the games if they changed; the game counts as unchanged afterwards. -/
def keep (dir : String) (g : Game) : IO Game := do
  writeAll (Program.changed dir g.store)
  return { g with store.tried := 0 }

/-! ## Lines -/

/-- The bytes up to the end of a line. -/
partial def lineBytes (input : IO.FS.Stream) (line : ByteArray) : IO ByteArray := do
  let more ← input.read 1
  if more.isEmpty then return line
  else if more.toList = [10] then return line.push 10
  else lineBytes input (line ++ more)

/-- Answers lines until the input ends, a line asks to quit, or something fails. -/
partial def answerLines (dir : String) (prompt : String) (g : Game) : IO UInt32 := do
  let output ← IO.getStdout
  output.putStr prompt
  output.flush
  let bytes ← lineBytes (← IO.getStdin) ByteArray.empty
  let line :=
    match Plain.inputLines bytes.toList with
    | [] => none
    | line :: _ => some line
  match line with
  | none => return 0
  | some none =>
    IO.eprintln (Program.failure Plain.Failure.notText.message)
    return 1
  | some (some line) =>
    if Text.allBlank line then answerLines dir prompt g
    else
      let now ← moment
      match Plain.step { g with store.fate := fun _ => .made now } ⟨[]⟩ line with
      | (_, _, .error e) =>
        IO.eprintln (Program.failure e.message)
        return 1
      | (g, _, .ok (feedback, goOn)) =>
        let g ← keep dir g
        output.putStr feedback
        output.flush
        if goOn then answerLines dir prompt g else return 0

/-- Opens a game, with more random words as long as they do not suffice for a name. -/
partial def welcome (g : Game) (name : Option String) : IO (Game × Except StoreError String) := do
  match Program.welcome g (← randomWords 1000) name with
  | some welcomed => return welcomed
  | none => welcome g name

/-- Runs the line program in a store that is to be opened. -/
def sit (s : Surroundings) (c : CommandLine) (choice : Settings.Choice) : IO UInt32 := do
  match Program.openStore s choice with
  | .error e =>
    IO.eprintln (Program.failure e.message)
    return 1
  | .ok g =>
    match ← welcome g c.game with
    | (_, .error e) =>
      IO.eprintln (Program.failure e.message)
      return 1
    | (g, .ok greeting) =>
      let g ← keep choice.dataDir g
      IO.print greeting
      let prompt := if ← (← IO.getStdin).isTty then "> " else ""
      answerLines choice.dataDir prompt g

/-- Runs the line program with arguments that are understood. -/
def run (c : CommandLine) : IO UInt32 := do
  let home := (← IO.getEnv "HOME").getD "."
  let dotenv ← textOf? ".env"
  let values ← valuesOf (["SHAREBOOK_DATA_DIR", "SHARE_DISPLAY_URL"] ++ namesIn (dotenv.getD ""))
  let path := Settings.file home
  let found ← textOf? path
  let hasOwnDir ← if found.isSome then pure true else makeDirectory (Settings.ownDir home)
  let s : Surroundings := {
    home, dotenv
    environment := fun name => values.lookup name
    file := fun p => if p = path then found else none
    canBeDirectory := fun _ => hasOwnDir
    now := ← moment }
  let begun := Program.start s c
  writeAll begun.made
  let dir := begun.choice.dataDir
  if ← makeDirectory dir then
    IO.FS.writeFile (Program.logFile dir) ""
    for complaint in begun.complaints do IO.eprintln complaint
    let games ← textOf? (Program.gamesFile dir)
    sit { s with file := fun _ => games } c begun.choice
  else
    IO.eprintln (Program.failure "the directory of the games cannot be made")
    return 1

end ShareLedger.Main

/-- The line program. -/
def main (arguments : List String) : IO UInt32 := do
  match ShareLedger.CommandLine.read arguments with
  | .error .help =>
    IO.print ShareLedger.CommandLine.helpText
    return 0
  | .error .wrong =>
    IO.eprintln ShareLedger.CommandLine.complaint
    return 2
  | .ok c => ShareLedger.Main.run c
