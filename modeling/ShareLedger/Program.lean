import ShareLedger.CommandLine
import ShareLedger.Dotenv
import ShareLedger.Plain
import ShareLedger.Settings
import ShareLedger.Store.File
/-!
# Program

A run of the line program from its arguments to its end.

1. The arguments come first: when they are wrong or ask for help, nothing else happens.
2. The settings file is made when it is missing. One that cannot be read is complained about and
   otherwise taken for empty.
3. The directory of the games is made and a log begun in it, then the store is opened. If one of the
   two fails, the run fails.
4. The game in play, or a new one, is opened, and the greeting tells which. A game that the
   arguments name is opened after that: its reply takes the place of the greeting if it was opened,
   and is set behind the greeting otherwise (`Program.welcome`).
-/

namespace ShareLedger

/-- What a run finds around it. -/
structure Surroundings where
  /-- The home directory. -/
  home : String
  environment : Environment
  /-- The text of the file that adds to the environment. -/
  dotenv : Option String
  /-- The text of the file of a path. -/
  file : String → Option String
  /-- Whether a path is a directory or can be made one. -/
  canBeDirectory : String → Bool
  /-- The moment of all writes. -/
  now : Amount

/-- What a run leaves behind. -/
structure Outcome where
  /-- Zero when all went well. -/
  code : Nat
  /-- All text that was written. -/
  output : String
  /-- The lines that tell what went wrong. -/
  complaints : List String
  /-- The files that were written, with their texts. -/
  written : List (String × String)

namespace Program

/-- The file of the games. -/
def gamesFile (dataDir : String) : String := Path.join dataDir "games.json"

/-- The file of the log. -/
def logFile (dataDir : String) : String := Path.join dataDir "sharebook.log"

/-- The settings, the complaint about them, and the settings file if it is made. -/
def settings (s : Surroundings) : Settings × List String × List (String × String) :=
  let path := Settings.file s.home
  let found := s.file path
  let (result, text) := Settings.load found
  let canBeMade := found.isNone && s.canBeDirectory (Settings.ownDir s.home)
  let made := if canBeMade then [(path, text)] else []
  match result with
  | .ok settings => (settings, [], made)
  | .error e => (.empty, ["Ignoring config file: " ++ e.message], made)

/-- The game with which a sitting begins and the greeting; nothing when the random words do not
suffice for a name. -/
def welcome (g : Game) (words : List UInt32) (name : Option String) :
    Option (Game × Except StoreError String) :=
  match g.createOrLoad words with
  | none => none
  | some (g, .error e) => some (g, .error e)
  | some (g, .ok greeting) =>
    match name with
    | none => some (g, .ok greeting)
    | some name =>
      match g.execute ("open " ++ name) with
      | (g, .error e) => some (g, .error e)
      | (g, .ok reply) =>
        let greeting := if reply.effect = .refresh then "" else greeting
        some (g, .ok (greeting ++ reply.feedback))

/-- The complaint of a run that fails. -/
def failure (reason : String) : String := "Error: " ++ reason

/-- What is settled before the store is opened. -/
structure Start where
  choice : Settings.Choice
  complaints : List String
  /-- The files that are made, with their texts. -/
  made : List (String × String)

/-- Settles what to use. -/
def start (s : Surroundings) (c : CommandLine) : Start :=
  let (settings, complaints, made) := settings s
  let environment := Dotenv.extend s.environment s.dotenv
  ⟨settings.resolve s.home environment ⟨c.dataDir, c.url⟩, complaints, made⟩

/-- Opens the store of a directory; no game is open yet. -/
def openStore (s : Surroundings) (choice : Settings.Choice) : Except StoreError Game :=
  (FileStore.ofText? (s.file (gamesFile choice.dataDir))).map fun store =>
    ⟨⟨store.index, 0, fun _ => .made s.now⟩, none, choice.currency⟩

/-- A run whose store is open: the greeting and the lines of the input. -/
def sitting (g : Game) (words : List UInt32) (name : Option String)
    (input : List (Option String)) : Option Plain.Transcript :=
  (welcome g words name).map fun
    | (g, .ok greeting) => Plain.run g greeting none input
    | (g, .error e) => ⟨"", .error (.store e), ⟨[]⟩, g⟩

/-- The file of the games if it was written. -/
def changed (dataDir : String) (store : Store) : List (String × String) :=
  if store.tried = 0 then [] else [(gamesFile dataDir, store.index.render)]

/-- A run of the line program; nothing when the random words do not suffice for a name. -/
def run (s : Surroundings) (arguments : List String) (words : List UInt32)
    (input : List (Option String)) : Option Outcome :=
  match CommandLine.read arguments with
  | .error .help => some ⟨0, CommandLine.helpText, [], []⟩
  | .error .wrong => some ⟨2, "", [CommandLine.complaint], []⟩
  | .ok c =>
    let begun := start s c
    let dir := begun.choice.dataDir
    if s.canBeDirectory dir then
      let made := begun.made ++ [(logFile dir, "")]
      match openStore s begun.choice with
      | .error e => some ⟨1, "", begun.complaints ++ [failure e.message], made⟩
      | .ok g =>
        (sitting g words c.game input).map fun t =>
          let made := made ++ changed dir t.game.store
          match t.result with
          | .ok _ => ⟨0, t.output, begun.complaints, made⟩
          | .error e => ⟨1, t.output, begun.complaints ++ [failure e.message], made⟩
    else
      some ⟨1, "", begun.complaints ++ [failure "the directory of the games cannot be made"],
        begun.made⟩

end Program
end ShareLedger
