import ShareLedger.Path
import ShareLedger.Text.Blank
import ShareLedger.Toml.Reader
/-!
# Settings

What can be set from outside, and where a setting comes from.

1. The settings file is a TOML document with a section `general`, which may hold `data_dir` and
   `default_currency`, and a section `display`, which may hold `url`. Everything else in it is
   passed over, but what is set has to be a text (`Settings.ofToml?`).
2. A missing settings file is made, with every setting commented out (`Settings.load`).
3. The command line goes before the environment, the environment before the file, and the file
   before the defaults (`Settings.resolve`). A blank address of the dashboard turns it off, wherever
   it comes from.
4. `~/` in front of a directory stands for the home directory, except on the command line.
-/

namespace ShareLedger

/-- What a settings file sets. -/
structure Settings where
  dataDir : Option String
  currency : Option String
  url : Option String
deriving DecidableEq

/-- Why there are no settings. -/
inductive SettingsError where
  /-- The file could not be read. -/
  | io
  /-- The file is no TOML document, or sets something else than a text. -/
  | parse
deriving DecidableEq

/-- What a line that tells why there are no settings begins with. -/
def SettingsError.message : SettingsError → String
  | io => "config I/O error"
  | parse => "config parse error"

namespace Settings

/-- The settings that set nothing. -/
def empty : Settings := ⟨none, none, none⟩

/-! ## The file -/

/-- The text that a value is. -/
def textOf? : Toml → Option String
  | .text s => some s
  | _ => none

/-- What a section sets, in the order of the names. A section is a table, in which any of the names
may be missing, or an array of a text for every name, behind which anything may stand. A date in its
place sets nothing. -/
def sectionOf? (names : List String) : Option Toml → Option (List (Option String))
  | none => some (names.map fun _ => none)
  | some (.table _ members) =>
    names.mapM fun name =>
      match members.lookup name with
      | some v => (textOf? v).map some
      | none => some none
  | some .moment => some (names.map fun _ => none)
  | some (.array items) =>
    if items.length < names.length then none
    else (items.take names.length).mapM fun v => (textOf? v).map some
  | some _ => none

/-- The settings of a document. -/
def ofToml? (root : Toml.Members) : Option Settings :=
  match sectionOf? ["data_dir", "default_currency"] (root.lookup "general"),
      sectionOf? ["url"] (root.lookup "display") with
  | some [dataDir, currency], some [url] => some ⟨dataDir, currency, url⟩
  | _, _ => none

/-- The settings of a file with a text. -/
def ofText (text : String) : Except SettingsError Settings :=
  match (Toml.read? text).bind ofToml? with
  | some s => .ok s
  | none => .error .parse

/-- The text of the file that is made when there is none. -/
def defaultText : String := String.join [
  "# sharebook configuration\n",
  "# All settings are optional; defaults are used for anything not specified.\n",
  "# Override hierarchy: defaults → this file → env vars → CLI flags.\n",
  "\n",
  "# [general]\n",
  "# data_dir = \"~/.sharebook\"          # Where games.json and sharebook.log live. ",
  "Or SHAREBOOK_DATA_DIR.\n",
  "# default_currency = \"$\"             # Shown until a game sets one with `banksize £12000`.\n",
  "\n",
  "# [display]\n",
  "# url = \"http://localhost:3000/18sh\" # Dashboard to mirror game state to. ",
  "Or SHARE_DISPLAY_URL.\n"]

/-- The settings of a file that may be missing, and the text that it has afterwards. -/
def load : Option String → Except SettingsError Settings × String
  | none => (.ok empty, defaultText)
  | some text => (ofText text, text)

/-! ## Choosing -/

/-- What is given on the command line. -/
structure Overrides where
  dataDir : Option String
  url : Option String

/-- What is used. -/
structure Choice where
  dataDir : String
  currency : String
  url : Option String
deriving DecidableEq

/-- The directory of the program in the home directory. -/
def ownDir (home : String) : String := Path.join home ".sharebook"

/-- The file of the settings. -/
def file (home : String) : String := Path.join (ownDir home) "config.toml"

/-- What is used, given the home directory, the environment and the command line. -/
def resolve (home : String) (environment : String → Option String) (given : Overrides)
    (s : Settings) : Choice where
  dataDir :=
    let named := (environment "SHAREBOOK_DATA_DIR").or s.dataDir
    (given.dataDir.or (named.map (Path.expandHome home))).getD (ownDir home)
  currency := s.currency.getD "$"
  url :=
    ((given.url.or (environment "SHARE_DISPLAY_URL")).or s.url).filter fun url => !Text.allBlank url

end Settings
end ShareLedger
