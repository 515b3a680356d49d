import ShareLedger.Text.Cut
/-!
# Path

Paths of files, as texts with slashes.
-/

namespace ShareLedger.Path

/-- A path below a directory; a path from the root stays as it is. -/
def join (dir path : String) : String :=
  match path.toList with
  | '/' :: _ => path
  | _ =>
    match dir.toList.getLast? with
    | none => path
    | some '/' => dir ++ path
    | some _ => dir ++ "/" ++ path

/-- A path with a `~/` in front replaced by the home directory. -/
def expandHome (home path : String) : String :=
  match path.toList with
  | '~' :: '/' :: rest => join home (String.ofList rest)
  | _ => path

/-- The steps to which further steps lead from a place: a point stays, two points go back. -/
def follow (place : List String) : List String → List String
  | [] => place
  | step :: rest =>
    if step = "" ∨ step = "." then follow place rest
    else if step = ".." then follow place.dropLast rest
    else follow (place ++ [step]) rest

/-- The steps from the root that a path takes when it is read in a directory. -/
def steps (dir path : String) : List String :=
  follow [] ((Text.pieces '/' (join dir path).toList).map String.ofList)

end ShareLedger.Path
