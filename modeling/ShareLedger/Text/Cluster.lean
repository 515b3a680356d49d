import ShareLedger.Text.ClusterTable
import ShareLedger.Text.Ranges
/-!
# Text.Cluster

The characters that are shown as one: the extended grapheme clusters of the Unicode standard.

A text is cut before every character that does not belong to the one in front of it (`belongs`).
What has to be known of the text in front is kept in `ClusterBefore`: the kind of its last
character, and whether it ends in a picture, a half pair of flag letters or a consonant that may be
joined.
-/

namespace ShareLedger.Text

/-- What a character is in a cluster. -/
inductive ClusterKind where
  | other
  | carriageReturn
  | lineFeed
  | control
  | extender
  | joiner
  | spacingMark
  | prepended
  | regional
  | pictograph
  | hangulLeading
  | hangulVowel
  | hangulTrailing
  /-- A Hangul syllable without a trailing consonant. -/
  | hangulOpen
  /-- A Hangul syllable with a trailing consonant. -/
  | hangulClosed
deriving DecidableEq

/-- The kind of a character. -/
def clusterKind (c : Char) : ClusterKind :=
  let n := c.toNat
  if n < 128 then
    if n = 13 then .carriageReturn
    else if n = 10 then .lineFeed
    else if n < 32 ∨ n = 127 then .control
    else .other
  else if 0xAC00 ≤ n ∧ n ≤ 0xD7A3 then
    if (n - 0xAC00) % 28 = 0 then .hangulOpen else .hangulClosed
  else if n = 0x200D then .joiner
  else if 0x1F1E6 ≤ n ∧ n ≤ 0x1F1FF then .regional
  else if inRanges controlRanges n then .control
  else if inRanges extenderRanges n then .extender
  else if inRanges spacingMarkRanges n then .spacingMark
  else if inRanges prependRanges n then .prepended
  else if inRanges pictographRanges n then .pictograph
  else if inRanges leadingRanges n then .hangulLeading
  else if inRanges vowelRanges n then .hangulVowel
  else if inRanges trailingRanges n then .hangulTrailing
  else .other

/-- What the end of a text is for a consonant behind it. -/
inductive Conjunct where
  | none
  /-- A consonant and marks. -/
  | open
  /-- A consonant and marks, a linker among them. -/
  | linked
deriving DecidableEq

/-- What is known of the text in front of a place. -/
structure ClusterBefore where
  last : ClusterKind
  /-- Whether the text ends in a pictograph and extenders, the joiner at the very end aside. -/
  picture : Bool
  /-- Whether the text ends in an odd number of regional indicators. -/
  halfFlag : Bool
  conjunct : Conjunct

namespace ClusterBefore

/-- Whether a consonant can be joined to the next one by a linker. -/
def isConsonant (c : Char) : Bool := inRanges consonantRanges c.toNat

/-- Whether a character belongs to the one in front of it. -/
def belongs (b : ClusterBefore) (c : Char) : Bool :=
  let a := b.last
  let k := clusterKind c
  if a == .carriageReturn && k == .lineFeed then true
  else if a == .control || a == .carriageReturn || a == .lineFeed then false
  else if k == .control || k == .carriageReturn || k == .lineFeed then false
  else if a == .hangulLeading && (k == .hangulLeading || k == .hangulVowel || k == .hangulOpen ||
      k == .hangulClosed) then true
  else if (a == .hangulOpen || a == .hangulVowel) &&
      (k == .hangulVowel || k == .hangulTrailing) then true
  else if (a == .hangulClosed || a == .hangulTrailing) && k == .hangulTrailing then true
  else if k == .extender || k == .joiner || k == .spacingMark || a == .prepended then true
  else if b.conjunct == .linked && isConsonant c then true
  else if b.picture && a == .joiner && k == .pictograph then true
  else b.halfFlag && k == .regional

/-- What is known behind a character. -/
def next (b : ClusterBefore) (c : Char) : ClusterBefore :=
  let k := clusterKind c
  { last := k
    picture :=
      k == .pictograph || (b.picture && b.last != .joiner && (k == .extender || k == .joiner))
    halfFlag := k == .regional && !b.halfFlag
    conjunct :=
      if isConsonant c then .open
      else if b.conjunct == .none then .none
      else if inRanges linkerRanges c.toNat then .linked
      else if (k == .extender && c.toNat != 0x200C) || k == .joiner then b.conjunct
      else .none }

/-- What is known before a text. -/
def start : ClusterBefore := ⟨.control, false, false, .none⟩

end ClusterBefore

/-- The clusters of a text that goes on behind the characters of `cluster`, which are held in
reverse. -/
def clustersAfter (b : ClusterBefore) (cluster : List Char) : List Char → List (List Char)
  | [] => if cluster.isEmpty then [] else [cluster.reverse]
  | c :: cs =>
    if cluster.isEmpty || b.belongs c then clustersAfter (b.next c) (c :: cluster) cs
    else cluster.reverse :: clustersAfter (b.next c) [c] cs

/-- The text cut into clusters. -/
def clusters (cs : List Char) : List (List Char) := clustersAfter .start [] cs

end ShareLedger.Text
