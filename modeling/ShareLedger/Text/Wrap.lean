import ShareLedger.Text.Blank
import ShareLedger.Text.Cut
import ShareLedger.Text.Letter
import ShareLedger.Text.LineBreak
import ShareLedger.Text.Width
/-!
# Text.Wrap

Setting a text in lines of a width.

1. A line of the text that has fewer bytes than the width is kept; only spaces at its end go.
2. Any other line is cut into fragments: where the line breaking algorithm allows it, but behind a
   hyphen only if that stands between letters or digits. A fragment that is wider than the width is
   cut to it.
3. The fragments are set in the lines of the least cost (`Layout`). Of equally cheap settings the
   one counts whose last line begins earliest, and so on upwards.
4. Sequences that control a terminal fill no cells, and no cut falls inside of them.
-/

namespace ShareLedger.Text

/-! ## Control sequences of terminals -/

/-- Where in a control sequence a reader is. -/
inductive EscapeState where
  /-- In none. -/
  | text
  /-- Behind the character that begins one. -/
  | opened
  /-- In one that ends with a letter or a mark. -/
  | control
  /-- In one that ends with a bell or with an escape and a backslash; whether an escape is the last
  character. -/
  | command (escaped : Bool)
deriving DecidableEq

/-- Whether a character is shown, and the place behind it. -/
def EscapeState.step (s : EscapeState) (c : Char) : Bool × EscapeState :=
  let isEscape := c.toNat == 0x1B
  match s with
  | text => if isEscape then (false, opened) else (true, text)
  | opened =>
    if c = '[' then (false, control) else if c = ']' then (false, command false) else (false, text)
  | control => if 0x40 ≤ c.toNat ∧ c.toNat ≤ 0x7E then (false, text) else (false, control)
  | command escaped =>
    if c.toNat = 7 ∨ (c = '\\' ∧ escaped) then (false, text) else (false, command isEscape)

/-- The characters of a text, each with whether it is shown. -/
def markedFrom (s : EscapeState) : List Char → List (Char × Bool)
  | [] => []
  | c :: cs =>
    let (shown, s) := s.step c
    (c, shown) :: markedFrom s cs

/-- The characters of a text, each with whether it is shown. -/
def marked (cs : List Char) : List (Char × Bool) := markedFrom .text cs

/-- The cells that the characters of a text fill one by one. -/
def cells (cs : List Char) : Nat :=
  (marked cs).foldr (fun (c, shown) sum => (if shown then charWidth c else 0) + sum) 0

/-! ## Fragments -/

/-- A part of a line that is not broken, and the spaces behind it. -/
structure Fragment where
  text : List Char
  spaces : Nat

namespace Fragment

/-- The fragment of characters that may end in spaces. -/
def ofChars (cs : List Char) : Fragment :=
  let text := dropEndWhile (· == ' ') cs
  ⟨text, cs.length - text.length⟩

/-- The cells of the fragment, its spaces aside. -/
def width (f : Fragment) : Nat := cells f.text

/-- The characters of the fragment and its spaces. -/
def chars (f : Fragment) : List Char := f.text ++ List.replicate f.spaces ' '

end Fragment

/-- Characters that go together: a shown one behind those that are not, or, at the end of a text,
only such that are not. -/
def groupsAfter (held : List Char) : List (Char × Bool) → List (List Char × Option Char)
  | [] => if held.isEmpty then [] else [(held.reverse, none)]
  | (c, true) :: cs => ((c :: held).reverse, some c) :: groupsAfter [] cs
  | (c, false) :: cs => groupsAfter (c :: held) cs

/-- Whether a break behind a character is left to the rule for hyphens. -/
def isHyphen (c : Char) : Bool := c == '-' || c.toNat == 0xAD

/-- Pairs each group with whether it may begin a fragment: its shown character may begin a line and
the one in front is no hyphen. -/
def withBreaks (previous : Option Char) :
    List Bool → List (List Char × Option Char) → List (Bool × List Char)
  | may :: rest, (cs, some c) :: groups =>
    (may && !previous.any isHyphen, cs) :: withBreaks (some c) rest groups
  | _, groups => groups.map fun (cs, _) => (false, cs)

/-- Withdraws the last break. -/
def withoutLastBreak (parts : List (Bool × List Char)) : List (Bool × List Char) :=
  let (after, before) := parts.reverse.span fun p => !p.1
  match before with
  | (_, cs) :: before => before.reverse ++ (false, cs) :: after.reverse
  | [] => parts

/-- The characters between the breaks. -/
def joinParts (held : List Char) : List (Bool × List Char) → List (List Char)
  | [] => if held.isEmpty then [] else [held]
  | (true, cs) :: parts =>
    if held.isEmpty then joinParts cs parts else held :: joinParts cs parts
  | (false, cs) :: parts => joinParts (held ++ cs) parts

/-- The parts of a line between the places where it may be broken. The end of a line counts as the
last of these places unless a hyphen stands in front of it, and the last one is not used. -/
def unbroken (cs : List Char) : List (List Char) :=
  let groups := groupsAfter [] (marked cs)
  let shown := groups.filterMap (·.2)
  let parts := withBreaks none (breaksBefore shown) groups
  joinParts [] (if shown.getLast?.any isHyphen then withoutLastBreak parts else parts)

/-- Cuts behind the hyphens between letters or digits. -/
def cutHyphens (held : List Char) : List Char → List (List Char)
  | a :: '-' :: b :: cs =>
    if isLetterOrDigit a && isLetterOrDigit b then (held ++ [a, '-']) :: cutHyphens [] (b :: cs)
    else cutHyphens (held ++ [a]) ('-' :: b :: cs)
  | c :: cs => cutHyphens (held ++ [c]) cs
  | [] => if held.isEmpty then [] else [held]

/-- Cuts before every character that would make a piece wider than a width. -/
def cutWide (width : Nat) (held : List Char) (used : Nat) : List (Char × Bool) → List (List Char)
  | [] => if held.isEmpty then [] else [held.reverse]
  | (c, shown) :: cs =>
    if shown && 0 < used && width < used + charWidth c then
      held.reverse :: cutWide width [c] (charWidth c) cs
    else cutWide width (c :: held) (if shown then used + charWidth c else used) cs

/-- Fragments of pieces; the spaces stand behind the last one. -/
def ofPieces (spaces : Nat) : List (List Char) → List Fragment
  | [] => [⟨[], spaces⟩]
  | [cs] => [⟨cs, spaces⟩]
  | cs :: rest => ⟨cs, 0⟩ :: ofPieces spaces rest

/-- The fragments of a line. -/
def fragments (width : Nat) (cs : List Char) : List Fragment :=
  (unbroken cs).flatMap fun part =>
    let word := Fragment.ofChars part
    (ofPieces word.spaces (cutHyphens [] word.text)).flatMap fun f =>
      if width < f.width then ofPieces f.spaces (cutWide width [] 0 (marked f.text)) else [f]

/-! ## Lines of the least cost -/

/-- The cost of a line of `count` fragments that fills `span` cells. Every line costs something. A
line that is too wide costs by its excess, and one that is too narrow by the square of its gap. The
last line may be narrow, but one fragment that fills less than a quarter costs a little. -/
def lineCost (width : Nat) (isLast : Bool) (count span : Nat) : Nat :=
  1000 +
    if width < span then 2500 * (span - width)
    else if !isLast then (width - span) * (width - span)
    else if count = 1 ∧ 4 * span < width then 25
    else 0

/-- Fragments set in lines, the last line first, and what that costs. -/
structure Layout where
  lines : List (List Fragment)
  cost : Nat

namespace Layout

/-- Nothing set. -/
def empty : Layout := ⟨[], 0⟩

/-- The cheaper one of two layouts, the second one if they cost the same. -/
def cheaper (a : Layout) : Option Layout → Layout
  | none => a
  | some b => if b.cost ≤ a.cost then b else a

/-- The cheapest layout that ends in a line of some of `before`, the nearest first, and of `line`.
The layouts are those of all fragments in front of each of `before`. -/
def withLastLine (width : Nat) (isLast : Bool) (line : List Fragment) (count span : Nat) :
    List Fragment → List Layout → Option Layout
  | f :: before, layout :: layouts =>
    let line := f :: line
    let span := if count = 0 then f.width else f.width + f.spaces + span
    let cost := layout.cost + lineCost width isLast (count + 1) span
    let here : Layout := ⟨line :: layout.lines, cost⟩
    some (here.cheaper (withLastLine width isLast line (count + 1) span before layouts))
  | _, _ => none

/-- The cheapest layouts of more and more fragments, the latest first; `set` are the fragments that
are set, the latest first, with their layouts. -/
def grow (width : Nat) (set : List Fragment) (layouts : List Layout) :
    List Fragment → List Layout
  | [] => layouts
  | f :: rest =>
    let set := f :: set
    match withLastLine width rest.isEmpty [] 0 0 set layouts with
    | some layout => grow width set (layout :: layouts) rest
    | none => layouts

/-- The cheapest layout of fragments. -/
def best (width : Nat) (fs : List Fragment) : Layout :=
  (grow (max width 1) [] [empty] fs).headD empty

end Layout

/-- The characters of a line, without the spaces behind its last fragment. -/
def lineChars : List Fragment → List Char
  | [] => []
  | [f] => f.text
  | f :: rest => f.chars ++ lineChars rest

/-- A line of a text set in lines of a width. -/
def wrapLine (width : Nat) (cs : List Char) : List (List Char) :=
  if (String.ofList cs).utf8ByteSize < width then [dropEndWhile (· == ' ') cs]
  else
    match (Layout.best width (fragments width cs)).lines with
    | [] => [[]]
    | lines => lines.reverse.map lineChars

/-- A text set in lines of a width. -/
def wrap (width : Nat) (s : String) : List (List Char) :=
  (pieces '\n' s.toList).flatMap (wrapLine width)

end ShareLedger.Text
