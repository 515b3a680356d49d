import ShareLedger.Action
import ShareLedger.Text.Case
/-!
# Grammar

Reading a command line. Every line can be read: one that is no command becomes an action without a
verb.

1. What follows the first `#` is the comment; its blanks at both ends do not count, and a comment of
   blanks is none.
2. The words before it are counted. One word is a query, two are a verb and its argument, three are
   a subject, a verb and its argument, and four or more are a purchase, a sale or a payment.
3. A verb may be cut short, down to its keyword's least length, and the first keyword of a table
   that accepts a word wins. Verbs and the words `to` and `from` are compared without regard to the
   case of the letters A to Z.
4. Names are kept in capitals, so that a name is the same however it is typed.
-/

namespace ShareLedger

/-- A verb's spelling and the least number of bytes of it that must be typed. -/
structure Keyword where
  word : String
  least : Nat
  verb : Verb

namespace Keyword

/-- Whether a word in small letters is this keyword, cut short or whole. -/
def accepts (k : Keyword) (word : String) : Bool :=
  k.least ≤ word.utf8ByteSize && Text.startsWith (Text.lowerAscii k.word) word

/-- The verbs of lines of one word. -/
def queries : List Keyword := [
  ⟨"holdings", 1, .holdings⟩,
  ⟨"values", 1, .values⟩,
  ⟨"list", 1, .listGames⟩,
  ⟨"listGames", 9, .listGames⟩,
  ⟨"bank", 1, .bank⟩,
  ⟨"companies", 1, .companies⟩,
  ⟨"companycredits", 14, .companyCredits⟩]

/-- The verbs of lines of two words. -/
def unary : List Keyword := [
  ⟨"open", 1, .openGame⟩,
  ⟨"delete", 6, .deleteGame⟩,
  ⟨"start", 5, .startGame⟩,
  ⟨"banksize", 1, .bankSize⟩,
  ⟨"close", 5, .close⟩,
  ⟨"next", 1, .nextRound⟩,
  ⟨"rounding", 8, .rounding⟩]

/-- The verbs of lines of three words. -/
def binary : List Keyword := [
  ⟨"buys", 1, .buy⟩,
  ⟨"sells", 1, .sell⟩,
  ⟨"dividends", 1, .dividend⟩,
  ⟨"pays", 1, .dividend⟩,
  ⟨"halfdividends", 1, .halfDividend⟩,
  ⟨"value", 1, .value⟩,
  ⟨"float", 1, .float⟩,
  ⟨"cash", 1, .cash⟩,
  ⟨"income", 6, .income⟩]

/-- The verbs of longer lines. -/
def variadic : List Keyword := [
  ⟨"buys", 1, .buy⟩,
  ⟨"sells", 1, .sell⟩,
  ⟨"give", 1, .give⟩]

/-- The verb of the first keyword that accepts a word. -/
def find (table : List Keyword) (word : String) : Option Verb :=
  (table.find? (·.accepts (Text.lowerAscii word))).map (·.verb)

end Keyword

namespace Action

/-! ## Arguments -/

/-- A currency symbol and an amount: `4000` has no symbol, in `£4000` it is the first character,
and a word that holds no amount behind its first character counts as a symbol for nothing. -/
def splitCurrency (raw : String) : Option String × Amount :=
  match Amount.read? raw with
  | some n => (none, n)
  | none =>
    match raw.toList with
    | [] => (some raw, 0)
    | symbol :: rest =>
      match Amount.readChars rest with
      | some n => (some (String.ofList [symbol]), n)
      | none => (some raw, 0)

/-- A price: an amount that may have one `@` in front. -/
def readPrice? (word : String) : Option Amount :=
  match word.toList with
  | '@' :: cs => Amount.readChars cs
  | cs => Amount.readChars cs

/-- The rest of a list without its first word, if that word satisfies `p`. -/
def skipIf (p : String → Bool) : List String → List String
  | w :: ws => if p w then ws else w :: ws
  | [] => []

/-- What `read` makes of the first word, with the words behind it; when it makes nothing of it, the
default and all words. -/
def takeOr {α : Type} (read : String → Option α) (default : α) : List String → α × List String
  | [] => (default, [])
  | w :: ws =>
    match read w with
    | some a => (a, ws)
    | none => (default, w :: ws)

/-! ## Lines by their number of words -/

/-- A line of one word. -/
def ofQuery (word : String) : Action := { verb := Keyword.find Keyword.queries word }

/-- A line of a verb and its argument. -/
def ofUnary (word argument : String) : Action :=
  match Keyword.find Keyword.unary word with
  | none => { verb := none }
  | some .bankSize =>
    let (symbol, size) := splitCurrency (Text.upper argument)
    { verb := some .bankSize, object := symbol, quantity := some size }
  | some verb => { verb := some verb, object := some (Text.upper argument) }

/-- A line of a subject, a verb and its argument. A word in place of the amount is a company of
which one share is meant, or no number where the verb takes amounts only. -/
def ofBinary (subject word argument : String) : Action :=
  match Keyword.find Keyword.binary word with
  | none => { verb := none }
  | some verb =>
    let subject := some (Text.upper subject)
    match Amount.read? argument with
    | some n => { verb := some verb, subject, quantity := some n }
    | none =>
      match verb with
      | .value | .income | .cash | .float => { verb := some verb, subject, quantity := none }
      | _ =>
        { verb := some verb, subject, object := some (Text.upper argument), quantity := some 1 }

/-- The arguments of a payment: an amount, `to`, which may be left out, and who receives it. -/
def ofGive (subject : String) : List String → Action
  | [] => { verb := some .give, subject := some subject, quantity := none }
  | amount :: rest =>
    { verb := some .give, subject := some subject, quantity := Amount.read? amount,
      object := (skipIf (Text.sameUpToAsciiCase · "to") rest).head?.map Text.upper }

/-- The arguments of a trade: a number of shares, one unless given, the company, a price, which may
be left out, and for a purchase `from`, which may be left out, and the seller. -/
def ofTrade (verb : Verb) (subject : String) (arguments : List String) : Action :=
  let (quantity, rest) := takeOr Amount.read? 1 arguments
  let company := rest.head?.map Text.upper
  let (price, rest) := takeOr readPrice? 0 rest.tail
  let source :=
    if verb = .buy then (skipIf (Text.sameUpToAsciiCase · "from") rest).head?.map Text.upper
    else none
  { verb := some verb, subject := some subject, object := company, quantity := some quantity,
    price, source }

/-- A line of a subject, a verb and two or more arguments. -/
def ofVariadic (subject word : String) (arguments : List String) : Action :=
  match Keyword.find Keyword.variadic word with
  | none => { verb := none }
  | some .give => ofGive (Text.upper subject) arguments
  | some verb => ofTrade verb (Text.upper subject) arguments

/-! ## Whole lines -/

/-- The action of the words before the comment. -/
def ofWords (hasComment : Bool) : List String → Action
  | [] => { verb := if hasComment then some .comment else none }
  | [word] => ofQuery word
  | [word, argument] => ofUnary word argument
  | [subject, word, argument] => ofBinary subject word argument
  | subject :: word :: arguments => ofVariadic subject word arguments

/-- The part of a line before the first `#`. -/
def commandPart (line : String) : String :=
  match Text.cutAt '#' line.toList with
  | some (before, _) => String.ofList before
  | none => line

/-- The comment of a line, trimmed, unless it is missing or blank. -/
def commentPart (line : String) : Option String :=
  match Text.cutAt '#' line.toList with
  | some (_, after) =>
    let note := String.ofList (Text.trimChars after)
    if note = "" then none else some note
  | none => none

/-- Reads one command line. -/
def read (line : String) : Action :=
  let comment := commentPart line
  { ofWords comment.isSome (Text.words (commandPart line)) with comment }

end Action
end ShareLedger
