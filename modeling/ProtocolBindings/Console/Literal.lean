import ProtocolBindings.Text.Blank
import ProtocolBindings.Text.Digit
import ProtocolBindings.Text.Identifier
import ProtocolBindings.Text.Lowercase

/-!
# Literals

The arguments of an event are written as literals: numbers, texts, bytes, the words `None`, `True`
and `False`, and tuples, sets and dictionaries of these.  There are no names and no operators but
the signs of numbers and the sum of a real and an imaginary number.  Only whether a text is a
literal counts, because no event occurs on a console without a pointer.
-/

namespace ProtocolBindings.Literal

/-! ## Tokens -/

/-- A token of a literal. -/
inductive Token where
  | number (isImaginary : Bool)
  | text
  | bytes
  | constant
  /-- The word in front of `()` for the set without elements. -/
  | setName
  | openParen
  | closeParen
  | openBrace
  | closeBrace
  | comma
  | colon
  | plus
  | minus
  /-- A line end outside all brackets. -/
  | newline
deriving DecidableEq, Repr

/-- What follows a row of digits, which low lines may divide one from another. -/
def afterDigits (isDigit : Char → Bool) : List Char → List Char
  | '_' :: c :: rest => if isDigit c then afterDigits isDigit rest else '_' :: c :: rest
  | c :: rest => if isDigit c then afterDigits isDigit rest else c :: rest
  | [] => []

/-- What follows the digits of a whole number with a letter for its base. -/
def afterBased (isDigit : Char → Bool) (cs : List Char) : Option (List Char) :=
  let cs := if cs.head? == some '_' then cs.drop 1 else cs
  match cs with
  | c :: rest => if isDigit c then some (afterDigits isDigit rest) else none
  | [] => none

/-- What follows the exponent of a number, if there is one. -/
def afterExponent (cs : List Char) : List Char :=
  match cs with
  | e :: rest =>
    let digits := match rest with
      | '+' :: digits | '-' :: digits => digits
      | digits => digits
    if (e == 'e' || e == 'E') && digits.head?.any (·.isDigit) then
      afterDigits (·.isDigit) digits
    else cs
  | [] => []

/-- What follows the fraction of a number, if there is one.  A point needs no digits behind it. -/
def afterFraction (cs : List Char) : List Char :=
  match cs with
  | '.' :: rest =>
    if rest.head?.any (·.isDigit) then afterDigits (·.isDigit) rest else rest
  | _ => cs

/-- Whether the digits of a whole number begin with a zero that they should not have. -/
def hasLeadingZero (digits : List Char) : Bool :=
  digits.head? == some '0' && digits.any fun c => c != '0' && c != '_'

/-- Reads a decimal number.  A whole number other than zero does not begin with a zero. -/
def readDecimal (cs : List Char) : Option (Token × List Char) :=
  let behindWhole := afterDigits (·.isDigit) cs
  let rest := afterExponent (afterFraction behindWhole)
  match rest with
  | 'j' :: rest | 'J' :: rest => some (.number true, rest)
  | _ =>
    if rest.length == behindWhole.length && hasLeadingZero (cs.take (cs.length - rest.length)) then
      none
    else some (.number false, rest)

def readNumber (cs : List Char) : Option (Token × List Char) :=
  let based (isDigit : Char → Bool) (rest : List Char) : Option (Token × List Char) :=
    (afterBased isDigit rest).map fun rest => (.number false, rest)
  match cs with
  | '0' :: c :: rest =>
    if c == 'x' || c == 'X' then based (fun c => (Text.hexValue? c).isSome) rest
    else if c == 'o' || c == 'O' then based (fun c => '0' ≤ c && c ≤ '7') rest
    else if c == 'b' || c == 'B' then based (fun c => c == '0' || c == '1') rest
    else readDecimal cs
  | _ => readDecimal cs

/-- How a text is written. -/
structure Quotation where
  quote : Char
  isTriple : Bool
  isRaw : Bool
  isBytes : Bool
deriving DecidableEq, Repr

/-- Whether a number of hexadecimal digits follows. -/
def startsWithHex (count : Nat) (cs : List Char) : Bool :=
  (cs.take count).length == count && (cs.take count).all fun c => (Text.hexValue? c).isSome

/-- Whether a backslash may stand in front of a character and what follows it. -/
def isEscape (q : Quotation) (c : Char) (rest : List Char) : Bool :=
  if q.isBytes then c.toNat < 128 && (q.isRaw || c != 'x' || startsWithHex 2 rest)
  else if q.isRaw then true
  else
    match c with
    | 'x' => startsWithHex 2 rest
    | 'u' => startsWithHex 4 rest
    | 'U' =>
      startsWithHex 8 rest && (rest.take 2).all (· == '0') &&
        ((rest.drop 2).head? == some '0' || (rest.drop 2).take 2 == ['1', '0'])
    | 'N' => rest.head? == some '\x7b' && rest.contains '\x7d'
    | _ => true

/-- What follows a text whose opening quotes have been passed. -/
def afterText (q : Quotation) : List Char → Option (List Char)
  | [] => none
  | '\\' :: c :: rest => if isEscape q c rest then afterText q rest else none
  | c :: rest =>
    if c == q.quote then
      if !q.isTriple then some rest
      else if rest.take 2 == [c, c] then some (rest.drop 2)
      else afterText q rest
    else if (c == '\n' && !q.isTriple) || (q.isBytes && 128 ≤ c.toNat) then none
    else afterText q rest

/-- Reads a text whose first quote has been passed.  The letters in front of it say how it is
written. -/
def readText (letters : List Char) (quote : Char) (cs : List Char) :
    Option (Token × List Char) :=
  let letters := String.ofList (Text.lowerChars letters)
  if ["", "r", "u", "b", "br", "rb"].contains letters then
    let isBytes := letters.contains 'b'
    let isRaw := letters.contains 'r'
    let token := if isBytes then Token.bytes else .text
    let isTriple := cs.take 2 == [quote, quote]
    (afterText ⟨quote, isTriple, isRaw, isBytes⟩ (if isTriple then cs.drop 2 else cs)).map
      fun rest => (token, rest)
  else none

/-- Reads a word, or a text with letters in front of its quotes. -/
def readWord (cs : List Char) : Option (Token × List Char) :=
  let word := cs.takeWhile Text.isIdentifierContinue
  let rest := cs.drop word.length
  match rest with
  | '"' :: rest => readText word '"' rest
  | '\'' :: rest => readText word '\'' rest
  | _ =>
    if word == "set".toList then some (.setName, rest)
    else if ["None", "True", "False"].contains (String.ofList word) then some (.constant, rest)
    else none

/-- The token of a mark, and by how much it changes the depth of brackets. -/
def mark? : Char → Option (Token × Int)
  | '(' => some (.openParen, 1)
  | '\x7b' => some (.openBrace, 1)
  | ')' => some (.closeParen, -1)
  | '\x7d' => some (.closeBrace, -1)
  | ',' => some (.comma, 0)
  | ':' => some (.colon, 0)
  | '+' => some (.plus, 0)
  | '-' => some (.minus, 0)
  | _ => none

/-- How many brackets may be open at a time. -/
def maxDepth : Nat := 200

/-- Reads the first token of a text that begins with no blank. -/
def readToken (cs : List Char) : Option (Token × List Char) :=
  match cs with
  | '.' :: '.' :: '.' :: rest => some (.constant, rest)
  | '.' :: c :: _ => if c.isDigit then readNumber cs else none
  | '"' :: rest => readText [] '"' rest
  | '\'' :: rest => readText [] '\'' rest
  | c :: _ =>
    if c.isDigit then readNumber cs else if Text.isIdentifierStart c then readWord cs else none
  | [] => none

/-- The tokens of a text inside a number of brackets; none if something is no token.  Every round
takes up at least one character, so one round more than there are characters is enough. -/
def tokensWithin : Nat → Nat → List Char → Option (List Token)
  | 0, _, _ => none
  | _ + 1, _, [] => some []
  | n + 1, depth, c :: rest =>
    if c == ' ' || c == '\t' || c == '\x0c' then tokensWithin n depth rest
    else if c == '\n' then
      if depth == 0 then (tokensWithin n depth rest).map (.newline :: ·)
      else tokensWithin n depth rest
    else if c == '#' then tokensWithin n depth (rest.dropWhile (· != '\n'))
    else if c == '\\' then
      match rest with
      | '\n' :: rest => tokensWithin n depth rest
      | _ => none
    else
      match mark? c with
      | some (token, change) =>
        let depth := (depth + change).toNat
        if maxDepth < depth then none else (tokensWithin n depth rest).map (token :: ·)
      | none =>
        match readToken (c :: rest) with
        | some (token, rest) => (tokensWithin n depth rest).map (token :: ·)
        | none => none

def withLineFeeds : List Char → List Char
  | '\r' :: '\n' :: rest => '\n' :: withLineFeeds rest
  | '\r' :: rest => '\n' :: withLineFeeds rest
  | c :: rest => c :: withLineFeeds rest
  | [] => []

def tokens? (cs : List Char) : Option (List Token) :=
  if cs.contains '\x00' then none
  else
    let cs := withLineFeeds cs
    tokensWithin (cs.length + 1) 0 cs

/-! ## Grammar -/

/-- What has to be known of a literal to combine it with others. -/
inductive Shape where
  | number (isImaginary isSigned : Bool)
  | value (isHashable : Bool)
deriving DecidableEq, Repr

/-- Whether a literal may be an element of a set or a key of a dictionary. -/
def Shape.isHashable : Shape → Bool
  | .number .. => true
  | .value isHashable => isHashable

mutual

/-- Reads a literal without signs. -/
def primary : Nat → List Token → Option (Shape × List Token)
  | 0, _ => none
  | n + 1, tokens =>
    match tokens with
    | .number isImaginary :: rest => some (.number isImaginary false, rest)
    | .text :: rest => some (.value true, rest.dropWhile (· == .text))
    | .bytes :: rest => some (.value true, rest.dropWhile (· == .bytes))
    | .constant :: rest => some (.value true, rest)
    | .setName :: .openParen :: .closeParen :: rest => some (.value false, rest)
    | .openParen :: .closeParen :: rest => some (.value true, rest)
    | .openBrace :: .closeBrace :: rest => some (.value false, rest)
    | .openParen :: rest => do
      let (first, rest) ← literal n rest
      match rest with
      | .closeParen :: rest => return (first, rest)
      | rest =>
        let (areHashable, rest) ← elements n .closeParen rest
        return (.value (first.isHashable && areHashable), rest)
    | .openBrace :: rest => do
      let (first, rest) ← literal n rest
      if !first.isHashable then none
      else
        match rest with
        | .colon :: rest => do
          let (_, rest) ← literal n rest
          return (.value false, ← members n rest)
        | rest => do
          let (areHashable, rest) ← elements n .closeBrace rest
          if areHashable then return (.value false, rest) else none
    | _ => none

/-- Reads a literal: a sign may precede a number, and an imaginary number may be added to a real
one. -/
def literal : Nat → List Token → Option (Shape × List Token)
  | 0, _ => none
  | n + 1, tokens => do
    let (left, rest) ←
      match tokens with
      | .plus :: rest | .minus :: rest => do
        match ← primary n rest with
        | (.number isImaginary false, rest) => pure (Shape.number isImaginary true, rest)
        | _ => none
      | tokens => primary n tokens
    match left, rest with
    | .number false _, .plus :: rest | .number false _, .minus :: rest =>
      match ← primary n rest with
      | (.number true false, rest) => return (.value true, rest)
      | _ => none
    | left, rest => return (left, rest)

/-- Reads the further elements of a collection up to its closing bracket.  A comma may stand in
front of the bracket. -/
def elements : Nat → Token → List Token → Option (Bool × List Token)
  | 0, _, _ => none
  | n + 1, closing, tokens =>
    match tokens with
    | .comma :: rest =>
      if rest.head? == some closing then some (true, rest.drop 1)
      else do
        let (next, rest) ← literal n rest
        let (areHashable, rest) ← elements n closing rest
        return (next.isHashable && areHashable, rest)
    | token :: rest => if token == closing then some (true, rest) else none
    | [] => none

/-- Reads the further members of a dictionary up to its closing bracket. -/
def members : Nat → List Token → Option (List Token)
  | 0, _ => none
  | n + 1, tokens =>
    match tokens with
    | .closeBrace :: rest | .comma :: .closeBrace :: rest => some rest
    | .comma :: rest => do
      let (key, rest) ← literal n rest
      match key.isHashable, rest with
      | true, .colon :: rest => do
        let (_, rest) ← literal n rest
        members n rest
      | _, _ => none
    | _ => none

end

/-- Whether a text is a literal.  Outside all brackets a tuple needs none of its own, so the text
is read as if it stood in parentheses.  No more than two rounds go to a token. -/
def isLiteral (cs : List Char) : Bool :=
  match tokens? cs with
  | none => false
  | some tokens =>
    let isNewline (t : Token) : Bool := t == .newline
    let tokens := ((tokens.dropWhile isNewline).reverse.dropWhile isNewline).reverse
    !tokens.isEmpty &&
      match primary (2 * tokens.length + 4) (.openParen :: tokens ++ [.closeParen]) with
      | some (_, []) => true
      | _ => false

end ProtocolBindings.Literal
