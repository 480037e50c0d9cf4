import ProtocolBindings.Console.Emoji.Table
import ProtocolBindings.Text.Blank
import ProtocolBindings.Text.Digit
import ProtocolBindings.Text.Lowercase

/-!
# Emoji

A message may name an emoji between colons.  A name that ends in `-emoji` or `-text` asks for the
coloured or the plain form.  Names are looked up in lowercase, and what names no emoji stays as
it is written.
-/

namespace ProtocolBindings.Emoji

/-- The character behind an emoji that asks for its plain form. -/
def textSelector : Char := '\uFE0E'

/-- The character behind an emoji that asks for its coloured form. -/
def emojiSelector : Char := '\uFE0F'

/-- The characters of a word of hexadecimal code points joined by hyphens. -/
def charsOfCodes (codes : List Char) : List Char :=
  (Text.pieces (· == '-') codes).map fun code =>
    Char.ofNat (code.foldl (fun n c => 16 * n + (Text.hexValue? c).getD 0) 0)

/-- The names and emoji among words in which names and code points take turns. -/
def pairsOf : List (List Char) → List (List Char × List Char)
  | name :: codes :: rest => (name, charsOfCodes codes) :: pairsOf rest
  | _ => []

def entries : List (List Char × List Char) :=
  nameTable.flatMap fun line => pairsOf (Text.words line.toList)

def find? (name : List Char) : Option (List Char) :=
  entries.lookup name

/-- A name as a message writes it between colons. -/
structure Mention where
  name : List Char := []
  /-- The character that asks for a form, if there is one. -/
  selector : List Char := []
deriving DecidableEq, Repr

/-- The name whose opening colon has been passed, and what follows its closing colon.  A name
holds no blanks, and ends at the first place where it can. -/
def readMention : List Char → Option (Mention × List Char)
  | [] => none
  | ':' :: rest => some ({}, rest)
  | '-' :: 'e' :: 'm' :: 'o' :: 'j' :: 'i' :: ':' :: rest =>
    some ({ selector := [emojiSelector] }, rest)
  | '-' :: 't' :: 'e' :: 'x' :: 't' :: ':' :: rest => some ({ selector := [textSelector] }, rest)
  | c :: rest =>
    if Text.isBlank c then none
    else (readMention rest).map fun (found, after) =>
      ({ found with name := c :: found.name }, after)

/-- Puts emoji in the place of their names.  Every round takes up at least one character, so as
many rounds as there are characters are enough. -/
def replaceWithin : Nat → List Char → List Char
  | 0, cs => cs
  | _, [] => []
  | n + 1, c :: rest =>
    match (if c == ':' then readMention rest else none) with
    | none => c :: replaceWithin n rest
    | some (found, after) =>
      let shown :=
        match find? (Text.lowerChars found.name) with
        | some emoji => emoji ++ found.selector
        | none => c :: rest.take (rest.length - after.length)
      shown ++ replaceWithin n after

/-- Puts emoji in the place of their names. -/
def replace (cs : List Char) : List Char :=
  replaceWithin cs.length cs

end ProtocolBindings.Emoji
