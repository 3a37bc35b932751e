import Enrollment.Text.Hex

/-!
# Strings and keys of TOML

The four kinds of strings, bare and dotted keys, blanks, comments and line ends, read from the front
of a text. Basic strings know escapes, literal strings do not; those of several lines drop a line
end right after their opening quotes, read a carriage return and line feed as a line feed, and may
hold up to two quotes in a row, also right before the closing ones. In a basic string of several
lines a backslash at the end of a line removes all white space up to the next character.
-/

namespace Enrollment.Toml

/-- What is read from the front of a text, and the text that is left. -/
abbrev Reader (α : Type) := List Char → Option (α × List Char)

/-- Space and tab. -/
def isBlank (c : Char) : Bool :=
  c == ' ' || c == '\t'

def skipBlanks (cs : List Char) : List Char :=
  cs.dropWhile isBlank

def afterNewline? : List Char → Option (List Char)
  | '\n' :: cs => some cs
  | '\r' :: '\n' :: cs => some cs
  | _ => none

def after? (c : Char) : List Char → Option (List Char)
  | d :: cs => if d = c then some cs else none
  | [] => none

def afterWord? (word : List Char) (cs : List Char) : Option (List Char) :=
  if word.isPrefixOf cs then some (cs.drop word.length) else none

/-- Whether a character may stand in a comment, or in a string other than its quotes and the
backslash: a tab, or anything but the ASCII control characters. -/
def isPrintable (c : Char) : Bool :=
  c == '\t' || (0x20 ≤ c.toNat && c.toNat ≠ 0x7F)

/-- The text after a comment, if there is one. -/
def skipComment : List Char → List Char
  | '#' :: cs => cs.dropWhile isPrintable
  | cs => cs

/-- The text after blanks, a comment, and the end of the line or of the text. -/
def afterLine? (cs : List Char) : Option (List Char) :=
  let cs := skipComment (skipBlanks cs)
  if cs.isEmpty then some cs else afterNewline? cs

/-- The text after any blanks, comments and line ends. Each line end is a character at least, so
the number of characters bounds the lines. -/
def skipLines (cs : List Char) : List Char :=
  go cs.length cs
where
  /-- Skips at most so many lines. -/
  go : Nat → List Char → List Char
    | 0, cs => cs
    | fuel + 1, cs =>
        let rest := skipComment (skipBlanks cs)
        match afterNewline? rest with
        | some rest => go fuel rest
        | none => rest

/-! ## Strings -/

/-- A piece of a string. -/
inductive Piece where
  /-- Characters of the string, with more to come. -/
  | more (text : List Char)
  /-- The last characters; the closing quotes have been read. -/
  | last (text : List Char)

/-- The pieces of a string put together. Each piece is a character at least, so the number of
characters bounds the pieces. -/
def gather (piece : Reader Piece) (cs : List Char) : Option (List Char × List Char) :=
  go (cs.length + 1) [] cs
where
  /-- Reads at most so many pieces; `read` holds the characters before, the last one first. -/
  go : Nat → List Char → List Char → Option (List Char × List Char)
    | 0, _, _ => none
    | fuel + 1, read, cs =>
        match piece cs with
        | none => none
        | some (.more text, cs) => go fuel (text.reverse ++ read) cs
        | some (.last text, cs) => some (read.reverse ++ text, cs)

/-- The character with a code point given by a number of hexadecimal digits. -/
def codePoint? (width : Nat) (cs : List Char) : Option (Char × List Char) :=
  let digits := (cs.take width).filterMap Hex.value?
  let code := digits.foldl (fun n d => n * 16 + d) 0
  if digits.length = width ∧ code.isValidChar then some (Char.ofNat code, cs.drop width) else none

/-- The character of an escape, after its backslash. -/
def readEscape : Reader Char
  | 'b' :: cs => some ('\x08', cs)
  | 't' :: cs => some ('\t', cs)
  | 'n' :: cs => some ('\n', cs)
  | 'f' :: cs => some ('\x0C', cs)
  | 'r' :: cs => some ('\r', cs)
  | '"' :: cs => some ('"', cs)
  | '\\' :: cs => some ('\\', cs)
  | 'u' :: cs => codePoint? 4 cs
  | 'U' :: cs => codePoint? 8 cs
  | _ => none

/-- A piece of a basic string. -/
def basicPiece : Reader Piece
  | '"' :: cs => some (.last [], cs)
  | '\\' :: cs => (readEscape cs).map fun (c, cs) => (.more [c], cs)
  | c :: cs => if isPrintable c then some (.more [c], cs) else none
  | [] => none

/-- A piece of a literal string. -/
def literalPiece : Reader Piece
  | '\'' :: cs => some (.last [], cs)
  | c :: cs => if isPrintable c then some (.more [c], cs) else none
  | [] => none

/-- A row of quotes inside or at the end of a string of several lines. -/
def quotesPiece (quote : Char) (cs : List Char) : Piece × List Char :=
  let quotes := (cs.takeWhile (· == quote)).length
  if quotes < 3 then (.more (List.replicate quotes quote), cs.drop quotes)
  else
    let kept := min (quotes - 3) 2
    (.last (List.replicate kept quote), cs.drop (kept + 3))

/-- The text after a backslash that ends a line, and the white space that it removes. -/
def afterContinuation? (cs : List Char) : Option (List Char) :=
  (afterNewline? (skipBlanks cs)).map fun cs => go cs.length cs
where
  /-- Skips at most so many lines of blanks. -/
  go : Nat → List Char → List Char
    | 0, cs => skipBlanks cs
    | fuel + 1, cs =>
        match afterNewline? (skipBlanks cs) with
        | some cs => go fuel cs
        | none => skipBlanks cs

/-- A piece of a string of several lines that is not a quote. -/
def linePiece (cs : List Char) : Option (Piece × List Char) :=
  match afterNewline? cs, cs with
  | some rest, _ => some (.more ['\n'], rest)
  | none, c :: cs => if isPrintable c then some (.more [c], cs) else none
  | none, [] => none

/-- A piece of a basic string of several lines. -/
def basicLinesPiece : Reader Piece
  | '"' :: cs => some (quotesPiece '"' ('"' :: cs))
  | '\\' :: cs =>
      match afterContinuation? cs with
      | some cs => some (.more [], cs)
      | none => (readEscape cs).map fun (c, cs) => (.more [c], cs)
  | cs => linePiece cs

/-- A piece of a literal string of several lines. -/
def literalLinesPiece : Reader Piece
  | '\'' :: cs => some (quotesPiece '\'' ('\'' :: cs))
  | cs => linePiece cs

/-- The text after the line end that may follow opening quotes. -/
def skipNewline (cs : List Char) : List Char :=
  (afterNewline? cs).getD cs

/-- A string of one line. -/
def readLine : Reader (List Char)
  | '"' :: cs => gather basicPiece cs
  | '\'' :: cs => gather literalPiece cs
  | _ => none

/-- A string of any kind. -/
def readString : Reader (List Char)
  | '"' :: '"' :: '"' :: cs => gather basicLinesPiece (skipNewline cs)
  | '\'' :: '\'' :: '\'' :: cs => gather literalLinesPiece (skipNewline cs)
  | cs => readLine cs

/-! ## Keys -/

/-- Whether a character may stand in a key without quotes. -/
def isBare (c : Char) : Bool :=
  c.isAlphanum || c == '_' || c == '-'

/-- One part of a key. -/
def readKeyPart (cs : List Char) : Option (String × List Char) :=
  match readLine cs with
  | some (key, cs) => some (String.ofList key, cs)
  | none =>
      let bare := cs.takeWhile isBare
      if bare.isEmpty then none else some (String.ofList bare, cs.dropWhile isBare)

/-- The greatest number of parts of a key, and the greatest depth of values in one another. -/
def maxDepth : Nat := 79

/-- The parts of a key, separated by points that may have blanks around them. -/
def readKey (cs : List Char) : Option (List String × List Char) :=
  go maxDepth cs
where
  /-- Reads at most so many parts. -/
  go : Nat → List Char → Option (List String × List Char)
    | 0, _ => none
    | parts + 1, cs => do
        let (key, cs) ← readKeyPart (skipBlanks cs)
        let cs := skipBlanks cs
        match after? '.' cs with
        | none => some ([key], cs)
        | some cs =>
            let (keys, cs) ← go parts cs
            some (key :: keys, cs)

end Enrollment.Toml
