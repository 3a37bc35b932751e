/-!
# Media types

Whether a media type announces JSON: it is of type `application`, and its subtype is `json`, before
or after the last plus sign, in any case of the letters. Parameters may follow, each a token, the
equals sign, and a token or a quoted text; spaces may stand before a parameter and after a quoted
text.
-/

namespace Enrollment.Http.MediaType

def isToken (c : Char) : Bool :=
  c.isAlphanum ||
    ['!', '#', '$', '%', '&', '\'', '*', '+', '-', '.', '^', '_', '\x60', '|', '~'].contains c

/-- Whether a character may stand in a quoted text. No control character may, and so no tab. -/
def isQuotable (c : Char) : Bool :=
  0x20 ≤ c.toNat && c.toNat ≠ 0x7F

/-- The text after a quoted text, whose opening quote has been read. The first character belongs to
it even if it is a quote. -/
def afterQuoted? : List Char → Option (List Char)
  | [] => none
  | c :: cs =>
      if !isQuotable c then none
      else
        let rest := cs.dropWhile fun c => isQuotable c && c != '"'
        match rest with
        | '"' :: rest => some rest
        | _ => none

/-- Whether the text after a semicolon is parameters. Each one is a character at least, so the
number of characters bounds them. -/
def areParameters : Nat → List Char → Bool
  | 0, cs => cs.isEmpty
  | fuel + 1, cs =>
      let cs := cs.dropWhile (· == ' ')
      if cs.isEmpty then true
      else
        let name := cs.takeWhile isToken
        match cs.dropWhile isToken with
        | '=' :: '"' :: rest =>
            match afterQuoted? rest with
            | none => false
            | some rest =>
                !name.isEmpty &&
                match rest.dropWhile (· == ' ') with
                | [] => true
                | ';' :: rest => areParameters fuel rest
                | _ => false
        | '=' :: rest =>
            let value := rest.takeWhile isToken
            !name.isEmpty &&
            match rest.dropWhile isToken with
            | [] => true
            | ';' :: rest => !value.isEmpty && areParameters fuel rest
            | _ => false
        | _ => false

/-- The text before the last plus sign that is not at the start, and the text after it. -/
def splitSuffix (subtype : List Char) : List Char × Option (List Char) :=
  let suffix := (subtype.drop 1).reverse.takeWhile (· != '+')
  if suffix.length = (subtype.drop 1).length then (subtype, none)
  else (subtype.take (subtype.length - suffix.length - 1), some suffix.reverse)

/-- Whether a text is a word in any case of its letters. -/
def isWord (word : String) (cs : List Char) : Bool :=
  cs.map Char.toLower == word.toList

def isJson (cs : List Char) : Bool :=
  let main := cs.takeWhile isToken
  match cs.dropWhile isToken with
  | '/' :: rest =>
      let (subtype, suffix) := splitSuffix (rest.takeWhile isToken)
      let announced := isWord "application" main &&
        (isWord "json" subtype || (suffix.map (isWord "json")).getD false)
      match rest.dropWhile isToken with
      | [] => announced
      | ';' :: parameters => announced && areParameters parameters.length parameters
      | _ => false
  | _ => false

end Enrollment.Http.MediaType
