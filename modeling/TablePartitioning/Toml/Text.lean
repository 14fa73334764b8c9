import TablePartitioning.Text.Numeral

/-!
# Blanks and texts in TOML

Blanks are spaces and tabs.  A line ends with a line feed, which a carriage return may stand
before; a comment runs up to the end of its line and holds no control but tabs.  Texts stand on one
line or go on over several.
-/

namespace TablePartitioning.Toml

/-! ## Blanks, line breaks and comments -/

/-- Whether a character is a blank. -/
def isSpace (c : Char) : Bool := c = ' ' || c = '\t'

/-- Whether a character is a control that texts and comments do not hold. -/
def isControl (c : Char) : Bool := (c.toNat < 0x20 && c != '\t') || c = '\x7f'

/-- What follows blanks. -/
def skipSpaces (chars : List Char) : List Char := chars.dropWhile isSpace

/-- What follows a line break. -/
def lineBreak? : List Char → Option (List Char)
  | '\n' :: rest => some rest
  | '\r' :: '\n' :: rest => some rest
  | _ => none

/-- What follows the end of a line, where there may be blanks and a comment; the text may end. -/
def lineEnd? (chars : List Char) : Option (List Char) :=
  let rest :=
    match skipSpaces chars with
    | '#' :: comment => comment.dropWhile (!isControl ·)
    | rest => rest
  if rest.isEmpty then some [] else lineBreak? rest

/-- What follows blanks, line breaks and comments; the flag tells of an open comment. -/
def skipLines? : Bool → List Char → Option (List Char)
  | _, [] => some []
  | _, '\r' :: '\n' :: rest => skipLines? false rest
  | inComment, c :: rest =>
      if c = '\n' then skipLines? false rest
      else if inComment then if isControl c then none else skipLines? true rest
      else if isSpace c then skipLines? false rest
      else if c = '#' then skipLines? true rest
      else some (c :: rest)

/-! ## Texts

A text stands between quotation marks, where a backslash begins an escape, or between apostrophes,
where every character stands for itself.  Between three marks of either kind it may go on over
several lines: a line break right after the marks does not count, a backslash at the end of a line
takes the blanks and line breaks after it away, and up to two marks may stand before the three
that end the text.
-/

/-- The character that an escape stands for, and what follows it. -/
def escaped? : List Char → Option (Char × List Char)
  | [] => none
  | c :: rest =>
      if c = '"' || c = '\\' then some (c, rest)
      else if c = 'b' then some ('\x08', rest)
      else if c = 't' then some ('\t', rest)
      else if c = 'n' then some ('\n', rest)
      else if c = 'f' then some ('\x0c', rest)
      else if c = 'r' then some ('\r', rest)
      else if c = 'e' then some ('\x1b', rest)
      else if c = 'x' then Text.codePoint? 2 rest
      else if c = 'u' then Text.codePoint? 4 rest
      else if c = 'U' then Text.codePoint? 8 rest
      else none

/-- A text on one line; the fuel is the number of characters. -/
def shortText? (quote : Char) : Nat → List Char → Option (List Char × List Char)
  | 0, _ | _, [] => none
  | fuel + 1, c :: rest =>
      if c = quote then some ([], rest)
      else if c = '\\' && quote = '"' then do
        let (char, rest) ← escaped? rest
        let (chars, rest) ← shortText? quote fuel rest
        return (char :: chars, rest)
      else if isControl c then none
      else do
        let (chars, rest) ← shortText? quote fuel rest
        return (c :: chars, rest)

/-- What follows a backslash at the end of a line: blanks, a line break, and more of both. -/
def continuation? (chars : List Char) : Option (List Char) :=
  (lineBreak? (skipSpaces chars)).map fun rest =>
    rest.dropWhile fun c => isSpace c || c = '\n' || c = '\r'

/-- A text over several lines; the fuel is the number of characters. -/
def longText? (quote : Char) : Nat → List Char → Option (List Char × List Char)
  | 0, _ | _, [] => none
  | fuel + 1, c :: rest =>
      let further (read : List Char) (rest : List Char) : Option (List Char × List Char) :=
        (longText? quote fuel rest).map fun (chars, rest) => (read ++ chars, rest)
      if c = quote then
        let marks := (c :: rest).takeWhile (· = quote)
        let after := (c :: rest).dropWhile (· = quote)
        if marks.length < 3 then further [c] rest
        else if marks.length ≤ 5 then some (marks.drop 3, after)
        else none
      else if c = '\\' && quote = '"' then
        match continuation? rest with
        | some rest => further [] rest
        | none => (escaped? rest).bind fun (char, rest) => further [char] rest
      else
        match lineBreak? (c :: rest) with
        | some rest => further ['\n'] rest
        | none => if isControl c then none else further [c] rest

/-- A text of either form, at its first mark. -/
def text? (chars : List Char) : Option (String × List Char) :=
  let fuel := chars.length
  let read (found : Option (List Char × List Char)) : Option (String × List Char) :=
    found.map fun (chars, rest) => (String.ofList chars, rest)
  match chars with
  | first :: rest =>
      if first = '"' || first = '\'' then
        match rest with
        | second :: third :: long =>
            if second = first && third = first then
              read (longText? first fuel ((lineBreak? long).getD long))
            else read (shortText? first fuel rest)
        | rest => read (shortText? first fuel rest)
      else none
  | [] => none

end TablePartitioning.Toml
