/-!
# TOML: layout, comments, keys and strings

The character level of TOML 1.0, read from a list of characters. Every reader takes the input
and returns what it read with the rest of the input, or `none` when the text is not TOML there.

* Blanks are spaces and tabs; a line break is a line feed or a carriage return and a line feed.
  A lone carriage return is an error.
* A comment runs from `#` to the end of the line and may hold tabs, printable ASCII and any
  non-ASCII character, but no other control character.
* A key is a bare key (ASCII letters, digits, `-` and `_`) or a one-line quoted string; a
  dotted key is keys separated by dots, with blanks allowed around each part.
* Strings come in four kinds: basic `"…"` with escapes, literal `'…'` without, and their
  multi-line forms `"""…"""` and `'''…'''`. A multi-line string drops a line break right after
  its opening delimiter, and may end with one or two quotes of its own kind right before the
  closing delimiter. In a multi-line basic string a backslash at the end of a line removes the
  line break and all blanks and line breaks after it.

Every reader is structurally recursive on the input: the escapes are matched as whole patterns,
so each step goes to a suffix of the list.
-/

namespace MetricsNode.Toml

/-- The text still to read. -/
abbrev Input := List Char

/-- Space or tab. -/
def isBlank (c : Char) : Bool := c == ' ' || c == '\t'

/-- Skips spaces and tabs. -/
def skipBlanks : Input → Input
  | c :: rest => if isBlank c then skipBlanks rest else c :: rest
  | [] => []

/-- Reads one line break. -/
def readNewline : Input → Option Input
  | '\n' :: rest => some rest
  | '\r' :: '\n' :: rest => some rest
  | _ => none

/-- Whether a character may stand in a comment: tab, printable ASCII, or non-ASCII. -/
def isCommentChar (c : Char) : Bool :=
  c == '\t' || (' ' ≤ c && c ≤ '~') || c.toNat ≥ 0x80

/-- Skips a comment, if one starts here, up to the end of its line. -/
def skipComment : Input → Input
  | '#' :: rest => rest.dropWhile isCommentChar
  | cs => cs

/-- Reads the end of a line: blanks, an optional comment, then a line break or the end of the
text. -/
def readLineEnd (cs : Input) : Option Input :=
  match skipComment (skipBlanks cs) with
  | [] => some []
  | rest => readNewline rest

/-- Skips blanks, comments and line breaks, as between the items of an array; `inComment`
tells whether a comment is open. A comment that does not end in a line break stops the skip at
the character that ends it. -/
def skipLayout : (inComment : Bool) → Input → Input
  | _, '\n' :: rest => skipLayout false rest
  | _, '\r' :: '\n' :: rest => skipLayout false rest
  | true, c :: rest => if isCommentChar c then skipLayout true rest else c :: rest
  | false, '#' :: rest => skipLayout true rest
  | false, c :: rest => if isBlank c then skipLayout false rest else c :: rest
  | _, [] => []

/-- Reads a given character. -/
def expect (c : Char) : Input → Option Input
  | d :: rest => if c == d then some rest else none
  | [] => none

/-- The value of a hexadecimal digit. -/
def hexDigitValue (c : Char) : Option Nat :=
  if '0' ≤ c && c ≤ '9' then some (c.toNat - '0'.toNat)
  else if 'a' ≤ c && c ≤ 'f' then some (c.toNat - 'a'.toNat + 10)
  else if 'A' ≤ c && c ≤ 'F' then some (c.toNat - 'A'.toNat + 10)
  else none

/-- The character of a `\u` or `\U` escape: its hexadecimal digits must name a Unicode scalar
value, so surrogates and values past `10FFFF` are refused. -/
def unicodeEscape (digits : List Char) : Option Char := do
  let v ← digits.foldlM (fun acc c => (hexDigitValue c).map (acc * 16 + ·)) 0
  if v < 0xD800 || (0xDFFF < v && v < 0x110000) then some (Char.ofNat v) else none

/-- The character of a one-letter escape. -/
def shortEscape : Char → Option Char
  | 'b' => some '\x08'
  | 't' => some '\t'
  | 'n' => some '\n'
  | 'f' => some '\x0c'
  | 'r' => some '\r'
  | '"' => some '"'
  | '\\' => some '\\'
  | _ => none

/-- Whether a character stands for itself in a basic string: tab, or any character from space
on except the quote, the backslash and delete. -/
def isBasicChar (c : Char) : Bool :=
  c == '\t' || (c.toNat ≥ 0x20 && c != '"' && c != '\\' && c.toNat != 0x7F)

/-- Whether a character stands in a literal string: tab, or any character from space on except
the apostrophe and delete. -/
def isLiteralChar (c : Char) : Bool :=
  c == '\t' || (c.toNat ≥ 0x20 && c != '\'' && c.toNat != 0x7F)

/-- Reads the body of a one-line basic string, after its opening quote; `acc` holds the
characters read so far, last first. -/
def readBasicBody (acc : List Char) : Input → Option (String × Input)
  | '"' :: rest => some (String.ofList acc.reverse, rest)
  | '\\' :: 'u' :: a :: b :: c :: d :: rest =>
    (unicodeEscape [a, b, c, d]).bind fun ch => readBasicBody (ch :: acc) rest
  | '\\' :: 'U' :: a :: b :: c :: d :: e :: f :: g :: h :: rest =>
    (unicodeEscape [a, b, c, d, e, f, g, h]).bind fun ch => readBasicBody (ch :: acc) rest
  | '\\' :: e :: rest => (shortEscape e).bind fun ch => readBasicBody (ch :: acc) rest
  | c :: rest => if isBasicChar c then readBasicBody (c :: acc) rest else none
  | [] => none

/-- Reads the body of a one-line literal string, after its opening apostrophe. -/
def readLiteralBody (acc : List Char) : Input → Option (String × Input)
  | '\'' :: rest => some (String.ofList acc.reverse, rest)
  | c :: rest => if isLiteralChar c then readLiteralBody (c :: acc) rest else none
  | [] => none

/-- Where a multi-line basic string is after a backslash that ends a line: reading text,
waiting for the line break after the backslash and its blanks, or skipping blanks and line
breaks. -/
inductive LineJoin where
  | none
  | awaitBreak
  | skip
  deriving DecidableEq, Repr

/-- Drops one line break right after an opening delimiter. -/
def dropFirstNewline : Input → Input
  | '\n' :: rest => rest
  | '\r' :: '\n' :: rest => rest
  | cs => cs

/-- Reads the body of a multi-line basic string, after its opening delimiter. A run of three to
five quotes closes it, the quotes past the third belonging to the text; a run of six or more
cannot be read. -/
def readMultiBasicBody : LineJoin → Input → List Char → Option (String × Input)
  | .skip, ' ' :: rest, acc => readMultiBasicBody .skip rest acc
  | .skip, '\t' :: rest, acc => readMultiBasicBody .skip rest acc
  | .skip, '\n' :: rest, acc => readMultiBasicBody .skip rest acc
  | .skip, '\r' :: '\n' :: rest, acc => readMultiBasicBody .skip rest acc
  | .awaitBreak, ' ' :: rest, acc => readMultiBasicBody .awaitBreak rest acc
  | .awaitBreak, '\t' :: rest, acc => readMultiBasicBody .awaitBreak rest acc
  | .awaitBreak, '\n' :: rest, acc => readMultiBasicBody .skip rest acc
  | .awaitBreak, '\r' :: '\n' :: rest, acc => readMultiBasicBody .skip rest acc
  | .awaitBreak, _, _ => none
  | _, '"' :: '"' :: '"' :: '"' :: '"' :: '"' :: _, _ => none
  | _, '"' :: '"' :: '"' :: '"' :: '"' :: rest, acc => some (String.ofList ('"' :: '"' :: acc).reverse, rest)
  | _, '"' :: '"' :: '"' :: '"' :: rest, acc => some (String.ofList ('"' :: acc).reverse, rest)
  | _, '"' :: '"' :: '"' :: rest, acc => some (String.ofList acc.reverse, rest)
  | _, '\\' :: ' ' :: rest, acc => readMultiBasicBody .awaitBreak rest acc
  | _, '\\' :: '\t' :: rest, acc => readMultiBasicBody .awaitBreak rest acc
  | _, '\\' :: '\n' :: rest, acc => readMultiBasicBody .skip rest acc
  | _, '\\' :: '\r' :: '\n' :: rest, acc => readMultiBasicBody .skip rest acc
  | _, '\\' :: 'u' :: a :: b :: c :: d :: rest, acc =>
    (unicodeEscape [a, b, c, d]).bind fun ch => readMultiBasicBody .none rest (ch :: acc)
  | _, '\\' :: 'U' :: a :: b :: c :: d :: e :: f :: g :: h :: rest, acc =>
    (unicodeEscape [a, b, c, d, e, f, g, h]).bind fun ch => readMultiBasicBody .none rest (ch :: acc)
  | _, '\\' :: e :: rest, acc => (shortEscape e).bind fun ch => readMultiBasicBody .none rest (ch :: acc)
  | _, '\n' :: rest, acc => readMultiBasicBody .none rest ('\n' :: acc)
  | _, '\r' :: '\n' :: rest, acc => readMultiBasicBody .none rest ('\n' :: acc)
  | _, c :: rest, acc => if c == '"' || isBasicChar c then readMultiBasicBody .none rest (c :: acc) else none
  | _, [], _ => none

/-- Reads the body of a multi-line literal string, after its opening delimiter; closing works
as for multi-line basic strings, with apostrophes. -/
def readMultiLiteralBody (acc : List Char) : Input → Option (String × Input)
  | '\'' :: '\'' :: '\'' :: '\'' :: '\'' :: '\'' :: _ => none
  | '\'' :: '\'' :: '\'' :: '\'' :: '\'' :: rest => some (String.ofList ('\'' :: '\'' :: acc).reverse, rest)
  | '\'' :: '\'' :: '\'' :: '\'' :: rest => some (String.ofList ('\'' :: acc).reverse, rest)
  | '\'' :: '\'' :: '\'' :: rest => some (String.ofList acc.reverse, rest)
  | '\n' :: rest => readMultiLiteralBody ('\n' :: acc) rest
  | '\r' :: '\n' :: rest => readMultiLiteralBody ('\n' :: acc) rest
  | c :: rest => if c == '\'' || isLiteralChar c then readMultiLiteralBody (c :: acc) rest else none
  | [] => none

/-- Reads a string of any of the four kinds. -/
def readString : Input → Option (String × Input)
  | '"' :: '"' :: '"' :: rest => readMultiBasicBody .none (dropFirstNewline rest) []
  | '"' :: rest => readBasicBody [] rest
  | '\'' :: '\'' :: '\'' :: rest => readMultiLiteralBody [] (dropFirstNewline rest)
  | '\'' :: rest => readLiteralBody [] rest
  | _ => none

/-- Whether a character may stand in a bare key. -/
def isBareKeyChar (c : Char) : Bool :=
  ('a' ≤ c && c ≤ 'z') || ('A' ≤ c && c ≤ 'Z') || ('0' ≤ c && c ≤ '9') || c == '-' || c == '_'

/-- Reads one key: a one-line quoted string or a non-empty bare key. -/
def readSimpleKey : Input → Option (String × Input)
  | '"' :: rest => readBasicBody [] rest
  | '\'' :: rest => readLiteralBody [] rest
  | cs =>
    match cs.takeWhile isBareKeyChar with
    | [] => none
    | k => some (String.ofList k, cs.drop k.length)

/-- Reads a dotted key with the blanks around its parts; `fuel` bounds the number of parts. -/
def readKeyParts : Nat → Input → Option (List String × Input)
  | 0, _ => none
  | fuel + 1, cs => do
    let (k, rest) ← readSimpleKey (skipBlanks cs)
    match skipBlanks rest with
    | '.' :: more =>
      let (ks, r) ← readKeyParts fuel more
      pure (k :: ks, r)
    | r => pure ([k], r)

/-- Reads a dotted key. Each part takes at least one character, so the length of the input
bounds the number of parts. -/
def readKey (cs : Input) : Option (List String × Input) := readKeyParts (cs.length + 1) cs

end MetricsNode.Toml
