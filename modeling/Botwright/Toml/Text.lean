import Botwright.Json.Document

/-!
The texts of TOML: comments, keys, and strings in four kinds of quotes.
-/
namespace Botwright.Toml

/-- Space or tab. -/
def isSpace (c : Char) : Bool := c = ' ' || c = '\t'

def skipSpace (s : List Char) : List Char := s.dropWhile isSpace

/-- What follows a line end. -/
def lineEnd? : List Char → Option (List Char)
  | '\n' :: rest => some rest
  | '\r' :: '\n' :: rest => some rest
  | _ => none

/-- A character that may stand in a comment or a literal string: no control except tab. -/
def isPrintable (c : Char) : Bool :=
  c = '\t' || (0x20 ≤ c.toNat && c.toNat ≠ 0x7F && c.toNat < 0x80)
  || 0x80 ≤ c.toNat

/-- What follows a comment, if one begins here. -/
def skipComment : List Char → List Char
  | '#' :: rest => rest.dropWhile isPrintable
  | s => s

/-- What follows the end of a line, with white space and a comment before it. The end of the text
ends a line too. -/
def restOfLine? (s : List Char) : Option (List Char) :=
  match skipComment (skipSpace s) with
  | [] => some []
  | rest => lineEnd? rest

/-- A character of a bare key. -/
def isBareKey (c : Char) : Bool := c.isAlphanum || c = '-' || c = '_'

/-! ## Strings in one line -/

/-- The number that hexadecimal digits write. -/
def hexDigits? : List Char → Option Nat
  | [] => some 0
  | digits =>
    digits.foldlM (fun n c => (Json.hexValue? c).map fun d => 16 * n + d) 0

/-- The character with a code point; surrogates are none. -/
def scalar? (n : Nat) : Option Char :=
  if n < 0xD800 ∨ (0xE000 ≤ n ∧ n < 0x110000) then some (Char.ofNat n) else none

/-- The character of an escape after its backslash, and the text after it. -/
def escape? : List Char → Option (Char × List Char)
  | 'b' :: rest => some ('\x08', rest)
  | 't' :: rest => some ('\t', rest)
  | 'n' :: rest => some ('\n', rest)
  | 'f' :: rest => some ('\x0c', rest)
  | 'r' :: rest => some ('\r', rest)
  | '"' :: rest => some ('"', rest)
  | '\\' :: rest => some ('\\', rest)
  | 'u' :: rest => do
    if rest.length < 4 then none
    return (← scalar? (← hexDigits? (rest.take 4)), rest.drop 4)
  | 'U' :: rest => do
    if rest.length < 8 then none
    return (← scalar? (← hexDigits? (rest.take 8)), rest.drop 8)
  | _ => none

/-- The rest of a basic string after its opening quote. -/
def basicString : Nat → List Char → Option (List Char × List Char)
  | 0, _ => none
  | fuel + 1, s =>
    match s with
    | [] => none
    | '"' :: rest => some ([], rest)
    | '\\' :: rest => do
      let (c, rest) ← escape? rest
      let (text, rest) ← basicString fuel rest
      return (c :: text, rest)
    | c :: rest =>
      if isPrintable c then do
        let (text, rest) ← basicString fuel rest
        return (c :: text, rest)
      else none

/-- The rest of a literal string after its opening quote. -/
def literalString (s : List Char) : Option (List Char × List Char) :=
  let text := s.takeWhile fun c => c ≠ '\'' && isPrintable c
  match s.drop text.length with
  | '\'' :: rest => some (text, rest)
  | _ => none

/-! ## Strings in triple quotes -/

/-- The end of a string in triple quotes, if the quotes here end it: up to two quotes may stand
before the closing three. A shorter run of quotes does not end the string. -/
def closingQuotes? (quote : Char) (s : List Char) : Option (List Char × List Char) :=
  let run := (s.takeWhile (· = quote)).length
  if run < 3 then none
  else
    let inside := min (run - 3) 2
    some (List.replicate inside quote, s.drop (inside + 3))

/-- White space and line ends after a backslash at the end of a line. -/
def skipLineBreak? (s : List Char) : Option (List Char) :=
  match skipSpace s with
  | '\n' :: rest => some (skipAll (rest.length + 1) rest)
  | '\r' :: '\n' :: rest => some (skipAll (rest.length + 1) rest)
  | _ => none
where
  /-- What follows all white space and line ends. -/
  skipAll : Nat → List Char → List Char
    | 0, s => s
    | fuel + 1, s =>
      match skipSpace s with
      | '\n' :: rest => skipAll fuel rest
      | '\r' :: '\n' :: rest => skipAll fuel rest
      | rest => rest

/-- The rest of a basic string in triple quotes. -/
def longBasicString : Nat → List Char → Option (List Char × List Char)
  | 0, _ => none
  | fuel + 1, s =>
    match closingQuotes? '"' s with
    | some closed => some closed
    | none =>
      match s with
      | [] => none
      | '\\' :: rest =>
        match skipLineBreak? rest with
        | some rest => longBasicString fuel rest
        | none => do
          let (c, rest) ← escape? rest
          let (text, rest) ← longBasicString fuel rest
          return (c :: text, rest)
      | c :: rest =>
        match lineEnd? (c :: rest) with
        | some rest => do
          let (text, rest) ← longBasicString fuel rest
          return ('\n' :: text, rest)
        | none =>
          if isPrintable c then do
            let (text, rest) ← longBasicString fuel rest
            return (c :: text, rest)
          else none

/-- The rest of a literal string in triple quotes. -/
def longLiteralString : Nat → List Char → Option (List Char × List Char)
  | 0, _ => none
  | fuel + 1, s =>
    match closingQuotes? '\'' s with
    | some closed => some closed
    | none =>
      match s with
      | [] => none
      | c :: rest =>
        match lineEnd? (c :: rest) with
        | some rest => do
          let (text, rest) ← longLiteralString fuel rest
          return ('\n' :: text, rest)
        | none =>
          if isPrintable c then do
            let (text, rest) ← longLiteralString fuel rest
            return (c :: text, rest)
          else none

/-- The text without a line end at its start. -/
def dropLineEnd (s : List Char) : List Char := (lineEnd? s).getD s

/-- A string, if one begins here. -/
def readText? (s : List Char) : Option (List Char × List Char) :=
  match s with
  | '"' :: '"' :: '"' :: rest => longBasicString (rest.length + 1) (dropLineEnd rest)
  | '\'' :: '\'' :: '\'' :: rest => longLiteralString (rest.length + 1) (dropLineEnd rest)
  | '"' :: rest => basicString (rest.length + 1) rest
  | '\'' :: rest => literalString rest
  | _ => none

/-! ## Keys -/

/-- A key without dots. -/
def readSimpleKey? (s : List Char) : Option (String × List Char) :=
  match s with
  | '"' :: rest => do
    let (text, rest) ← basicString (rest.length + 1) rest
    return (String.ofList text, rest)
  | '\'' :: rest => do
    let (text, rest) ← literalString rest
    return (String.ofList text, rest)
  | s =>
    let key := s.takeWhile isBareKey
    if key = [] then none else some (String.ofList key, s.drop key.length)

/-- The parts of a key, with white space around each. -/
def readKeyParts : Nat → List Char → Option (List String × List Char)
  | 0, _ => none
  | fuel + 1, s => do
    let (key, rest) ← readSimpleKey? (skipSpace s)
    match skipSpace rest with
    | '.' :: rest =>
      let (more, rest) ← readKeyParts fuel rest
      return (key :: more, rest)
    | rest => return ([key], rest)

/-- The greatest depth of keys and nested values is one less than this. -/
def depthLimit : Nat := 80

/-- A dotted key. -/
def readKey? (s : List Char) : Option (List String × List Char) :=
  (readKeyParts (s.length + 1) s).filter fun (parts, _) => parts.length < depthLimit

end Botwright.Toml
