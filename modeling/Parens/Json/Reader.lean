import Parens.Json.Number

/-!
# Reading JSON

`Json.read?` is the document that a text holds, or `none` if the text is not well formed. The
recursion is bounded by a fuel of twice the length of the text, which every step consumes more
slowly than the text itself.
-/

namespace Parens.Json

/-- The blanks of JSON. -/
def isSpace (c : Char) : Bool :=
  c == ' ' || c == '\t' || c == '\n' || c == '\r'

/-- A text without the blanks in front. -/
def skipSpace (text : List Char) : List Char :=
  text.dropWhile isSpace

/-! ### Texts -/

/-- The number of a hexadecimal digit. -/
def hexValue? (c : Char) : Option Nat :=
  if c.isDigit then some (c.toNat - '0'.toNat)
  else if 'a' ≤ c && c ≤ 'f' then some (c.toNat - 'a'.toNat + 10)
  else if 'A' ≤ c && c ≤ 'F' then some (c.toNat - 'A'.toNat + 10)
  else none

/-- The number of four hexadecimal digits. -/
def hexUnit? (a b c d : Char) : Option Nat := do
  let a ← hexValue? a
  let b ← hexValue? b
  let c ← hexValue? c
  let d ← hexValue? d
  return ((a * 16 + b) * 16 + c) * 16 + d

/-- The character of a one-letter escape. -/
def unescape? : Char → Option Char
  | '"' => some '"'
  | '\\' => some '\\'
  | '/' => some '/'
  | 'b' => some '\x08'
  | 'f' => some '\x0c'
  | 'n' => some '\n'
  | 'r' => some '\r'
  | 't' => some '\t'
  | _ => none

/-- The numbers of the characters up to the closing quote, and what follows it. An escape of
four digits gives its number as it is, be it half of a surrogate pair. -/
def readUnits? : List Char → Option (List Nat × List Char)
  | [] => none
  | '"' :: rest => some ([], rest)
  | '\\' :: 'u' :: a :: b :: c :: d :: rest => do
    let n ← hexUnit? a b c d
    let (ns, rest) ← readUnits? rest
    return (n :: ns, rest)
  | '\\' :: c :: rest => do
    let c ← unescape? c
    let (ns, rest) ← readUnits? rest
    return (c.toNat :: ns, rest)
  | c :: rest =>
    if c.toNat < 0x20 || c = '\\' then none
    else do
      let (ns, rest) ← readUnits? rest
      return (c.toNat :: ns, rest)

/-- Joins the halves of surrogate pairs, or fails at half a pair that stands alone. -/
def joinPairs? : List Nat → Option (List Char)
  | [] => some []
  | n :: ns =>
    if 0xD800 ≤ n && n < 0xDC00 then
      match ns with
      | m :: ms =>
        if 0xDC00 ≤ m && m < 0xE000 then
          (joinPairs? ms).map
            (Char.ofNat (0x10000 + (n - 0xD800) * 0x400 + (m - 0xDC00)) :: ·)
        else none
      | [] => none
    else if 0xDC00 ≤ n && n < 0xE000 then none
    else (joinPairs? ns).map (Char.ofNat n :: ·)

/-- The text up to the closing quote, if it is one, and what follows the quote. -/
def readText? (text : List Char) : Option (Option String × List Char) :=
  (readUnits? text).map fun (ns, rest) => ((joinPairs? ns).map String.ofList, rest)

/-! ### Documents -/

/-- The rest of a text behind a given word. -/
def skipWord? (word : List Char) (text : List Char) : Option (List Char) :=
  if word.isPrefixOf text then some (text.drop word.length) else none

/-- A document of the members read. A name that is no text leaves the object without a
meaning. -/
def ofMembers (members : List (Option String × Json)) : Json :=
  match members.mapM fun (key, j) => key.map (·, j) with
  | some members => object members
  | none => unusable

mutual

/-- The document at the front of a text, and what follows it. -/
def readFront? : Nat → List Char → Option (Json × List Char)
  | 0, _ => none
  | fuel + 1, source =>
    match skipSpace source with
    | [] => none
    | c :: rest =>
      if c = '[' then
        match skipSpace rest with
        | ']' :: rest => some (array [], rest)
        | rest => (readItems? fuel rest).map fun (items, rest) => (array items, rest)
      else if c = '\x7b' then
        match skipSpace rest with
        | '\x7d' :: rest => some (object [], rest)
        | rest => (readMembers? fuel rest).map fun (members, rest) => (ofMembers members, rest)
      else if c = '"' then
        (readText? rest).map fun (s, rest) => (s.elim unusable text, rest)
      else if c = 'n' then (skipWord? "ull".toList rest).map (null, ·)
      else if c = 't' then (skipWord? "rue".toList rest).map (bool true, ·)
      else if c = 'f' then (skipWord? "alse".toList rest).map (bool false, ·)
      else (readNumeral? (c :: rest)).map fun (n, rest) => (n.toJson, rest)

/-- The items of an array up to its closing bracket. -/
def readItems? : Nat → List Char → Option (List Json × List Char)
  | 0, _ => none
  | fuel + 1, source =>
    match readFront? fuel source with
    | none => none
    | some (j, rest) =>
      match skipSpace rest with
      | ']' :: rest => some ([j], rest)
      | ',' :: rest => (readItems? fuel rest).map fun (js, rest) => (j :: js, rest)
      | _ => none

/-- The members of an object up to its closing brace. -/
def readMembers? : Nat → List Char → Option (List (Option String × Json) × List Char)
  | 0, _ => none
  | fuel + 1, source =>
    match skipSpace source with
    | '"' :: rest =>
      match readText? rest with
      | none => none
      | some (key, rest) =>
        match skipSpace rest with
        | ':' :: rest =>
          match readFront? fuel rest with
          | none => none
          | some (j, rest) =>
            match skipSpace rest with
            | '\x7d' :: rest => some ([(key, j)], rest)
            | ',' :: rest =>
              (readMembers? fuel rest).map fun (ms, rest) => ((key, j) :: ms, rest)
            | _ => none
        | _ => none
    | _ => none

end

/-- The document that a text holds, with blanks around it. -/
def read? (text : List Char) : Option Json :=
  match readFront? (2 * text.length + 2) text with
  | some (j, rest) => if skipSpace rest = [] then some j else none
  | none => none

end Parens.Json
