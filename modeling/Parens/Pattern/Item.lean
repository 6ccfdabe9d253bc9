import Parens.Number.Reader
import Parens.Pattern
import Parens.Text.Alphanumeric

/-!
# The Items of a Written Pattern

A written pattern is a row of items: sets of characters, assertions, repetition marks, bars and
parentheses. `readItems?` takes the text apart, without regard to how the parentheses match.

What an item stands for may depend on the modes in force around it, such as matching without
regard to case. It is recorded as written, and the modes are applied when the pattern is built.

Not all of the usual syntax is read. Classes by a property of characters, the modes `x` and `R`,
switching `u` off and conditions with a name in braces are left out, and are refused.
-/

namespace Parens.Pattern

/-- The modes of a pattern that can be switched. -/
inductive Mode where
  /-- Case makes no difference. -/
  | caseless
  /-- The marks for the ends of the text also match at the ends of lines. -/
  | multiline
  /-- The dot also matches a line feed. -/
  | dotAll
  /-- Repetitions are lazy, unless marked. -/
  | swapGreed
deriving DecidableEq, Repr

/-- Modes switched on or off, in order. -/
abbrev Switches := List (Mode × Bool)

/-- How a group is told from others. -/
inductive Label where
  /-- The group only holds together what stands in it. -/
  | plain
  /-- The group has a number. -/
  | numbered
  /-- The group has a number and a name. -/
  | named (name : List Char)
deriving DecidableEq, Repr

/-- One item of a written pattern. -/
inductive Item where
  /-- One character of a set. -/
  | chars (set : CharSet)
  /-- The dot. -/
  | dot
  /-- The mark for the beginning. -/
  | caret
  /-- The mark for the end. -/
  | dollar
  /-- An assertion that no mode changes. -/
  | look (condition : Assertion)
  /-- Opens a group, which may switch modes inside. -/
  | opening (label : Label) (switches : Switches)
  /-- Closes a group. -/
  | closing
  /-- Separates two alternatives. -/
  | bar
  /-- Switches modes up to the end of the group. -/
  | switch (switches : Switches)
  /-- Repeats what stands in front. -/
  | repetition (least : Nat) (most : Option Nat) (greedy : Bool)
deriving Repr

/-! ### Escapes -/

/-- What a single element of a pattern or of a class can be. -/
inductive Element where
  /-- A character. -/
  | literal (c : Char)
  /-- A class. -/
  | set (s : CharSet)
  /-- An assertion. -/
  | condition (a : Assertion)

/-- The number of a hexadecimal digit. -/
def hexDigit? (c : Char) : Option Nat :=
  if '0' ≤ c && c ≤ '9' then some (c.toNat - '0'.toNat)
  else if 'a' ≤ c && c ≤ 'f' then some (c.toNat - 'a'.toNat + 10)
  else if 'A' ≤ c && c ≤ 'F' then some (c.toNat - 'A'.toNat + 10)
  else none

/-- The character whose code point is written in hexadecimal digits. -/
def hexChar? (digits : List Char) : Option Char :=
  if digits = [] then none
  else
    match digits.mapM hexDigit? with
    | none => none
    | some ds =>
      let n := ds.foldl (fun n d => 16 * n + d) 0
      if n < 0xD800 || (0xDFFF < n && n < 0x110000) then some (Char.ofNat n) else none

/-- A character by its code point: a fixed number of digits, or any number in braces. -/
def readHex? (width : Nat) : List Char → Option (Element × List Char)
  | '\x7b' :: cs =>
    match cs.dropWhile (· != '\x7d') with
    | _ :: rest => (hexChar? (cs.takeWhile (· != '\x7d'))).map fun c => (.literal c, rest)
    | [] => none
  | cs =>
    if cs.length < width then none
    else (hexChar? (cs.take width)).map fun c => (.literal c, cs.drop width)

/-- Whether a character stands for itself behind a backslash: all of ASCII but letters, digits
and the angle brackets. -/
def isEscapable (c : Char) : Bool :=
  c.toNat < 0x80 && !c.isAlphanum && c != '<' && c != '>'

/-- The element behind a backslash. -/
def readEscape? : List Char → Option (Element × List Char)
  | [] => none
  | c :: cs =>
    if isEscapable c then some (.literal c, cs)
    else
      match c with
      | 'x' => readHex? 2 cs
      | 'u' => readHex? 4 cs
      | 'U' => readHex? 8 cs
      | 'd' => some (.set .digit, cs)
      | 'D' => some (.set (.compl .digit), cs)
      | 's' => some (.set .blank, cs)
      | 'S' => some (.set (.compl .blank), cs)
      | 'w' => some (.set .word, cs)
      | 'W' => some (.set (.compl .word), cs)
      | 'a' => some (.literal '\x07', cs)
      | 'f' => some (.literal '\x0c', cs)
      | 't' => some (.literal '\t', cs)
      | 'n' => some (.literal '\n', cs)
      | 'r' => some (.literal '\r', cs)
      | 'v' => some (.literal '\x0b', cs)
      | 'A' => some (.condition .textStart, cs)
      | 'z' => some (.condition .textEnd, cs)
      | 'b' => some (.condition .wordEdge, cs)
      | 'B' => some (.condition .noWordEdge, cs)
      | '<' => some (.condition .wordStart, cs)
      | '>' => some (.condition .wordEnd, cs)
      | _ => none

/-! ### Classes in brackets -/

/-- The operations on two sets that can be written inside a class. -/
inductive SetOp where
  /-- What belongs to both. -/
  | inter
  /-- What belongs to the first only. -/
  | diff
  /-- What belongs to exactly one. -/
  | symmDiff

/-- The set that an operation makes of two. -/
def SetOp.apply : SetOp → CharSet → CharSet → CharSet
  | inter => .inter
  | diff => .diff
  | symmDiff => .symmDiff

/-- An open bracket: whether the class is negated, the operation that waits for its second set,
and the set read so far. -/
structure Bracket where
  /-- Whether the class is negated. -/
  negated : Bool
  /-- The operation that waits, with its first set. -/
  pending : Option (SetOp × CharSet)
  /-- The union of what was read since. -/
  soFar : CharSet

namespace Bracket

/-- Joins a set to what was read. -/
def add (b : Bracket) (s : CharSet) : Bracket :=
  { b with soFar := if b.soFar = .none then s else .union b.soFar s }

/-- Carries out the operation that waits. -/
def settle (b : Bracket) : CharSet :=
  match b.pending with
  | none => b.soFar
  | some (op, first) => op.apply first b.soFar

/-- Begins the second set of an operation. -/
def await (b : Bracket) (op : SetOp) : Bracket :=
  { b with pending := some (op, b.settle), soFar := .none }

/-- The class of a bracket that closes. -/
def close (b : Bracket) : CharSet := if b.negated then .compl b.settle else b.settle

/-- Opens a bracket: a caret negates, hyphens at the front stand for themselves, and so does a
closing bracket at the very front. -/
def begin (cs : List Char) : Bracket × List Char :=
  let negated := cs.head? == some '^'
  let cs := if negated then cs.drop 1 else cs
  let hyphens := cs.takeWhile (· == '-')
  let cs := cs.dropWhile (· == '-')
  let b : Bracket := ⟨negated, none, if hyphens = [] then .none else .single '-'⟩
  match hyphens, cs with
  | [], ']' :: cs => (b.add (.single ']'), cs)
  | _, cs => (b, cs)

end Bracket

/-- A class of ASCII by name, `:name:]` or `:^name:]`. -/
def readNamedClass? : List Char → Option (CharSet × List Char)
  | ':' :: cs =>
    let negated := cs.head? == some '^'
    let cs := if negated then cs.drop 1 else cs
    match cs.dropWhile (· != ':') with
    | ':' :: ']' :: rest =>
      (CharSet.ascii? (cs.takeWhile (· != ':'))).map fun s =>
        (if negated then .compl s else s, rest)
    | _ => none
  | _ => none

/-- One end of a range, or an element on its own. -/
def readClassElement? : List Char → Option (Element × List Char)
  | [] => none
  | '\\' :: cs => readEscape? cs
  | c :: cs => some (.literal c, cs)

/-- An element of a class or a range of characters. A hyphen makes a range unless a closing
bracket or another hyphen follows it. -/
def readClassItem? (cs : List Char) : Option (CharSet × List Char) :=
  let alone : Element → Option CharSet
    | .literal c => some (.single c)
    | .set s => some s
    | .condition _ => none
  match readClassElement? cs with
  | none => none
  | some (e, '-' :: rest) =>
    if rest.head? == some ']' || rest.head? == some '-' then
      (alone e).map fun s => (s, '-' :: rest)
    else
      match e, readClassElement? rest with
      | .literal a, some (.literal b, rest) =>
        if a ≤ b then some (.range a.toNat b.toNat, rest) else none
      | _, _ => none
  | some (e, rest) => (alone e).map fun s => (s, rest)

/-- Reads a class up to the bracket that closes it. The brackets that enclose the innermost one
wait in a row. -/
def readClass? : Nat → Bracket → List Bracket → List Char → Option (CharSet × List Char)
  | 0, _, _, _ => none
  | fuel + 1, b, outer, cs =>
    match cs with
    | [] => none
    | '[' :: rest =>
      match readNamedClass? rest with
      | some (s, rest) => readClass? fuel (b.add s) outer rest
      | none =>
        let (inner, rest) := Bracket.begin rest
        readClass? fuel inner (b :: outer) rest
    | ']' :: rest =>
      match outer with
      | [] => some (b.close, rest)
      | b' :: outer => readClass? fuel (b'.add b.close) outer rest
    | '&' :: '&' :: rest => readClass? fuel (b.await .inter) outer rest
    | '-' :: '-' :: rest => readClass? fuel (b.await .diff) outer rest
    | '~' :: '~' :: rest => readClass? fuel (b.await .symmDiff) outer rest
    | cs =>
      match readClassItem? cs with
      | some (s, rest) => readClass? fuel (b.add s) outer rest
      | none => none

/-! ### Groups -/

/-- The mode that a letter names. -/
def mode? : Char → Option Mode
  | 'i' => some .caseless
  | 'm' => some .multiline
  | 's' => some .dotAll
  | 'U' => some .swapGreed
  | _ => none

/-- The modes that letters switch: on in front of a hyphen, and off behind it. No letter may
occur twice, and a hyphen must be followed by a letter.

All classes are those of Unicode. The letter `u` asks for them, so it switches nothing on, and it
is refused where it would switch them off. -/
def readSwitches? (letters : List Char) : Option Switches :=
  if !letters.Nodup || letters.getLast? == some '-' then none
  else
    let on := (letters.takeWhile (· != '-')).filter (· != 'u')
    let off := (letters.dropWhile (· != '-')).drop 1
    match on.mapM mode?, off.mapM mode? with
    | some on, some off => some (on.map (·, true) ++ off.map (·, false))
    | _, _ => none

/-- Whether a text can name a group. -/
def isGroupName : List Char → Bool
  | [] => false
  | c :: cs =>
    (c == '_' || Text.isAlphabetic c) &&
      cs.all fun d => d == '_' || d == '.' || d == '[' || d == ']' || Text.isAlphanumeric d

/-- A group opened with a name, which ends at an angle bracket. -/
def readNamedGroup? (cs : List Char) : Option (Item × List Char) :=
  let name := cs.takeWhile (· != '>')
  match cs.dropWhile (· != '>') with
  | _ :: rest => if isGroupName name then some (.opening (.named name) [], rest) else none
  | [] => none

/-- What an opening parenthesis begins: a numbered group, a named group, a plain group with modes
or a switch of modes. What looks ahead or behind is refused. -/
def readGroup? : List Char → Option (Item × List Char)
  | '?' :: 'P' :: '<' :: cs => readNamedGroup? cs
  | '?' :: '<' :: cs =>
    if cs.head? == some '=' || cs.head? == some '!' then none else readNamedGroup? cs
  | '?' :: cs =>
    let letters := cs.takeWhile fun c => c != ':' && c != ')'
    match readSwitches? letters, cs.dropWhile fun c => c != ':' && c != ')' with
    | some switches, ':' :: rest => some (.opening .plain switches, rest)
    | some switches, _ :: rest => if letters = [] then none else some (.switch switches, rest)
    | _, _ => none
  | cs => some (.opening .numbered [], cs)

/-! ### Repetitions -/

/-- A text without the blanks in front. -/
def skipBlanks (cs : List Char) : List Char := cs.dropWhile Text.isBlank

/-- A count of 32 bits, with blanks around it. -/
def readCount? (cs : List Char) : Option (Nat × List Char) :=
  let cs := skipBlanks cs
  let digits := cs.takeWhile Char.isDigit
  let n := Nat.ofDigitChars 10 digits 0
  if digits = [] || UInt32.size ≤ n then none else some (n, skipBlanks (cs.dropWhile Char.isDigit))

/-- A repetition mark with the question mark that makes it lazy. -/
def lazyMark (least : Nat) (most : Option Nat) : List Char → Item × List Char
  | '?' :: cs => (.repetition least most false, cs)
  | cs => (.repetition least most true, cs)

/-- A counted repetition behind its opening brace. -/
def readCounted? (cs : List Char) : Option (Item × List Char) :=
  match readCount? cs with
  | none => none
  | some (least, '\x7d' :: rest) => some (lazyMark least (some least) rest)
  | some (least, ',' :: rest) =>
    match rest with
    | '\x7d' :: rest => some (lazyMark least none rest)
    | rest =>
      match readCount? rest with
      | some (most, '\x7d' :: rest) =>
        if least ≤ most then some (lazyMark least (some most) rest) else none
      | _ => none
  | some _ => none

/-! ### Items -/

/-- The item at the front of a written pattern. -/
def readItem? : List Char → Option (Item × List Char)
  | [] => none
  | c :: cs =>
    match c with
    | '(' => readGroup? cs
    | ')' => some (.closing, cs)
    | '|' => some (.bar, cs)
    | '[' =>
      let (b, rest) := Bracket.begin cs
      (readClass? (rest.length + 1) b [] rest).map fun (s, rest) => (.chars s, rest)
    | '?' => some (lazyMark 0 (some 1) cs)
    | '*' => some (lazyMark 0 none cs)
    | '+' => some (lazyMark 1 none cs)
    | '\x7b' => readCounted? cs
    | '.' => some (.dot, cs)
    | '^' => some (.caret, cs)
    | '$' => some (.dollar, cs)
    | '\\' =>
      (readEscape? cs).map fun (e, rest) =>
        (match e with
          | .literal c => .chars (.single c)
          | .set s => .chars s
          | .condition a => .look a, rest)
    | c => some (.chars (.single c), cs)

/-- The items of a written pattern, with a fuel that counts them. -/
def readItemsWithin? : Nat → List Char → Option (List Item)
  | _, [] => some []
  | 0, _ => none
  | fuel + 1, cs =>
    match readItem? cs with
    | none => none
    | some (item, rest) => (readItemsWithin? fuel rest).map (item :: ·)

/-- The items of a written pattern; there are no more items than characters. -/
def readItems? (cs : List Char) : Option (List Item) :=
  readItemsWithin? cs.length cs

end Parens.Pattern
