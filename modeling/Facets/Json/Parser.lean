import Facets.Json.Basic

/-!
Reading JSON. Blanks are the space, the tab and the two line ends; strings hold no control
characters and no half of a surrogate pair; numbers have no leading zeros; nothing but blanks may
follow the document. Each reader takes the characters it understands and returns the rest.
-/

namespace Facets.Json

def isBlank (c : Char) : Bool := c == ' ' || c == '\n' || c == '\t' || c == '\r'

def skipBlanks (cs : List Char) : List Char := cs.dropWhile isBlank

def hexDigit? (c : Char) : Option Nat :=
  if c.isDigit then some (c.toNat - 48)
  else if 'a' ≤ c ∧ c ≤ 'f' then some (c.toNat - 87)
  else if 'A' ≤ c ∧ c ≤ 'F' then some (c.toNat - 55)
  else none

def hex4? (a b c d : Char) : Option Nat := do
  return (((← hexDigit? a) * 16 + (← hexDigit? b)) * 16 + (← hexDigit? c)) * 16 + (← hexDigit? d)

def simpleEscape? : Char → Option Char
  | '\"' => some '\"'
  | '\\' => some '\\'
  | '/' => some '/'
  | 'b' => some '\x08'
  | 'f' => some '\x0c'
  | 'n' => some '\n'
  | 'r' => some '\r'
  | 't' => some '\t'
  | _ => none

/-- Puts a character in front of a text that has been read. -/
def prepend (c : Char) : Option (List Char × List Char) → Option (List Char × List Char)
  | some (body, rest) => some (c :: body, rest)
  | none => none

/-- The rest of a string after its opening quote. A surrogate is read only together with the half
that follows it. -/
def readString : List Char → Option (List Char × List Char)
  | [] => none
  | '\"' :: rest => some ([], rest)
  | '\\' :: 'u' :: a :: b :: c :: d :: rest =>
    match hex4? a b c d with
    | none => none
    | some unit =>
      if unit < 0xd800 ∨ 0xdfff < unit then prepend (Char.ofNat unit) (readString rest)
      else if 0xdc00 ≤ unit then none
      else
        match rest with
        | '\\' :: 'u' :: e :: f :: g :: h :: rest =>
          match hex4? e f g h with
          | none => none
          | some low =>
            if 0xdc00 ≤ low ∧ low ≤ 0xdfff then
              prepend (Char.ofNat (0x10000 + (unit - 0xd800) * 0x400 + (low - 0xdc00)))
                (readString rest)
            else none
        | _ => none
  | '\\' :: c :: rest =>
    match simpleEscape? c with
    | none => none
    | some c => prepend c (readString rest)
  | c :: rest => if c.toNat < 0x20 then none else prepend c (readString rest)

def digitsValue (digits : List Char) : Nat :=
  digits.foldl (fun n c => 10 * n + (c.toNat - 48)) 0

def exponentPart : List Char → Option (Option Int × List Char)
  | c :: rest =>
    if c == 'e' || c == 'E' then
      let (negative, rest) := match rest with
        | '-' :: rest => (true, rest)
        | '+' :: rest => (false, rest)
        | rest => (false, rest)
      let digits := rest.takeWhile Char.isDigit
      if digits.isEmpty then none
      else
        let size : Int := digitsValue digits
        some (some (if negative then -size else size), rest.dropWhile Char.isDigit)
    else some (none, c :: rest)
  | [] => some (none, [])

def fractionPart : List Char → Option (Option (List Char) × List Char)
  | '.' :: rest =>
    let digits := rest.takeWhile Char.isDigit
    if digits.isEmpty then none else some (some digits, rest.dropWhile Char.isDigit)
  | rest => some (none, rest)

/-- A number: an integer part, then a fraction and an exponent if they are there. -/
def readNumber (cs : List Char) : Option (Json × List Char) := do
  let (negative, cs) := match cs with
    | '-' :: rest => (true, rest)
    | rest => (false, rest)
  let digits := cs.takeWhile Char.isDigit
  if digits.isEmpty || (digits.head? == some '0' && digits.length != 1) then none
  let (fraction?, cs) ← fractionPart (cs.dropWhile Char.isDigit)
  let (exponent?, cs) ← exponentPart cs
  let fraction := fraction?.getD []
  let n : JsonNumber :=
    { negative
      digits := digitsValue (digits ++ fraction)
      exponent := exponent?.getD 0 - fraction.length
      whole := fraction?.isNone && exponent?.isNone }
  return (.number n, cs)

mutual

/-- A value, with `fuel` to bound how many values and members lie ahead. -/
def readValue : (fuel : Nat) → List Char → Option (Json × List Char)
  | 0, _ => none
  | fuel + 1, cs =>
    match skipBlanks cs with
    | 'n' :: 'u' :: 'l' :: 'l' :: rest => some (.null, rest)
    | 't' :: 'r' :: 'u' :: 'e' :: rest => some (.bool true, rest)
    | 'f' :: 'a' :: 'l' :: 's' :: 'e' :: rest => some (.bool false, rest)
    | '\"' :: rest =>
      match readString rest with
      | some (body, rest) => some (.text (String.ofList body), rest)
      | none => none
    | '[' :: rest =>
      match skipBlanks rest with
      | ']' :: rest => some (.array [], rest)
      | rest =>
        match readElements fuel rest with
        | some (items, rest) => some (.array items, rest)
        | none => none
    | '\x7b' :: rest =>
      match skipBlanks rest with
      | '\x7d' :: rest => some (.object [], rest)
      | rest =>
        match readMembers fuel rest with
        | some (pairs, rest) => some (.object pairs, rest)
        | none => none
    | rest => readNumber rest

def readElements : (fuel : Nat) → List Char → Option (List Json × List Char)
  | 0, _ => none
  | fuel + 1, cs =>
    match readValue fuel cs with
    | none => none
    | some (first, rest) =>
      match skipBlanks rest with
      | ']' :: rest => some ([first], rest)
      | ',' :: rest =>
        match readElements fuel rest with
        | some (others, rest) => some (first :: others, rest)
        | none => none
      | _ => none

def readMembers : (fuel : Nat) → List Char → Option (List (String × Json) × List Char)
  | 0, _ => none
  | fuel + 1, cs =>
    match skipBlanks cs with
    | '\"' :: rest =>
      match readString rest with
      | none => none
      | some (key, rest) =>
        match skipBlanks rest with
        | ':' :: rest =>
          match readValue fuel rest with
          | none => none
          | some (first, rest) =>
            match skipBlanks rest with
            | '\x7d' :: rest => some ([(String.ofList key, first)], rest)
            | ',' :: rest =>
              match readMembers fuel rest with
              | some (others, rest) => some ((String.ofList key, first) :: others, rest)
              | none => none
            | _ => none
        | _ => none
    | _ => none

end

/-- The document a text spells. Two steps of fuel a character are never used up. -/
def parse? (text : String) : Option Json :=
  let cs := text.toList
  match readValue (2 * cs.length + 2) cs with
  | some (json, rest) => if (skipBlanks rest).isEmpty then some json else none
  | none => none

end Facets.Json
