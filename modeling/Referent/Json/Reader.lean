import Referent.Json

namespace Referent.Json

def isSpace (c : Char) : Bool := c == ' ' || c == '\t' || c == '\n' || c == '\r'

def skipSpace (cs : List Char) : List Char := cs.dropWhile isSpace

def hexDigit? (c : Char) : Option Nat :=
  if '0' ≤ c ∧ c ≤ '9' then some (c.toNat - 0x30)
  else if 'a' ≤ c ∧ c ≤ 'f' then some (c.toNat - 0x57)
  else if 'A' ≤ c ∧ c ≤ 'F' then some (c.toNat - 0x37)
  else none

def readHex4 : List Char → Option (Nat × List Char)
  | a :: b :: c :: d :: rest => do
    let n := (((← hexDigit? a) * 16 + (← hexDigit? b)) * 16 + (← hexDigit? c)) * 16 + (← hexDigit? d)
    return (n, rest)
  | _ => none

def readUnits (cs : List Char) : Option (Char × List Char) := do
  let (high, rest) ← readHex4 cs
  if 0xD800 ≤ high ∧ high < 0xDC00 then
    match rest with
    | '\\' :: 'u' :: rest => do
      let (low, rest) ← readHex4 rest
      guard (0xDC00 ≤ low ∧ low < 0xE000)
      return (Char.ofNat (0x10000 + (high - 0xD800) * 0x400 + (low - 0xDC00)), rest)
    | _ => none
  else
    guard (¬(0xDC00 ≤ high ∧ high < 0xE000))
    return (Char.ofNat high, rest)

def readText : Nat → List Char → List Char → Option (String × List Char)
  | 0, _, _ => none
  | fuel + 1, acc, cs =>
    match cs with
    | [] => none
    | '"' :: rest => some (String.ofList acc.reverse, rest)
    | '\\' :: c :: rest =>
      match c with
      | 'n' => readText fuel ('\n' :: acc) rest
      | 't' => readText fuel ('\t' :: acc) rest
      | 'r' => readText fuel ('\r' :: acc) rest
      | 'b' => readText fuel ('\x08' :: acc) rest
      | 'f' => readText fuel ('\x0c' :: acc) rest
      | 'u' => (readUnits rest).bind fun p => readText fuel (p.1 :: acc) p.2
      | _ => if c == '"' || c == '\\' || c == '/' then readText fuel (c :: acc) rest else none
    | c :: rest => if c.toNat < 0x20 then none else readText fuel (c :: acc) rest

def digitsValue (digits : List Char) : Nat :=
  digits.foldl (fun n c => n * 10 + (c.toNat - 0x30)) 0

def readNumber (cs : List Char) : Option (Json × List Char) :=
  let negative := cs.head? == some '-'
  let cs := if negative then cs.drop 1 else cs
  let whole := cs.takeWhile Char.isDigit
  if whole.isEmpty ∨ (whole.head? = some '0' ∧ 1 < whole.length) then none
  else
    let rest := cs.drop whole.length
    let (hasFraction, rest, ok) :=
      match rest with
      | '.' :: more =>
        let digits := more.takeWhile Char.isDigit
        (true, more.drop digits.length, !digits.isEmpty)
      | _ => (false, rest, true)
    let (hasExponent, rest, ok) :=
      match rest with
      | c :: more =>
        if c == 'e' || c == 'E' then
          let more :=
            match more with
            | '+' :: further => further
            | '-' :: further => further
            | _ => more
          let digits := more.takeWhile Char.isDigit
          (true, more.drop digits.length, ok && !digits.isEmpty)
        else (false, rest, ok)
      | [] => (false, rest, ok)
    if !ok then none
    else if hasFraction || hasExponent then some (.fraction, rest)
    else
      let n := digitsValue whole
      if negative then some (if n = 0 then .fraction else .int (-n), rest) else some (.int n, rest)

mutual

def readValue : Nat → List Char → Option (Json × List Char)
  | 0, _ => none
  | fuel + 1, cs =>
    match skipSpace cs with
    | 'n' :: 'u' :: 'l' :: 'l' :: rest => some (.null, rest)
    | 't' :: 'r' :: 'u' :: 'e' :: rest => some (.bool true, rest)
    | 'f' :: 'a' :: 'l' :: 's' :: 'e' :: rest => some (.bool false, rest)
    | '"' :: rest => (readText (rest.length + 1) [] rest).map fun p => (.str p.1, p.2)
    | '[' :: rest =>
      match skipSpace rest with
      | ']' :: rest => some (.arr [], rest)
      | rest => readItems fuel [] rest
    | '\x7b' :: rest =>
      match skipSpace rest with
      | '\x7d' :: rest => some (.obj [], rest)
      | rest => readFields fuel [] rest
    | rest => readNumber rest

def readItems : Nat → List Json → List Char → Option (Json × List Char)
  | 0, _, _ => none
  | fuel + 1, acc, cs =>
    match readValue fuel cs with
    | none => none
    | some (v, rest) =>
      match skipSpace rest with
      | ',' :: rest => readItems fuel (v :: acc) rest
      | ']' :: rest => some (.arr (v :: acc).reverse, rest)
      | _ => none

def readFields : Nat → List (String × Json) → List Char → Option (Json × List Char)
  | 0, _, _ => none
  | fuel + 1, acc, cs =>
    match skipSpace cs with
    | '"' :: rest =>
      match readText (rest.length + 1) [] rest with
      | none => none
      | some (k, rest) =>
        match skipSpace rest with
        | ':' :: rest =>
          match readValue fuel rest with
          | none => none
          | some (v, rest) =>
            match skipSpace rest with
            | ',' :: rest => readFields fuel ((k, v) :: acc) rest
            | '\x7d' :: rest => some (.obj ((k, v) :: acc).reverse, rest)
            | _ => none
        | _ => none
    | _ => none

end

def read? (text : List Char) : Option Json :=
  match readValue (text.length + 1) text with
  | some (v, rest) => if (skipSpace rest).isEmpty then some v else none
  | none => none

end Referent.Json
