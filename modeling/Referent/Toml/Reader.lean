import Referent.Toml.Basic

namespace Referent.Toml

def isBlankChar (c : Char) : Bool := c == ' ' || c == '\t'

def skipBlank (cs : List Char) : List Char := cs.dropWhile isBlankChar

def isPlain (c : Char) : Bool := c == '\t' || (0x20 ≤ c.toNat && c.toNat != 0x7F)

def lineBreak? : List Char → Option (List Char)
  | '\n' :: rest => some rest
  | '\r' :: '\n' :: rest => some rest
  | _ => none

def skipComment : List Char → List Char
  | '#' :: rest => rest.dropWhile isPlain
  | cs => cs

def skipLines : Nat → List Char → List Char
  | 0, cs => cs
  | fuel + 1, cs =>
    let cs := skipComment (skipBlank cs)
    match lineBreak? cs with
    | some rest => skipLines fuel rest
    | none => cs

def hexCode? (c : Char) : Option Nat :=
  if '0' ≤ c ∧ c ≤ '9' then some (c.toNat - 0x30)
  else if 'a' ≤ c ∧ c ≤ 'f' then some (c.toNat - 0x57)
  else if 'A' ≤ c ∧ c ≤ 'F' then some (c.toNat - 0x37)
  else none

def readCode : Nat → Nat → List Char → Option (Char × List Char)
  | 0, code, cs => if code.isValidChar then some (Char.ofNat code, cs) else none
  | n + 1, code, cs =>
    match cs with
    | [] => none
    | c :: rest => (hexCode? c).bind fun d => readCode n (code * 16 + d) rest

def readEscape : List Char → Option (Char × List Char)
  | [] => none
  | c :: rest =>
    match c with
    | 'b' => some ('\x08', rest)
    | 't' => some ('\t', rest)
    | 'n' => some ('\n', rest)
    | 'f' => some ('\x0c', rest)
    | 'r' => some ('\r', rest)
    | 'e' => some ('\x1b', rest)
    | '"' => some ('"', rest)
    | '\\' => some ('\\', rest)
    | 'x' => readCode 2 0 rest
    | 'u' => readCode 4 0 rest
    | 'U' => readCode 8 0 rest
    | _ => none

def readBasic : Nat → List Char → List Char → Option (String × List Char)
  | 0, _, _ => none
  | fuel + 1, acc, cs =>
    match cs with
    | [] => none
    | '"' :: rest => some (String.ofList acc.reverse, rest)
    | '\\' :: rest => (readEscape rest).bind fun p => readBasic fuel (p.1 :: acc) p.2
    | c :: rest => if isPlain c then readBasic fuel (c :: acc) rest else none

def readLiteral (cs : List Char) : Option (String × List Char) :=
  let text := cs.takeWhile fun c => c != '\'' && isPlain c
  match cs.drop text.length with
  | '\'' :: rest => some (String.ofList text, rest)
  | _ => none

def skipFolded (cs : List Char) : Option (List Char) :=
  (lineBreak? (skipBlank cs)).map fun rest =>
    rest.dropWhile fun c => isBlankChar c || c == '\n' || c == '\r'

/-- Reads a string in triple quotes after the opening ones. Up to two quotes may stand in front of
the closing ones. -/
def readLong (quote : Char) (escapes : Bool) : Nat → List Char → List Char →
    Option (String × List Char)
  | 0, _, _ => none
  | fuel + 1, acc, cs =>
    match cs with
    | [] => none
    | c :: rest =>
      if c == quote then
        let quotes := (cs.takeWhile (· == quote)).length
        if quotes < 3 then readLong quote escapes fuel (List.replicate quotes quote ++ acc) (cs.drop quotes)
        else
          let closing := min quotes 5
          some (String.ofList (List.replicate (closing - 3) quote ++ acc).reverse, cs.drop closing)
      else if c == '\\' && escapes then
        match skipFolded rest with
        | some rest => readLong quote escapes fuel acc rest
        | none => (readEscape rest).bind fun p => readLong quote escapes fuel (p.1 :: acc) p.2
      else
        match c, rest with
        | '\n', _ => readLong quote escapes fuel (c :: acc) rest
        | '\r', '\n' :: rest => readLong quote escapes fuel ('\n' :: '\r' :: acc) rest
        | _, _ => if isPlain c then readLong quote escapes fuel (c :: acc) rest else none

def readLongFrom (quote : Char) (escapes : Bool) (cs : List Char) : Option (String × List Char) :=
  let cs := (lineBreak? cs).getD cs
  readLong quote escapes (cs.length + 1) [] cs

def readString (cs : List Char) : Option (String × List Char) :=
  match cs with
  | '"' :: '"' :: '"' :: rest => readLongFrom '"' true rest
  | '\'' :: '\'' :: '\'' :: rest => readLongFrom '\'' false rest
  | '"' :: rest => readBasic (rest.length + 1) [] rest
  | '\'' :: rest => readLiteral rest
  | _ => none

def isBareKeyChar (c : Char) : Bool := c.isAlphanum || c == '_' || c == '-'

def readSimpleKey (cs : List Char) : Option (String × List Char) :=
  match cs with
  | '"' :: rest => readBasic (rest.length + 1) [] rest
  | '\'' :: rest => readLiteral rest
  | _ =>
    let key := cs.takeWhile isBareKeyChar
    if key.isEmpty then none else some (String.ofList key, cs.drop key.length)

def readKey : Nat → List Char → Option (List String × List Char)
  | 0, _ => none
  | fuel + 1, cs =>
    match readSimpleKey (skipBlank cs) with
    | none => none
    | some (key, rest) =>
      match skipBlank rest with
      | '.' :: more => (readKey fuel more).map fun p => (key :: p.1, p.2)
      | rest => some ([key], rest)

def digitOf? (base : Nat) (c : Char) : Option Nat := (hexCode? c).filter (· < base)

def digitsValue (base : Nat) : Option Nat → List Char → Option Nat
  | value, [] => value
  | none, c :: rest => (digitOf? base c).bind fun d => digitsValue base (some d) rest
  | some v, '_' :: c :: rest =>
    (digitOf? base c).bind fun d => digitsValue base (some (v * base + d)) rest
  | some v, c :: rest => (digitOf? base c).bind fun d => digitsValue base (some (v * base + d)) rest

def decimalValue (digits : List Char) : Option Nat :=
  if digits.head? = some '0' ∧ 1 < digits.length then none else digitsValue 10 none digits

def integer? (token : List Char) : Option Int :=
  match token with
  | '0' :: 'x' :: digits => (digitsValue 16 none digits).map Int.ofNat
  | '0' :: 'o' :: digits => (digitsValue 8 none digits).map Int.ofNat
  | '0' :: 'b' :: digits => (digitsValue 2 none digits).map Int.ofNat
  | '+' :: digits => (decimalValue digits).map Int.ofNat
  | '-' :: digits => (decimalValue digits).map fun n => -Int.ofNat n
  | _ => (decimalValue token).map Int.ofNat

def isFixedPoint (token : List Char) : Bool :=
  let whole := token.takeWhile (· != '.')
  match token.drop whole.length with
  | '.' :: fraction => (decimalValue whole).isSome && (digitsValue 10 none fraction).isSome
  | _ => (decimalValue token).isSome

def isFloat (token : List Char) : Bool :=
  let token :=
    match token with
    | '+' :: rest => rest
    | '-' :: rest => rest
    | _ => token
  let mantissa := token.takeWhile fun c => c != 'e' && c != 'E'
  match token.drop mantissa.length with
  | [] => isFixedPoint token || token == "inf".toList || token == "nan".toList
  | _ :: exponent =>
    let digits :=
      match exponent with
      | '+' :: rest => rest
      | '-' :: rest => rest
      | _ => exponent
    isFixedPoint mantissa && (digitsValue 10 none digits).isSome

def isDateTime (token : List Char) : Bool :=
  4 < token.length && token.all (fun c => c.isDigit || "-:.TtZz+ ".toList.contains c)
    && token.head?.any Char.isDigit && token.any fun c => c == '-' || c == ':'

def isTokenChar (c : Char) : Bool := c.isAlphanum || "_-+.:".toList.contains c

def readScalar (cs : List Char) : Option (Toml × List Char) :=
  let token := cs.takeWhile isTokenChar
  let rest := cs.drop token.length
  match integer? token with
  | some n => some (.integer n, rest)
  | none =>
    if token == "true".toList || token == "false".toList || isFloat token || isDateTime token then
      some (.scalar, rest)
    else none

mutual

def readValue : Nat → List Char → Option (Toml × List Char)
  | 0, _ => none
  | fuel + 1, cs =>
    match cs with
    | [] => none
    | '"' :: _ => (readString cs).map fun p => (.text p.1, p.2)
    | '\'' :: _ => (readString cs).map fun p => (.text p.1, p.2)
    | '[' :: rest => readItems fuel [] rest
    | '\x7b' :: rest => readInline fuel [] rest
    | _ => readScalar cs

def readItems : Nat → List Toml → List Char → Option (Toml × List Char)
  | 0, _, _ => none
  | fuel + 1, acc, cs =>
    match skipLines (cs.length + 1) cs with
    | ']' :: rest => some (.array acc.reverse, rest)
    | cs =>
      match readValue fuel cs with
      | none => none
      | some (v, rest) =>
        match skipLines (rest.length + 1) rest with
        | ',' :: rest => readItems fuel (v :: acc) rest
        | ']' :: rest => some (.array (v :: acc).reverse, rest)
        | _ => none

def readInline : Nat → Entries → List Char → Option (Toml × List Char)
  | 0, _, _ => none
  | fuel + 1, acc, cs =>
    match skipLines (cs.length + 1) cs with
    | '\x7d' :: rest => some (.table .inline acc, rest)
    | cs =>
      match readKey (cs.length + 1) cs with
      | some (key, '=' :: rest) =>
        match readValue fuel (skipBlank rest) with
        | none => none
        | some (v, rest) =>
          match insert v key acc with
          | none => none
          | some acc =>
            match skipLines (rest.length + 1) rest with
            | ',' :: rest => readInline fuel acc rest
            | '\x7d' :: rest => some (.table .inline acc, rest)
            | _ => none
      | _ => none

end

def endOfLine (cs : List Char) : Option (List Char) :=
  match skipComment (skipBlank cs) with
  | [] => some []
  | cs => lineBreak? cs

def readExpressions : Nat → List String → Entries → List Char → Option Entries
  | 0, _, _, _ => none
  | fuel + 1, header, entries, cs =>
    match skipLines (cs.length + 1) cs with
    | [] => some entries
    | '[' :: '[' :: _ => none
    | '[' :: rest =>
      match readKey (rest.length + 1) rest with
      | some (path, ']' :: rest) =>
        match openTable path entries, endOfLine rest with
        | some entries, some rest => readExpressions fuel path entries rest
        | _, _ => none
      | _ => none
    | cs =>
      match readKey (cs.length + 1) cs with
      | some (key, '=' :: rest) =>
        match readValue (rest.length + 1) (skipBlank rest) with
        | none => none
        | some (v, rest) =>
          match insertAt key v header entries, endOfLine rest with
          | some entries, some rest => readExpressions fuel header entries rest
          | _, _ => none
      | _ => none

/-- The entries of a text. Arrays of tables are not read, for no setting is one. -/
def read? (text : List Char) : Option Entries :=
  let text :=
    match text with
    | '\ufeff' :: rest => rest
    | _ => text
  readExpressions (text.length + 1) [] [] text

end Referent.Toml
