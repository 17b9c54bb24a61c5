import ReportCards.Json.Number
import ReportCards.Text.Digit

namespace ReportCards.Json

def isSpace (c : Char) : Bool :=
  c = ' ' || c = '\t' || c = '\n' || c = '\r'

def skipSpace (text : List Char) : List Char :=
  text.dropWhile isSpace

def readHex : List Char → Option (Nat × List Char)
  | a :: b :: c :: d :: rest => do
      let a ← Text.hexDigit? a
      let b ← Text.hexDigit? b
      let c ← Text.hexDigit? c
      let d ← Text.hexDigit? d
      return (((a * 16 + b) * 16 + c) * 16 + d, rest)
  | _ => none

def readUnicode (text : List Char) : Option (Char × List Char) := do
  let (unit, rest) ← readHex text
  if 0xDC00 ≤ unit ∧ unit ≤ 0xDFFF then none
  else if 0xD800 ≤ unit ∧ unit ≤ 0xDBFF then
    match rest with
    | '\\' :: 'u' :: rest =>
        let (second, rest) ← readHex rest
        if 0xDC00 ≤ second ∧ second ≤ 0xDFFF then
          return (Char.ofNat (0x10000 + (unit - 0xD800) * 0x400 + (second - 0xDC00)), rest)
        else none
    | _ => none
  else return (Char.ofNat unit, rest)

def readEscape : List Char → Option (Char × List Char)
  | '"' :: rest => some ('"', rest)
  | '\\' :: rest => some ('\\', rest)
  | '/' :: rest => some ('/', rest)
  | 'b' :: rest => some ('\x08', rest)
  | 'f' :: rest => some ('\x0c', rest)
  | 'n' :: rest => some ('\n', rest)
  | 'r' :: rest => some ('\r', rest)
  | 't' :: rest => some ('\t', rest)
  | 'u' :: rest => readUnicode rest
  | _ => none

def readCharacters (read : List Char) : (fuel : Nat) → List Char → Option (String × List Char)
  | 0, _ => none
  | fuel + 1, text =>
      match text with
      | [] => none
      | '"' :: rest => some (String.ofList read.reverse, rest)
      | '\\' :: rest => do
          let (c, rest) ← readEscape rest
          readCharacters (c :: read) fuel rest
      | c :: rest => if c.toNat < 0x20 then none else readCharacters (c :: read) fuel rest

def readString : List Char → Option (String × List Char)
  | '"' :: rest => readCharacters [] (rest.length + 1) rest
  | _ => none

mutual
/-- Reads a value in which containers may be nested `depth` deep. Each step takes a character or is
followed by one that does, so `fuel` twice the length of the text is enough. -/
def readValue (depth : Nat) : (fuel : Nat) → List Char → Option (Json × List Char)
  | 0, _ => none
  | fuel + 1, text =>
      match skipSpace text with
      | 'n' :: 'u' :: 'l' :: 'l' :: rest => some (null, rest)
      | 't' :: 'r' :: 'u' :: 'e' :: rest => some (boolean true, rest)
      | 'f' :: 'a' :: 'l' :: 's' :: 'e' :: rest => some (boolean false, rest)
      | '"' :: rest => (readString ('"' :: rest)).map fun (value, rest) => (Json.string value, rest)
      | '[' :: rest =>
          match depth, skipSpace rest with
          | 0, _ => none
          | _ + 1, ']' :: rest => some (array [], rest)
          | depth + 1, rest =>
              (readItems depth fuel rest).map fun (items, rest) => (array items, rest)
      | '{' :: rest =>
          match depth, skipSpace rest with
          | 0, _ => none
          | _ + 1, '}' :: rest => some (object [], rest)
          | depth + 1, rest =>
              (readFields depth fuel rest).map fun (fields, rest) => (ofFields fields, rest)
      | text => readNumber text

def readItems (depth : Nat) : (fuel : Nat) → List Char → Option (List Json × List Char)
  | 0, _ => none
  | fuel + 1, text => do
      let (item, rest) ← readValue depth fuel text
      match skipSpace rest with
      | ',' :: rest =>
          let (items, rest) ← readItems depth fuel rest
          return (item :: items, rest)
      | ']' :: rest => return ([item], rest)
      | _ => none

def readFields (depth : Nat) :
    (fuel : Nat) → List Char → Option (List (String × Json) × List Char)
  | 0, _ => none
  | fuel + 1, text => do
      let (name, rest) ← readString (skipSpace text)
      match skipSpace rest with
      | ':' :: rest =>
          let (value, rest) ← readValue depth fuel rest
          match skipSpace rest with
          | ',' :: rest =>
              let (fields, rest) ← readFields depth fuel rest
              return ((name, value) :: fields, rest)
          | '}' :: rest => return ([(name, value)], rest)
          | _ => none
      | _ => none
end

def greatestDepth : Nat := 127

def read (text : String) : Option Json := do
  let chars := text.toList
  let (value, rest) ← readValue greatestDepth (2 * chars.length + 2) chars
  if skipSpace rest = [] then return value else none

end ReportCards.Json
