import ReportCards.Toml.Draft
import ReportCards.Toml.Plain

namespace ReportCards.Toml

/-! ## Keys -/

def isBare (c : Char) : Bool :=
  c.isAlphanum || c = '_' || c = '-'

def readKeyPart (text : List Char) : Option (String × List Char) :=
  match text with
  | '"' :: _ | '\'' :: _ => readShortString text
  | _ =>
      let name := text.takeWhile isBare
      if name = [] then none else some (String.ofList name, text.dropWhile isBare)

def readKeyParts : (fuel : Nat) → List Char → Option (List String × List Char)
  | 0, _ => none
  | fuel + 1, text => do
      let (part, rest) ← readKeyPart (skipSpace text)
      match skipSpace rest with
      | '.' :: rest =>
          let (parts, rest) ← readKeyParts fuel rest
          return (part :: parts, rest)
      | rest => return ([part], rest)

def greatestDepth : Nat := 79

def readKey (text : List Char) : Option (Key × List Char) := do
  let (parts, rest) ← readKeyParts greatestDepth text
  let name ← parts.getLast?
  return ({ path := parts.dropLast, name }, rest)

/-! ## Values -/

def skipLines (inComment : Bool) : List Char → List Char
  | [] => []
  | '\r' :: '\n' :: rest => skipLines false rest
  | '\n' :: rest => skipLines false rest
  | c :: rest =>
      if inComment then if isPlain c then skipLines true rest else c :: rest
      else if isSpace c then skipLines false rest
      else if c = '#' then skipLines true rest
      else c :: rest

mutual
/-- Reads a value that may hold others `depth` deep. Each call takes a character or is followed by
one that does, so `fuel` twice the length of the text is enough. -/
def readValue (depth : Nat) : (fuel : Nat) → List Char → Option (Toml × List Char)
  | 0, _ => none
  | fuel + 1, text =>
      match depth, text with
      | depth + 1, '[' :: rest =>
          (readItems depth fuel rest).map fun (items, rest) => (.array items, rest)
      | depth + 1, '{' :: rest =>
          match skipSpace rest with
          | '}' :: rest => some (.table [], rest)
          | rest => do
              let (fields, rest) ← readFields depth fuel [] rest
              return (.table (Draft.finishFields fields), rest)
      | _, '"' :: _ | _, '\'' :: _ =>
          (readString text).map fun (value, rest) => (.string value, rest)
      | _, _ => readPlain text

def readItems (depth : Nat) : (fuel : Nat) → List Char → Option (List Toml × List Char)
  | 0, _ => none
  | fuel + 1, text =>
      match skipLines false text with
      | ']' :: rest => some ([], rest)
      | text => do
          let (item, rest) ← readValue depth fuel text
          match skipLines false rest with
          | ',' :: rest =>
              let (items, rest) ← readItems depth fuel rest
              return (item :: items, rest)
          | ']' :: rest => return ([item], rest)
          | _ => none

def readFields (depth : Nat) :
    (fuel : Nat) → Draft.Fields → List Char → Option (Draft.Fields × List Char)
  | 0, _, _ => none
  | fuel + 1, fields, text => do
      let (key, rest) ← readKey text
      let rest ← expect '=' rest
      let (value, rest) ← readValue depth fuel (skipSpace rest)
      let fields ← Draft.assign key value fields
      match skipSpace rest with
      | ',' :: rest => readFields depth fuel fields rest
      | '}' :: rest => return (fields, rest)
      | _ => none
end

/-! ## Lines -/

inductive Line where
  | assign (key : Key) (value : Toml)
  | define (key : Key)
  | extend (key : Key)

def dropLineRest? (text : List Char) : Option (List Char) :=
  let text := skipSpace text
  let text := if text.head? = some '#' then text.dropWhile isPlain else text
  if text = [] then some [] else dropLineEnd? text

def readLineStart (text : List Char) : Option (Line × List Char) :=
  match text with
  | '[' :: '[' :: rest => do
      let (key, rest) ← readKey rest
      return (.extend key, ← expect ']' (← expect ']' rest))
  | '[' :: rest => do
      let (key, rest) ← readKey rest
      return (.define key, ← expect ']' rest)
  | _ => do
      let (key, rest) ← readKey text
      let rest := skipSpace (← expect '=' rest)
      let (value, rest) ← readValue greatestDepth (2 * rest.length + 2) rest
      return (.assign key value, rest)

def readDocument : (fuel : Nat) → List Char → Option (List Line)
  | 0, _ => none
  | fuel + 1, text =>
      match skipSpace text with
      | [] => some []
      | text =>
          match dropLineRest? text with
          | some rest => readDocument fuel rest
          | none => do
              let (line, rest) ← readLineStart text
              let lines ← readDocument fuel (← dropLineRest? rest)
              return line :: lines

def assemble : (header : List String) → Draft.Fields → List Line → Option Draft.Fields
  | _, fields, [] => some fields
  | header, fields, .assign key value :: rest => do
      assemble header (← Draft.assignUnder header key value fields) rest
  | _, fields, .define key :: rest => do
      assemble (key.path ++ [key.name]) (← Draft.define key fields) rest
  | _, fields, .extend key :: rest => do
      assemble (key.path ++ [key.name]) (← Draft.extend key fields) rest

def byteOrderMark : Char := '\ufeff'

def read (text : String) : Option Toml := do
  let chars := text.toList
  let chars := if chars.head? = some byteOrderMark then chars.tail else chars
  let lines ← readDocument (chars.length + 1) chars
  let fields ← assemble [] [] lines
  return .table (Draft.finishFields fields)

end ReportCards.Toml
