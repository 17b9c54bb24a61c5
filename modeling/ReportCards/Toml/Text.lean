import ReportCards.Text.Digit

namespace ReportCards.Toml

open Text

def isSpace (c : Char) : Bool :=
  c = ' ' || c = '\t'

def isPlain (c : Char) : Bool :=
  c = '\t' || (0x20 ≤ c.toNat && c.toNat ≠ 0x7F)

def skipSpace (text : List Char) : List Char :=
  text.dropWhile isSpace

def dropLineEnd? : List Char → Option (List Char)
  | '\n' :: rest => some rest
  | '\r' :: '\n' :: rest => some rest
  | _ => none

def skipBlankLines : List Char → List Char
  | '\r' :: '\n' :: rest => skipBlankLines rest
  | c :: rest => if isSpace c ∨ c = '\n' then skipBlankLines rest else c :: rest
  | [] => []

def readCodePoint (digits : Nat) (text : List Char) : Option (Char × List Char) := do
  let n ← number? 16 (text.take digits)
  if digits ≤ text.length ∧ n.isValidChar then some (Char.ofNat n, text.drop digits) else none

def readEscape : List Char → Option (Char × List Char)
  | '"' :: rest => some ('"', rest)
  | '\\' :: rest => some ('\\', rest)
  | 'b' :: rest => some ('\x08', rest)
  | 'f' :: rest => some ('\x0c', rest)
  | 'n' :: rest => some ('\n', rest)
  | 'r' :: rest => some ('\r', rest)
  | 't' :: rest => some ('\t', rest)
  | 'u' :: rest => readCodePoint 4 rest
  | 'U' :: rest => readCodePoint 8 rest
  | _ => none

def readLine (read : List Char) : (fuel : Nat) → List Char → Option (String × List Char)
  | 0, _ => none
  | fuel + 1, text =>
      match text with
      | [] => none
      | '"' :: rest => some (String.ofList read.reverse, rest)
      | '\\' :: rest => do
          let (c, rest) ← readEscape rest
          readLine (c :: read) fuel rest
      | c :: rest => if isPlain c then readLine (c :: read) fuel rest else none

def readLiteralLine (read : List Char) : List Char → Option (String × List Char)
  | [] => none
  | '\'' :: rest => some (String.ofList read.reverse, rest)
  | c :: rest => if isPlain c then readLiteralLine (c :: read) rest else none

def countMarks (mark : Char) (text : List Char) : Nat :=
  (text.takeWhile (· = mark)).length

/-- The end of several lines at `marks` marks in a row: up to two of them still belong to the
string. -/
def endLines (mark : Char) (read : List Char) (marks : Nat) (text : List Char) :
    String × List Char :=
  let kept := min marks 5 - 3
  (String.ofList (read.reverse ++ List.replicate kept mark), text.drop (kept + 3))

def readLines (mark : Char) (escaped : Bool) (read : List Char) :
    (fuel : Nat) → List Char → Option (String × List Char)
  | 0, _ => none
  | fuel + 1, text =>
      let marks := countMarks mark text
      if 3 ≤ marks then some (endLines mark read marks text)
      else
        match dropLineEnd? text, text with
        | some rest, _ => readLines mark escaped ('\n' :: read) fuel rest
        | none, [] => none
        | none, c :: rest =>
            if escaped ∧ c = '\\' then
              match dropLineEnd? (skipSpace rest) with
              | some rest => readLines mark escaped read fuel (skipBlankLines rest)
              | none => do
                  let (c, rest) ← readEscape rest
                  readLines mark escaped (c :: read) fuel rest
            else if isPlain c then readLines mark escaped (c :: read) fuel rest
            else none

/-- Reads several lines from behind their first three marks. A line end that follows at once does
not belong to them. -/
def readText (mark : Char) (escaped : Bool) (text : List Char) : Option (String × List Char) :=
  let text := (dropLineEnd? text).getD text
  readLines mark escaped [] (text.length + 1) text

def readShortString : List Char → Option (String × List Char)
  | '"' :: rest => readLine [] (rest.length + 1) rest
  | '\'' :: rest => readLiteralLine [] rest
  | _ => none

def readString : List Char → Option (String × List Char)
  | '"' :: '"' :: '"' :: rest => readText '"' true rest
  | '\'' :: '\'' :: '\'' :: rest => readText '\'' false rest
  | text => readShortString text

end ReportCards.Toml
