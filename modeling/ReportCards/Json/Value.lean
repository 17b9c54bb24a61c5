import ReportCards.Decimal.Notation

namespace ReportCards

inductive Json where
  | null
  | boolean (value : Bool)
  | integer (value : Int)
  | double (value : Float)
  | string (value : String)
  | array (items : List Json)
  | object (fields : List (String × Json))
deriving Inhabited

namespace Json

def setField (name : String) (value : Json) : List (String × Json) → List (String × Json)
  | [] => [(name, value)]
  | (other, old) :: rest =>
      if name < other then (name, value) :: (other, old) :: rest
      else if name = other then (name, value) :: rest
      else (other, old) :: setField name value rest

def ofFields (fields : List (String × Json)) : Json :=
  object (fields.foldl (fun sorted (name, value) => setField name value sorted) [])

def escapeCharacter (c : Char) : List Char :=
  if c = '"' then ['\\', '"']
  else if c = '\\' then ['\\', '\\']
  else if c = '\x08' then ['\\', 'b']
  else if c = '\x0c' then ['\\', 'f']
  else if c = '\n' then ['\\', 'n']
  else if c = '\r' then ['\\', 'r']
  else if c = '\t' then ['\\', 't']
  else if c.toNat < 0x20 then
    ['\\', 'u', '0', '0'] ++ (if c.toNat < 0x10 then ['0'] else []) ++ Nat.toDigits 16 c.toNat
  else [c]

def stringMarkup (value : String) : List Char :=
  '"' :: value.toList.flatMap escapeCharacter ++ ['"']

mutual
def written : Json → List Char
  | null => ['n', 'u', 'l', 'l']
  | boolean true => ['t', 'r', 'u', 'e']
  | boolean false => ['f', 'a', 'l', 's', 'e']
  | integer value => (Decimal.ofInt value).toList
  | double value => (Decimal.Notation.data.write value).toList
  | string value => stringMarkup value
  | array items => '[' :: writtenItems items ++ [']']
  | object fields => '{' :: writtenFields fields ++ ['}']

def writtenItems : List Json → List Char
  | [] => []
  | [item] => written item
  | item :: next :: rest => written item ++ ',' :: writtenItems (next :: rest)

def writtenFields : List (String × Json) → List Char
  | [] => []
  | [(name, value)] => stringMarkup name ++ ':' :: written value
  | (name, value) :: next :: rest =>
      stringMarkup name ++ ':' :: written value ++ ',' :: writtenFields (next :: rest)
end

def write (value : Json) : String :=
  String.ofList (written value)

end Json
end ReportCards
