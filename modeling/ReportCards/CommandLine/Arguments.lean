import ReportCards.Decimal.Integer
import ReportCards.Text.Split

namespace ReportCards

structure RenderRequest where
  source : String
  title : String := "Report"
  id : String := "report"
  columns : Option (List String) := none
  page : UInt64 := 0
deriving DecidableEq, Repr

structure WindowRequest where
  count : UInt64
  index : UInt64
deriving DecidableEq, Repr

inductive Command where
  | render (request : RenderRequest)
  | window (request : WindowRequest)
deriving DecidableEq, Repr

inductive Invocation where
  | version
  | run (settingsPath : Option String) (command : Command)
deriving DecidableEq, Repr

namespace Arguments

inductive Item where
  | option (name value : String)
  | operand (text : String)
deriving DecidableEq, Repr

def isOption (argument : String) : Bool :=
  match argument.toList with
  | '-' :: _ :: _ => true
  | _ => false

def optionName? (argument : String) : Option (String × Option String) :=
  match argument.toList with
  | '-' :: '-' :: rest =>
      match Text.splitOnce '=' rest with
      | some (name, value) => some (String.ofList name, some (String.ofList value))
      | none => some (String.ofList rest, none)
  | _ => none

def readItems (names : List String) : List String → Option (List Item)
  | [] => some []
  | argument :: rest =>
      if argument = "--" then some (rest.map .operand)
      else if isOption argument then
        match optionName? argument with
        | none => none
        | some (name, value?) =>
            if name ∉ names then none
            else
              match value?, rest with
              | some value, rest => (readItems names rest).map (.option name value :: ·)
              | none, [] => none
              | none, value :: rest =>
                  if isOption value then none
                  else (readItems names rest).map (.option name value :: ·)
      else (readItems names rest).map (.operand argument :: ·)

def operands (items : List Item) : List String :=
  items.filterMap fun
    | .operand text => some text
    | .option .. => none

def values (name : String) (items : List Item) : List String :=
  items.filterMap fun
    | .option other value => if other = name then some value else none
    | .operand _ => none

def value? (name : String) (items : List Item) : Option (Option String) :=
  match values name items with
  | [] => some none
  | [value] => some (some value)
  | _ => none

def settingsOption : String := "config"

def settingsPath? (items : List Item) : Option (Option String) := do
  let path ← value? settingsOption items
  if path = some "" then none else some path

def columns? (items : List Item) : Option (List String) :=
  match values "columns" items with
  | [] => none
  | lists =>
      some (lists.flatMap fun text =>
        (Text.splitOn (· = ',') text.toList).map String.ofList)

def readRender (arguments : List String) : Option (Option String × Command) := do
  let items ← readItems ["title", "id", "columns", "page", settingsOption] arguments
  let path ← settingsPath? items
  let title ← value? "title" items
  let id ← value? "id" items
  let page ← value? "page" items
  let page ← page.elim (some 0) Decimal.wordOf?
  match operands items with
  | [source] =>
      let request : RenderRequest :=
        { source, title := title.getD "Report", id := id.getD "report",
          columns := columns? items, page }
      return (path, .render request)
  | _ => none

def readWindow (arguments : List String) : Option (Option String × Command) := do
  let items ← readItems [settingsOption] arguments
  let path ← settingsPath? items
  match operands items with
  | [count, index] =>
      return (path, .window { count := ← Decimal.wordOf? count, index := ← Decimal.wordOf? index })
  | _ => none

def readCommand (name : String) (arguments : List String) : Option (Option String × Command) :=
  if name = "render" then readRender arguments
  else if name = "window" then readWindow arguments
  else none

def asksVersion (argument : String) : Bool :=
  argument = "--version" || (Text.dropStart? ['-', 'V'] argument.toList).isSome

/-- Reads arguments from the program's options on. `outer` is the settings file that they have
named so far, and `environment` the one that the environment names, which must not be empty wherever
it is needed. -/
def readFrom (environment outer : Option String) : List String → Option Invocation
  | [] => none
  | argument :: rest =>
      let name (path : String) (rest : Option Invocation) : Option Invocation :=
        if outer.isSome ∨ path = "" then none else rest
      if asksVersion argument then some .version
      else if isOption argument then
        match optionName? argument, rest with
        | some ("config", some path), rest => name path (readFrom environment (some path) rest)
        | some ("config", none), path :: rest =>
            if isOption path then none else name path (readFrom environment (some path) rest)
        | _, _ => none
      else do
        let (inner, command) ← readCommand argument rest
        if environment = some "" ∧ (outer.isNone ∨ inner.isNone) then none
        else return .run (inner <|> outer <|> environment) command

def read (environment : Option String) (arguments : List String) : Option Invocation :=
  readFrom environment none arguments

end Arguments
end ReportCards
