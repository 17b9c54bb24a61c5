import ReportCards.Decimal.Integer
import ReportCards.Text.Quoted

namespace ReportCards

inductive DocumentFault where
  | invalidTag (tag : String)
  | invalidClass (name : String)
  | invalidAttributeName (name : String)
  | appendIntoItself
  | notAChild
  | unknownNode
deriving DecidableEq, Repr

inductive SelectorFault where
  | empty
  | misplacedChild
  | danglingChild
  | unexpectedCharacter
  | emptyId
  | emptyClass
  | unclosedBracket
  | unsupportedCharacter (c : Char)
  | emptyCompound
  | invalidAttributeName (name : String)
deriving DecidableEq, Repr

inductive ValidationFault where
  | zeroPageSize
  | zeroMaxHandles
  | notAnArray
  | shapeMismatch (record : Nat)
  | tooWide (record cells columns : Nat)
deriving DecidableEq, Repr

inductive SettingsFault where
  | malformed
  | wrongType (key : String)
deriving DecidableEq, Repr

inductive FileFault where
  | notFound
  | notADirectory
  | isADirectory
  | notUtf8
  | other (detail : String)
deriving DecidableEq, Repr

inductive Error where
  | document (fault : DocumentFault)
  | selector (source : String) (fault : SelectorFault)
  | validation (fault : ValidationFault)
  | settings (fault : SettingsFault)
  | file (fault : FileFault)
deriving DecidableEq, Repr

open Decimal Text

def DocumentFault.message : DocumentFault → String
  | invalidTag tag => "invalid tag name " ++ quoted tag
  | invalidClass name => "invalid class name " ++ quoted name
  | invalidAttributeName name => "invalid attribute name " ++ quoted name
  | appendIntoItself => "cannot append a node to itself or its descendant"
  | notAChild => "node is not a child"
  | unknownNode => "node does not belong to this document"

def SelectorFault.message : SelectorFault → String
  | empty => "empty selector"
  | misplacedChild => "misplaced '>'"
  | danglingChild => "dangling '>'"
  | unexpectedCharacter => "unexpected character"
  | emptyId => "empty id"
  | emptyClass => "empty class"
  | unclosedBracket => "unclosed '['"
  | unsupportedCharacter c => "unsupported character " ++ quotedChar c
  | emptyCompound => "empty compound selector"
  | invalidAttributeName name => "invalid attribute name " ++ quoted name

def ValidationFault.message : ValidationFault → String
  | zeroPageSize => "page_size must be greater than zero"
  | zeroMaxHandles => "max_handles must be greater than zero"
  | notAnArray => "report data must be a JSON array"
  | shapeMismatch record =>
      "record " ++ ofNat record ++ " does not match the shape of the first record"
  | tooWide record cells columns =>
      "record " ++ ofNat record ++ " has " ++ ofNat cells ++ " cells but only " ++ ofNat columns
        ++ " columns"

def SettingsFault.message : SettingsFault → String
  | malformed => "the settings are not well-formed TOML"
  | wrongType key => "the value of " ++ quoted key ++ " has the wrong type"

def FileFault.message : FileFault → String
  | notFound => "No such file or directory (os error 2)"
  | notADirectory => "Not a directory (os error 20)"
  | isADirectory => "Is a directory (os error 21)"
  | notUtf8 => "stream did not contain valid UTF-8"
  | other detail => detail

def Error.message : Error → String
  | document fault => "DOM error: " ++ fault.message
  | selector source fault => "Invalid selector: " ++ quoted source ++ ": " ++ fault.message
  | validation fault => "Validation error: " ++ fault.message
  | settings fault => "Configuration error: " ++ fault.message
  | file fault => "IO error: " ++ fault.message

end ReportCards
