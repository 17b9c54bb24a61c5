namespace ReportCards

inductive Toml where
  | string (value : String)
  | integer (value : Int)
  | double (value : Float)
  | boolean (value : Bool)
  | moment (text : String)
  | array (items : List Toml)
  | table (fields : List (String × Toml))
deriving Inhabited

end ReportCards
