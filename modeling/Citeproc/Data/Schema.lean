namespace Citeproc.Data

inductive Schema
  | text
  | flag
  | keyword
  | optional (schema : Schema)
  | list (item : Schema)
  | table (item : Schema)
  | record (fields : List (String × Schema))
  | textOrTexts (names : List String)
  deriving Repr, Inhabited

def Schema.names : Schema → List String
  | record fields => fields.map (·.1)
  | textOrTexts names => names
  | _ => []

end Citeproc.Data
