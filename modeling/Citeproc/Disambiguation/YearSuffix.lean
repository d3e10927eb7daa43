import Citeproc.Disambiguation.Cite
import Citeproc.Grouping
import Citeproc.Text.Case

namespace Citeproc.Disambiguation

def authorKey (e : Entry) : String :=
  match e.primaryNames?.bind (·.head?) with
  | some name => Text.lowercase name.familyOrLiteral
  | none => ((e.lookup? "title").map Text.lowercase).getD ""

def suffixLetters : List Char := "abcdefghijklmnopqrstuvwxyz".toList

def giveSuffix (states : States) (id : String) (letter : Char) : States :=
  let state := states.of id
  states.put id { state with yearSuffix := state.yearSuffix <|> some letter }

def suffixGroup (states : States) (group : List Entry) : States :=
  if group.length < 2 then states
  else (group.zip suffixLetters).foldl (fun states (e, letter) => giveSuffix states e.id letter) states

def assignYearSuffixes (entries : List Entry) (states : States) : States :=
  (Grouping.byKey (fun e => (authorKey e, e.year?)) entries).foldl suffixGroup states

end Citeproc.Disambiguation
