import Citeproc.Cites.Numbers
import Citeproc.Cites.Years
import Citeproc.Grouping

namespace Citeproc

def RenderedCite.sameAuthor (a b : RenderedCite) : Bool :=
  a.author?.isSome && a.author? == b.author?

namespace CiteJoiner

def groups (j : CiteJoiner) (cites : List RenderedCite) : List (List RenderedCite) :=
  if j.mode.isSome || j.options.citeGroupDelimiter.isSome then
    Grouping.groups RenderedCite.sameAuthor cites
  else cites.map ([·])

def collapses (j : CiteJoiner) (group : List RenderedCite) : Bool :=
  j.mode.isSome && 1 < group.length

def joinGroup (j : CiteJoiner) (group : List RenderedCite) : Output :=
  match j.mode with
  | some mode =>
    if 1 < group.length then j.joinYears mode group
    else .join (group.map (·.output)) j.groupDelimiter
  | none => .join (group.map (·.output)) j.groupDelimiter

def delimiterAfter (j : CiteJoiner) (group : List RenderedCite) : String :=
  match j.options.afterCollapseDelimiter with
  | some delimiter => if j.collapses group then delimiter else j.delimiter
  | none => j.delimiter

def joinGroups (j : CiteJoiner) : List (List RenderedCite) → List Output
  | [] => []
  | [group] => [j.joinGroup group]
  | group :: next :: rest =>
    j.joinGroup group :: .ofText (j.delimiterAfter group) :: joinGroups j (next :: rest)

def join (j : CiteJoiner) (cites : List RenderedCite) : Output :=
  if j.mode == some .citationNumber then j.joinNumbers cites
  else .ofList (j.joinGroups (j.groups cites))

end CiteJoiner

end Citeproc
