import Citeproc.Cites.Basic

namespace Citeproc

namespace RenderedCite

/-- Whether a cite has the next number. Numbers are exact; `follows_iff_words` says when words of
64 bits agree. -/
def follows (previous cite : RenderedCite) : Bool :=
  previous.number?.any fun n => cite.number? == some (n + 1)

theorem follows_iff_words {previous cite : RenderedCite} {n m : Nat}
    (hprevious : previous.number? = some n) (hcite : cite.number? = some m)
    (hn : n + 1 < UInt64.size) (hm : m < UInt64.size) :
    previous.follows cite = true ↔ UInt64.ofNat m = UInt64.ofNat n + 1 := by
  have hfollows : previous.follows cite = true ↔ m = n + 1 := by simp [follows, hprevious, hcite]
  rw [hfollows, ← UInt64.ofNat_one, ← UInt64.ofNat_add, ← UInt64.toNat_inj,
    UInt64.toNat_ofNat_of_lt' hm, UInt64.toNat_ofNat_of_lt' hn]

def runPieces (run : List RenderedCite) : List Output :=
  match run.head?, run.getLast? with
  | some first, some last =>
    if 3 ≤ run.length then [.ofList [first.output, .ofText "-", last.output]]
    else run.map (·.output)
  | _, _ => []

end RenderedCite

def CiteJoiner.joinNumbers (j : CiteJoiner) (cites : List RenderedCite) : Output :=
  .join ((cites.splitBy RenderedCite.follows).flatMap RenderedCite.runPieces) j.delimiter

end Citeproc
