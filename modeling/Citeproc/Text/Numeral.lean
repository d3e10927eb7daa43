namespace Citeproc.Text

def digitValue (c : Char) : Nat := c.toNat - '0'.toNat

def decimal? (cs : List Char) : Option Nat :=
  if cs.isEmpty || !cs.all Char.isDigit then none
  else some (cs.foldl (fun n c => 10 * n + digitValue c) 0)

def natural? (limit : Nat) (cs : List Char) : Option Nat :=
  (decimal? (if cs.head? == some '+' then cs.drop 1 else cs)).filter (· ≤ limit)

def maxHalfWord : Nat := 0xffffffff

def maxWord : Nat := 0xffffffffffffffff

def maxInteger : Nat := 0x7fffffffffffffff

def integer? (cs : List Char) : Option Int :=
  match cs with
  | '-' :: cs => ((decimal? cs).filter (· ≤ maxInteger + 1)).map fun n => -(n : Int)
  | cs => (natural? maxInteger cs).map Int.ofNat

def padded (width n : Nat) : String :=
  let digits := toString n
  String.ofList (List.replicate (width - digits.length) '0') ++ digits

def paddedInt (width : Nat) (n : Int) : String :=
  if n < 0 then "-" ++ padded (width - 1) n.natAbs else padded width n.natAbs

end Citeproc.Text
