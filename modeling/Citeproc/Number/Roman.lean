namespace Citeproc.Roman

def numerals : List (Nat × String) :=
  [(1000, "m"), (900, "cm"), (500, "d"), (400, "cd"), (100, "c"), (90, "xc"), (50, "l"), (40, "xl"),
    (10, "x"), (9, "ix"), (5, "v"), (4, "iv"), (1, "i")]

def write (n : Nat) : List (Nat × String) → String
  | [] => ""
  | (value, numeral) :: rest =>
    String.join (List.replicate (n / value) numeral) ++ write (n % value) rest

def ofNat (n : Nat) : String := if 1 ≤ n && n < 4000 then write n numerals else toString n

end Citeproc.Roman
