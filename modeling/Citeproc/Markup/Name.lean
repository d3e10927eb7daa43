namespace Citeproc.Markup

def isSpace (c : Char) : Bool := c == ' ' || c == '\t' || c == '\n' || c == '\r'

def isDocumentChar (c : Char) : Bool :=
  if c.toNat < 0x20 then isSpace c else c.toNat != 0xfffe && c.toNat != 0xffff

def startsNameBeyondAscii (n : Nat) : Bool :=
  (0xc0 ≤ n && n ≤ 0x2ff && n != 0xd7 && n != 0xf7) || (0x370 ≤ n && n ≤ 0x1fff && n != 0x37e) ||
    n == 0x200c || n == 0x200d || (0x2070 ≤ n && n ≤ 0x218f) || (0x2c00 ≤ n && n ≤ 0x2fef) ||
    (0x3001 ≤ n && n ≤ 0xd7ff) || (0xf900 ≤ n && n ≤ 0xfdcf) || (0xfdf0 ≤ n && n ≤ 0xfffd) ||
    (0x10000 ≤ n && n ≤ 0xeffff)

def startsName (c : Char) : Bool :=
  if c.toNat < 128 then c.isAlpha || c == ':' || c == '_' else startsNameBeyondAscii c.toNat

def inName (c : Char) : Bool :=
  if c.toNat < 128 then startsName c || c.isDigit || c == '-' || c == '.'
  else
    startsNameBeyondAscii c.toNat || c.toNat == 0xb7 || (0x300 ≤ c.toNat && c.toNat ≤ 0x36f) ||
      c.toNat == 0x203f || c.toNat == 0x2040

theorem inName_of_startsName {c : Char} (h : startsName c) : inName c := by
  unfold startsName at h
  unfold inName startsName
  split at h <;> rename_i hc <;> simp [hc, h]

end Citeproc.Markup
