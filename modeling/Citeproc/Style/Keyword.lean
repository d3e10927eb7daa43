namespace Citeproc

class Keyword (α : Type) where
  all : List α
  keyword : α → String

export Keyword (keyword)

namespace Keyword

def read? {α : Type} [Keyword α] (s : String) : Option α :=
  all.find? fun a : α => keyword a == s

theorem keyword_of_read? {α : Type} [Keyword α] {s : String} {a : α}
    (h : read? s = some a) : keyword a = s := by
  simpa using List.find?_some h

end Keyword

end Citeproc
