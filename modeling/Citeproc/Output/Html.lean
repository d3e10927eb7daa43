import Citeproc.Output.Format

namespace Citeproc.Html

def escapeChar (c : Char) : List Char :=
  match c with
  | '&' => "&amp;".toList
  | '<' => "&lt;".toList
  | '>' => "&gt;".toList
  | c => [c]

def escape (s : String) : String := String.ofList (s.toList.flatMap escapeChar)

def wrap (opening content closing : String) : String :=
  if content.isEmpty then content else opening ++ content ++ closing

def displayClass : Display → String
  | .block => "csl-block"
  | .leftMargin => "csl-left-margin"
  | .rightInline => "csl-right-inline"
  | .indent => "csl-indent"

def entry (id content : String) : String :=
  "<div class=\"csl-entry\" id=\"ref-" ++ escape id ++ "\">" ++ content ++ "</div>"

def bibliography (entries : List String) : String :=
  "<div class=\"csl-bib-body\">\n" ++ "\n".intercalate entries ++ "\n</div>"

def format : Format where
  text := escape
  join items delimiter := (escape delimiter).intercalate items
  emph s := wrap "<i>" s "</i>"
  strong s := wrap "<b>" s "</b>"
  smallCaps s := wrap "<span style=\"font-variant:small-caps;\">" s "</span>"
  underline s := wrap "<span style=\"text-decoration:underline;\">" s "</span>"
  superscript s := wrap "<sup>" s "</sup>"
  subscript s := wrap "<sub>" s "</sub>"
  quote opening s closing := wrap (escape opening) s (escape closing)
  display d s := wrap ("<div class=\"" ++ displayClass d ++ "\">") s "</div>"
  entry
  bibliography

end Citeproc.Html
