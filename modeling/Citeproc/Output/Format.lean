import Citeproc.Output.Punctuation

namespace Citeproc

structure Format where
  text : String → String
  join : List String → String → String
  emph : String → String
  strong : String → String
  smallCaps : String → String
  underline : String → String
  superscript : String → String
  subscript : String → String
  quote : String → String → String → String
  display : Display → String → String
  entry : String → String → String
  bibliography : List String → String

namespace Format

def withFormatting (fmt : Format) (f : Formatting) (s : String) : String :=
  let s := if f.fontStyle == some .italic || f.fontStyle == some .oblique then fmt.emph s else s
  let s := if f.fontWeight == some .bold then fmt.strong s else s
  let s := if f.fontVariant == some .smallCaps then fmt.smallCaps s else s
  let s := if f.textDecoration == some .underline then fmt.underline s else s
  match f.verticalAlign with
  | some .sup => fmt.superscript s
  | some .sub => fmt.subscript s
  | _ => s

mutual

def renderAt (fmt : Format) (marks : QuoteMarks) (depth : Nat) : Output → String
  | .null => fmt.text ""
  | .text s => fmt.text s
  | .seq items => fmt.join (renderAll fmt marks depth items) ""
  | .tagged _ child => renderAt fmt marks depth child
  | .formatted formatting quotes display child =>
    let inner := renderAt fmt marks (if quotes then depth + 1 else depth) child
    let s := fmt.withFormatting formatting inner
    let (opening, closing) := if depth % 2 == 0 then marks.outer else marks.inner
    let s := if quotes then fmt.quote opening s closing else s
    display.elim s (fmt.display · s)

def renderAll (fmt : Format) (marks : QuoteMarks) (depth : Nat) : List Output → List String
  | [] => []
  | o :: os => renderAt fmt marks depth o :: renderAll fmt marks depth os

end

def render (fmt : Format) (marks : QuoteMarks) (o : Output) : String := fmt.renderAt marks 0 o

def finish (fmt : Format) (marks : QuoteMarks) (o : Output) : String :=
  fmt.render marks (o.tidy marks)

end Format

end Citeproc
