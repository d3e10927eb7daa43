import Citeproc.Date.Rendering
import Citeproc.Names.List
import Citeproc.Number.PageRange
import Citeproc.Render.Condition
import Citeproc.Render.State

namespace Citeproc

structure Renderer where
  style : Style
  locale : Locale
  memoize : Bool := true
  deriving Inhabited

namespace Renderer

variable (r : Renderer)

def explicitYearSuffix : Bool := r.style.usesVariable "year-suffix"

def formatPages? (pages : String) : Option String :=
  PageRange.format? pages r.style.options.pageRangeFormat
    ((r.locale.longTerm? "page-range-delimiter").getD "–")

/-- Pages that cannot be cut end the run. Rendering goes on here with the pages as written, and
`formatsAll` tells of a list such as `layoutPages` whether a run gets past all that is in it. -/
def pageRange (pages : String) : String := (r.formatPages? pages).getD pages

def variableText (ctx : RenderContext) (var : String) (form : VariableForm) : Output :=
  let value? :=
    match var with
    | "page" => (ctx.value? var).map r.pageRange
    | "locator" =>
      (ctx.value? var).map fun locator =>
        if ctx.locatorLabel? == some "page" then r.pageRange locator else locator
    | var =>
      match form with
      | .short => ctx.entry.lookupShort? var
      | .long => ctx.value? var
  value?.elim .null .ofText

def renderVariable (ctx : RenderContext) (st : RenderState) (var : String) (form : VariableForm) :
    Rendered :=
  let (content, st) :=
    if st.isSuppressed var then (.null, st)
    else if var == "year-suffix" then
      match ctx.state.yearSuffix with
      | none => (.null, st)
      | some c =>
        (.withTag (.yearSuffix c) (.ofText (String.singleton c)), { st with yearSuffixDone := true })
    else (r.variableText ctx var form, st)
  { output := content
    state := if content.isEmpty then st else st.noteShown [var]
    stats := .one (!content.isEmpty) }

def markNumber (ctx : RenderContext) (source : TextSource) (o : Output) : Output :=
  match source, ctx.citationNumber with
  | .var "citation-number" _, some n => .withTag (.citationNumber n) o
  | _, _ => o

def renderText (expand : RenderState → String → Rendered) (ctx : RenderContext) (st : RenderState)
    (e : TextElement) : Rendered :=
  let content : Rendered :=
    match e.source with
    | .var name form => r.renderVariable ctx st name form
    | .macroCall name => expand st name
    | .term name form plural =>
      { output := .ofText ((r.locale.term? name form plural).getD ""), state := st }
    | .value text => { output := .ofText text, state := st }
  { content with output := markNumber ctx e.source (content.output.decorate e.rendering) }

def freeValue? (ctx : RenderContext) (st : RenderState) (var : String) : Option String :=
  if st.isSuppressed var then none else ctx.value? var

def renderNumber (ctx : RenderContext) (st : RenderState) (e : NumberElement) : Rendered :=
  match freeValue? ctx st e.var with
  | none => { output := .null, state := st, stats := .one false }
  | some value =>
    let output :=
      match ctx.sortKey, Number.sortText? value with
      | some _, some sortText => Output.ofText sortText
      | _, _ => (Output.ofText (Number.format value e.form r.locale)).decorate e.rendering
    { output, state := st.noteShown [e.var], stats := .one true }

def isPluralValue (var value : String) : Bool :=
  if var == "number-of-pages" || var == "number-of-volumes" then
    (Text.natural? Text.maxWord (Text.trim value.toList)).any (1 < ·)
  else Number.isMultiple value

def PluralRule.holds (rule : PluralRule) (contextual : Bool) : Bool :=
  match rule with
  | .always => true
  | .never => false
  | .contextual => contextual

def termLabel (e : LabelElement) (term : String) (many : Bool) : Output :=
  (r.locale.term? term e.form (PluralRule.holds e.plural many)).elim .null fun text =>
    (Output.ofText text).decorate e.rendering

def renderLabel (ctx : RenderContext) (st : RenderState) (e : LabelElement) : Output :=
  if e.var == "locator" then
    match ctx.item.bind (·.locator), ctx.locatorLabel? with
    | some value, some term => r.termLabel e term (isPluralValue e.var value)
    | _, _ => .null
  else
    match freeValue? ctx st e.var with
    | some value => r.termLabel e e.var (isPluralValue e.var value)
    | none => .null

def renderDate (ctx : RenderContext) (st : RenderState) (e : DateElement) : Rendered :=
  match freeValue? ctx st e.var with
  | none => { output := .null, state := st, stats := .one false }
  | some value =>
    let st := st.noteShown [e.var]
    match DateRange.parse? value with
    | none => { output := (Output.ofText value).decorate e.rendering, state := st, stats := .one true }
    | some date =>
      if ctx.sortKey.isSome then
        { output := .ofText date.sortKey, state := st, stats := .one true }
      else
        let (parts, delimiter) := e.resolve r.locale
        let free := parts.any (·.name == .year) && !r.explicitYearSuffix && !st.yearSuffixDone
        let yearSuffix := if free then ctx.state.yearSuffix else none
        let dates : DateRenderer :=
          { parts, delimiter := delimiter.getD "", locale := r.locale }
        { output := (dates.render date yearSuffix).decorate e.rendering
          state := { st with yearSuffixDone := st.yearSuffixDone || yearSuffix.isSome }
          stats := .one true }

def guardHolds (guard : GroupGuard) (afterDigit : Bool) (o : Output) : Bool :=
  let startsWithDigit := o.firstChar?.any Char.isDigit
  let safe := !(afterDigit && startsWithDigit)
  match guard with
  | .commaSafe => safe
  | .commaSafeNumbersOnly => safe && startsWithDigit

/-- A group from its rendered children; `before` is the state in front of it. It is dropped when
nothing is shown, when every variable it asks for is empty, or when a guard forbids it. -/
def closeGroup (before : RenderState) (e : GroupElement) (content : Rendered) : Rendered :=
  let holds (guard : GroupGuard) : Bool := guardHolds guard before.afterDigit content.output
  let blocked := e.require.any (!holds ·) || e.reject.any holds
  let unfilled := 0 < content.stats.called && content.stats.filled == 0
  if content.output.isEmpty || unfilled || blocked then
    { output := .null
      state := { content.state with tail := before.tail }
      stats := { called := content.stats.called } }
  else { content with output := content.output.decorate e.rendering }

def inheritFrom (e : NamesElement) (parent : Option NamesElement) : NamesElement :=
  { e with
    name := e.name <|> parent.bind (·.name)
    etAl := e.etAl <|> parent.bind (·.etAl)
    label := e.label <|> parent.bind (·.label)
    labelBeforeName :=
      if e.label.isSome then e.labelBeforeName else (parent.map (·.labelBeforeName)).getD false
    institution := e.institution <|> parent.bind (·.institution) }

def mergeEditors (lists : List (String × List Name)) : List (String × List Name) :=
  match lists.findIdx? (·.1 == "editor"), lists.findIdx? (·.1 == "translator") with
  | some e, some t =>
    match lists[e]?, lists[t]? with
    | some (_, editors), some (_, translators) =>
      if editors == translators then (lists.set e ("editortranslator", editors)).eraseIdx t
      else lists
    | _, _ => lists
  | _, _ => lists

def nameLists (ctx : RenderContext) (st : RenderState) (e : NamesElement) :
    List (String × List Name) :=
  mergeEditors ((e.roles.filter (!st.isSuppressed ·)).filterMap fun var =>
    (ctx.entry.names? var).map (var, ·))

def shownRoles (role : String) : List String :=
  if role == "editortranslator" then ["editor", "translator"] else [role]

def nameOptions (ctx : RenderContext) (element : Option NameElement) : NameOptions :=
  let target :=
    match ctx.target with
    | .citation => r.style.citation.names
    | .bibliography => (r.style.bibliography.map (·.names)).getD {}
  let options := r.style.options.names.merge target
  let options := element.elim options (options.merge ·.options)
  match ctx.sortKey with
  | none => options
  | some key =>
    { options with
      etAlMin := key.namesMin <|> options.etAlMin
      etAlSubsequentMin := key.namesMin <|> options.etAlSubsequentMin
      etAlUseFirst := key.namesUseFirst <|> options.etAlUseFirst
      etAlSubsequentUseFirst := key.namesUseFirst <|> options.etAlSubsequentUseFirst
      etAlUseLast := key.namesUseLast <|> options.etAlUseLast }

def nameFormatter (ctx : RenderContext) (e : Option NamesElement) (expand : Bool) :
    NameFormatter where
  locale := r.locale
  options := r.nameOptions ctx (e.bind (·.name))
  name := e.bind (·.name)
  etAl := e.bind (·.etAl)
  institution := e.bind (·.institution)
  demote := r.style.options.demoteNonDroppingParticle
  initialsWithHyphen := r.style.options.initialsWithHyphen
  subsequent := ctx.position.any (· != .first)
  sortMode := ctx.sortKey.isSome
  expansion := {
    givenNameLevel := ctx.state.givenNameLevel
    namesExpanded := ctx.state.namesExpanded
    rule := r.style.citation.options.givenNameRule
    active := expand && ctx.sortKey.isNone
  }

def renderList (f : NameFormatter) (e : NamesElement) (role : String) (names : List Name) :
    Output :=
  let shown := f.format names
  let label := e.label.elim .null fun label => r.termLabel label role (1 < names.length)
  if shown.isEmpty then .null
  else if e.labelBeforeName then .ofList [label, shown]
  else .ofList [shown, label]

def renderLists (f : NameFormatter) (e : NamesElement) (lists : List (String × List Name)) :
    Output :=
  if f.options.form == some .count then
    let count := lists.foldl (fun n (_, names) => n + f.shownCount names.length) 0
    if count == 0 then .null else .ofText (toString count)
  else
    .join (lists.map fun (role, names) => r.renderList f e role names)
      ((e.delimiter <|> f.options.namesDelimiter).getD ", ")

def finishNames (ctx : RenderContext) (st : RenderState) (e : NamesElement) (first : Bool)
    (o : Output) : Output × RenderState :=
  if o.isEmpty then (.null, st)
  else if !first then (o.decorate e.rendering, st)
  else
    let st := { st with firstNamesDone := true }
    if ctx.suppressAuthor then (.null, st)
    else
      let o := ctx.authorSubstitute.elim o .ofText
      (.withTag (.names (e.roles.head?.getD "")) (o.decorate e.rendering), st)

end Renderer

end Citeproc
