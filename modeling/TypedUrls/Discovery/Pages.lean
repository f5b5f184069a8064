import TypedUrls.Discovery.Parameters
import TypedUrls.Descriptor.Tree
import TypedUrls.Discovery.Endpoints
import TypedUrls.Route.Template
import TypedUrls.Page.Template

/-!
# Discovering pages

A template is a page when one of its lines is the page marker: at the start of a line, after
spaces or tabs, the marker, then maybe spaces or tabs and a quoted route template (without
quotes or line breaks inside), then only spaces or tabs (and a carriage return) to the end of
the line. The first such line counts; its route template, if any, gives route parameters.

A model marker line (`@model Name`, after spaces or tabs at the start of a line) names the page
model: the first run of non-blank characters after it, resolved as source names are. The bound
properties of the page model add parameters, and each of its page handlers makes one variant of
the page, with the handler's parameters merged in. A page outside every pages root is dropped.
-/

namespace TypedUrls.Discovery

open Descriptor

/-- Whether a character is a space or a tab. -/
def isSpaceOrTab (c : Char) : Bool := c = ' ' ∨ c = '\t'

/-- The ways to skip spaces and tabs at the start of `cs`, the longest first. -/
def afterIndents (cs : List Char) : List (List Char) :=
  let n := (cs.takeWhile isSpaceOrTab).length
  (List.range (n + 1)).reverse.map cs.drop

/-- Whether `cs` is only spaces or tabs and maybe a carriage return up to the end of its line. -/
def atLineEnd (cs : List Char) : Bool :=
  match cs.dropWhile isSpaceOrTab with
  | [] | '\n' :: _ | ['\r'] | '\r' :: '\n' :: _ => true
  | _ => false

/-- The route template on a page marker line that starts `cs`: `some ""` without one, `none` when
the line is no page marker line. -/
def pageLine (marker : List Char) (cs : List Char) : Option String :=
  (afterIndents cs).findSome? fun r => do
    let rest ← if marker.isPrefixOf r then some (r.drop marker.length) else none
    -- the quoted route template first, then the bare marker
    let quoted : Option String :=
      match rest.dropWhile isSpaceOrTab with
      | '"' :: inner =>
        if (rest.takeWhile isSpaceOrTab).isEmpty then none
        else
          let template := inner.takeWhile fun c => c ≠ '"' ∧ c ≠ '\r' ∧ c ≠ '\n'
          match inner.drop template.length with
          | '"' :: after => if atLineEnd after then some (String.ofList template) else none
          | _ => none
      | _ => none
    match quoted with
    | some t => some t
    | none => if atLineEnd rest then some "" else none

/-- The page model named on a model marker line that starts `cs`. -/
def modelLine (marker : List Char) (cs : List Char) : Option String :=
  (afterIndents cs).findSome? fun r => do
    let rest ← if marker.isPrefixOf r then some (r.drop marker.length) else none
    let gap := rest.takeWhile isSpaceOrTab
    if gap.isEmpty then none
    else
      let name := (rest.drop gap.length).takeWhile (!Text.isBlank ·)
      if name.isEmpty then none else some (String.ofList name)

/-- The first answer of `f` at a line start of `cs`; `atStart` says whether `cs` starts a
line. -/
def firstAtLineStart {α : Type} (f : List Char → Option α) : Bool → List Char → Option α
  | atStart, [] => if atStart then f [] else none
  | atStart, c :: rest =>
    match (if atStart then f (c :: rest) else none) with
    | some a => some a
    | none => firstAtLineStart f (c = '\n') rest

/-- The route template of a page's text: none when the text is no page. -/
def routeTemplate (pages : PageConventions) (text : String) : Option String :=
  firstAtLineStart (pageLine pages.pageMarker.toList) true text.toList

/-- The page model a page's text names, if any. -/
def modelName (pages : PageConventions) (text : String) : Option String :=
  firstAtLineStart (modelLine pages.modelMarker.toList) true text.toList

/-- The handlers of a page model, each with its name and parameters, and the warnings of the
methods that could not be classified (last first). -/
def pageHandlers (c : Classifier) (owner : String) :
    List (Option String × List Parameter) × List GenerationError :=
  let (hs, ws) := (c.model.methodsAt owner).foldl (fun (hs, ws) x =>
    match c.isPageHandler x with
    | .ok true => ((c.pageHandlerName x.method, methodParameters c x.method) :: hs, ws)
    | .ok false => (hs, ws)
    | .error e => (hs, e :: ws)) ([], [])
  (hs.reverse, ws)

/-- Adds the page of one template to the tree. -/
def addTemplate (c : Classifier) (acc : PageTree × List GenerationError) (file : Template) :
    PageTree × List GenerationError :=
  let (tree, warnings) := acc
  match routeTemplate c.config.pages file.text, Page.location file.path c.config.pages with
  | some route, some (area, page) =>
    let parameters := Route.parameters c.config.routeConstraints route
    let pageModel := (modelName c.config.pages file.text).bind c.model.resolveByName
    let (parameters, handlers, warnings) := match pageModel with
      | some pm =>
        let bound := (c.model.propertiesOf pm.fullName).filterMap (modelParameter c)
        let (hs, ws) := pageHandlers c pm.fullName
        (merge parameters bound, hs, ws ++ warnings)
      | none => (parameters, [], warnings)
    let tree := tree.withArea area
    let tree := match handlers with
      | [] => (tree.addPage area page none parameters).1
      | hs => hs.foldl (fun t (h, hps) => (t.addPage area page h (merge parameters hps)).1) tree
    (tree, warnings)
  | _, _ => (tree, warnings)

/-- The page family of a model and its templates. -/
def pages (c : Classifier) (templates : List Template) : Report PageArea :=
  let (tree, warnings) := templates.foldl (addTemplate c) ({}, [])
  ⟨tree.build, warnings.reverse⟩

/-! ## The pass through the builder's indexes -/

/-- Adds the page of one template through the builder's indexes, with the route template read
over its bytes and the template's path read by positions; a failed read stops the pass. -/
def addTemplate? (c : Classifier) (acc : PageTreeBuilder × List GenerationError) (file : Template) :
    Except Panic (PageTreeBuilder × List GenerationError) :=
  let (tree, warnings) := acc
  match routeTemplate c.config.pages file.text with
  | none => pure (tree, warnings)
  | some route => do
    match ← Page.location? file.path c.config.pages with
    | none => pure (tree, warnings)
    | some (area, page) =>
      let parameters ← Route.parameters? c.config.routeConstraints route
      let pageModel := (modelName c.config.pages file.text).bind c.model.resolveByName
      let (parameters, handlers, warnings) := match pageModel with
        | some pm =>
          let bound := (c.model.propertiesOf pm.fullName).filterMap (modelParameter c)
          let (hs, ws) := pageHandlers c pm.fullName
          (merge parameters bound, hs, ws ++ warnings)
        | none => (parameters, [], warnings)
      let variants := match handlers with
        | [] => [(none, parameters)]
        | hs => hs.map fun v => (v.1, merge parameters v.2)
      let tree ← tree.addPages area page variants
      pure (tree, warnings)

/-- The page family of a model and its templates, built through the builder's indexes; a failed
read stops the pass. -/
def pages? (c : Classifier) (templates : List Template) : Except Panic (Report PageArea) := do
  let (tree, warnings) ← templates.foldlM (addTemplate? c) ({}, [])
  pure ⟨tree.build, warnings.reverse⟩

end TypedUrls.Discovery
