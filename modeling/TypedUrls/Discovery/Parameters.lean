import TypedUrls.Classify.Basic
import TypedUrls.Descriptor.Basic
import TypedUrls.Documentation

/-!
# The parameters of endpoints and pages

The parameters a caller gives to a URL method come from the method's own parameters, from the
bound properties of a page model, and from the route template of a page.

* A method parameter is kept unless its type mentions an upload type or an attribute says the
  server binds it (body, form, header, services). Its name is the binding name an attribute
  gives, else its own, camel-cased; its type is written in C# syntax; its default and its
  description (from the method's documentation) come along.
* A property of a page model is a parameter when it is not static and is bound from the query
  or the route, or is a bound property that supports GET.
* Lists of parameters are merged by appending the parameters whose names (compared without
  regard to ASCII case) are not there yet: the earlier source wins.
-/

namespace TypedUrls.Discovery

open Descriptor

/-- The parameters a caller gives to a method's URL, in declaration order. -/
def methodParameters (c : Classifier) (meth : MethodDecl) : List Parameter :=
  let descriptions := match meth.doc with
    | some d => Documentation.descriptions d
    | none => []
  meth.parameters.filterMap fun p =>
    if CSharp.mentions c.config.controllers.fileUploadTypes p.type then none
    else
      let kinds := p.attributes.map c.kind
      if kinds.any (·.isServerBound) then none
      else
        let name := (kinds.findSome? (·.bindingName)).getD p.name
        some { name := CSharp.camelCase name, type := CSharp.display p.type, hasDefault := p.hasDefault,
               default := p.default, description := descriptions.lookup p.name }

/-- Whether an attribute meaning binds a page-model property for a GET request. -/
def bindsForGet : AttributeKind → Bool
  | .bindProperty _ supportsGet => supportsGet
  | .fromQuery _ | .fromRoute _ => true
  | _ => false

/-- The parameter a bound page-model property gives, if it opts in. -/
def modelParameter (c : Classifier) (p : PropertyDecl) : Option Parameter :=
  if p.isStatic then none
  else do
    let binding ← (p.attributes.map c.kind).find? bindsForGet
    let name := binding.bindingName.getD p.name
    pure { name := CSharp.camelCase name, type := CSharp.display p.type }

/-- The parameters with `extra` appended, leaving out those whose names are already there
(compared without regard to ASCII case). -/
def merge (parameters extra : List Parameter) : List Parameter :=
  extra.foldl (fun acc q =>
    if acc.any (Text.eqIgnoreAsciiCase ·.name q.name) then acc else acc ++ [q]) parameters

end TypedUrls.Discovery
