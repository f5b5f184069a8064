import TypedUrls.CSharp.Writer
import TypedUrls.CSharp.Literal
import TypedUrls.CSharp.Identifier
import TypedUrls.Config.Basic
import TypedUrls.Descriptor.Basic

/-!
# The shape of URL helper sources

A source of URL helpers holds one static extension class with an accessor per area; each area
class wraps the URL helper and has a property per container (or folder); each URL method returns
the call of the URL helper with the area and the method's parameters as route values, in order.

The text depends only on the descriptors and the emitter options.
-/

namespace TypedUrls.UrlHelpers

open CSharp

/-- The field holding the URL helper. -/
def urlHelperField : String := "_urlHelper"

/-- The file's preamble, up to and including the namespace opening. -/
def openFile (w : Writer) (options : EmitterOptions) : Writer :=
  let w := (w.line "// <auto-generated/>").line "#nullable enable"
  let w := if options.usings.isEmpty then w
    else options.usings.foldl (fun w u => w.line ("using " ++ u ++ ";")) w.member
  w.member.open ("namespace " ++ options.«namespace»)

/-- The static extension class with one accessor per pair of accessor and class names. -/
def writeExtensions (w : Writer) (className : String) (accessors : List (String × String))
    (options : EmitterOptions) : Writer :=
  let w := w.member.open ("public static class " ++ className)
  let w := accessors.foldl (fun w (accessor, target) =>
    w.member.line ("public static " ++ target ++ " " ++ accessor ++ "(this " ++
      options.urlHelperType ++ " urlHelper) => new " ++ target ++ "(urlHelper);")) w
  w.close

/-- Opens a helper class with its URL helper field and constructor. -/
def openHelperClass (w : Writer) (className : String) (options : EmitterOptions) : Writer :=
  let w := w.member.open ("public sealed class " ++ className)
  let w := w.member.line ("private readonly " ++ options.urlHelperType ++ " " ++ urlHelperField ++ ";")
  let w := w.member.open ("public " ++ className ++ "(" ++ options.urlHelperType ++ " urlHelper)")
  (w.line (urlHelperField ++ " = urlHelper;")).close

/-- A property giving a nested helper class bound to the same URL helper. -/
def writeChildProperty (w : Writer) (property className : String) : Writer :=
  w.member.line ("public " ++ className ++ " " ++ property ++ " => new " ++ className ++ "(" ++
    urlHelperField ++ ");")

/-- The index after the last parameter without a default: from there on, defaults are written
(a required parameter cannot follow an optional one). -/
def firstOptional (parameters : List Descriptor.Parameter) : Nat :=
  match (parameters.zipIdx.filter fun (p, _) => !p.hasDefault).getLast? with
  | some (_, i) => i + 1
  | none => 0

/-- The parameter declarations of a URL method, comma-separated. -/
def parameterList (parameters : List Descriptor.Parameter) : String :=
  let start := firstOptional parameters
  ", ".intercalate (parameters.zipIdx.map fun (p, i) =>
    let declaration := p.type ++ " " ++ parameterIdentifier p.name
    if i < start then declaration
    else declaration ++ " = " ++ (p.default.map constantLiteral).getD "default")

/-- Text with `&`, `<` and `>` escaped for XML. -/
def xmlEscape (text : String) : String :=
  String.join (text.toList.map fun c =>
    if c = '&' then "&amp;" else if c = '<' then "&lt;" else if c = '>' then "&gt;"
    else String.singleton c)

/-- The documentation lines of the described parameters. -/
def writeParameterDocs (w : Writer) (parameters : List Descriptor.Parameter) : Writer :=
  parameters.foldl (fun w p =>
    match p.description with
    | some d => w.line ("/// <param name=\"" ++ sanitize p.name ++ "\">" ++ xmlEscape d ++ "</param>")
    | none => w) w

/-- One URL method returning `callHead` followed by the route values. -/
def writeUrlMethod (w : Writer) (methodName callHead area : String)
    (parameters : List Descriptor.Parameter) (options : EmitterOptions) : Writer :=
  let w := writeParameterDocs w.member parameters
  let w := w.open ("public string? " ++ methodName ++ "(" ++ parameterList parameters ++ ")")
  let w := w.open ("return " ++ urlHelperField ++ "." ++ callHead ++ ", new " ++ options.routeValuesType)
  let w := w.line ("[" ++ stringLiteral options.areaKey ++ "] = " ++ stringLiteral area ++ ",")
  let w := parameters.foldl (fun w p =>
    w.line ("[" ++ stringLiteral p.name ++ "] = " ++ parameterIdentifier p.name ++ ",")) w
  (w.closeWith ");").close

end TypedUrls.UrlHelpers
