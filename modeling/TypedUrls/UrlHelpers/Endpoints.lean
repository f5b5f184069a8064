import TypedUrls.UrlHelpers.Members

/-!
# URL helpers of the endpoint family

The root area's class is `ControllerUrls`, another area's `<Area>ControllerUrls`, reached by the
root accessor with the area's name before it. An area class has a property per container and a
nested class per container (`<Container>Urls`) with one URL method per endpoint, calling the
action method with the endpoint's and the container's names.
-/

namespace TypedUrls.UrlHelpers

open CSharp Descriptor

/-- The class of an endpoint area. -/
def endpointAreaClass (a : Area) : String :=
  if a.isRoot then "ControllerUrls" else sanitize a.name ++ "ControllerUrls"

/-- The accessor of an endpoint area. -/
def endpointAreaAccessor (a : Area) (options : EmitterOptions) : String :=
  if a.isRoot then options.rootControllersAccessor
  else sanitize a.name ++ options.rootControllersAccessor

/-- The class of a container with its URL methods. -/
def writeContainer (w : Writer) (c : Container) (options : EmitterOptions) : Writer :=
  let w := openHelperClass w (sanitize c.name ++ "Urls") options
  let w := c.endpoints.foldl (fun w e =>
    let callHead := options.actionMethod ++ "(" ++ stringLiteral e.name ++ ", " ++
      stringLiteral c.name
    writeUrlMethod w (sanitize e.name) callHead c.area e.parameters options) w
  w.close

/-- The source of the endpoint family. -/
def endpointSource (areas : List Area) (options : EmitterOptions) : String :=
  let w := openFile {} options
  let w := writeExtensions w options.controllerExtensionsClass
    (areas.map fun a => (endpointAreaAccessor a options, endpointAreaClass a)) options
  let w := areas.foldl (fun w a =>
    let w := openHelperClass w (endpointAreaClass a) options
    let w := a.containers.foldl (fun w c =>
      let name := sanitize c.name
      writeChildProperty w name (name ++ "Urls")) w
    let w := a.containers.foldl (fun w c => writeContainer w c options) w
    w.close) w
  w.close.finish

end TypedUrls.UrlHelpers
