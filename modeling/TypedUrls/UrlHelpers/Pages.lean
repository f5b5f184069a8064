import TypedUrls.UrlHelpers.Members

/-!
# URL helpers of the page family

The root area's class is `PageUrls`, another area's `<Area>PageUrls`. A class for an area or a
folder has, in order: a property per folder, a URL method per page, and a nested class per folder
(`<Folder>FolderUrls`). A page's method is named after its last segment and its handler. Member
names within one class are kept apart: a folder property named like a page method gets `Folder`
after it, and a name already taken gets `_1`, `_2`, … (the first free number).
-/

namespace TypedUrls.UrlHelpers

open CSharp Descriptor

/-- The class of a page area. -/
def pageAreaClass (a : PageArea) : String :=
  if a.isRoot then "PageUrls" else sanitize a.name ++ "PageUrls"

/-- The accessor of a page area. -/
def pageAreaAccessor (a : PageArea) (options : EmitterOptions) : String :=
  if a.isRoot then options.rootPagesAccessor else sanitize a.name ++ options.rootPagesAccessor

/-- The method name of a page: its last segment, then its handler. -/
def pageMethodName (p : Page) : String :=
  sanitize p.segment ++ (p.handler.map sanitize).getD ""

/-- The first of `name_1`, `name_2`, … not taken, trying at most `fuel` numbers from `n`. -/
def freeNumbered (taken : List String) (name : String) : Nat → Nat → String
  | 0, n => name ++ "_" ++ toString n
  | fuel + 1, n =>
    let candidate := name ++ "_" ++ toString n
    if taken.contains candidate then freeNumbered taken name fuel (n + 1) else candidate

/-- A member name not taken yet, and the names taken with it. -/
def uniqueName (taken : List String) (name : String) : String × List String :=
  let chosen := if taken.contains name then freeNumbered taken name (taken.length + 1) 1 else name
  (chosen, chosen :: taken)

/-- Names made unique one after another. -/
def uniqueNames (taken : List String) : List String → List String × List String
  | [] => ([], taken)
  | n :: rest =>
    let (chosen, taken) := uniqueName taken n
    let (others, taken) := uniqueNames taken rest
    (chosen :: others, taken)

mutual

/-- The members of an area or folder class: folder properties, page methods, folder classes. -/
def writeMembers (area : String) (options : EmitterOptions) (w : Writer) :
    List Folder → List Page → Writer
  | folders, pages =>
    let (methods, taken) := uniqueNames [] (pages.map pageMethodName)
    let classes := folders.map fun f => sanitize f.name ++ "FolderUrls"
    let properties := (uniqueNames taken (folders.map fun f =>
      let property := sanitize f.name
      if methods.contains property then property ++ "Folder" else property)).1
    let w := (properties.zip classes).foldl (fun w (p, c) => writeChildProperty w p c) w
    let w := (pages.zip methods).foldl (fun w (page, name) =>
      let callHead := options.pageMethod ++ "(" ++ stringLiteral page.name ++ ", " ++
        (page.handler.map stringLiteral).getD "null"
      writeUrlMethod w name callHead area page.parameters options) w
    writeFolders area options w folders

/-- The nested classes of folders. -/
def writeFolders (area : String) (options : EmitterOptions) (w : Writer) : List Folder → Writer
  | [] => w
  | .mk name _ folders pages :: rest =>
    let w := openHelperClass w (sanitize name ++ "FolderUrls") options
    let w := (writeMembers area options w folders pages).close
    writeFolders area options w rest

end

/-- The source of the page family. -/
def pageSource (areas : List PageArea) (options : EmitterOptions) : String :=
  let w := openFile {} options
  let w := writeExtensions w options.pageExtensionsClass
    (areas.map fun a => (pageAreaAccessor a options, pageAreaClass a)) options
  let w := areas.foldl (fun w a =>
    let w := openHelperClass w (pageAreaClass a) options
    (writeMembers a.name options w a.folders a.pages).close) w
  w.close.finish

end TypedUrls.UrlHelpers
