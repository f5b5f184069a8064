import Mathlib
import TypedUrls.Proofs.EndpointDiscovery

/-!
# Shadowed methods — which base methods a container's walk passes over

Endpoint discovery walks the methods up a container's base chain, most derived first, and passes
over a method when one met before has the same name and parameter types, as the parameter
types are written (`signatureOf`). A method and the base method it overrides are therefore one
slot exactly when they are written with the same signature:

* of the methods of one signature, only the most derived is classified
  (`walkedMethods_filter_signature`), so each such slot gives at most one endpoint, and exactly
  one when that method is an action;
* a method met up the chain is classified exactly when it is the first of its signature
  (`mem_walkedMethods_iff`).

The override chain finds the overridden method through the reference the override carries, not
through the override's own signature. An override whose parameter types are written otherwise
(a nullable `string?` over `string`) leaves the base method a slot of its own, which gives an
endpoint although it is overridden (`overridden_base_method_adds_endpoint`).
-/

namespace TypedUrls.Discovery

open Descriptor

/-- The methods up a type's base chain, most derived first: those a container's walk meets. -/
def chainMethods (c : Classifier) (fullName : String) : List MethodAt :=
  (c.model.baseChain fullName).flatMap c.model.methodsAt

section Slots
variable (c : Classifier) (fullName : String)

/-- Of the methods of one signature up a container's base chain, the walk classifies exactly the
most derived one. -/
theorem walkedMethods_filter_signature (s : String × List String) :
    (walkedMethods c fullName).filter (fun x => signatureOf x = s) =
      ((chainMethods c fullName).find? fun x => signatureOf x = s).toList :=
  filter_firstBy_eq_find? signatureOf _ s

/-- A method met up a container's base chain is classified, and so can add an endpoint, exactly
when no more derived method has its name and parameter types. -/
theorem mem_walkedMethods_iff (m : MethodAt) :
    m ∈ walkedMethods c fullName ↔
      (chainMethods c fullName).find? (fun x => signatureOf x = signatureOf m) = some m := by
  have hslot := walkedMethods_filter_signature c fullName (signatureOf m)
  constructor
  · intro hm
    have hmem : m ∈ (walkedMethods c fullName).filter fun x => signatureOf x = signatureOf m :=
      List.mem_filter.mpr ⟨hm, by simp⟩
    rw [hslot] at hmem
    exact Option.mem_toList.mp hmem
  · intro hfind
    have hmem : m ∈ (walkedMethods c fullName).filter fun x => signatureOf x = signatureOf m := by
      rw [hslot, hfind]
      exact List.mem_singleton_self m
    exact (List.mem_filter.mp hmem).1

end Slots

/-! ## An override written with other parameter types -/

/-- `PortalBase.Index(string id)`. -/
def portalIndex : MethodDecl :=
  { name := "Index", parameters := [{ name := "id", type := .plain "System.String" }] }

/-- `HomeController.Index(string? id)`, overriding `PortalBase.Index(string)` and marked as no
action. -/
def homeIndex : MethodDecl :=
  ({ name := "Index", parameters := [{ name := "id", type := (TypeRef.plain "System.String").nullable }],
     attributes := [{ className := "Microsoft.AspNetCore.Mvc.NonActionAttribute" }] } : MethodDecl).overriding
    { containingType := "App.PortalBase", name := "Index", parameterTypes := ["string"] }

/-- A controller over a base class that is no controller, with the default conventions. -/
def portal : Classifier where
  model := Program.new [
    { fullName := "App.PortalBase", methods := [{ name := "Ping" }, portalIndex] },
    { fullName := "App.HomeController", baseType := some "App.PortalBase",
      methods := [homeIndex] }]
  config := {}

/-- `PortalBase.Index` lies on the override chain of `HomeController.Index`, which comes before it
in the container's base chain and is no action; yet the container gets the endpoint that
`PortalBase.Index` makes, beside `Ping`. -/
theorem overridden_base_method_adds_endpoint :
    portal.model.baseChain "App.HomeController" = ["App.HomeController", "App.PortalBase"] ∧
    ((portal.model.overrideChain ⟨"App.HomeController", 1, 0, homeIndex⟩).toOption.map fun ch =>
        ch.methods.map fun x => (x.1, x.2.name)) =
      some [("App.HomeController", "Index"), ("App.PortalBase", "Index")] ∧
    portal.isAction ⟨"App.HomeController", 1, 0, homeIndex⟩ = .ok false ∧
    (portal.actionName portalIndex, (methodParameters portal portalIndex).map (·.type)) =
      ("Index", ["string"]) ∧
    (endpoints portal).areas.map (fun a => a.containers.map fun k =>
        (k.name, k.endpoints.map fun e => (e.name, e.parameters.map (·.type)))) =
      [[("Home", [("Ping", []), ("Index", ["string"])])]] := by
  refine ⟨?_, ?_, ?_, ?_, ?_⟩ <;> decide +kernel

end TypedUrls.Discovery
