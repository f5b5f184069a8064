import TypedUrls.Generate
import TypedUrls.Proofs.CheckedPasses

/-!
# A generation run — what a run whose flag stays clear gives

A run isolates each family (`runFamily`): a pass stopped by a failed read gives one error
diagnostic and no source. No pass stops. The reads that could fail are each proved in range:

* the builders' indexes stay consistent with their lists, so every read through a position they
  answer is in range (`Proofs.BuilderIndex`);
* a template's area is read from the two segments before its pages root, which was found in the
  segments, and the slice after the root starts at most at their end (`Page.location?_eq`);
* a route template is cut at byte offsets where characters start, since the braces it looks for
  are ASCII bytes, which occur in UTF-8 only as whole characters (`Route.parameters?_eq`);
* a `CSharp.Writer` carries the proof that its stack of blocks is never empty, so its depth is
  the number of open blocks less one, exactly (`CSharp.Writer.depth_add_one`).

So both passes are `.ok` of the passes over the list builders (`endpointPass_eq`,
`pagePass_eq`), and a run is what those passes give, family after family
(`generate_eq_families`). `generate_runs_both_families` reads off it what a run whose flag stays
clear gives.
-/

namespace TypedUrls

namespace Output

section AddFamily
variable (o : Output) (family : Family) (warnings : List GenerationError) (source : Option Source)

@[simp] theorem diagnostics_addFamily :
    (o.addFamily family warnings source).diagnostics =
      o.diagnostics ++ warnings.map fun e => ⟨family, .warning, e.message⟩ := rfl

@[simp] theorem sources_addFamily :
    (o.addFamily family warnings source).sources = o.sources ++ source.toList := rfl

@[simp] theorem cancelled_addFamily :
    (o.addFamily family warnings source).cancelled = o.cancelled := rfl

/-- A family's warnings add no error. -/
theorem hasErrors_addFamily :
    (o.addFamily family warnings source).hasErrors = o.hasErrors := by
  simp [hasErrors, List.any_append, List.any_map, Function.comp_def]

end AddFamily

end Output

/-! ## The passes of a run -/

section Passes
variable (c : Classifier)

/-- The endpoint family's pass never stops: it gives the helpers of the tree of endpoint
discovery, when some area has an endpoint, and the warnings of endpoint discovery. -/
theorem endpointPass_eq :
    endpointPass c = .ok (if (Discovery.endpoints c).areas.isEmpty then none
      else some (UrlHelpers.endpointSource (Discovery.endpoints c).areas c.config.emitter),
      (Discovery.endpoints c).warnings) := by
  rw [endpointPass, Discovery.endpoints?_eq]
  rfl

/-- The page family's pass never stops: it gives the helpers of the tree of page discovery,
when some area has a page, and the warnings of page discovery. -/
theorem pagePass_eq (templates : List Template) :
    pagePass c templates = .ok (if (Discovery.pages c templates).areas.isEmpty then none
      else some (UrlHelpers.pageSource (Discovery.pages c templates).areas c.config.emitter),
      (Discovery.pages c templates).warnings) := by
  rw [pagePass, Discovery.pages?_eq]
  rfl

end Passes

/-- A family whose pass gives a source and warnings adds them, the source under the family's
file name. -/
theorem runFamily_ok (o : Output) (family : Family) (config : Config) (source : Option String)
    (warnings : List GenerationError) :
    runFamily o family config (.ok (source, warnings)) =
      o.addFamily family warnings (source.map fun text => ⟨hintName config family, text⟩) := rfl

/-- A run is the two families' passes over the list builders, one after the other, unless it is
cancelled before it starts. -/
theorem generate_eq_families (model : Program) (templates : List Template) (config : Config)
    (cancel : Bool) :
    generate model templates config cancel =
      if cancel then { cancelled := true }
      else
        (Output.addFamily {} .endpoints (Discovery.endpoints ⟨model, config⟩).warnings
          (if (Discovery.endpoints ⟨model, config⟩).areas.isEmpty then none
           else some ⟨config.emitter.controllersFileName,
             UrlHelpers.endpointSource (Discovery.endpoints ⟨model, config⟩).areas
               config.emitter⟩)).addFamily .pages
          (Discovery.pages ⟨model, config⟩ templates).warnings
          (if (Discovery.pages ⟨model, config⟩ templates).areas.isEmpty then none
           else some ⟨config.emitter.pagesFileName,
             UrlHelpers.pageSource (Discovery.pages ⟨model, config⟩ templates).areas
               config.emitter⟩) := by
  cases cancel with
  | true => rfl
  | false =>
    -- the flag is clear at both reads, and both passes give what the list passes give
    simp only [generate, generateWithCancel, Bool.false_eq_true, ↓reduceIte]
    rw [endpointPass_eq, pagePass_eq, runFamily_ok, runFamily_ok]
    congr 1
    · congr 1
      split <;> rfl
    · split <;> rfl

/-- A run whose cancel flag stays clear runs both families to the end: neither pass stops, so no
error diagnostic is added and the run is not cancelled. Its diagnostics are the warnings of
endpoint discovery and then those of page discovery, each with its family's identifier, in the
order they were met; its sources are the endpoint helpers when some area has an endpoint, then
the page helpers when some area has a page. -/
theorem generate_runs_both_families (model : Program) (templates : List Template)
    (config : Config) :
    (∃ r, endpointPass ⟨model, config⟩ = .ok r) ∧
    (∃ r, pagePass ⟨model, config⟩ templates = .ok r) ∧
    (generate model templates config false).cancelled = false ∧
    (generate model templates config false).hasErrors = false ∧
    (generate model templates config false).diagnostics.map
        (fun d => (d.family.diagnosticId, d.severity, d.message)) =
      (Discovery.endpoints ⟨model, config⟩).warnings.map (fun e => ("RL0001", .warning, e.message)) ++
      (Discovery.pages ⟨model, config⟩ templates).warnings.map
        (fun e => ("RL0002", .warning, e.message)) ∧
    (generate model templates config false).sources =
      (if (Discovery.endpoints ⟨model, config⟩).areas.isEmpty then []
       else [⟨config.emitter.controllersFileName,
         UrlHelpers.endpointSource (Discovery.endpoints ⟨model, config⟩).areas config.emitter⟩]) ++
      (if (Discovery.pages ⟨model, config⟩ templates).areas.isEmpty then []
       else [⟨config.emitter.pagesFileName,
         UrlHelpers.pageSource (Discovery.pages ⟨model, config⟩ templates).areas config.emitter⟩]) := by
  refine ⟨⟨_, endpointPass_eq _⟩, ⟨_, pagePass_eq _ templates⟩, ?_⟩
  rw [generate_eq_families, if_neg Bool.false_ne_true]
  refine ⟨rfl, ?_, ?_, ?_⟩
  · rw [Output.hasErrors_addFamily, Output.hasErrors_addFamily]
    rfl
  · simp [Family.diagnosticId, Function.comp_def]
  · simp only [Output.sources_addFamily]
    split <;> split <;> rfl

end TypedUrls
