import Mathlib
import TypedUrls.Proofs.Grouping

/-!
# The endpoint tree builder — what a sequence of calls builds

Discovery fills the endpoint family through three calls on a builder: get an area, get a
container of an area, and add an endpoint to a container of an area. Areas and containers are
grouped by their lowercase names and keep the first spelling; an endpoint whose name and
parameter types are already in its container is refused. `Op` names these calls, `replay` runs
a sequence of them from an empty builder, and `kept` reads back what each add call answered.

The builder answers calls one at a time. The tree a sequence describes can be said all at once:

    replay ops  =  { areas := described ops }        (replay_eq_described)

where `described` groups the calls: the first spelling of each area (`areaNames`), of each
container within it (`containerNames`), and the first endpoint of each key added to each
container (`endpointsOf`). The proof runs over the sequence from its end: one more call on the
described tree gives the tree described once the call is counted (`step_described`), and that
step is the get-or-create lemma `upsert_map_firstBy` twice, once for areas and once for
containers. Freezing the tree then drops what is empty (`build_replay_eq_finished`).
-/

namespace TypedUrls.Descriptor

namespace EndpointTree

/-- A call on the builder of the endpoint family. Every call first gets its area, creating it
when no area is grouped with its name. -/
inductive Op where
  /-- Get an area. -/
  | area (area : String)
  /-- Get a container of an area. -/
  | container (area container : String)
  /-- Add an endpoint to a container of an area. -/
  | add (area container name : String) (parameters : List Parameter)

namespace Op

/-- The name of the area a call gets. -/
def areaName : Op → String
  | .area a | .container a _ | .add a _ _ _ => a

/-- The container a call gets, if it gets one. -/
def container? : Op → Option String
  | .area _ => none
  | .container _ c | .add _ c _ _ => some c

/-- What tells added endpoints apart: the group keys of the area and the container, the
endpoint's name and its parameter types. Calls that add nothing have none. -/
def addKey : Op → Option (String × String × String × List String)
  | .add a c n ps => some (groupKey a, groupKey c, n, signature ps)
  | _ => none

/-- The endpoint a call adds to the container `c` of the area `a`, each named by its first
spelling; none when the call adds nothing there. -/
def endpointIn (a c : String) : Op → Option Endpoint
  | .add a' c' n ps =>
    if groupKey a' = groupKey a ∧ groupKey c' = groupKey c then some ⟨n, c, ps⟩ else none
  | _ => none

end Op

/-- Runs one call on a tree; the flag says whether the call kept an endpoint. -/
def step (t : EndpointTree) : Op → EndpointTree × Bool
  | .area a => (t.withArea a, false)
  | .container a c => (t.withContainer a c, false)
  | .add a c n ps => t.addEndpoint a c n ps

/-- The tree a sequence of calls builds, from an empty builder. -/
def replay (ops : List Op) : EndpointTree := ops.foldl (fun t op => (t.step op).1) {}

/-- Whether call `i` of a sequence kept an endpoint. -/
def kept (ops : List Op) (i : Nat) : Bool :=
  match ops[i]? with
  | some op => ((replay (ops.take i)).step op).2
  | none => false

/-! ## The tree a sequence of calls describes -/

/-- The areas the calls name: the first spelling of each group, in the order of first use. -/
def areaNames (ops : List Op) : List String := firstBy groupKey (ops.map Op.areaName)

/-- The containers the calls get in the area grouped with `a`, spelled as each call does. -/
def containerCalls (ops : List Op) (a : String) : List String :=
  ops.filterMap fun op => if groupKey op.areaName = groupKey a then op.container? else none

/-- The containers the calls name in the area grouped with `a`: the first spelling of each
group, in the order of first use. -/
def containerNames (ops : List Op) (a : String) : List String :=
  firstBy groupKey (containerCalls ops a)

/-- The endpoints of the container `c` of the area `a`: the first added of each key. -/
def endpointsOf (ops : List Op) (a c : String) : List Endpoint :=
  firstBy Endpoint.key (ops.filterMap (·.endpointIn a c))

/-- The container `c` of the area `a` as the calls describe it. -/
def containerOf (ops : List Op) (a c : String) : Container :=
  { name := c, area := a, endpoints := endpointsOf ops a c }

/-- The area `a` as the calls describe it. -/
def areaOf (ops : List Op) (a : String) : Area :=
  { name := a, containers := (containerNames ops a).map (containerOf ops a) }

/-- The whole tree the calls describe, empty containers and areas included. -/
def described (ops : List Op) : List Area := (areaNames ops).map (areaOf ops)

section Append
variable (ops : List Op) (op : Op)

/-- A call adding nothing to the container `c` of the area `a` leaves it as it was. -/
theorem containerOf_append_of_endpointIn {a c : String} (h : op.endpointIn a c = none) :
    containerOf (ops ++ [op]) a c = containerOf ops a c := by
  simp [containerOf, endpointsOf, h]

/-- A call to another area leaves the area `a` as it was. -/
theorem areaOf_append_of_ne {a : String} (h : groupKey op.areaName ≠ groupKey a) :
    areaOf (ops ++ [op]) a = areaOf ops a := by
  have hc : containerNames (ops ++ [op]) a = containerNames ops a := by
    simp [containerNames, containerCalls, h]
  have he : ∀ c, containerOf (ops ++ [op]) a c = containerOf ops a c := by
    intro c
    apply containerOf_append_of_endpointIn
    cases op with
    | add a' c' n ps =>
      simp only [Op.areaName] at h
      simp [Op.endpointIn, h]
    | _ => rfl
  simp [areaOf, hc, he]

/-- Getting an area changes no area the calls describe. -/
theorem areaOf_append_area (x a : String) : areaOf (ops ++ [Op.area x]) a = areaOf ops a := by
  have hc : containerNames (ops ++ [Op.area x]) a = containerNames ops a := by
    simp [containerNames, containerCalls, Op.container?]
  have he : ∀ c, containerOf (ops ++ [Op.area x]) a c = containerOf ops a c :=
    fun c => containerOf_append_of_endpointIn ops (.area x) rfl
  simp [areaOf, hc, he]

/-- An area no call has named yet is empty. -/
theorem areaOf_of_new {a : String} (h : ∀ o ∈ ops, groupKey o.areaName ≠ groupKey a) :
    areaOf ops a = { name := a } := by
  have hnil : containerCalls ops a = [] := by
    simp only [containerCalls, List.filterMap_eq_nil_iff]
    intro o ho
    simp [h o ho]
  simp [areaOf, containerNames, hnil]

/-- A container no call has named yet in its area is empty. -/
theorem containerOf_of_new {a c : String}
    (h : ∀ c' ∈ containerCalls ops a, groupKey c' ≠ groupKey c) :
    containerOf ops a c = { name := c, area := a } := by
  have hnil : ops.filterMap (·.endpointIn a c) = [] := by
    simp only [List.filterMap_eq_nil_iff]
    intro o ho
    cases o with
    | add a' c' n ps =>
      by_cases hpair : groupKey a' = groupKey a ∧ groupKey c' = groupKey c
      · have hcall : c' ∈ containerCalls ops a :=
          List.mem_filterMap.mpr
            ⟨.add a' c' n ps, ho, by simp [Op.areaName, Op.container?, hpair.1]⟩
        exact absurd hpair.2 (h c' hcall)
      · simp [Op.endpointIn, hpair]
    | _ => rfl
  simp [containerOf, endpointsOf, hnil]

/-- The keys of a container's endpoints are the keys the calls added to it. -/
theorem exists_key_endpointsOf (a c n : String) (types : List String) :
    (∃ e ∈ endpointsOf ops a c, e.key = (n, types)) ↔
      ∃ o ∈ ops, o.addKey = some (groupKey a, groupKey c, n, types) := by
  rw [endpointsOf, exists_mem_firstBy]
  constructor
  · rintro ⟨e, he, hkey⟩
    obtain ⟨o, ho, hoe⟩ := List.mem_filterMap.mp he
    refine ⟨o, ho, ?_⟩
    cases o with
    | add a' c' n' ps =>
      by_cases hpair : groupKey a' = groupKey a ∧ groupKey c' = groupKey c
      · simp only [Op.endpointIn, hpair, and_self, ↓reduceIte, Option.some.injEq] at hoe
        subst hoe
        simp only [Endpoint.key, Prod.mk.injEq] at hkey
        simp [Op.addKey, hpair, hkey]
      · simp [Op.endpointIn, hpair] at hoe
    | _ => simp [Op.endpointIn] at hoe
  · rintro ⟨o, ho, hkey⟩
    cases o with
    | add a' c' n' ps =>
      simp only [Op.addKey, Option.some.injEq, Prod.mk.injEq] at hkey
      obtain ⟨ha, hc, hn, hs⟩ := hkey
      refine ⟨⟨n', c, ps⟩, List.mem_filterMap.mpr ⟨_, ho, ?_⟩, ?_⟩
      · simp [Op.endpointIn, ha, hc]
      · simp [Endpoint.key, hn, hs]
    | _ => simp [Op.addKey] at hkey

/-- Adding an endpoint to a container the calls describe gives the container they describe
once the call is made; the endpoint is kept when no earlier call added its key there. -/
theorem addEndpoint_containerOf {x y a c n : String} {ps : List Parameter}
    (ha : groupKey a = groupKey x) (hc : groupKey c = groupKey y) :
    (containerOf ops a c).addEndpoint n ps =
      (containerOf (ops ++ [Op.add x y n ps]) a c,
        decide (∀ o ∈ ops, o.addKey ≠ some (groupKey x, groupKey y, n, signature ps))) := by
  have hin : (Op.add x y n ps).endpointIn a c = some ⟨n, c, ps⟩ := by
    simp [Op.endpointIn, ha, hc]
  have hold := exists_key_endpointsOf ops a c n (signature ps)
  rw [ha, hc] at hold
  have hany : ((containerOf ops a c).endpoints.any fun e => e.key == (n, signature ps)) =
      decide (∃ o ∈ ops, o.addKey = some (groupKey x, groupKey y, n, signature ps)) := by
    rw [Bool.eq_iff_iff, decide_eq_true_iff, ← hold]
    simp [containerOf]
  have hnew : endpointsOf (ops ++ [Op.add x y n ps]) a c =
      if ∃ o ∈ ops, o.addKey = some (groupKey x, groupKey y, n, signature ps) then
        endpointsOf ops a c
      else endpointsOf ops a c ++ [⟨n, c, ps⟩] := by
    have happ : endpointsOf (ops ++ [Op.add x y n ps]) a c =
        firstBy Endpoint.key (ops.filterMap (·.endpointIn a c) ++ [⟨n, c, ps⟩]) := by
      simp [endpointsOf, hin]
    have hcond :
        (∃ e ∈ ops.filterMap (·.endpointIn a c), e.key = Endpoint.key ⟨n, c, ps⟩) ↔
          ∃ o ∈ ops, o.addKey = some (groupKey x, groupKey y, n, signature ps) := by
      rw [← exists_mem_firstBy]
      exact hold
    rw [happ, firstBy_append_singleton]
    simp only [hcond]
    rfl
  unfold Container.addEndpoint
  rw [hany]
  by_cases hdup : ∃ o ∈ ops, o.addKey = some (groupKey x, groupKey y, n, signature ps)
  · have hall : ¬ ∀ o ∈ ops, o.addKey ≠ some (groupKey x, groupKey y, n, signature ps) := by
      obtain ⟨o, ho, hkey⟩ := hdup
      exact fun h => h o ho hkey
    simp [hdup, hall, containerOf, hnew]
  · have hall : ∀ o ∈ ops, o.addKey ≠ some (groupKey x, groupKey y, n, signature ps) :=
      fun o ho hkey => hdup ⟨o, ho, hkey⟩
    simp [hdup, containerOf, hnew]
    exact hall

/-- Getting a container of the area `a` gives the area the calls describe once the call is
made. -/
theorem withContainer_areaOf {x y a : String} (ha : groupKey a = groupKey x) :
    (areaOf ops a).withContainer y = areaOf (ops ++ [Op.container x y]) a := by
  have hcalls : containerCalls (ops ++ [Op.container x y]) a = containerCalls ops a ++ [y] := by
    simp [containerCalls, Op.areaName, Op.container?, ha]
  have hsame : ∀ c, containerOf (ops ++ [Op.container x y]) a c = containerOf ops a c :=
    fun c => containerOf_append_of_endpointIn ops _ rfl
  obtain ⟨s, -, hup⟩ := upsert_map_firstBy (fun c : Container => groupKey c.name)
    (containerOf ops a) (containerOf (ops ++ [Op.container x y]) a) (fun _ => rfl)
    (containerCalls ops a) y { name := y, area := a } (fun c => (c, ()))
    (fun s _ => hsame s) (fun s _ => (hsame s).symm) (fun h => (containerOf_of_new ops h).symm)
  simp only [Area.withContainer, Area.updateContainer, areaOf, containerNames]
  rw [hup, hcalls]

/-- Adding an endpoint to a container of the area `a` gives the area the calls describe once
the call is made; the endpoint is kept when no earlier call added its key to that container. -/
theorem updateContainer_areaOf {x y a n : String} {ps : List Parameter}
    (ha : groupKey a = groupKey x) :
    (areaOf ops a).updateContainer y (·.addEndpoint n ps) =
      (areaOf (ops ++ [Op.add x y n ps]) a,
        decide (∀ o ∈ ops, o.addKey ≠ some (groupKey x, groupKey y, n, signature ps))) := by
  have hcalls : containerCalls (ops ++ [Op.add x y n ps]) a = containerCalls ops a ++ [y] := by
    simp [containerCalls, Op.areaName, Op.container?, ha]
  have hframe : ∀ c, groupKey c ≠ groupKey y →
      containerOf (ops ++ [Op.add x y n ps]) a c = containerOf ops a c := by
    intro c hc
    apply containerOf_append_of_endpointIn
    simp [Op.endpointIn, Ne.symm hc]
  have hhit : ∀ c, groupKey c = groupKey y →
      ((containerOf ops a c).addEndpoint n ps).1 = containerOf (ops ++ [Op.add x y n ps]) a c :=
    fun c hc => by rw [addEndpoint_containerOf ops ha hc]
  obtain ⟨c, hc, hup⟩ := upsert_map_firstBy (fun c : Container => groupKey c.name)
    (containerOf ops a) (containerOf (ops ++ [Op.add x y n ps]) a) (fun _ => rfl)
    (containerCalls ops a) y { name := y, area := a } (·.addEndpoint n ps)
    hframe hhit (fun h => (containerOf_of_new ops h).symm)
  simp only [Area.updateContainer, areaOf, containerNames]
  rw [hup, hcalls, addEndpoint_containerOf ops ha hc]

end Append

/-! ## Replaying calls -/

section Replay
variable (ops : List Op)

/-- One call on the tree that calls describe gives the tree they describe once it is made. It
keeps an endpoint exactly when it adds one whose key no earlier call added. -/
theorem step_described (op : Op) :
    ({ areas := described ops } : EndpointTree).step op =
      ({ areas := described (ops ++ [op]) },
        decide (∃ k, op.addKey = some k ∧ ∀ o ∈ ops, o.addKey ≠ some k)) := by
  have hframe : ∀ s, groupKey s ≠ groupKey op.areaName →
      areaOf (ops ++ [op]) s = areaOf ops s :=
    fun s hs => areaOf_append_of_ne ops op (Ne.symm hs)
  have hfresh : (∀ s ∈ ops.map Op.areaName, groupKey s ≠ groupKey op.areaName) →
      { name := op.areaName } = areaOf ops op.areaName :=
    fun h => (areaOf_of_new ops fun o ho => h o.areaName (List.mem_map_of_mem ho)).symm
  have hnames : (ops ++ [op]).map Op.areaName = ops.map Op.areaName ++ [op.areaName] := by
    simp
  -- every call goes through the area grouped with its own; only what it does there differs
  cases op with
  | area x =>
    simp only [Op.areaName] at hframe hfresh hnames
    obtain ⟨s, -, hup⟩ := upsert_map_firstBy (fun a : Area => groupKey a.name) (areaOf ops)
      (areaOf (ops ++ [Op.area x])) (fun _ => rfl) (ops.map Op.areaName) x ({ name := x } : Area)
      (fun a : Area => (a, ())) hframe (fun s _ => by simp only [areaOf_append_area]) hfresh
    simp only [step, EndpointTree.withArea, EndpointTree.updateArea, described, areaNames]
    rw [hup, hnames]
    simp [Op.addKey]
  | container x y =>
    simp only [Op.areaName] at hframe hfresh hnames
    obtain ⟨s, -, hup⟩ := upsert_map_firstBy (fun a : Area => groupKey a.name) (areaOf ops)
      (areaOf (ops ++ [Op.container x y])) (fun _ => rfl) (ops.map Op.areaName) x
      ({ name := x } : Area) (fun a : Area => (a.withContainer y, ())) hframe
      (fun s hs => withContainer_areaOf ops hs) hfresh
    simp only [step, EndpointTree.withContainer, EndpointTree.updateArea, described, areaNames]
    rw [hup, hnames]
    simp [Op.addKey]
  | add x y n ps =>
    simp only [Op.areaName] at hframe hfresh hnames
    obtain ⟨s, hs, hup⟩ := upsert_map_firstBy (fun a : Area => groupKey a.name) (areaOf ops)
      (areaOf (ops ++ [Op.add x y n ps])) (fun _ => rfl) (ops.map Op.areaName) x
      ({ name := x } : Area) (fun a : Area => a.updateContainer y (·.addEndpoint n ps)) hframe
      (fun s hs => by rw [updateContainer_areaOf ops hs]) hfresh
    simp only [step, EndpointTree.addEndpoint, EndpointTree.updateArea, described, areaNames]
    rw [hup, hnames, updateContainer_areaOf ops hs, Prod.mk.injEq]
    refine ⟨rfl, decide_eq_decide.mpr ⟨fun h => ⟨_, rfl, h⟩, ?_⟩⟩
    rintro ⟨k, hk, h⟩
    exact Option.some.inj hk ▸ h

theorem replay_append (op : Op) : replay (ops ++ [op]) = ((replay ops).step op).1 := by
  simp [replay, List.foldl_append]

/-- Any sequence of calls builds the tree it describes. -/
theorem replay_eq_described : replay ops = { areas := described ops } := by
  induction ops using List.reverseRecOn with
  | nil => rfl
  | append_singleton ops op ih =>
    rw [replay_append, ih, step_described]

/-- Call `i` keeps an endpoint exactly when it adds one and no earlier call added its key:
the same name and parameter types, to the same container of the same area, both compared by
their lowercase names. -/
theorem kept_iff (i : Nat) (hi : i < ops.length) :
    kept ops i = true ↔
      ∃ k, ops[i].addKey = some k ∧ ∀ o ∈ ops.take i, o.addKey ≠ some k := by
  simp [kept, List.getElem?_eq_getElem hi, replay_eq_described, step_described]

end Replay

/-! ## The finished tree -/

/-- The finished tree the calls describe: the areas in the order of first use, each named by its
first spelling; in each, its containers in the order of first use, named by their first
spelling; in each container, the first endpoint added of each key. Containers without endpoints
and areas without containers are left out. -/
def finished (ops : List Op) : List Area :=
  ((areaNames ops).map fun a =>
    { name := a,
      containers := ((containerNames ops a).map (containerOf ops a)).filter
        (!·.endpoints.isEmpty) }).filter (!·.containers.isEmpty)

/-- Freezing a tree drops the empty containers of each area, then the areas left empty. -/
theorem build_eq (areas : List Area) :
    ({ areas } : EndpointTree).build =
      (areas.map fun a =>
        { a with containers := a.containers.filter (!·.endpoints.isEmpty) }).filter
          (!·.containers.isEmpty) := by
  induction areas with
  | nil => rfl
  | cons a rest ih =>
    simp only [EndpointTree.build] at ih ⊢
    rw [List.filterMap_cons, ih, List.map_cons, List.filter_cons]
    cases h : a.containers.filter (!·.endpoints.isEmpty) with
    | nil => simp
    | cons c cs => simp

/-- **The endpoint family a sequence of calls builds.** Areas come in the order of the first
call naming each, by its first spelling, containers likewise within their area, and each
container holds, in call order, the first endpoint added of each key (name and parameter types);
empty containers and areas are dropped. Names are grouped by their lowercase form, so the areas
have distinct group keys, and so do the containers of each area. An add call reports that its
endpoint was kept exactly when no earlier call added the same key to the same container. -/
theorem build_replay_eq_finished (ops : List Op) :
    (replay ops).build = finished ops ∧
    (replay ops).build.Pairwise (fun a b => groupKey a.name ≠ groupKey b.name) ∧
    (∀ a ∈ (replay ops).build,
      a.containers.Pairwise fun c d => groupKey c.name ≠ groupKey d.name) ∧
    ∀ i (hi : i < ops.length),
      kept ops i = true ↔ ∃ k, ops[i].addKey = some k ∧ ∀ o ∈ ops.take i, o.addKey ≠ some k := by
  have hbuild : (replay ops).build = finished ops := by
    rw [replay_eq_described, build_eq, finished, described, List.map_map]
    rfl
  refine ⟨hbuild, ?_, ?_, kept_iff ops⟩
  · rw [hbuild, finished]
    refine List.Pairwise.filter _ ?_
    rw [List.pairwise_map]
    exact pairwise_firstBy groupKey _
  · intro a ha
    rw [hbuild, finished] at ha
    obtain ⟨a', -, rfl⟩ := List.mem_map.mp (List.mem_filter.mp ha).1
    refine List.Pairwise.filter _ ?_
    rw [List.pairwise_map]
    exact pairwise_firstBy groupKey _

example : ((replay [.add "B" "One" "A" [], .add "" "Two" "A" [], .add "b" "Three" "A" [],
    .add "B" "one" "B" []]).build.map fun a => (a.name, a.containers.map (·.name))) =
    [("B", ["One", "Three"]), ("", ["Two"])] := by decide

end EndpointTree

end TypedUrls.Descriptor

