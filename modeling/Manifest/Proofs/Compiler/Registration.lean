import Manifest.Proofs.Compiler.Versions
import Manifest.Proofs.Evaluation.RegistryGrowth

/-!
# Resource types that are registered while catalogs are kept

A catalog is kept for a node and the collection it was made from, and nothing there says which
resource types were known at that time.  When types are registered later on, the next call answers
with what is kept, although an evaluation might now refuse a parameter or give a resource another
name variable.  That it is right nevertheless depends on the catalog alone: it must conform to the
types that there are now.

## Main definitions

* `Compiler.Happening`, `Compiler.Session.live` — runs in which types are registered as well.
* `Compiler.WasFresh` — a catalog was fresh when fewer types were registered.
* `Compiler.Answers` — a call ends like an evaluation, apart from the version.

## Main results

* `Compiler.Session.keeps_live` — whatever happens, what is kept was fresh once.
* `Compiler.Session.answers_iff` — when a call answers with what an evaluation gives now.
* `Compiler.Session.answers_registered` — a kept catalog that is not what an evaluation gives.
-/

namespace Manifest.Compiler

/-! ### Types that were registered once -/

/-- A catalog is, apart from its version, what the evaluation of a node gave with some of the types
that are registered now. -/
def WasFresh (c : Compiler) (node : Node) (name : String) (collection : Collection)
    (catalog : Catalog) : Prop :=
  ∃ registry : Registry, registry.Sub c.registry ∧
    IsFresh { c with registry := registry } node name collection catalog

variable {c c' : Compiler} {node : Node} {name : String} {collection : Collection}
  {catalog : Catalog}

theorem IsFresh.wasFresh (h : c.IsFresh node name collection catalog) :
    c.WasFresh node name collection catalog := ⟨c.registry, .refl _, h⟩

theorem WasFresh.grow (h : c.WasFresh node name collection catalog)
    (hregistry : c.registry.Sub c'.registry) (hconfig : c'.config = c.config) :
    c'.WasFresh node name collection catalog := by
  obtain ⟨registry, hsub, hfresh⟩ := h
  refine ⟨registry, hsub.trans hregistry, ?_⟩
  rw [IsFresh, setting] at hfresh ⊢
  rw [hconfig]
  exact hfresh

theorem WasFresh.of_same {other : Node} (h : c.WasFresh node name collection catalog)
    (hsame : node.same other = true) : c.WasFresh other name collection catalog := by
  obtain ⟨registry, hsub, hfresh⟩ := h
  exact ⟨registry, hsub, hfresh.of_same hsame⟩

theorem resources_eq {a b : Catalog} {version : Version} (h : a = { b with version := version }) :
    a.resources = b.resources := by
  rw [h]

/-- A catalog that was fresh is fresh exactly if it conforms to the types that there are now. -/
theorem WasFresh.isFresh_iff (h : c.WasFresh node name collection catalog) :
    c.IsFresh node name collection catalog ↔ catalog.Conforms c.registry := by
  obtain ⟨registry, hsub, made, hmade, hcatalog⟩ := h
  have hresources : catalog.resources = made.resources := resources_eq hcatalog
  constructor
  · -- The catalog of today conforms, and but for the version it is the one of then.
    rintro ⟨now, hnow, hcatalog'⟩
    have hresources' : catalog.resources = now.resources := resources_eq hcatalog'
    rw [Catalog.Conforms, hresources']
    exact conforms_of_run hnow
  · intro hconforms
    rw [Catalog.Conforms, hresources] at hconforms
    exact ⟨made, (run_eq_ok_iff hsub hmade).mpr hconforms, hcatalog⟩

theorem Keeps.mono {P Q : Node → String → Collection → Catalog → Prop} (h : c.Keeps P)
    (himp : ∀ {node name collection catalog}, P node name collection catalog →
      Q node name collection catalog) : c.Keeps Q := by
  intro key entry e hentry he
  obtain ⟨hle, hknown⟩ := h key entry e hentry he
  exact ⟨hle, fun collection hcurrent hforced hequal =>
    himp (hknown collection hcurrent hforced hequal)⟩

/-! ### What a call answers -/

/-- A call for a node ends like an evaluation: with the same catalog apart from the version, or with
its error. -/
def Answers (node : Node) :
    Except CompileError Catalog → Except EvalError Catalog → Prop
  | .ok catalog, .ok made => catalog = { made with version := catalog.version }
  | .error e, .error cause => e = ⟨node.name, cause⟩
  | _, _ => False

theorem answers_ok_iff {result : Except EvalError Catalog} :
    Answers node (.ok catalog) result ↔
      ∃ made, result = .ok made ∧ catalog = { made with version := catalog.version } := by
  cases result with
  | ok made => simp [Answers]
  | error cause => simp [Answers]

/-- A call for a node whose collection can be read answers with the catalog that is kept, or else
evaluates the node. -/
theorem compile_result {sources : String → Provider} {clock : Clock} {shell : Shell}
    {environment : Option String} {e : Environment}
    (hfound : c.environments.get? (some (c.environmentName node environment)) = some e)
    (hread : (e.collection (sources (c.environmentName node environment))).result =
      .ok collection) :
    (c.compile sources clock node environment shell).result =
      match c.cached? ⟨node.name, c.environmentName node environment⟩ collection.generation node
      with
      | some catalog => .ok catalog
      | none => (c.evaluate clock shell node ⟨node.name, c.environmentName node environment⟩
          collection).result := by
  have hname := Environments.name_eq_of_get? hfound
  rw [← hname] at hfound hread ⊢
  rw [compile, ← hname]
  simp only [hfound, hread]
  have hcached : Compiler.cached?
      { c with environments := c.environments.insert (e.collection (sources e.name)).environment }
      ⟨node.name, e.name⟩ collection.generation node =
      c.cached? ⟨node.name, e.name⟩ collection.generation node := rfl
  rw [hcached]
  cases c.cached? ⟨node.name, e.name⟩ collection.generation node with
  | some catalog => rfl
  | none =>
    simp only [evaluate, setting]
    split
    · rfl
    · split <;> rfl

/-- An evaluation that is not answered from what is kept, when its version is known. -/
theorem answers_evaluate {clock : Clock} {shell : Shell} {version : Version}
    (hstamp : (Version.stamp c.config clock shell).1 = .ok version) (node : Node) (key : CacheKey)
    (collection : Collection) :
    Answers node (c.evaluate clock shell node key collection).result
      (Evaluation.run (c.setting node key.environment collection)).1 := by
  rw [evaluate]
  rcases Evaluation.run (c.setting node key.environment collection) with ⟨error | made, events⟩
  · rfl
  · rcases hversion : Version.stamp c.config clock shell with ⟨error | _, more⟩
    · rw [hversion] at hstamp
      cases hstamp
    · rfl

/-! ### Runs -/

/-- What happens to a compiler whose registry may grow. -/
inductive Happening
  | action (action : Action)
  /-- A type is registered, or refused if its name is taken. -/
  | register (type : TypeDescriptor)

namespace Session

/-- The session after something has happened. -/
def happen (s : Session) : Happening → Session
  | .action action => s.act action
  | .register type =>
    match s.compiler.register type with
    | .ok compiler => { s with compiler := compiler }
    | .error _ => s

/-- The session after some actions and registrations. -/
def live (s : Session) (history : List Happening) : Session := history.foldl happen s

variable {s : Session}

theorem register_eq_ok {type : TypeDescriptor} (h : c.register type = .ok c') :
    ∃ registry, c.registry.register type = .ok registry ∧
      c' = { c with registry := registry } := by
  rw [register] at h
  cases hregistry : c.registry.register type with
  | error e => rw [hregistry] at h; cases h
  | ok registry =>
    rw [hregistry] at h
    cases h
    exact ⟨registry, rfl, rfl⟩

theorem keeps_happen (h : s.compiler.Keeps s.compiler.WasFresh) (happening : Happening) :
    (s.happen happening).compiler.Keeps (s.happen happening).compiler.WasFresh := by
  cases happening with
  | action action =>
    obtain ⟨hregistry, hconfig⟩ := s.unchanged_act action
    refine Keeps.mono (keeps_act h IsFresh.wasFresh action) fun hwas => ?_
    exact hwas.grow (hregistry ▸ .refl _) hconfig
  | register type =>
    rw [happen]
    cases hregister : s.compiler.register type with
    | error e => exact h
    | ok compiler =>
      obtain ⟨registry, hregistry, rfl⟩ := register_eq_ok hregister
      -- The cache and the environments are as they were.
      exact Keeps.mono (c := { s.compiler with registry := registry }) h fun hwas =>
        hwas.grow (Registry.sub_of_register hregistry) rfl

/-- Whatever happens, what is kept was fresh with the types of some time. -/
theorem keeps_live (history : List Happening) (h : s.compiler.Keeps s.compiler.WasFresh) :
    (s.live history).compiler.Keeps (s.live history).compiler.WasFresh := by
  induction history generalizing s with
  | nil => exact h
  | cons happening rest ih => exact ih (keeps_happen h happening)

/-- After any run in which types may have been registered, a call for a node whose collection can be
read and whose version is known answers with what an evaluation with all types of now gives,
exactly if the catalog that is kept for it, if there is one, conforms to these types. -/
theorem answers_iff (environments : Environments) (registry : Registry) (config : Config)
    (sources : String → Provider) (clock : Clock) (shell : Shell) (history : List Happening)
    (node : Node) (environment : Option String) :
    let s := (start environments registry config sources clock shell).live history
    let name := s.compiler.environmentName node environment
    ∀ {e : Environment}, s.compiler.environments.get? (some name) = some e →
      ∀ {collection : Collection}, (e.collection (s.sources name)).result = .ok collection →
        ∀ {version : Version},
          (Version.stamp s.compiler.config s.clock s.shell).1 = .ok version →
          (Answers node (s.call node environment).result
              (Evaluation.run (s.compiler.setting node name collection)).1 ↔
            ∀ catalog, s.compiler.cached? ⟨node.name, name⟩ collection.generation node =
              some catalog → catalog.Conforms s.compiler.registry) := by
  intro s name e hfound collection hread version hstamp
  have hkeeps : s.compiler.Keeps s.compiler.WasFresh :=
    keeps_live history (keeps_new environments registry config)
  rw [call, compile_result hfound hread]
  -- Without an entry the node is evaluated now; an entry was made by an earlier registry, which the
  -- one of now contains.
  cases hcached : s.compiler.cached? ⟨node.name, name⟩ collection.generation node with
  | none =>
    exact ⟨fun _ _ h => (by cases h), fun _ => answers_evaluate hstamp node _ collection⟩
  | some catalog =>
    obtain ⟨entry, hkept, hgeneration, hsame, rfl⟩ := cached?_eq_some hcached
    have hwas : s.compiler.WasFresh node name collection entry.catalog :=
      (hkeeps.reused hfound hread rfl hkept hgeneration).of_same hsame
    simp only [Option.some.injEq, forall_eq']
    exact answers_ok_iff.trans hwas.isFresh_iff

end Session

end Manifest.Compiler

/-! ### A type that is registered under the name of a define -/

namespace Manifest.Sample

/-- A define with a parameter. -/
def service : DefineDefinition :=
  ⟨⟨"service_unit", [⟨"port", none, line 1⟩], none, line 1⟩, []⟩

/-- The define and an instance of it. -/
def instances : Collection where
  manifests := [⟨"site.pp", [.resource "service_unit"
    [⟨.string "web" (line 2), [⟨"port", .integer 80 (line 2), line 2⟩], line 2⟩] (line 2)]⟩]
  definitions := ⟨[("service_unit", .ofDefine service)], by decide⟩
  named := by
    intro e he
    cases List.mem_singleton.mp he
    rfl
  nodes := []
  markers := .empty
  forcedStale := false
  generation := 0

/-- A compiler for the instance. -/
def serving : Compiler.Session :=
  .start ((Environments.new "production").insert ⟨"production", some instances, 0, by
    intro c hc
    cases hc
    rfl⟩) .builtin {} (fun _ => provider) ⟨7⟩ Shell.run

/-- A type with one attribute is registered after a node has been compiled. -/
def registering (name : String) : List Compiler.Happening :=
  [.action (.compile (node "linux") none),
    .register ((TypeDescriptor.ofName name).withAttributes ["host"])]

end Manifest.Sample

namespace Manifest.Compiler.Session

open Sample in
theorem answers_iff_sample :
    let s := serving.live (registering "zone")
    ∃ collection, Answers (node "linux") (s.call (node "linux") none).result
        (Evaluation.run (s.compiler.setting (node "linux") "production" collection)).1 ↔
      ∀ catalog, s.compiler.cached? ⟨"web1", "production"⟩ collection.generation (node "linux") =
        some catalog → catalog.Conforms s.compiler.registry := by
  intro s
  have hread : ((s.compiler.environments.get? (some "production")).bind fun e =>
      (e.collection (s.sources "production")).result.toOption).isSome = true := by decide +kernel
  have hstamp : (Version.stamp s.compiler.config s.clock s.shell).1.toOption.isSome = true := by
    decide +kernel
  obtain ⟨collection, hcollection⟩ := Option.isSome_iff_exists.mp hread
  obtain ⟨e, hfound, hresult⟩ := Option.bind_eq_some_iff.mp hcollection
  obtain ⟨version, hversion⟩ := Option.isSome_iff_exists.mp hstamp
  exact ⟨collection, answers_iff _ .builtin {} (fun _ => provider) ⟨7⟩ Shell.run
    (registering "zone") (node "linux") none hfound (Except.eq_ok_of_toOption hresult)
    (Except.eq_ok_of_toOption hversion)⟩

open Sample in
/-- After a type with the name of a define has been registered, the catalog that is kept for an
instance is returned, although an evaluation refuses its parameter. -/
theorem answers_registered :
    let s := serving.live (registering "service_unit")
    (s.act (.compile (node "linux") none)).held? "production" = some instances ∧
      (s.call (node "linux") none).result.toOption.isSome = true ∧
      (Evaluation.run (s.compiler.setting (node "linux") "production" instances)).1 =
        .error (.invalidParameter (.of "service_unit" "web") "port" (line 2)) := by
  exact ⟨rfl, by decide +kernel, by decide +kernel⟩

end Manifest.Compiler.Session
