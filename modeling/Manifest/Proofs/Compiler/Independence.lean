import Manifest.Proofs.Compiler.Workshop

/-!
# Calls for other nodes

In a run units are written and marked stale, the clock is set, the version command comes to print
something else, and nodes are compiled.  Each step changes the outlook for a key as the outlook
itself says, and there calls for other keys are passed over.  So they can be left out of a run, and
the calls for the key answer the same.

## Main definitions

* `Compiler.Workshop.Thinned` — a run without some of the calls for other keys.

## Main results

* `Compiler.Workshop.WellKept.outlook_step` — a step changes an outlook as the outlook says.
* `Compiler.Workshop.WellKept.answers_eq` — what a run answers can be read off the outlook.
* `Compiler.Workshop.answers_thinned` — calls for other keys change no answer.
-/

namespace Manifest

namespace Compiler

namespace Workshop

variable {w : Workshop} {key : CacheKey}

/-! ### Other steps -/

theorem memory_write (w : Workshop) (environment : String) (now : Timestamp) (name text : String)
    (other : String) :
    (w.step (.write environment now name text)).memory other =
      if other = environment then (w.memory other).set now name text else w.memory other := by
  simp only [step, Function.update_apply]
  split
  · next heq => rw [heq]
  · rfl

theorem outlook_write (h : w.WellKept) (environment : String) (now : Timestamp)
    (name text : String) (key : CacheKey) :
    (w.step (.write environment now name text)).outlook key =
      (w.outlook key).step key (.write environment now name text) := by
  have hmemory := w.memory_write environment now name text key.environment
  have hcompiler : (w.step (.write environment now name text)).compiler = w.compiler := rfl
  have hclock : (w.step (.write environment now name text)).clock = w.clock := rfl
  have hshell : (w.step (.write environment now name text)).shell = w.shell := rfl
  rw [Outlook.step, outlook, offered, hcompiler, hmemory, hclock, hshell]
  by_cases hkey : environment = key.environment
  · rw [if_pos hkey, if_pos hkey.symm]
    -- Nothing that is held agrees with the markers any more.
    cases hfound : w.compiler.environments.get? (some key.environment) with
    | none => simp [outlook, hfound]
    | some e =>
      cases hkept : Cache.get? w.compiler.cache key with
      | none => simp [outlook, hfound, hkept]
      | some entry =>
        have hoffers := (h.mirrors hfound).offers_set now name text entry.generation
        simp only [hoffers, outlook, hfound, hkept]
  · rw [if_neg hkey, if_neg (Ne.symm hkey)]
    rfl

theorem outlook_markStale (w : Workshop) (name : String) (key : CacheKey) :
    (w.step (.markStale name)).outlook key = (w.outlook key).step key (.markStale name) := by
  rw [Outlook.step]
  cases hfound : w.compiler.environments.get? (some name) with
  | none =>
    have hstep : w.step (.markStale name) = w := by
      rw [step, Compiler.markStale, hfound]
    rw [hstep]
    split
    · next hkey =>
      have hoffered : w.offered key = false := by rw [offered, ← hkey, hfound]
      simp only [outlook, hoffered]
    · rfl
  | some e =>
    have hstep : w.step (.markStale name) =
        { w with compiler := w.compiler.reading e.markStale } := by
      rw [step, Compiler.markStale, hfound]
    have hname : e.markStale.name = e.name := rfl
    rw [hstep, outlook_reading hfound hname, offered_reading hfound hname]
    by_cases hkey : name = key.environment
    · rw [if_pos hkey, if_pos hkey.symm]
      simp only [Environment.offers_markStale]
      cases Cache.get? w.compiler.cache key <;> rfl
    · rw [if_neg hkey, if_neg (Ne.symm hkey)]
      rfl

/-- A step changes an outlook as the outlook says. -/
theorem WellKept.outlook_step (h : w.WellKept) (key : CacheKey) (s : Step) :
    (w.step s).outlook key = (w.outlook key).step key s := by
  cases s with
  | compile node environment =>
    have hforeseen : Foreseen w (w.compiler.config.keyOf node environment) node
        (w.call node environment).result (w.step (.compile node environment)) := h.foreseen_call rfl
    rw [Outlook.step, config_outlook]
    split
    · next hkey =>
      subst hkey
      exact hforeseen.outlook_eq
    · next hkey => exact hforeseen.outlook_of_ne (Ne.symm hkey)
  | write environment now name text => exact outlook_write h environment now name text key
  | setClock clock => rfl
  | changeShell shell => rfl
  | markStale environment => exact outlook_markStale w environment key

theorem WellKept.write (h : w.WellKept) (environment : String) (now : Timestamp)
    (name text : String) : (w.step (.write environment now name text)).WellKept where
  named other := by
    rw [memory_write]
    split
    · exact (h.named other).edit (.set now name text)
    · exact h.named other
  mirrors := by
    intro other e hfound
    rw [memory_write]
    split
    · exact (h.mirrors hfound).set now name text
    · exact h.mirrors hfound
  generation_le := h.generation_le

theorem WellKept.markStale (h : w.WellKept) (name : String) :
    (w.step (.markStale name)).WellKept := by
  cases hfound : w.compiler.environments.get? (some name) with
  | none =>
    have hstep : w.step (.markStale name) = w := by
      rw [Workshop.step, Compiler.markStale, hfound]
    rw [hstep]
    exact h
  | some e =>
    rw [Workshop.step, Compiler.markStale, hfound]
    exact h.reading hfound rfl (h.mirrors hfound).markStale (Nat.le_refl _)

theorem WellKept.step (h : w.WellKept) (s : Step) : (w.step s).WellKept := by
  cases s with
  | compile node environment => exact (h.foreseen_call rfl).wellKept
  | write environment now name text => exact h.write environment now name text
  | setClock clock => exact ⟨h.named, h.mirrors, h.generation_le⟩
  | changeShell shell => exact ⟨h.named, h.mirrors, h.generation_le⟩
  | markStale environment => exact h.markStale environment

/-! ### Whole runs -/

/-- Some calls for other keys are left out of a run. -/
inductive Thinned (config : Config) (key : CacheKey) : List Step → List Step → Prop
  | nil : Thinned config key [] []
  | keep (s : Step) {steps fewer : List Step} :
    Thinned config key steps fewer → Thinned config key (s :: steps) (s :: fewer)
  | drop {node : Node} {environment : Option String} {steps fewer : List Step}
    (other : config.keyOf node environment ≠ key) :
    Thinned config key steps fewer → Thinned config key (.compile node environment :: steps) fewer

/-- What a run answers can be read off the outlook alone. -/
theorem WellKept.answers_eq (key : CacheKey) (steps : List Step) :
    ∀ {w : Workshop}, w.WellKept → w.answers key steps = (w.outlook key).answers key steps := by
  induction steps with
  | nil =>
    intro w _
    rfl
  | cons s rest ih =>
    intro w h
    have hfirst : w.answer? key s = (w.outlook key).answer? key s := by
      cases s with
      | compile node environment =>
        rw [answer?, Outlook.answer?, config_outlook]
        split
        · next hkey =>
          subst hkey
          rw [(h.foreseen_call rfl).result_eq]
          rfl
        · rfl
      | write environment now name text => rfl
      | setClock clock => rfl
      | changeShell shell => rfl
      | markStale environment => rfl
    rw [answers, Outlook.answers, hfirst, ih (h.step s), h.outlook_step key s]

/-- Calls for other keys pass an outlook over. -/
theorem Thinned.answers_outlook {config : Config} {steps fewer : List Step}
    (h : Thinned config key steps fewer) :
    ∀ {o : Outlook}, o.config = config → o.answers key fewer = o.answers key steps := by
  induction h with
  | nil =>
    intro o _
    rfl
  | keep s _ ih =>
    intro o hconfig
    rw [Outlook.answers, Outlook.answers, ih ((o.config_step key s).trans hconfig)]
  | drop other _ ih =>
    intro o hconfig
    subst hconfig
    rw [ih rfl, Outlook.answers, Outlook.answer?, Outlook.step, if_neg other, if_neg other]
    rfl

/-- Whatever is left out of the calls for other keys, in any run in which units are written, marked
stale and compiled and clock and shell change, the calls for a key answer the same: the same
catalogs with the same versions, and the same errors. -/
theorem answers_thinned {environments : Environments}
    (hnew : ∀ name e, environments.get? (some name) = some e → e.current = none)
    (registry : Registry) {config : Config} (clock : Clock) (shell : Shell)
    {steps fewer : List Step} (h : Thinned config key steps fewer) :
    (start environments registry config clock shell).answers key fewer =
      (start environments registry config clock shell).answers key steps := by
  have hstart := WellKept.start hnew registry config clock shell
  rw [hstart.answers_eq key fewer, hstart.answers_eq key steps]
  exact h.answers_outlook rfl

end Workshop

end Compiler

/-! ### Two nodes in one environment -/

namespace Sample

/-- An environment that has read nothing. -/
def unread : Environments := (Environments.new "production").insert (.new "production")

theorem current_unread {name : String} {e : Environment}
    (h : unread.get? (some name) = some e) : e.current = none := by
  rw [unread, Environments.get?_insert] at h
  split at h
  · cases h
    rfl
  · cases h

/-- A node without facts. -/
def plain (name : String) : Node := ⟨name, .empty, none⟩

/-- The steps without those for the other node: the units are marked stale, and later on they can be
read no more. -/
def alone : List Compiler.Step :=
  [.write "production" ⟨1, 0⟩ "a.pp" "$x = 1", .compile (plain "web1") none,
    .markStale "production", .compile (plain "web1") none,
    .write "production" ⟨1, 0⟩ "a.pp" "\x7d", .compile (plain "web1") none]

/-- The other node is compiled first, and after each change before the node itself. -/
def together : List Compiler.Step :=
  .compile (plain "db1") none :: alone.flatMap fun
    | .compile node environment => [.compile (plain "db1") none, .compile node environment]
    | s => [s]

/-- A compiler without units for the environment. -/
def workshop : Compiler.Workshop := .start unread .builtin {} ⟨7⟩ Shell.run

end Sample

open Compiler.Workshop in
theorem answers_thinned_sample :
    Thinned {} ⟨"web1", "production"⟩ Sample.together Sample.alone ∧
      Sample.workshop.answers ⟨"web1", "production"⟩ Sample.alone =
        Sample.workshop.answers ⟨"web1", "production"⟩ Sample.together ∧
      (Sample.workshop.answers ⟨"web1", "production"⟩ Sample.together).map
          (fun answer => answer.toOption.map Catalog.version) =
        [some (.timestamp 7), some (.timestamp 8), none] := by
  have hother : Config.keyOf {} (Sample.plain "db1") none ≠ ⟨"web1", "production"⟩ := by decide
  have hthinned : Thinned {} ⟨"web1", "production"⟩ Sample.together Sample.alone :=
    .drop hother (.keep _ (.drop hother (.keep _ (.keep _ (.drop hother (.keep _
      (.keep _ (.drop hother (.keep _ .nil)))))))))
  refine ⟨hthinned, ?_, ?_⟩
  · exact answers_thinned (fun _ _ h => Sample.current_unread h) .builtin ⟨7⟩ Shell.run hthinned
  · decide +kernel

end Manifest
