import DatasetCatalog.Proofs.Storage.Effect
import DatasetCatalog.Storage.Backend

/-!
# Storage that can fail

Storage in memory and storage in a data directory keep the same promises, which are stated here for
both. `Acts` is what a request may come to: it is carried out, or it fails and leaves the `Damage`
that storage of its kind can take. Either way it has an `Effect` on its own instance only. A create
that succeeds has stored what it answers.

Storage behind a worker command is left out.
-/

namespace DatasetCatalog.Storage.Backend

open Disk

variable {s s' : Site} {r : Request} {name : String} {spec : Specification}
  {ok : Specification → Prop}

/-- Storage that is in memory or in a data directory, for the built-in types and with nothing in it
that is followed to harm. -/
def Ready : Site → Prop
  | (memory _, _) => True
  | (directory l, d) => l.definitions = Definition.builtin ∧ l.Clean d.workingDirectory d
  | (process _ _, _) => False

/-- Storage of that kind in which nothing is stored. -/
def Empty : Site → Prop
  | (memory m, _) => m.physical = []
  | (directory l, d) => l.definitions = Definition.builtin ∧
      ∀ name p, l.home d.workingDirectory name <+: p → d.node? p = none
  | (process _ _, _) => False

/-- There is storage of an instance, with a specification. -/
def Holds : Site → String → Specification → Prop
  | (memory m, _), name, spec => StringMap.find? name m.physical = some spec
  | (directory l, d), name, spec => l.Holds d.workingDirectory d name spec
  | (process _ _, _), _, _ => False

/-- There is storage of an instance, with a specification that an upgrade makes again. -/
def Settled : Site → String → Specification → Prop
  | (memory m, _), name, spec => StringMap.find? name m.physical = some spec
  | (directory l, d), name, spec => l.Settled d.workingDirectory d name spec
  | (process _ _, _), _, _ => False

/-- What a request that fails may leave. -/
def Damage (ok : Specification → Prop) (r : Request) : Site → Site → Prop
  | (memory m, _), (memory m', _) => ∀ name, (name = r.target → r.remakes = false) →
      StringMap.find? name m'.physical = StringMap.find? name m.physical
  | (directory l, d), (directory l', d') => l' = l ∧ l.Damage ok d.workingDirectory r d d'
  | _, _ => False

/-- What a request may come to. Where it fails halfway, what it leaves to be read as a specification
is as asked. -/
inductive Acts (ok : Specification → Prop) : (r : Request) → Site → Result r → Site → Prop
  | served {r : Request} {s s' : Site} {a : Result r} (h : perform r s = (a, s')) : Acts ok r s a s'
  | failed {r : Request} {s s' : Site} (e : StorageError) (h : Damage ok r s s') :
      Acts ok r s (.error e) s'

theorem Empty.ready (h : Empty s) : Ready s := by
  rcases s with ⟨m | l | c, d⟩
  · trivial
  · exact ⟨h.1, fun name => Local.admits_of_missing (h.2 name _ (List.prefix_append _ _))⟩
  · exact h

/-- On a disk with nothing on it nothing is stored. -/
theorem empty_of_blank {l : Local} (builtin : l.definitions = Definition.builtin) (w : Place) :
    Empty (directory l, ⟨[], w⟩) := by
  refine ⟨builtin, fun name p inside => ?_⟩
  have notRoot : p ≠ [] := by
    rintro rfl
    simp [Local.home] at inside
  rw [node?, if_neg notRoot]
  rfl

theorem Settled.holds (h : Settled s name spec) : Holds s name spec := by
  rcases s with ⟨m | l | c, d⟩
  · exact h
  · exact Local.Settled.toHolds h
  · exact h

/-! ### Effects -/

/-- What holds after a request, whatever becomes of it. -/
structure Effect (r : Request) (s s' : Site) : Prop where
  ready : Ready s'
  keeps : ∀ name spec, (name = r.target → r.remakes = false) → Settled s name spec →
    Settled s' name spec

theorem effect_of_local {l : Local} {d d' : Disk} (ready : Ready (directory l, d))
    (effect : l.Effect d.workingDirectory r d d') :
    Effect r (directory l, d) (directory l, d') := by
  have same := effect.changes.workingDirectory
  constructor
  · refine ⟨ready.1, ?_⟩
    rw [same]
    exact effect.clean ready.2
  · intro name spec keeps settled
    change l.Settled d'.workingDirectory d' name spec
    rw [same]
    exact effect.settled rfl keeps settled

/-- What a request in memory does to the stored specifications. -/
theorem finish_find? (m : Scripted) (r : Request) (h : name = r.target → r.remakes = false) :
    StringMap.find? name (m.finish r).2.physical = StringMap.find? name m.physical := by
  cases r with
  | create c =>
    have other : c.name ≠ name := by
      rintro rfl
      cases h rfl
    unfold Scripted.finish
    dsimp only
    split
    · rfl
    · exact (StringMap.find?_insert _ _ _ _).trans (if_neg other)
  | drop removal =>
    have other : removal.spec.name ≠ name := by
      rintro rfl
      cases h rfl
    exact (StringMap.find?_erase _ _ _).trans (if_neg other)
  | truncate name => rfl
  | upgrade name => rfl
  | probe name => rfl

theorem enter_physical (m : Scripted) (r : Request) : (m.enter r).2.physical = m.physical := by
  unfold Scripted.enter
  dsimp only
  split
  · rfl
  · cases r <;> rfl

/-- A request in memory fails at once, or has its effect. -/
theorem perform_memory (m : Scripted) (d : Disk) (r : Request) :
    (∃ e m', perform r (memory m, d) = (.error e, memory m', d) ∧ m'.physical = m.physical) ∨
      ∃ m₁ : Scripted, m₁.physical = m.physical ∧
        perform r (memory m, d) = ((m₁.finish r).1, memory (m₁.finish r).2, d) := by
  have entered := enter_physical m r
  rw [perform]
  generalize m.enter r = answered at entered
  obtain ⟨e | wait, m₁⟩ := answered
  · exact .inl ⟨e, m₁, rfl, entered⟩
  · exact .inr ⟨m₁, entered, rfl⟩

theorem perform_directory {l : Local} {d d' : Disk} {a : Result r} (h : l.run r d = (a, d')) :
    perform r (directory l, d) = (a, directory l, d') := by
  rw [perform, h]

/-- Storage in a directory stays there, carried out or failed. -/
theorem Acts.local_effect {l : Local} {d : Disk} {a : Result r}
    (h : Acts Local.SafeParts r (directory l, d) a s') (ready : Ready (directory l, d)) :
    ∃ d', s' = (directory l, d') ∧ l.Effect d.workingDirectory r d d' := by
  cases h with
  | served h =>
    cases h
    exact ⟨_, rfl, Local.run_effect ready.1 rfl ready.2 rfl⟩
  | failed e h =>
    rcases s' with ⟨m' | l' | c', d'⟩
    · cases h
    · obtain ⟨rfl, damage⟩ := h
      exact ⟨d', rfl, damage.effect rfl ready.2⟩
    · cases h

/-- Storage in memory stays there, and the specifications that a request is not to make or remove are
found as before, whether it is carried out or fails. -/
theorem Acts.memory_effect {m : Scripted} {d : Disk} {a : Result r}
    (h : Acts ok r (memory m, d) a s') : ∃ m' d', s' = (memory m', d') ∧
      ∀ name, (name = r.target → r.remakes = false) →
        StringMap.find? name m'.physical = StringMap.find? name m.physical := by
  cases h with
  | served h =>
    rcases perform_memory m d r with ⟨e, m', hrun, same⟩ | ⟨m₁, same, hrun⟩
    · cases h.symm.trans hrun
      exact ⟨m', d, rfl, fun name _ => by rw [same]⟩
    · cases h.symm.trans hrun
      exact ⟨_, d, rfl, fun name keeps => by rw [finish_find? m₁ r keeps, same]⟩
  | failed e h =>
    rcases s' with ⟨m' | l' | c', d'⟩
    · exact ⟨m', d', rfl, h⟩
    · cases h
    · cases h

theorem Acts.effect {a : Result r} (h : Acts Local.SafeParts r s a s') (ready : Ready s) :
    Effect r s s' := by
  rcases s with ⟨m | l | c, d⟩
  case process => cases ready
  case memory =>
    obtain ⟨m', d', rfl, kept⟩ := h.memory_effect
    exact ⟨trivial, fun name spec keeps settled => (kept name keeps).trans settled⟩
  case directory =>
    obtain ⟨d', rfl, effect⟩ := h.local_effect ready
    exact effect_of_local ready effect

/-- A request that succeeds was carried out. -/
theorem Acts.served_of_ok {x : r.Answer} (h : Acts ok r s (.ok x) s') :
    perform r s = (.ok x, s') := by
  cases h with
  | served h => exact h

/-- A create that succeeds has stored what it answers. -/
theorem Acts.created {c : Creation} (h : Acts ok (.create c) s (.ok spec) s') (ready : Ready s) :
    Settled s' c.name spec := by
  have served := h.served_of_ok
  rcases s with ⟨m | l | w, d⟩
  · rcases perform_memory m d (.create c) with ⟨e, m', hrun, -⟩ | ⟨m₁, -, hrun⟩
    · cases served.symm.trans hrun
    · rw [served, Scripted.finish] at hrun
      split at hrun
      · cases hrun
      · cases hrun
        exact (StringMap.find?_insert _ _ _ _).trans (if_pos rfl)
  · cases hrun : l.run (.create c) d with
    | mk a d' =>
      rw [perform, hrun] at served
      cases served
      rcases Local.create_inv ready.1 rfl hrun with
        ⟨⟨e, herror⟩, -⟩ | ⟨made, hok, -, changes, settled, -⟩
      · cases herror
      · cases hok
        have same := changes.workingDirectory
        change l.Settled d'.workingDirectory d' c.name spec
        rw [same]
        exact settled
  · cases ready

end DatasetCatalog.Storage.Backend
