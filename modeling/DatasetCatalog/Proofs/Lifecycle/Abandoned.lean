import DatasetCatalog.Proofs.Lifecycle.Agreement
import DatasetCatalog.Proofs.Lifecycle.Stages
import DatasetCatalog.Proofs.Storage.Late

/-!
# Requests that were given up

A storage request that runs in isolation is given up when its time is over. The operation that made
it goes on with an error, but the request does not know of that: it stays under way and takes effect,
as a whole and once, whenever it gets to it. By then the name may have been created again.

`Unfolds` lets operations run one after the other, call by call, and requests that were given up take
effect anywhere in between. `late_drops_only` says what they can do. Late creates find the storage
there and leave it, late truncations and upgrades leave what it is for, and only a late drop takes it
away (`late_drop_takes_storage`). So the storage of an instance is there exactly if the latest request
of its name that made or took storage is one that made it for this instance.

The invariant is `Watch`. For a call it does not matter whether a request was given up or failed
without a trace, so `Stage.Move` says all that is to be known of the operations.
-/

namespace DatasetCatalog.Lifecycle

open Program Ledger Storage Storage.Backend

/-! ### Operations and late requests -/

/-- Ledger and storage, with the requests that were given up and have not taken effect yet. -/
structure Backlog where
  holdings : Holdings
  abandoned : List Storage.Request

/-- What calls may come to where storage requests run in isolation: they come to their end in time, or
are given up. -/
inductive Isolated : Conduct Backlog
  | inTime {c : Call} {x x' : Holdings} {a : c.Answer}
      (answered : Faulty Storage.Local.SafeParts c x a x') (rs : List Storage.Request) :
      Isolated c ⟨x, rs⟩ a ⟨x', rs⟩
  | givenUp (r : Storage.Request) (limit waited : Duration) (x : Holdings)
      (rs : List Storage.Request) :
      Isolated (.perform r limit) ⟨x, rs⟩ (.error (.timeout r.operation r.target waited))
        ⟨x, rs ++ [r]⟩

/-- What can be seen to happen. -/
inductive Occurrence
  | call (x : Exchange)
  /-- A request takes effect that was given up. -/
  | late (x : StorageExchange)
  | returned (errand : Errand) (a : Except CatalogError Unit)

/-- Operations one after the other, with late requests in between: what has happened, the last thing
first, the operation that runs, and the state. -/
inductive Unfolds (settings : Settings) (start : Backlog) :
    List Occurrence → Option (Errand × Program (Except CatalogError Unit)) → Backlog → Prop
  | nothing : Unfolds settings start [] none start
  | begin {os : List Occurrence} {s : Backlog} (earlier : Unfolds settings start os none s)
      (errand : Errand) : Unfolds settings start os (some (errand, errand.program settings)) s
  | call {os : List Occurrence} {s s' : Backlog} {errand : Errand} {c : Call}
      {next : c.Answer → Program (Except CatalogError Unit)} {a : c.Answer}
      (earlier : Unfolds settings start os (some (errand, .call c next)) s)
      (answered : Isolated c s a s') :
      Unfolds settings start (.call ⟨c, a⟩ :: os) (some (errand, next a)) s'
  | late {os : List Occurrence} {x : Holdings} {site : Site} {before after : List Storage.Request}
      {running : Option (Errand × Program (Except CatalogError Unit))} {r : Storage.Request}
      {a : Storage.Result r} (earlier : Unfolds settings start os running ⟨x, before ++ r :: after⟩)
      (effect : Backend.perform r x.2 = (a, site)) :
      Unfolds settings start (.late ⟨r, a⟩ :: os) running ⟨(x.1, site), before ++ after⟩
  | returned {os : List Occurrence} {s : Backlog} {errand : Errand} {a : Except CatalogError Unit}
      (earlier : Unfolds settings start os (some (errand, .done a)) s) :
      Unfolds settings start (.returned errand a :: os) none s

/-- What something that happens leaves of the storage of a name, if it makes storage or takes it away
late. What operations take away in time is not in the catalog. -/
def leaves (name : String) : Occurrence → Option (Option Specification)
  | .late x => left name x
  | .call ⟨.perform (.create c) _, a⟩ => left name ⟨.create c, a⟩
  | _ => none

/-- What there is of the storage of a name, if at first it was for a specification. -/
def standing (name : String) (spec : Specification) (os : List Occurrence) : Option Specification :=
  (os.findSome? (leaves name)).getD (some spec)

/-- A drop of a name took effect that had been given up. -/
def DroppedLate (name : String) (os : List Occurrence) : Prop :=
  ∃ removal u, .late ⟨.drop removal, .ok u⟩ ∈ os ∧ removal.spec.name = name

section

variable {settings : Settings} {os : List Occurrence} {o : Occurrence} {name : String}
  {spec : Specification}

theorem standing_cons (name : String) (spec : Specification) (o : Occurrence)
    (os : List Occurrence) :
    standing name spec (o :: os) = (leaves name o).getD (standing name spec os) := by
  rw [standing, List.findSome?_cons]
  cases leaves name o <;> rfl

theorem DroppedLate.cons (h : DroppedLate name os) (o : Occurrence) : DroppedLate name (o :: os) := by
  obtain ⟨removal, u, happened, own⟩ := h
  exact ⟨removal, u, List.mem_cons_of_mem _ happened, own⟩

/-- A call that creates no storage of a name does not matter for it. -/
theorem leaves_call {c : Call} (a : c.Answer)
    (h : ∀ creation limit, c = .perform (.create creation) limit → creation.name ≠ name) :
    leaves name (.call ⟨c, a⟩) = none := by
  cases c with
  | perform r limit =>
    cases r with
    | create creation =>
      cases a with
      | ok made => exact if_neg (h creation limit rfl)
      | error e => rfl
    | _ => rfl
  | _ => rfl

/-! ### The invariant -/

/-- The storage of an instance is what is left of it, and if that is not what the instance is for, it
is since a late drop. -/
structure Backed (os : List Occurrence) (site : Site) (name : String) (spec : Specification) :
    Prop where
  stands : Stands site name (standing name spec os)
  blame : standing name spec os ≠ some spec → DroppedLate name os

theorem Backed.cons {site : Site} (backed : Backed os site name spec) {site' : Site}
    (nothing : leaves name o = none) (stands : Stands site' name (standing name spec os)) :
    Backed (o :: os) site' name spec := by
  have same : standing name spec (o :: os) = standing name spec os := by
    rw [standing_cons, nothing]
    rfl
  rw [← same] at stands
  exact ⟨stands, fun other => (backed.blame (same ▸ other)).cons o⟩

theorem backed_of_made {site : Site} (made : leaves name o = some (some spec))
    (settled : Settled site name spec) : Backed (o :: os) site name spec := by
  have own : standing name spec (o :: os) = some spec := by
    rw [standing_cons, made]
    rfl
  exact ⟨own ▸ settled, fun other => absurd own other⟩

/-- Storage is what a late request leaves of it. There is none to be made as long as there is some. -/
theorem Backed.late {r : Storage.Request} {a : Storage.Result r} {site site' : Site}
    (backed : Backed os site name spec) (ready : Ready site)
    (effect : Backend.perform r site = (a, site')) :
    Backed (.late ⟨r, a⟩ :: os) site' name spec := by
  have cons : standing name spec (.late ⟨r, a⟩ :: os) =
      (left name ⟨r, a⟩).getD (standing name spec os) := standing_cons _ _ _ _
  refine ⟨cons ▸ backed.stands.of_perform ready effect, fun other => ?_⟩
  cases found : left name ⟨r, a⟩ with
  | none =>
    rw [cons, found] at other
    exact (backed.blame other).cons _
  | some entry =>
    cases r with
    | create c =>
      cases a with
      | error e => cases found
      | ok made =>
        obtain ⟨own, -⟩ := Option.ite_none_right_eq_some.1 found
        subst own
        -- the create can only have made storage where a late drop had taken it away
        cases before : standing c.name spec os with
        | none => exact (backed.blame (before ▸ nofun)).cons _
        | some t =>
          obtain ⟨⟨e, failed⟩, -⟩ := Settled.of_create (before ▸ backed.stands) ready effect
          cases failed
    | drop removal =>
      cases a with
      | error e => cases found
      | ok u =>
        obtain ⟨own, -⟩ := Option.ite_none_right_eq_some.1 found
        exact ⟨removal, u, List.mem_cons_self, own⟩
    | _ => cases found

/-- The operation at this stage has found or made sure that a name is not in the catalog. -/
def Stage.Absent : Stage → String → Prop
  | making n _ _, name | removed n, name | clearing n, name => n = name
  | _, _ => False

/-- The operation at this stage has made storage of a name for a specification that is not in the
catalog yet. -/
def Stage.Vouches : Stage → String → Specification → Prop
  | making n _ (.made spec), name, made => n = name ∧ spec = made
  | _, _, _ => False

/-- What holds all the while. -/
structure Watch (os : List Occurrence) (φ : Stage) (x : Holdings) : Prop where
  ready : Ready x.2
  named : ∀ name spec, x.1.find? name = some spec → spec.name = name
  stored : ∀ name spec, x.1.find? name = some spec ∨ φ.Vouches name spec → Backed os x.2 name spec
  absent : ∀ name, φ.Absent name → x.1.find? name = none

variable {errand : Errand} {φ φ' : Stage} {x x' : Holdings} {c : Call} {a : c.Answer}

/-- Calls that change neither catalog nor storage. -/
def isIdle : Call → Bool
  | .addInstance _ | .removeInstance _ | .perform .. => false
  | _ => true

theorem idle_inv (idle : isIdle c = true) (answered : Faulty Storage.Local.SafeParts c x a x') :
    (∀ n, x'.1.find? n = x.1.find? n) ∧ x'.2 = x.2 := by
  obtain ⟨ledger, site⟩ := answered
  cases c with
  | addInstance | removeInstance | perform => cases idle
  | addOwner entity principal =>
    refine ⟨fun n => ?_, site⟩
    cases a with
    | ok u =>
      obtain ⟨-, same⟩ := addOwner_eq_ok (Eq.symm ledger)
      rw [same, find?_own]
    | error e => rw [addOwner_eq_error (Eq.symm ledger)]
  | removeOwner entity => exact ⟨fun n => by rw [ledger.2, find?_disown], site⟩
  | findInstance | allInstances | findOwner => exact ⟨fun n => by rw [ledger.2], site⟩
  | _ => exact ⟨fun n => by rw [show x'.1 = x.1 from ledger], site⟩

/-- Neither catalog nor storage changes, and the operation comes to a stage at which it knows no more
of the storage. -/
theorem Watch.same (w : Watch os φ x) (quiet : ∀ n, leaves n o = none)
    (same : ∀ n, x'.1.find? n = x.1.find? n) (site : x'.2 = x.2)
    (vouches : ∀ n spec, φ'.Vouches n spec → φ.Vouches n spec)
    (absent : ∀ n, φ'.Absent n → x.1.find? n = none) : Watch (o :: os) φ' x' := by
  refine ⟨by rw [site]; exact w.ready, fun n spec there => ?_, fun n spec there => ?_,
    fun n hn => by rw [same]; exact absent n hn⟩
  · rw [same] at there
    exact w.named n spec there
  · rw [same] at there
    have backed := w.stored n spec (there.imp_right (vouches n spec))
    exact backed.cons (quiet n) (site ▸ backed.stands)

theorem Watch.idle (w : Watch os φ x) (answered : Faulty Storage.Local.SafeParts c x a x')
    (idle : isIdle c = true) (vouches : ∀ n spec, φ'.Vouches n spec → φ.Vouches n spec)
    (absent : ∀ n, φ'.Absent n → x.1.find? n = none) : Watch (.call ⟨c, a⟩ :: os) φ' x' := by
  obtain ⟨same, site⟩ := idle_inv idle answered
  refine w.same (fun n => leaves_call a fun _ _ h => ?_) same site vouches absent
  rw [h] at idle
  cases idle

/-- A storage request that does not make or remove the storage of an instance in the catalog. -/
theorem Watch.perform {r : Storage.Request} {limit : Duration} {a : (Call.perform r limit).Answer}
    (w : Watch os φ x) (answered : Faulty Storage.Local.SafeParts (.perform r limit) x a x')
    (spared : r.remakes = true → x.1.find? r.target = none)
    (vouches : ∀ n spec, φ'.Vouches n spec →
      φ.Vouches n spec ∧ r.remakes = false ∨
        leaves n (.call ⟨.perform r limit, a⟩) = some (some spec) ∧ Settled x'.2 n spec)
    (absent : ∀ n, φ'.Absent n → x.1.find? n = none) :
    Watch (.call ⟨.perform r limit, a⟩ :: os) φ' x' := by
  obtain ⟨ledger, acts⟩ := answered
  have same : x'.1 = x.1 := ledger
  -- storage that the request is not there to make or remove is backed as before
  have kept : ∀ n spec, (n = r.target → r.remakes = false) → Backed os x.2 n spec →
      Backed (.call ⟨.perform r limit, a⟩ :: os) x'.2 n spec := by
    intro n spec beside backed
    have quiet : leaves n (.call ⟨.perform r limit, a⟩) = none := by
      refine leaves_call a fun creation _ h own => ?_
      cases h
      cases beside own.symm
    exact backed.cons quiet (backed.stands.of_acts acts w.ready beside)
  refine ⟨(Acts.effect acts w.ready).ready, ?_, fun n spec there => ?_, ?_⟩
  · rw [same]
    exact w.named
  · rw [same] at there
    rcases there with there | vouched
    · refine kept n spec (fun own => ?_) (w.stored n spec (.inl there))
      by_contra remakes
      have missing := spared (by simpa using remakes)
      rw [← own, there] at missing
      cases missing
    · rcases vouches n spec vouched with ⟨before, beside⟩ | ⟨made, settled⟩
      · exact kept n spec (fun _ => beside) (w.stored n spec (.inr before))
      · exact backed_of_made made settled
  · rw [same]
    exact absent

/-- The instance is added that storage was made for. -/
theorem Watch.added {plan : Option Storage.Creation}
    (w : Watch os (.making spec.name plan (.made spec)) x)
    (answered : Faulty Storage.Local.SafeParts (.addInstance spec) x (.ok ()) x') :
    Watch (.call ⟨.addInstance spec, .ok ()⟩ :: os) (.added spec.name) x' := by
  obtain ⟨ledger, site⟩ := answered
  have site : x'.2 = x.2 := site
  have entered : x'.1 = x.1.enter spec := by
    rcases ledger with added | ⟨e, he, -⟩
    · exact (addInstance_eq_ok (Eq.symm added)).2
    · cases he
  refine ⟨by rw [site]; exact w.ready, fun n entry there => ?_, fun n entry there => ?_, nofun⟩
  · rw [entered, find?_enter] at there
    split at there
    · next own =>
      cases there
      exact own
    · exact w.named n entry there
  · have backed : Backed os x.2 n entry := by
      rw [entered, find?_enter] at there
      rcases there with there | vouched
      · split at there
        · next own =>
          cases there
          exact w.stored n spec (.inr ⟨own, rfl⟩)
        · exact w.stored n entry (.inl there)
      · exact vouched.elim
    exact backed.cons rfl (site ▸ backed.stands)

/-- An instance is removed from the catalog, or none is. -/
theorem Watch.struck {a : Except RegistryError Bool} (w : Watch os .outside x)
    (answered : Faulty Storage.Local.SafeParts (.removeInstance name) x a x')
    (vouches : ∀ n spec, ¬ φ'.Vouches n spec)
    (absent : ∀ n, φ'.Absent n → a = .ok true ∧ name = n) :
    Watch (.call ⟨.removeInstance name, a⟩ :: os) φ' x' := by
  obtain ⟨ledger, site⟩ := answered
  have site : x'.2 = x.2 := site
  have before : ∀ n entry, x'.1.find? n = some entry → x.1.find? n = some entry := by
    intro n entry there
    rcases ledger with removed | ⟨e, -, same⟩
    · rw [show x'.1 = x.1.strike name from congrArg Prod.snd removed, find?_strike,
        Option.ite_none_left_eq_some] at there
      exact there.2
    · rwa [same] at there
  refine ⟨by rw [site]; exact w.ready, fun n entry there => w.named n entry (before n entry there),
    fun n entry there => ?_, fun n hn => ?_⟩
  · rcases there with there | vouched
    · have backed := w.stored n entry (.inl (before n entry there))
      exact backed.cons rfl (site ▸ backed.stands)
    · exact absurd vouched (vouches n entry)
  · obtain ⟨rfl, rfl⟩ := absent n hn
    rcases ledger with removed | ⟨e, he, -⟩
    · rw [show x'.1 = x.1.strike name from congrArg Prod.snd removed, find?_strike, if_pos rfl]
    · cases he

/-- Every call of an operation keeps the invariant. -/
theorem Watch.call (w : Watch os φ x) (answered : Faulty Storage.Local.SafeParts c x a x')
    (move : Stage.Move errand φ c a φ') : Watch (.call ⟨c, a⟩ :: os) φ' x' := by
  cases move with
  | beside φ a beside =>
    cases c with
    | addInstance | removeInstance => cases beside
    | perform r limit =>
      have keeps : r.remakes = false := by
        cases r with
        | create | drop => cases beside
        | _ => rfl
      exact w.perform answered (fun remakes => by rw [keeps] at remakes; cases remakes)
        (fun n spec vouched => .inl ⟨vouched, keeps⟩) w.absent
    | _ => exact w.idle answered rfl (fun _ _ => id) w.absent
  | granted | denied | present | recorded | counted | released | dropped | dropFailed =>
    exact w.idle answered rfl nofun nofun
  | absent name =>
    refine w.idle answered rfl nofun ?_
    rintro n rfl
    obtain ⟨found | ⟨e, he⟩, -⟩ := answered.1
    · exact (Except.ok.inj found).symm
    · cases he
  | planned => exact w.idle answered rfl nofun w.absent
  | uncounted => exact w.idle answered rfl nofun w.absent
  | made c limit effort spec =>
    refine w.perform answered (fun _ => w.absent c.name rfl) ?_ w.absent
    rintro n spec ⟨rfl, rfl⟩
    exact .inr ⟨if_pos rfl, Acts.created answered.2 w.ready⟩
  | unmade c => exact w.perform answered (fun _ => w.absent c.name rfl) nofun w.absent
  | cleared r | uncleared r | emptied r =>
    exact w.perform answered (fun _ => w.absent r.spec.name rfl) nofun w.absent
  | takenBack r => exact w.perform answered (fun _ => w.absent r.spec.name rfl) nofun nofun
  | added => exact w.added answered
  | refused spec plan e =>
    have same : x'.1 = x.1 := by
      rcases answered.1 with failed | ⟨_, -, same⟩
      · exact addInstance_eq_error (Eq.symm failed)
      · exact same
    exact w.same (fun _ => rfl) (fun n => by rw [same]) answered.2 nofun w.absent
  | removed drops name => exact w.struck answered nofun fun n hn => ⟨rfl, hn⟩
  | missed => exact w.struck answered nofun nofun

/-- A late request keeps the invariant. -/
theorem Watch.late {r : Storage.Request} {a : Storage.Result r} {site : Site}
    (w : Watch os φ x) (effect : Backend.perform r x.2 = (a, site)) :
    Watch (.late ⟨r, a⟩ :: os) φ (x.1, site) := by
  have acts : Acts Storage.Local.SafeParts r x.2 a site := .served effect
  exact ⟨(acts.effect w.ready).ready, w.named, fun n spec there =>
    (w.stored n spec there).late w.ready effect, w.absent⟩

/-! ### Runs -/

/-- Whoever made a request that was given up is told that it failed, and nothing has happened. -/
theorem Isolated.faulty {s s' : Backlog} (answered : Isolated c s a s')
    (ready : Ready s.holdings.2) : Faulty Storage.Local.SafeParts c s.holdings a s'.holdings := by
  cases answered with
  | inTime answered => exact answered
  | givenUp r => exact ⟨rfl, .failed _ (damage_refl ready r)⟩

/-- The operation that runs keeps to its moves from a stage on. -/
def Running (φ : Stage) : Option (Errand × Program (Except CatalogError Unit)) → Prop
  | none => φ = .outside
  | some (errand, p) => Proceeds errand φ p fun _ φ => φ = .outside

/-- The invariant holds whatever happens. -/
theorem Unfolds.watch {start s : Backlog}
    {running : Option (Errand × Program (Except CatalogError Unit))}
    (h : Unfolds settings start os running s) (w : Watch [] .outside start.holdings) :
    ∃ φ, Running φ running ∧ Watch os φ s.holdings := by
  induction h with
  | nothing => exact ⟨.outside, rfl, w⟩
  | begin earlier errand ih =>
    obtain ⟨φ, rfl, w⟩ := ih
    exact ⟨.outside, proceeds_program settings errand, w⟩
  | @call _ _ _ _ _ _ a earlier answered ih =>
    obtain ⟨φ, proceeds, w⟩ := ih
    obtain ⟨φ', move, rest⟩ := proceeds a trivial
    exact ⟨φ', rest, w.call (answered.faulty w.ready) move⟩
  | late earlier effect ih =>
    obtain ⟨φ, running, w⟩ := ih
    exact ⟨φ, running, w.late effect⟩
  | returned earlier ih =>
    obtain ⟨φ, rfl, w⟩ := ih
    exact ⟨.outside, rfl, w.same (fun _ => rfl) (fun _ => rfl) rfl nofun nofun⟩

/-- **Only a late drop can harm an instance.** Operations come one after the other, any storage request
of theirs may be given up, and those that were take effect anywhere in between, or never; apart from
that the collaborators may fail as they like. Every instance in the catalog has its storage at first.
Then at any time, in the middle of operations too, an instance in the catalog has storage for its
specification if this is what the latest request of its name left that made storage, or took it away
late. Otherwise it has not, and a drop of its name has come late. -/
theorem late_drops_only {start s : Backlog} (ready : Ready start.holdings.2)
    (settled : ∀ n spec, start.holdings.1.find? n = some spec →
      spec.name = n ∧ Settled start.holdings.2 n spec)
    {running : Option (Errand × Program (Except CatalogError Unit))}
    (h : Unfolds settings start os running s)
    (there : s.holdings.1.find? name = some spec) :
    spec.name = name ∧
      (standing name spec os = some spec → Holds s.holdings.2 name spec) ∧
      (standing name spec os ≠ some spec → DroppedLate name os ∧
        (Direct s.holdings.2 → ¬ Holds s.holdings.2 name spec)) := by
  have first : Watch [] .outside start.holdings := by
    refine ⟨ready, fun n spec found => (settled n spec found).1, fun n spec found => ?_, nofun⟩
    exact ⟨(settled n spec (found.resolve_right id)).2, fun other => absurd rfl other⟩
  obtain ⟨φ, -, w⟩ := h.watch first
  obtain ⟨stands, blame⟩ := w.stored name spec (.inl there)
  refine ⟨w.named name spec there, fun own => ?_, fun other => ⟨blame other, fun direct holds => ?_⟩⟩
  · rw [own] at stands
    exact stands.holds
  · cases left : standing name spec os with
    | none =>
      rw [left] at stands
      exact (stands direct).not_holds holds
    | some t =>
      rw [left] at stands other
      exact other (congrArg some (holds.unique stands.holds))

end

/-! ### In memory -/

/-- What happens next. -/
inductive Turn
  | begin (errand : Errand)
  /-- The operation makes its next call, which is answered in time, or returns. -/
  | proceed
  /-- The operation gives up the storage request that it makes next. -/
  | giveUp
  /-- The oldest request that was given up takes effect. -/
  | late

/-- How far operations on stores in memory have come. -/
structure Course where
  occurred : List Occurrence := []
  running : Option (Errand × Program (Except CatalogError Unit)) := none
  stores : MemoryStores
  abandoned : List Storage.Request := []

namespace Course

/-- Nothing has happened yet to a new deployment. -/
def fresh : Course := { stores := ⟨([], {}), ⟨_, rfl⟩, _, rfl⟩ }

def backlog (c : Course) : Backlog := ⟨holdings c.stores, c.abandoned⟩

/-- A turn that is not possible changes nothing. -/
def turn (settings : Settings) (c : Course) : Turn → Course
  | .begin errand =>
    match c.running with
    | none => { c with running := some (errand, errand.program settings) }
    | some _ => c
  | .proceed =>
    match c.running with
    | none => c
    | some (errand, .done a) =>
      { c with occurred := .returned errand a :: c.occurred, running := none }
    | some (errand, .call x next) =>
      let (a, stores) := memoryAnswer x c.stores
      { c with occurred := .call ⟨x, a⟩ :: c.occurred, running := some (errand, next a), stores }
  | .giveUp =>
    match c.running with
    | some (errand, .call (.perform r limit) next) =>
      let a : Storage.Result r := .error (.timeout r.operation r.target limit)
      { c with
        occurred := .call ⟨.perform r limit, a⟩ :: c.occurred
        running := some (errand, next a)
        abandoned := c.abandoned ++ [r] }
    | _ => c
  | .late =>
    match c.abandoned with
    | [] => c
    | r :: rest =>
      let (a, stores) := memoryAnswer (.perform r settings.operationLimit) c.stores
      { c with occurred := .late ⟨r, a⟩ :: c.occurred, stores, abandoned := rest }

/-- Takes turns in order. -/
def play (settings : Settings) (turns : List Turn) (c : Course) : Course :=
  turns.foldl (turn settings) c

variable {settings : Settings} {start : Backlog} {c : Course}

theorem unfolds_turn (h : Unfolds settings start c.occurred c.running c.backlog) (t : Turn) :
    Unfolds settings start (c.turn settings t).occurred (c.turn settings t).running
      (c.turn settings t).backlog := by
  obtain ⟨occurred, running, stores, abandoned⟩ := c
  cases t with
  | begin errand =>
    cases running with
    | none => exact h.begin errand
    | some _ => exact h
  | proceed =>
    rcases running with _ | ⟨errand, a | ⟨x, next⟩⟩
    · exact h
    · exact h.returned
    · exact h.call (.inTime (memoryAnswer_faulty rfl) abandoned)
  | giveUp =>
    rcases running with _ | ⟨errand, a | ⟨x, next⟩⟩
    · exact h
    · exact h
    · cases x with
      | perform r limit => exact h.call (.givenUp r limit limit _ abandoned)
      | _ => exact h
  | late =>
    cases abandoned with
    | nil => exact h
    | cons r rest =>
      have oldest : Unfolds settings start occurred running ⟨holdings stores, [] ++ r :: rest⟩ := h
      exact oldest.late rfl

theorem unfolds_play (turns : List Turn)
    (h : Unfolds settings start c.occurred c.running c.backlog) :
    Unfolds settings start (c.play settings turns).occurred (c.play settings turns).running
      (c.play settings turns).backlog := by
  induction turns generalizing c with
  | nil => exact h
  | cons t turns ih => exact ih (unfolds_turn h t)

/-- An operation whose calls are answered in time, up to the given number of calls. -/
def operation (errand : Errand) (calls : Nat) : List Turn :=
  .begin errand :: List.replicate calls .proceed

/-- The results of the operations, the last one first. -/
def results (c : Course) : List (Except CatalogError Unit) :=
  c.occurred.filterMap fun
    | .returned _ a => some a
    | _ => none

end Course

/-- A create of a table. -/
def createOrders : Errand := .create "orders" ⟨"table", [], none⟩

/-- A create and an upgrade are given up. Meanwhile the name is created, and then they take effect. -/
def lateCreate : Course :=
  Course.play {}
    (Course.operation createOrders 3 ++ [.giveUp] ++ List.replicate 10 .proceed ++
      Course.operation createOrders 20 ++
      Course.operation (.admin "orders" "upgrade") 0 ++ [.giveUp] ++ List.replicate 10 .proceed ++
      [.late, .late]) .fresh

theorem late_creates_in_memory :
    Ready Course.fresh.backlog.holdings.2 ∧
      (∀ n spec, Course.fresh.backlog.holdings.1.find? n = some spec →
        spec.name = n ∧ Settled Course.fresh.backlog.holdings.2 n spec) ∧
      Unfolds {} Course.fresh.backlog lateCreate.occurred lateCreate.running lateCreate.backlog ∧
      lateCreate.results.map Except.isOk = [false, true, false] ∧
      lateCreate.abandoned.length = 0 ∧
      Holds lateCreate.backlog.holdings.2 "orders" (.ofType "orders" "table") := by
  have empty : ∀ n spec, Course.fresh.backlog.holdings.1.find? n = some spec →
      spec.name = n ∧ Settled Course.fresh.backlog.holdings.2 n spec := nofun
  have run : Unfolds {} Course.fresh.backlog lateCreate.occurred lateCreate.running
      lateCreate.backlog := Course.unfolds_play _ .nothing
  have there : lateCreate.backlog.holdings.1.find? "orders" = some (.ofType "orders" "table") := rfl
  have ready : Ready Course.fresh.backlog.holdings.2 := trivial
  have own : standing "orders" (.ofType "orders" "table") lateCreate.occurred =
      some (.ofType "orders" "table") := rfl
  obtain ⟨-, stored, -⟩ := late_drops_only ready empty run there
  exact ⟨ready, empty, run, rfl, rfl, stored own⟩

/-- A drop is given up. The name is created again, which drops what is left and makes storage anew, and
then the drop takes effect. -/
def lateDrop : Course :=
  Course.play {}
    (Course.operation createOrders 20 ++
      Course.operation (.drop "orders") 6 ++ [.giveUp] ++ List.replicate 10 .proceed ++
      Course.operation createOrders 20 ++ [.late]) .fresh

/-- **A late drop takes away what it finds.** All operations have returned, both creates with success
and the drop with its timeout, and the instance is in the catalog without storage. -/
theorem late_drop_takes_storage :
    Unfolds {} Course.fresh.backlog lateDrop.occurred lateDrop.running lateDrop.backlog ∧
      lateDrop.running.isNone ∧
      lateDrop.results = [.ok (), .error (.execution "drop" "orders"
        (.timeout "drop" "orders" ({} : Settings).operationLimit)), .ok ()] ∧
      lateDrop.backlog.holdings.1.find? "orders" = some (.ofType "orders" "table") ∧
      ¬ Holds lateDrop.backlog.holdings.2 "orders" (.ofType "orders" "table") := by
  refine ⟨Course.unfolds_play _ .nothing, rfl, rfl, rfl, fun holds => ?_⟩
  have found : none = some (Specification.ofType "orders" "table") := holds
  cases found

end DatasetCatalog.Lifecycle
