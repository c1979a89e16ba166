import DatasetCatalog.Proofs.Lifecycle.Lockstep
import DatasetCatalog.Proofs.Program.Replay

/-!
# What clients are told

`serve` carries an errand out from start to end, and its answer is all that the client gets to see. So
two coordinators cannot be told apart if they give the same answers to every list of errands
(`replay`).

A coordinator that has served an errand has no right to a name that it did not have before
(`serve_reservations`). And coordinators in lockstep stay in lockstep (`replay_lockstep`): what they can
be told apart by are listings that ask for the tables, and nothing else (`serve_lockstep`).
-/

namespace DatasetCatalog.Lifecycle

open Program

/-- What a client is told who is not refused. -/
inductive Reply
  | created (spec : Specification)
  | dropped
  | reset (report : DropReport)
  | administered (response : AdminResponse)
  | found (instanceMeta : Option InstanceMeta)
  | listed (entries : List Listing)

/-- The operation that serves an errand, with its answer. -/
def Errand.reply (settings : Settings) : Errand → Step Reply
  | create name request => .created <$> Lifecycle.create settings name request
  | drop name => (fun _ => .dropped) <$> dropInstance settings name
  | dropAll => .reset <$> Lifecycle.dropAll settings
  | admin name method => .administered <$> Lifecycle.admin settings name method
  | get name => .found <$> Lifecycle.get settings name
  | list options => .listed <$> Lifecycle.list options

/-- Carries an errand out. -/
def serve (settings : Settings) (errand : Errand) (x : Reservations × Stores) :
    Except CatalogError Reply × Reservations × Stores :=
  (errand.reply settings).run.run Stores.answer x

variable {α β σ : Type} {settings : Settings} {errand : Errand} {x y : Reservations × Stores}

theorem run_map {handle : (c : Call) → σ → c.Answer × σ} (f : α → β) (p : Step α) (s : σ) :
    (f <$> p : Step β).run.run handle s =
      ((p.run.run handle s).1.map f, (p.run.run handle s).2) := by
  refine (Program.run_bind handle p.run _ s).trans ?_
  rcases p.run.run handle s with ⟨e | a, s'⟩ <;> rfl

/-- What an errand does does not depend on whether its answer is kept. -/
theorem serve_program (settings : Settings) (errand : Errand) (x : Reservations × Stores) :
    (serve settings errand x).2 = ((errand.program settings).run Stores.answer x).2 := by
  have discarded {α : Type} (p : Step α) : ((discard p : Step Unit).run.run Stores.answer x).2 =
      (p.run.run Stores.answer x).2 := congrArg Prod.snd (run_map (fun _ => ()) p x)
  cases errand with
  | drop name => exact congrArg Prod.snd (run_map _ _ x)
  | _ => exact (congrArg Prod.snd (run_map _ _ x)).trans (discarded _).symm

/-! ### Rights to names -/

/-- The name that an operation has the right to. -/
def Stage.holder : Stage → Option String
  | looking name | making name _ _ | added name | recorded name | leaving name => some name
  | _ => none

/-- The rights of a coordinator at a stage of its operation. -/
def Stage.Rights (before : Reservations) (φ : Stage) (rs : Reservations) : Prop :=
  match φ.holder with
  | none => rs = before
  | some name => rs = name :: before ∧ name ∉ before

theorem Stage.Move.rights {before rs rs' : Reservations} {φ φ' : Stage} {c : Call} {a : c.Answer}
    {s s' : Stores} (move : Stage.Move errand φ c a φ')
    (answered : Stores.answer c (rs, s) = (a, rs', s')) (h : φ.Rights before rs) :
    φ'.Rights before rs' := by
  cases move with
  | @granted name creates =>
    obtain rfl : rs = before := h
    have reserved : rs.reserve name = (true, rs') :=
      congrArg (fun r : Bool × Reservations × Stores => (r.1, r.2.1)) answered
    unfold Reservations.reserve at reserved
    split at reserved
    · cases reserved
    · next free =>
      cases reserved
      exact ⟨rfl, by simpa using free⟩
  | @denied name creates =>
    have reserved : rs.reserve name = (false, rs') :=
      congrArg (fun r : Bool × Reservations × Stores => (r.1, r.2.1)) answered
    unfold Reservations.reserve at reserved
    split at reserved
    · cases reserved
      exact h
    · cases reserved
  | @released φ name leaves =>
    obtain ⟨rfl, fresh⟩ : rs = name :: before ∧ name ∉ before := by
      cases φ with
      | making n plan effort => exact leaves.1 ▸ h
      | leaving n => exact leaves ▸ h
      | _ => exact leaves.elim
    obtain rfl : rs' = (name :: before).filter (· ≠ name) := congrArg (·.2.1) answered.symm
    have others : before.filter (· ≠ name) = before :=
      List.filter_eq_self.2 fun other there => decide_eq_true fun same => fresh (same ▸ there)
    rw [List.filter_cons_of_neg (by simp), others]
    exact rfl
  | beside φ a beside =>
    have kept : rs' = rs := by
      cases c with
      | reserve | release => cases beside
      | _ => exact congrArg (·.2.1) answered.symm
    exact kept ▸ h
  | _ =>
    obtain rfl : rs' = rs := congrArg (·.2.1) answered.symm
    exact h

/-- An operation that is over has given back the right that it had. -/
theorem serve_reservations (settings : Settings) (errand : Errand) (x : Reservations × Stores) :
    (serve settings errand x).2.1 = x.1 := by
  rw [serve_program]
  obtain ⟨φ, rfl, rights⟩ := (proceeds_program settings errand).run_keeps
    (I := fun φ y => φ.Rights x.1 y.1) rfl fun rights move => move.rights rfl rights
  exact rights

/-! ### In lockstep -/

/-- Whether an errand asks for the tables. -/
def Errand.Filters : Errand → Prop
  | list options => options.explorable ≠ none
  | _ => False

/-- The instance that an errand has made, if it has made one. -/
def made : Except CatalogError Reply → List String
  | .ok (.created spec) => [spec.name]
  | _ => []

variable {names : List String}

/-- What two coordinators in lockstep answer alike leaves them in lockstep. -/
def StaysAlike (names : List String) (x y : Reservations × Stores) (p : Step Reply) : Prop :=
  (p.run.run Stores.answer y).1 = (p.run.run Stores.answer x).1 ∧
    Lockstep (Gateway.only (names ++ made (p.run.run Stores.answer x).1))
      (p.run.run Stores.answer x).2 (p.run.run Stores.answer y).2 ∧
    (p.run.run Stores.answer x).2.2.gateway.Works

theorem staysAlike_map (h : Lockstep (Gateway.only names) x y) (works : x.2.gateway.Works)
    {f : α → Reply} {p : Step α}
    (shows : Tracks Shows names p.run fun r names' => names' = names ++ made (r.map f)) :
    StaysAlike names x y (f <$> p) := by
  obtain ⟨same, _, rfl, lockstep, works'⟩ := h.run_shows works shows
  rw [StaysAlike, run_map, run_map, same]
  exact ⟨rfl, lockstep, works'⟩

theorem staysAlike_of_blind (h : Lockstep (Gateway.only names) x y) (works : x.2.gateway.Works)
    {f : α → Reply} {p : Step α} (blind : Blind p.run) (other : ∀ a, made (.ok (f a)) = []) :
    StaysAlike names x y (f <$> p) := by
  refine staysAlike_map h works (shows_blind blind fun r => ?_)
  cases r with
  | ok a => exact ((congrArg (names ++ ·) (other a)).trans (List.append_nil names)).symm
  | error e => exact (List.append_nil names).symm

/-- Coordinators in lockstep are told apart by listings only that ask for the tables, and whatever they
are asked they stay in lockstep. -/
theorem serve_lockstep (h : Lockstep (Gateway.only names) x y) (works : x.2.gateway.Works)
    (settings : Settings) (errand : Errand) :
    (¬ errand.Filters → (serve settings errand y).1 = (serve settings errand x).1) ∧
      Lockstep (Gateway.only (names ++ made (serve settings errand x).1))
        (serve settings errand x).2 (serve settings errand y).2 ∧
      (serve settings errand x).2.2.gateway.Works := by
  have alike (stays : StaysAlike names x y (errand.reply settings)) :
      (¬ errand.Filters → (serve settings errand y).1 = (serve settings errand x).1) ∧
        Lockstep (Gateway.only (names ++ made (serve settings errand x).1))
          (serve settings errand x).2 (serve settings errand y).2 ∧
        (serve settings errand x).2.2.gateway.Works := ⟨fun _ => stays.1, stays.2⟩
  cases errand with
  | create name request =>
    refine alike (staysAlike_map h works ((shows_create request).mono ?_))
    rintro (e | spec) _ rfl <;> exact rfl
  | drop name => exact alike (staysAlike_of_blind h works blind_dropInstance fun _ => rfl)
  | dropAll => exact alike (staysAlike_of_blind h works blind_dropAll fun _ => rfl)
  | admin name method => exact alike (staysAlike_of_blind h works (blind_admin method) fun _ => rfl)
  | get name => exact alike (staysAlike_of_blind h works blind_get fun _ => rfl)
  | list options =>
    cases unfiltered : options.explorable with
    | none => exact alike (staysAlike_of_blind h works (blind_list unfiltered) fun _ => rfl)
    | some wanted =>
      obtain ⟨lockstep, kept⟩ := h.after_list options
      have filters : (Errand.list options).Filters := by
        rw [Errand.Filters, unfiltered]
        exact Option.some_ne_none wanted
      have served (z : Reservations × Stores) : serve settings (.list options) z = _ :=
        run_map _ (list options) z
      have nothing (r : Except CatalogError (List Listing)) : made (r.map .listed) = [] := by
        cases r <;> rfl
      refine ⟨fun unfiltered => absurd filters unfiltered, ?_⟩
      rw [served, served, nothing, List.append_nil]
      exact ⟨lockstep, kept ▸ works⟩

/-- Such coordinators stay in lockstep through any errands. -/
theorem replay_lockstep (settings : Settings) (errands : List Errand)
    (h : Lockstep (Gateway.only names) x y) (works : x.2.gateway.Works) :
    Lockstep (Gateway.only (names ++ (replay (serve settings) errands x).1.flatMap made))
      (replay (serve settings) errands x).2 (replay (serve settings) errands y).2 ∧
    (replay (serve settings) errands x).2.2.gateway.Works := by
  induction errands generalizing names x y with
  | nil => simpa using ⟨h, works⟩
  | cons errand errands ih =>
    obtain ⟨-, lockstep, works'⟩ := serve_lockstep h works settings errand
    have rest := ih lockstep works'
    rw [replay_cons, replay_cons, List.flatMap_cons, ← List.append_assoc]
    exact rest

end DatasetCatalog.Lifecycle
