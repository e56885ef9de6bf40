import CNShell.Client.Models
import CNShell.Library.Transition
import Mathlib.Logic.Function.Basic

/-! The tunnels of a desktop, and the registry that tells which of them are running. -/

namespace CNShell

namespace Client

/-- The registry: the stop token of every running tunnel, and the error a tunnel ended with. -/
structure TunnelManager where
  running : String → Option Nat
  errors : String → Option String

namespace TunnelManager

/-- A tunnel is registered under the stop token of its worker, unless it is running. -/
def startToken (manager : TunnelManager) (id : String) (token : Nat) : AppResult TunnelManager :=
  if (manager.running id).isSome = true then .error (.validation "隧道已在运行")
  else .ok {
    running := Function.update manager.running id (some token)
    errors := Function.update manager.errors id none }

/-- A running tunnel leaves the registry; its token is the one to set. -/
def stop (manager : TunnelManager) (id : String) : AppResult (Nat × TunnelManager) :=
  match manager.running id with
  | none => .error (.notFound s!"运行中的隧道 {id}")
  | some token => .ok (token, { manager with running := Function.update manager.running id none })

/-- The first lock of `finish`: the tunnel leaves the registry, whoever is registered. -/
def finish (manager : TunnelManager) (id : String) : TunnelManager :=
  { manager with running := Function.update manager.running id none }

/-- The second lock of `finish`, which keeps the error. -/
def finishError (manager : TunnelManager) (id error : String) : TunnelManager :=
  { manager with errors := Function.update manager.errors id (some error) }

def status (manager : TunnelManager) (id : String) : String × Option String :=
  if (manager.running id).isSome = true then ("running", none)
  else
    match manager.errors id with
    | some error => ("failed", some error)
    | none => ("stopped", none)

end TunnelManager

/-- How far a worker of a tunnel has come. -/
inductive TunnelStage
  /-- `start` loads the profile and acquires the transport. -/
  | opening
  /-- The thread listens and bridges. -/
  | serving
  /-- It has left the registry with an error that is not kept yet. -/
  | failing (error : String)
  | ended
  deriving DecidableEq, Repr

/-- A worker has not called `finish` yet. -/
def TunnelStage.works : TunnelStage → Bool
  | opening | serving => true
  | failing _ | ended => false

/-- A started tunnel: its id, how far it is, and whether its stop token was set. -/
structure TunnelWorker where
  id : String
  stage : TunnelStage
  stopped : Bool
  deriving DecidableEq, Repr

/-- A worker that was neither stopped nor has finished. -/
def TunnelWorker.live (worker : TunnelWorker) : Bool := worker.stage.works && !worker.stopped

/-- The registry and all workers that were started, each at the position that is its token. -/
structure Tunnels where
  manager : TunnelManager
  workers : List TunnelWorker

inductive TunnelEvent
  | start (id : String)
  | stop (id : String)
  /-- A worker has its transport and begins to serve. -/
  | serve (token : Nat)
  /-- A worker ends and calls `finish`, with an error or without. -/
  | finish (token : Nat) (error : Option String)
  /-- The error of a worker is kept. -/
  | report (token : Nat)
  deriving DecidableEq, Repr

/-- A worker may end: with an error at any time, without one once it is told to stop. -/
def TunnelWorker.mayEnd (worker : TunnelWorker) : Option String → Bool
  | some _ => worker.stage.works
  | none => worker.stage = .serving && worker.stopped

def tunnelStep (tunnels : Tunnels) : TunnelEvent → Option Tunnels
  | .start id =>
    match tunnels.manager.startToken id tunnels.workers.length with
    | .error _ => some tunnels
    | .ok manager => some ⟨manager, tunnels.workers ++ [⟨id, .opening, false⟩]⟩
  | .stop id =>
    match tunnels.manager.stop id with
    | .error _ => some tunnels
    | .ok (token, manager) =>
      some ⟨manager, tunnels.workers.modify token fun worker => { worker with stopped := true }⟩
  | .serve token => do
    let worker ← tunnels.workers[token]?
    if worker.stage = .opening then
      return { tunnels with workers := tunnels.workers.set token { worker with stage := .serving } }
    else none
  | .finish token error => do
    let worker ← tunnels.workers[token]?
    if worker.mayEnd error = true then
      let stage := error.elim .ended .failing
      return ⟨tunnels.manager.finish worker.id, tunnels.workers.set token { worker with stage := stage }⟩
    else none
  | .report token => do
    let worker ← tunnels.workers[token]?
    match worker.stage with
    | .failing error =>
      return ⟨tunnels.manager.finishError worker.id error, tunnels.workers.set token { worker with stage := .ended }⟩
    | _ => none

/-- The tunnels, from a registry without any. -/
def tunnelSystem : System Tunnels TunnelEvent :=
  .ofStep (fun tunnels => tunnels = ⟨⟨fun _ => none, fun _ => none⟩, []⟩) tunnelStep

/-- The worker of a tunnel that was started last was neither stopped nor has it finished. -/
def Tunnels.Live (tunnels : Tunnels) (id : String) (token : Nat) : Prop :=
  (∃ worker, tunnels.workers[token]? = some worker ∧ worker.id = id ∧ worker.live = true) ∧
    ∀ later other, token < later → tunnels.workers[later]? = some other → other.id ≠ id

/-- The registry tells which tunnels are live, so that each can be stopped and is shown. -/
structure Tunnels.Registered (tunnels : Tunnels) : Prop where
  listed : ∀ id, (tunnels.manager.running id).isSome = true ↔ ∃ token, tunnels.Live id token
  stoppable : ∀ id token, tunnels.Live id token → ∃ manager, tunnels.manager.stop id = .ok (token, manager)
  shown : ∀ id token, tunnels.Live id token → (tunnels.manager.status id).1 ≠ "stopped"

/-- A worker that finishes finds no other one registered under its id. -/
def TunnelEvent.Own (tunnels : Tunnels) : TunnelEvent → Prop
  | .finish token _ => ∀ worker ∈ tunnels.workers[token]?,
      ∀ registered ∈ tunnels.manager.running worker.id, registered = token
  | _ => True

instance (tunnels : Tunnels) : DecidablePred (TunnelEvent.Own tunnels)
  | .finish token _ => inferInstanceAs (Decidable (∀ worker ∈ tunnels.workers[token]?,
      ∀ registered ∈ tunnels.manager.running worker.id, registered = token))
  | .start _ | .stop _ | .serve _ | .report _ => isTrue trivial

namespace Tunnels

variable {tunnels : Tunnels} {id : String} {token other : Nat}

variable {worker : TunnelWorker} {manager : TunnelManager}

/-- A worker that is started is live, and the tunnel's earlier workers are not. -/
theorem live_append (live : worker.live = true) :
    Live ⟨manager, tunnels.workers ++ [worker]⟩ id token ↔
      if id = worker.id then token = tunnels.workers.length else tunnels.Live id token := by
  have at_end : (tunnels.workers ++ [worker])[tunnels.workers.length]? = some worker := by simp
  have earlier : ∀ (position : Nat) found, (tunnels.workers ++ [worker])[position]? = some found →
      tunnels.workers[position]? = some found ∨ position = tunnels.workers.length ∧ found = worker := by
    intro position found there
    rcases Nat.lt_trichotomy position tunnels.workers.length with below | same | above
    · left
      rwa [List.getElem?_append_left below] at there
    · right
      subst same
      exact ⟨rfl, Option.some.inj (there.symm.trans at_end)⟩
    · have long : (tunnels.workers ++ [worker]).length ≤ position := by
        simp only [List.length_append, List.length_singleton]
        omega
      rw [List.getElem?_eq_none long] at there
      cases there
  have stays : ∀ (position : Nat) found, tunnels.workers[position]? = some found →
      (tunnels.workers ++ [worker])[position]? = some found := by
    intro position found there
    have below := (List.getElem?_eq_some_iff.mp there).1
    rwa [List.getElem?_append_left below]
  split
  · next same =>
    subst same
    constructor
    · rintro ⟨⟨found, there, own, -⟩, last⟩
      rcases earlier _ _ there with old | ⟨rfl, -⟩
      · have below := (List.getElem?_eq_some_iff.mp old).1
        exact absurd rfl (last _ _ below at_end)
      · rfl
    · rintro rfl
      refine ⟨⟨worker, at_end, rfl, live⟩, fun later found after there => ?_⟩
      rcases earlier _ _ there with old | ⟨rfl, -⟩
      · have below := (List.getElem?_eq_some_iff.mp old).1
        omega
      · omega
  · next different =>
    constructor
    · rintro ⟨⟨found, there, own, works⟩, last⟩
      rcases earlier _ _ there with old | ⟨-, rfl⟩
      · exact ⟨⟨found, old, own, works⟩, fun later found after there => last _ _ after (stays _ _ there)⟩
      · exact absurd own.symm different
    · rintro ⟨⟨found, there, own, works⟩, last⟩
      refine ⟨⟨found, stays _ _ there, own, works⟩, fun later found after there => ?_⟩
      rcases earlier _ _ there with old | ⟨-, rfl⟩
      · exact last _ _ after old
      · exact fun named => different named.symm

variable {changed : TunnelWorker}

theorem live_set (held : tunnels.workers[other]? = some worker) (same : changed.id = worker.id)
    (fades : changed.live = true → worker.live = true) :
    Live ⟨manager, tunnels.workers.set other changed⟩ id token ↔
      tunnels.Live id token ∧ (token = other → changed.live = true) := by
  have below := (List.getElem?_eq_some_iff.mp held).1
  -- Every position holds a worker of the same id as before.
  have named : ∀ position : Nat, ((tunnels.workers.set other changed)[position]?).map TunnelWorker.id =
      tunnels.workers[position]?.map TunnelWorker.id := by
    intro position
    rw [List.getElem?_set]
    split
    · next here =>
      subst here
      simp [held, same]
    · rfl
  have last : (∀ (later : Nat) found, token < later →
      (tunnels.workers.set other changed)[later]? = some found → found.id ≠ id) ↔
      ∀ (later : Nat) found, token < later → tunnels.workers[later]? = some found → found.id ≠ id := by
    constructor
    all_goals
      intro last later found after there own
      have ids := named later
      rw [there] at ids
    · obtain ⟨found', there', own'⟩ := Option.map_eq_some_iff.mp ids
      exact last later found' after there' (own'.trans own)
    · obtain ⟨found', there', own'⟩ := Option.map_eq_some_iff.mp ids.symm
      exact last later found' after there' (own'.trans own)
  unfold Live
  simp only [last]
  rw [List.getElem?_set]
  by_cases here : other = token
  · subst here
    simp only [if_true, below, Option.some.injEq, exists_eq_left', held, same, forall_const]
    tauto
  · simp only [if_neg here, Ne.symm here, false_implies, and_true]

/-- The registry holds the token of the live worker of every tunnel that has one, and no other. -/
def Tracked (tunnels : Tunnels) : Prop := ∀ id token, tunnels.manager.running id = some token ↔ tunnels.Live id token

theorem Tracked.registered (tracked : tunnels.Tracked) : tunnels.Registered where
  listed id := by
    simp only [Option.isSome_iff_exists]
    exact exists_congr (tracked id)
  stoppable id token live := by
    have held := (tracked id token).mpr live
    exact ⟨{ tunnels.manager with running := Function.update tunnels.manager.running id none },
      by simp only [TunnelManager.stop, held]⟩
  shown id token live := by
    have held := (tracked id token).mpr live
    simp [TunnelManager.status, held]

theorem Tracked.leave (tracked : tunnels.Tracked)
    (held : tunnels.workers[other]? = some worker) (same : changed.id = worker.id) (ends : changed.live = false)
    (own : ∀ registered, tunnels.manager.running worker.id = some registered → registered = other) :
    Tracked ⟨tunnels.manager.finish worker.id, tunnels.workers.set other changed⟩ := by
  intro id token
  rw [live_set held same (by simp [ends]), ends]
  simp only [TunnelManager.finish, Function.update_apply, Bool.false_eq_true, imp_false]
  split
  · next here =>
    subst here
    constructor
    · rintro ⟨⟩
    · rintro ⟨live, different⟩
      exact absurd (own token ((tracked _ _).mpr live)) different
  · next elsewhere =>
    rw [tracked]
    constructor
    · intro live
      refine ⟨live, ?_⟩
      rintro rfl
      -- The worker at this position has the id that was left.
      obtain ⟨⟨found, there, own, -⟩, -⟩ := live
      rw [held] at there
      cases there
      exact elsewhere own.symm
    · exact And.left

theorem Tracked.change {errors : String → Option String} {worker changed : TunnelWorker}
    (tracked : tunnels.Tracked) (held : tunnels.workers[other]? = some worker)
    (same : changed.id = worker.id) (alike : changed.live = worker.live) :
    Tracked ⟨⟨tunnels.manager.running, errors⟩, tunnels.workers.set other changed⟩ := by
  intro id token
  rw [live_set held same (by simp [alike]), alike]
  refine (tracked id token).trans ⟨fun live => ⟨live, ?_⟩, And.left⟩
  rintro rfl
  obtain ⟨⟨found, there, -, works⟩, -⟩ := live
  rw [held] at there
  cases there
  exact works

variable {event : TunnelEvent}

/-- Every event but the finish of a stranger keeps the registry right. -/
theorem Tracked.step {next : Tunnels} (tracked : tunnels.Tracked)
    (own : event.Own tunnels) (taken : tunnelStep tunnels event = some next) : next.Tracked := by
  cases event with
  | start id =>
    simp only [tunnelStep, TunnelManager.startToken] at taken
    split at taken
    · next running =>
      split at running
      · cases taken
        exact tracked
      · cases running
    · next manager started =>
      split at started
      · cases started
      · cases started
        cases taken
        intro wanted token
        rw [live_append rfl]
        simp only [Function.update_apply]
        split
        · simp only [Option.some.injEq]
          exact eq_comm
        · exact tracked wanted token
  | stop id =>
    simp only [tunnelStep, TunnelManager.stop] at taken
    cases running : tunnels.manager.running id with
    | none =>
      simp only [running, Option.some.injEq] at taken
      subst taken
      exact tracked
    | some token =>
      simp only [running, Option.some.injEq] at taken
      subst taken
      -- The registered token is that of the live worker, which is stopped.
      obtain ⟨⟨worker, held, rfl, -⟩, -⟩ := (tracked id token).mp running
      rw [List.modify_eq_set_getElem?, held]
      refine tracked.leave held rfl (by simp [TunnelWorker.live]) fun registered there => ?_
      exact Option.some.inj (there.symm.trans running)
  | serve token =>
    simp only [tunnelStep, Option.bind_eq_bind, Option.bind_eq_some_iff] at taken
    obtain ⟨worker, held, goes⟩ := taken
    split at goes
    · next opening =>
      cases goes
      refine tracked.change held rfl ?_
      simp [TunnelWorker.live, TunnelStage.works, opening]
    · cases goes
  | finish token error =>
    simp only [tunnelStep, Option.bind_eq_bind, Option.bind_eq_some_iff] at taken
    obtain ⟨worker, held, goes⟩ := taken
    split at goes
    · cases goes
      refine tracked.leave held rfl ?_ (own worker held)
      cases error <;> simp [TunnelWorker.live, TunnelStage.works]
    · cases goes
  | report token =>
    simp only [tunnelStep, Option.bind_eq_bind, Option.bind_eq_some_iff] at taken
    obtain ⟨worker, held, goes⟩ := taken
    split at goes
    · next failing =>
      cases goes
      refine tracked.change held rfl ?_
      simp [TunnelWorker.live, TunnelStage.works, failing]
    · cases goes

theorem Tracked.break {next : Tunnels} (tracked : tunnels.Tracked)
    (foreign : ¬event.Own tunnels) (taken : tunnelStep tunnels event = some next) : ¬next.Registered := by
  intro registered
  cases event with
  | finish token error =>
    simp only [tunnelStep, Option.bind_eq_bind, Option.bind_eq_some_iff] at taken
    obtain ⟨worker, held, goes⟩ := taken
    split at goes
    · cases goes
      -- The worker that is registered is live, and goes on to be.
      simp only [TunnelEvent.Own, held, Option.mem_some, forall_eq', not_forall] at foreign
      obtain ⟨other, running, different⟩ := foreign
      have live := (tracked _ _).mp running
      let changed : TunnelWorker := { worker with stage := error.elim .ended .failing }
      have ends : changed.live = false := by
        cases error <;> simp [changed, TunnelWorker.live, TunnelStage.works]
      have stays : Live ⟨tunnels.manager.finish worker.id, tunnels.workers.set token changed⟩
          worker.id other := by
        have kept : changed.id = worker.id := rfl
        rw [live_set held kept (by simp [ends])]
        exact ⟨live, fun same => absurd same different⟩
      have listed := (registered.listed worker.id).mpr ⟨other, stays⟩
      simp [TunnelManager.finish] at listed
    · cases goes
  | start id | stop id | serve token | report token => exact foreign trivial

/--
The registry matches the live tunnels all along a run exactly when every worker that finishes finds
its own token registered under its id, or none.
-/
theorem registered_iff {trace : List (Tunnels × TunnelEvent)}
    (run : tunnelSystem.Run trace tunnels) :
    ((∀ entry ∈ trace, entry.1.Registered) ∧ tunnels.Registered) ↔ ∀ entry ∈ trace, entry.2.Own entry.1 := by
  refine run.exactly (fun tunnels event => event.Own tunnels) Tracked Registered ?_
    (fun _ tracked => tracked.registered) (fun _ _ _ tracked own taken => tracked.step own taken)
    (fun _ _ _ tracked foreign taken => tracked.break foreign taken)
  rintro state rfl
  intro id token
  simp [Live]

end Tunnels

namespace Demo

def restarted : List TunnelEvent := [.start "tunnel", .serve 0, .stop "tunnel", .start "tunnel"]

/-- The worker that was stopped takes the tunnel that was started after it off the registry. -/
theorem tunnel_unlisted : ¬∀ trace tunnels, tunnelSystem.Run trace tunnels → tunnels.Registered := by
  intro always
  have checked : ((System.trail tunnelStep ⟨⟨fun _ => none, fun _ => none⟩, []⟩
      (restarted ++ [.finish 0 none])).elim false fun reached =>
        reached.2.manager.running "tunnel" = none &&
          reached.2.workers = [⟨"tunnel", .ended, true⟩, ⟨"tunnel", .opening, false⟩]) = true := by
    decide
  obtain ⟨reached, goes, checked⟩ := exists_of_checked checked
  simp only [Bool.and_eq_true, decide_eq_true_eq] at checked
  obtain ⟨unlisted, workers⟩ := checked
  have run := System.Run.trail (.start rfl : tunnelSystem.Run [] _) goes
  have listed := (always _ _ run).listed "tunnel"
  rw [unlisted] at listed
  have live : reached.2.Live "tunnel" 1 := by
    refine ⟨⟨⟨"tunnel", .opening, false⟩, by simp [workers], rfl, rfl⟩, fun later other after => ?_⟩
    have beyond : reached.2.workers[later]? = none := by
      rw [List.getElem?_eq_none_iff, workers]
      exact after
    simp [beyond]
  cases listed.mpr ⟨1, live⟩

/-- A worker that was stopped finishes before the tunnel is started again. -/
theorem registered_iff_restarted : ∃ trace tunnels, tunnelSystem.Run trace tunnels ∧
    trace.length = 5 ∧ (∀ entry ∈ trace, entry.1.Registered) ∧ tunnels.Registered := by
  let events : List TunnelEvent :=
    [.start "tunnel", .serve 0, .stop "tunnel", .finish 0 none, .start "tunnel"]
  have checked : ((System.trail tunnelStep ⟨⟨fun _ => none, fun _ => none⟩, []⟩ events).elim false
      fun reached => decide (reached.1.length = 5 ∧ ∀ entry ∈ reached.1, entry.2.Own entry.1)) = true := by
    decide
  obtain ⟨reached, goes, checked⟩ := exists_of_checked checked
  simp only [decide_eq_true_eq] at checked
  have run := System.Run.trail (.start rfl : tunnelSystem.Run [] _) goes
  obtain ⟨all, last⟩ := (Tunnels.registered_iff run).mpr (by simpa using checked.2)
  exact ⟨_, _, run, by simpa using checked.1, all, last⟩

end Demo

end Client

end CNShell
