import CNShell.Client.Models
import CNShell.Library.Transition

/-! The file transfers of a desktop: their controls, and the targets they hold while they live. -/

namespace CNShell

namespace Client

/-- Which way a file goes. -/
inductive TransferDirection
  | upload
  | download
  deriving DecidableEq, Repr

inductive TransferStatus
  | queued
  | running
  | paused
  | completed
  | failed
  | cancelled
  deriving DecidableEq, Repr

inductive Control
  | running
  | paused
  | cancelled
  deriving DecidableEq, Repr

/-- The name of a target: uploads are told apart by their connection, downloads are local. -/
def transferTargetKey (direction : TransferDirection) (connectionId destination : String) : String :=
  match direction with
  | .upload => "upload:" ++ connectionId ++ ":" ++ destination
  | .download => "download:" ++ destination

/-- The most transfers that run at a time. -/
def maxConcurrentTransfers : Nat := 4

/-- The controls and the targets of the transfers, each under the id of its transfer. -/
structure TransferManager where
  /-- Which control a transfer has. -/
  controls : Table (Prod.fst : String × Nat → String)
  targets : Table (Prod.fst : String × String → String)

namespace TransferManager

/-- The first lock of `token`: a target that nobody holds. -/
def token (manager : TransferManager) (id target : String) : AppResult TransferManager :=
  if manager.targets.rows.any (fun row => decide (row.2 = target)) = true then
    .error (.validation "同一目标已有传输任务正在运行")
  else .ok { manager with targets := manager.targets.put (id, target) }

/-- The second lock of `token`: the control of the transfer. -/
def tokenControl (manager : TransferManager) (id : String) (control : Nat) : TransferManager :=
  { manager with controls := manager.controls.put (id, control) }

def retarget (manager : TransferManager) (id target : String) : AppResult TransferManager :=
  if manager.targets.rows.any (fun row => decide (row.1 ≠ id ∧ row.2 = target)) = true then
    .error (.validation "同一目标已有传输任务正在运行")
  else .ok { manager with targets := manager.targets.put (id, target) }

/-- The first lock of `finish`: the control is dropped. -/
def finish (manager : TransferManager) (id : String) : TransferManager :=
  { manager with controls := manager.controls.delete fun row => row.1 = id }

/-- The second lock of `finish`: the target is free again. -/
def finishTarget (manager : TransferManager) (id : String) : TransferManager :=
  { manager with targets := manager.targets.delete fun row => row.1 = id }

end TransferManager

/-- How far a transfer has come in `enqueue`. -/
inductive TransferStage
  /-- It has its target, and no control yet. -/
  | reserving
  | saving
  /-- It waits for a slot. -/
  | queued
  /-- It has a slot and acquires a transport. -/
  | connecting
  /-- `run_queued_transfer` has begun. -/
  | begun
  /-- The file is on its way. -/
  | working
  /-- It has its last status, and has not called `finish`. -/
  | ending
  /-- Its control is dropped, and its target is not. -/
  | releasing
  | gone
  deriving DecidableEq, Repr

/-- A transfer from `token` on. -/
structure FileTransfer where
  id : String
  direction : TransferDirection
  connectionId : String
  destination : String
  status : TransferStatus
  control : Control
  /-- Whether it has one of the slots. -/
  slot : Bool
  stage : TransferStage
  deriving DecidableEq, Repr

/-- A transfer that `finish` has not released yet. -/
def FileTransfer.live (transfer : FileTransfer) : Prop := transfer.stage ≠ .gone

def FileTransfer.key (transfer : FileTransfer) (destination : String) : String :=
  transferTargetKey transfer.direction transfer.connectionId destination

/-- The manager, and every transfer that was started, each at the position of its control. -/
structure FileTransfers where
  manager : TransferManager
  transfers : List FileTransfer

def FileTransfers.set (state : FileTransfers) (n : Nat) (transfer : FileTransfer) : FileTransfers :=
  { state with transfers := state.transfers.set n transfer }

inductive TransferEvent
  | enqueue (id : String) (direction : TransferDirection) (connectionId destination : String)
  | control (n : Nat)
  | save (n : Nat) (saved : Bool)
  | acquireSlot (n : Nat)
  /-- The wait for a slot ends because the transfer was cancelled. -/
  | leaveQueue (n : Nat)
  | connect (n : Nat) (connected : Bool)
  /-- The control is looked at before the next piece of the file. -/
  | pulse (n : Nat)
  /-- A free name was found, and is reserved. -/
  | retarget (n : Nat) (destination : String)
  /-- The work returns an error. -/
  | fail (n : Nat)
  /-- The work returns without an error. -/
  | complete (n : Nat)
  /-- The thread of the work is lost. -/
  | crash (n : Nat)
  | finish (n : Nat)
  | finishTarget (n : Nat)
  | cancel (id : String)
  | pause (id : String)
  | resume (id : String)
  deriving DecidableEq, Repr

namespace FileTransfers

def advance (state : FileTransfers) (n : Nat) (stage : TransferStage)
    (step : FileTransfer → Option FileTransfers) : Option FileTransfers :=
  state.transfers[n]?.bind fun transfer => if transfer.stage = stage then step transfer else none

/-- A transfer whose work returned an error. -/
def failed (transfer : FileTransfer) : FileTransfer :=
  { transfer with
    status := if transfer.control = .cancelled then .cancelled else .failed
    stage := .ending }

def onControl (state : FileTransfers) (id : String) (change : Control → Control) : FileTransfers :=
  match state.manager.controls.find? id with
  | none => state
  | some (_, n) => { state with
      transfers := state.transfers.modify n fun transfer =>
        { transfer with control := change transfer.control } }

def step (state : FileTransfers) : TransferEvent → Option FileTransfers
  | .enqueue id direction connectionId destination =>
    -- The id is a new UUID.
    if id ∈ state.transfers.map FileTransfer.id then none
    else
      let transfer : FileTransfer :=
        ⟨id, direction, connectionId, destination, .queued, .running, false, .reserving⟩
      match state.manager.token id (transfer.key destination) with
      | .error _ => some state
      | .ok manager => some ⟨manager, state.transfers ++ [transfer]⟩
  | .control n => state.advance n .reserving fun transfer =>
      some ⟨state.manager.tokenControl transfer.id n, state.transfers.set n { transfer with stage := .saving }⟩
  | .save n saved => state.advance n .saving fun transfer =>
      some (state.set n { transfer with stage := if saved = true then .queued else .ending })
  | .acquireSlot n => state.advance n .queued fun transfer =>
      if state.transfers.countP FileTransfer.slot < maxConcurrentTransfers then
        some (state.set n { transfer with status := .running, slot := true, stage := .connecting })
      else none
  | .leaveQueue n => state.advance n .queued fun transfer =>
      if transfer.control = .cancelled then some (state.set n (failed transfer)) else none
  | .connect n connected => state.advance n .connecting fun transfer =>
      some (state.set n (if connected = true then { transfer with stage := .begun }
        else { transfer with status := .failed, stage := .ending }))
  | .pulse n => state.transfers[n]?.bind fun transfer =>
      if transfer.stage = .begun ∨ transfer.stage = .working then
        match transfer.control with
        | .running => some (state.set n { transfer with status := .running, stage := .working })
        | .paused => some (state.set n { transfer with status := .paused })
        | .cancelled => some (state.set n (failed transfer))
      else none
  | .retarget n destination => state.advance n .working fun transfer =>
      match state.manager.retarget transfer.id (transfer.key destination) with
      | .error _ => some (state.set n (failed transfer))
      | .ok manager =>
        some ⟨manager, state.transfers.set n { transfer with destination := destination }⟩
  | .fail n => state.advance n .working fun transfer => some (state.set n (failed transfer))
  | .complete n => state.advance n .working fun transfer =>
      some (state.set n { transfer with status := .completed, stage := .ending })
  | .crash n => state.advance n .working fun transfer =>
      some (state.set n { transfer with status := .failed, stage := .ending })
  | .finish n => state.advance n .ending fun transfer =>
      some ⟨state.manager.finish transfer.id, state.transfers.set n { transfer with stage := .releasing }⟩
  | .finishTarget n => state.advance n .releasing fun transfer =>
      some ⟨state.manager.finishTarget transfer.id,
        state.transfers.set n { transfer with slot := false, stage := .gone }⟩
  | .cancel id => some (state.onControl id fun _ => .cancelled)
  | .pause id => some (state.onControl id fun control =>
      if control = .running then .paused else control)
  | .resume id => some (state.onControl id fun control =>
      if control = .paused then .running else control)

/-- No transfer was started yet. -/
def new : FileTransfers := ⟨⟨Table.empty, Table.empty⟩, []⟩

end FileTransfers

/-- The transfers of a desktop, from none on. -/
def transferSystem : System FileTransfers TransferEvent :=
  .ofStep (fun state => state = FileTransfers.new) FileTransfers.step

namespace FileTransfers

/-- The targets are held by the live transfers, each by one, and no cancelled one is completed. -/
structure Sound (state : FileTransfers) : Prop where
  exclusive : ∀ one ∈ state.manager.targets.rows, ∀ other ∈ state.manager.targets.rows,
    one.2 = other.2 → one.1 = other.1
  owned : ∀ row ∈ state.manager.targets.rows, ∃ transfer ∈ state.transfers, transfer.id = row.1 ∧ transfer.live
  held : ∀ transfer ∈ state.transfers, transfer.live → ∃ target, (transfer.id, target) ∈ state.manager.targets.rows
  honest : ∀ transfer ∈ state.transfers, transfer.control = .cancelled → transfer.status ≠ .completed

/-- A cancelled transfer stays so, and a transfer that finishes releases its own target only. -/
structure Kept (state : FileTransfers) (event : TransferEvent) (next : FileTransfers) : Prop where
  cancelled : ∀ (n : Nat) (transfer : FileTransfer), state.transfers[n]? = some transfer →
    transfer.control = .cancelled → ∃ later : FileTransfer, next.transfers[n]? = some later ∧ later.id = transfer.id ∧ later.control = .cancelled
  released : ∀ (n : Nat) (transfer : FileTransfer), event = .finishTarget n → state.transfers[n]? = some transfer →
    ∀ row, row ∈ next.manager.targets.rows ↔ row ∈ state.manager.targets.rows ∧ row.1 ≠ transfer.id

/--
No cancellation comes between the last look at the control and the end of the transfer.

A transfer that is cancelled does not complete, and one that has completed is not cancelled.
-/
def Timely (state : FileTransfers) : TransferEvent → Prop
  | .complete n => ∀ transfer ∈ state.transfers[n]?, transfer.control ≠ .cancelled
  | .cancel id => ∀ row ∈ state.manager.controls.find? id, ∀ transfer ∈ state.transfers[row.2]?,
      transfer.status ≠ .completed
  | _ => True


instance (state : FileTransfers) : DecidablePred (Timely state) := fun event => by
  cases event <;> unfold Timely <;> infer_instance

variable {state next : FileTransfers} {event : TransferEvent}

inductive Moved (state : FileTransfers) : TransferEvent → FileTransfers → Prop
  | stays {event : TransferEvent} : Moved state event state
  /-- A new transfer takes a target that nobody holds. -/
  | starts {event : TransferEvent} {transfer : FileTransfer} {target : String}
      (new : transfer.id ∉ state.transfers.map FileTransfer.id)
      (free : ∀ row ∈ state.manager.targets.rows, row.2 ≠ target) (live : transfer.live)
      (running : transfer.control = .running) :
      Moved state event ⟨⟨state.manager.controls, state.manager.targets.put (transfer.id, target)⟩,
        state.transfers ++ [transfer]⟩
  /-- A live transfer goes on without a change of its target and its control. -/
  | goes {event : TransferEvent} {n : Nat} {transfer changed : FileTransfer}
      {controls : Table (Prod.fst : String × Nat → String)}
      (there : state.transfers[n]? = some transfer) (same : changed.id = transfer.id)
      (live : transfer.live) (on : changed.live) (control : changed.control = transfer.control)
      (status : changed.status = .completed → transfer.status = .completed ∨ event = .complete n) :
      Moved state event ⟨⟨controls, state.manager.targets⟩, state.transfers.set n changed⟩
  /-- A live transfer takes another target that no other one holds. -/
  | retargets {event : TransferEvent} {n : Nat} {transfer changed : FileTransfer} {target : String}
      (there : state.transfers[n]? = some transfer) (same : changed.id = transfer.id)
      (free : ∀ row ∈ state.manager.targets.rows, row.1 ≠ transfer.id → row.2 ≠ target)
      (live : transfer.live) (on : changed.live) (control : changed.control = transfer.control)
      (status : changed.status = transfer.status) :
      Moved state event ⟨⟨state.manager.controls, state.manager.targets.put (transfer.id, target)⟩,
        state.transfers.set n changed⟩
  /-- A transfer gives its target back. -/
  | frees {n : Nat} {transfer changed : FileTransfer} (there : state.transfers[n]? = some transfer)
      (same : changed.id = transfer.id) (gone : ¬changed.live)
      (control : changed.control = transfer.control) (status : changed.status = transfer.status) :
      Moved state (.finishTarget n)
        ⟨⟨state.manager.controls, state.manager.targets.delete fun row => row.1 = transfer.id⟩,
          state.transfers.set n changed⟩
  /-- The control of a transfer is changed, and a cancelled one stays so. -/
  | controls {event : TransferEvent} {id : String} {row : String × Nat} {change : Control → Control}
      (found : state.manager.controls.find? id = some row)
      (stays : change .cancelled = .cancelled)
      (cancels : ∀ control, change control = .cancelled → control = .cancelled ∨ event = .cancel id) :
      Moved state event ⟨state.manager, state.transfers.modify row.2 fun transfer =>
        { transfer with control := change transfer.control }⟩

variable {n : Nat}

theorem advance_eq_some {stage : TransferStage} {step : FileTransfer → Option FileTransfers} :
    state.advance n stage step = some next ↔
      ∃ transfer, state.transfers[n]? = some transfer ∧ transfer.stage = stage ∧ step transfer = some next := by
  simp only [advance, Option.bind_eq_some_iff, Option.ite_none_right_eq_some]

theorem moved_onControl {id : String} {change : Control → Control}
    (stays : change .cancelled = .cancelled)
    (cancels : ∀ control, change control = .cancelled → control = .cancelled ∨ event = .cancel id) :
    Moved state event (state.onControl id change) := by
  unfold onControl
  split
  · exact .stays
  · next found => exact .controls found stays cancels

/-- Every event is a move. -/
theorem step_moved (taken : state.step event = some next) : Moved state event next := by
  cases event with
  | enqueue id direction connectionId destination =>
    simp only [step, TransferManager.token] at taken
    split at taken
    · cases taken
    · next new =>
      split at taken
      · cases taken
        exact .stays
      · next manager reserved =>
        split at reserved
        · cases reserved
        · next free =>
          cases reserved
          cases taken
          let transfer : FileTransfer :=
            ⟨id, direction, connectionId, destination, .queued, .running, false, .reserving⟩
          have live : transfer.live := by simp [transfer, FileTransfer.live]
          have running : transfer.control = .running := rfl
          refine .starts new (fun row member => ?_) live running
          have other := (List.any_eq_false.mp (Bool.not_eq_true _ ▸ free)) row member
          simp only [decide_eq_true_eq] at other
          exact other
  | control n =>
    obtain ⟨transfer, there, stage, goes⟩ := advance_eq_some.mp taken
    cases goes
    exact .goes there rfl (by simp [FileTransfer.live, stage]) nofun rfl .inl
  | save n saved =>
    obtain ⟨transfer, there, stage, goes⟩ := advance_eq_some.mp taken
    cases goes
    refine .goes there rfl (by simp [FileTransfer.live, stage]) ?_ rfl .inl
    cases saved <;> simp [FileTransfer.live]
  | acquireSlot n =>
    obtain ⟨transfer, there, stage, goes⟩ := advance_eq_some.mp taken
    split at goes
    · cases goes
      exact .goes there rfl (by simp [FileTransfer.live, stage]) nofun rfl nofun
    · cases goes
  | leaveQueue n =>
    obtain ⟨transfer, there, stage, goes⟩ := advance_eq_some.mp taken
    split at goes
    · next cancelled =>
      cases goes
      refine .goes there rfl (by simp [FileTransfer.live, stage]) nofun rfl ?_
      simp [failed, cancelled]
    · cases goes
  | connect n connected =>
    obtain ⟨transfer, there, stage, goes⟩ := advance_eq_some.mp taken
    cases goes
    cases connected with
    | true => exact .goes there rfl (by simp [FileTransfer.live, stage]) nofun rfl .inl
    | false => exact .goes there rfl (by simp [FileTransfer.live, stage]) nofun rfl nofun
  | pulse n =>
    simp only [step, Option.bind_eq_some_iff] at taken
    obtain ⟨transfer, there, goes⟩ := taken
    split at goes
    · next stage =>
      have live : transfer.live := by
        rcases stage with stage | stage <;> simp [FileTransfer.live, stage]
      split at goes
      · cases goes
        exact .goes there rfl live nofun rfl nofun
      · cases goes
        exact .goes there rfl live live rfl nofun
      · next cancelled =>
        cases goes
        refine .goes there rfl live nofun rfl ?_
        simp [failed, cancelled]
    · cases goes
  | retarget n destination =>
    obtain ⟨transfer, there, stage, goes⟩ := advance_eq_some.mp taken
    have live : transfer.live := by simp [FileTransfer.live, stage]
    simp only [TransferManager.retarget] at goes
    split at goes
    · cases goes
      refine .goes there rfl live nofun rfl ?_
      simp only [failed]
      split <;> nofun
    · next manager reserved =>
      split at reserved
      · cases reserved
      · next free =>
        cases reserved
        cases goes
        refine .retargets there rfl (fun row member other => ?_) live live rfl rfl
        have kept := (List.any_eq_false.mp (Bool.not_eq_true _ ▸ free)) row member
        simp only [decide_eq_true_eq, not_and] at kept
        exact kept other
  | fail n =>
    obtain ⟨transfer, there, stage, goes⟩ := advance_eq_some.mp taken
    cases goes
    refine .goes there rfl (by simp [FileTransfer.live, stage]) nofun rfl ?_
    simp only [failed]
    split <;> nofun
  | complete n =>
    obtain ⟨transfer, there, stage, goes⟩ := advance_eq_some.mp taken
    cases goes
    exact .goes there rfl (by simp [FileTransfer.live, stage]) nofun rfl fun _ => .inr rfl
  | crash n =>
    obtain ⟨transfer, there, stage, goes⟩ := advance_eq_some.mp taken
    cases goes
    exact .goes there rfl (by simp [FileTransfer.live, stage]) nofun rfl nofun
  | finish n =>
    obtain ⟨transfer, there, stage, goes⟩ := advance_eq_some.mp taken
    cases goes
    exact .goes there rfl (by simp [FileTransfer.live, stage]) nofun rfl .inl
  | finishTarget n =>
    obtain ⟨transfer, there, stage, goes⟩ := advance_eq_some.mp taken
    cases goes
    exact .frees there rfl (by simp [FileTransfer.live]) rfl rfl
  | cancel id =>
    cases taken
    exact moved_onControl rfl fun _ _ => .inr rfl
  | pause | resume =>
    cases taken
    refine moved_onControl rfl fun control => ?_
    cases control <;> simp

variable {transfer changed : FileTransfer}

theorem mem_set {other : FileTransfer} (distinct : (state.transfers.map FileTransfer.id).Nodup)
    (there : state.transfers[n]? = some transfer) :
    other ∈ state.transfers.set n changed ↔ other = changed ∨ other ∈ state.transfers ∧ other.id ≠ transfer.id := by
  have below := (List.getElem?_eq_some_iff.mp there).1
  -- Two positions with the same id are one.
  have placed : ∀ (m : Nat) (found : FileTransfer), state.transfers[m]? = some found →
      found.id = transfer.id → m = n := by
    intro m found held named
    have bound := (List.getElem?_eq_some_iff.mp held).1
    refine (List.getElem?_inj (by simpa using bound) distinct).mp ?_
    simp [held, there, named]
  simp only [List.mem_iff_getElem?, List.getElem?_set]
  constructor
  · rintro ⟨m, held⟩
    split at held
    · left
      simpa [below] using held.symm
    · next elsewhere =>
      right
      exact ⟨⟨m, held⟩, fun named => elsewhere (placed m other held named).symm⟩
  · rintro (rfl | ⟨⟨m, held⟩, differs⟩)
    · exact ⟨n, by simp [below]⟩
    · refine ⟨m, ?_⟩
      rw [if_neg ?_]
      · exact held
      · rintro rfl
        rw [held] at there
        cases there
        exact differs rfl

theorem ids_set (there : state.transfers[n]? = some transfer) (same : changed.id = transfer.id) :
    (state.transfers.set n changed).map FileTransfer.id = state.transfers.map FileTransfer.id := by
  refine List.ext_getElem? fun m => ?_
  have below := (List.getElem?_eq_some_iff.mp there).1
  rw [List.getElem?_map, List.getElem?_map, List.getElem?_set]
  split
  · next here =>
    subst here
    rw [there]
    simp [same, below]
  · rfl

/-- What is kept in every state: it is sound, and no two transfers have one id. -/
structure Steady (state : FileTransfers) : Prop where
  sound : state.Sound
  distinct : (state.transfers.map FileTransfer.id).Nodup

theorem Steady.update {controls : Table (Prod.fst : String × Nat → String)} (steady : state.Steady)
    (there : state.transfers[n]? = some transfer) (same : changed.id = transfer.id)
    (alike : changed.live ↔ transfer.live) (honest : changed.control = .cancelled → changed.status ≠ .completed) :
    Steady ⟨⟨controls, state.manager.targets⟩, state.transfers.set n changed⟩ := by
  have member := List.mem_of_getElem? there
  refine ⟨⟨steady.sound.exclusive, ?_, ?_, ?_⟩, ?_⟩
  · intro row held
    obtain ⟨owner, among, named, live⟩ := steady.sound.owned row held
    by_cases own : owner.id = transfer.id
    · -- The owner is the transfer that changed.
      obtain rfl := List.inj_on_of_nodup_map steady.distinct among member own
      exact ⟨changed, (mem_set steady.distinct there).mpr (.inl rfl), same.trans named, alike.mpr live⟩
    · exact ⟨owner, (mem_set steady.distinct there).mpr (.inr ⟨among, own⟩), named, live⟩
  · intro other among live
    rcases (mem_set steady.distinct there).mp among with rfl | ⟨old, -⟩
    · rw [same]
      exact steady.sound.held transfer member (alike.mp live)
    · exact steady.sound.held other old live
  · intro other among cancelled
    rcases (mem_set steady.distinct there).mp among with rfl | ⟨old, -⟩
    · exact honest cancelled
    · exact steady.sound.honest other old cancelled
  · show ((state.transfers.set n changed).map FileTransfer.id).Nodup
    rw [ids_set there same]
    exact steady.distinct

/-- A timely event keeps the transfers sound. -/
theorem Steady.move (steady : state.Steady) (timely : Timely state event)
    (moved : Moved state event next) : next.Steady := by
  obtain ⟨⟨exclusive, owned, held, honest⟩, distinct⟩ := steady
  cases moved with
  | stays => exact ⟨⟨exclusive, owned, held, honest⟩, distinct⟩
  | @starts _ transfer target new free live running =>
    have old : ∀ row ∈ state.manager.targets.rows, row.1 ≠ transfer.id := by
      intro row among named
      obtain ⟨owner, present, own, -⟩ := owned row among
      exact new (List.mem_map.mpr ⟨owner, present, own.trans named⟩)
    refine ⟨⟨?_, ?_, ?_, ?_⟩, ?_⟩
    · intro one oneHeld other otherHeld same
      rcases Table.mem_put.mp oneHeld with rfl | ⟨oneOld, -⟩
      · rcases Table.mem_put.mp otherHeld with rfl | ⟨otherOld, -⟩
        · rfl
        · exact absurd same.symm (free other otherOld)
      · rcases Table.mem_put.mp otherHeld with rfl | ⟨otherOld, -⟩
        · exact absurd same (free one oneOld)
        · exact exclusive one oneOld other otherOld same
    · intro row among
      rcases Table.mem_put.mp among with rfl | ⟨before, -⟩
      · exact ⟨transfer, List.mem_append_right _ (by simp), rfl, live⟩
      · obtain ⟨owner, present, named⟩ := owned row before
        exact ⟨owner, List.mem_append_left _ present, named⟩
    · intro other among alive
      rcases List.mem_append.mp among with before | last
      · obtain ⟨goal, stored⟩ := held other before alive
        exact ⟨goal, Table.mem_put.mpr (.inr ⟨stored, old _ stored⟩)⟩
      · obtain rfl : other = transfer := by simpa using last
        exact ⟨target, Table.mem_put.mpr (.inl rfl)⟩
    · intro other among cancelled
      rcases List.mem_append.mp among with before | last
      · exact honest other before cancelled
      · obtain rfl : other = transfer := by simpa using last
        rw [running] at cancelled
        cases cancelled
    · simp only [List.map_append, List.map_cons, List.map_nil]
      exact List.nodup_append.mpr ⟨distinct, by simp, by
        rintro _ before _ last rfl
        exact new (List.mem_singleton.mp last ▸ before)⟩
  | @goes _ n transfer changed _ there same live on control status =>
    have steady : state.Steady := ⟨⟨exclusive, owned, held, honest⟩, distinct⟩
    refine steady.update there same (iff_of_true on live) fun cancelled completed => ?_
    rw [control] at cancelled
    rcases status completed with before | rfl
    · exact honest transfer (List.mem_of_getElem? there) cancelled before
    · exact timely transfer there cancelled
  | @retargets _ n transfer changed target there same free live on control status =>
    have member := List.mem_of_getElem? there
    refine ⟨⟨?_, ?_, ?_, ?_⟩, ?_⟩
    · intro one oneHeld other otherHeld alike
      rcases Table.mem_put.mp oneHeld with rfl | ⟨oneOld, oneElse⟩
      · rcases Table.mem_put.mp otherHeld with rfl | ⟨otherOld, otherElse⟩
        · rfl
        · exact absurd alike.symm (free other otherOld otherElse)
      · rcases Table.mem_put.mp otherHeld with rfl | ⟨otherOld, -⟩
        · exact absurd alike (free one oneOld oneElse)
        · exact exclusive one oneOld other otherOld alike
    · intro row among
      rcases Table.mem_put.mp among with rfl | ⟨before, elsewhere⟩
      · exact ⟨changed, (mem_set distinct there).mpr (.inl rfl), same, on⟩
      · obtain ⟨owner, present, named, alive⟩ := owned row before
        have other : owner.id ≠ transfer.id := named ▸ elsewhere
        exact ⟨owner, (mem_set distinct there).mpr (.inr ⟨present, other⟩), named, alive⟩
    · intro other among alive
      rcases (mem_set distinct there).mp among with rfl | ⟨before, elsewhere⟩
      · exact ⟨target, Table.mem_put.mpr (.inl (by rw [same]))⟩
      · obtain ⟨goal, stored⟩ := held other before alive
        exact ⟨goal, Table.mem_put.mpr (.inr ⟨stored, elsewhere⟩)⟩
    · intro other among cancelled
      rcases (mem_set distinct there).mp among with rfl | ⟨before, -⟩
      · rw [status]
        exact honest transfer member (control ▸ cancelled)
      · exact honest other before cancelled
    · show ((state.transfers.set n changed).map FileTransfer.id).Nodup
      rw [ids_set there same]
      exact distinct
  | @frees n transfer changed there same gone control status =>
    have member := List.mem_of_getElem? there
    have kept : ∀ row, row ∈ (state.manager.targets.delete fun row => row.1 = transfer.id).rows ↔
        row ∈ state.manager.targets.rows ∧ row.1 ≠ transfer.id := by
      simp [Table.mem_delete]
    refine ⟨⟨?_, ?_, ?_, ?_⟩, ?_⟩
    · intro one oneHeld other otherHeld alike
      exact exclusive one ((kept one).mp oneHeld).1 other ((kept other).mp otherHeld).1 alike
    · intro row among
      obtain ⟨before, elsewhere⟩ := (kept row).mp among
      obtain ⟨owner, present, named, alive⟩ := owned row before
      have other : owner.id ≠ transfer.id := named ▸ elsewhere
      exact ⟨owner, (mem_set distinct there).mpr (.inr ⟨present, other⟩), named, alive⟩
    · intro other among alive
      rcases (mem_set distinct there).mp among with rfl | ⟨before, elsewhere⟩
      · exact absurd alive gone
      · obtain ⟨goal, stored⟩ := held other before alive
        exact ⟨goal, (kept _).mpr ⟨stored, elsewhere⟩⟩
    · intro other among cancelled
      rcases (mem_set distinct there).mp among with rfl | ⟨before, -⟩
      · rw [status]
        exact honest transfer member (control ▸ cancelled)
      · exact honest other before cancelled
    · show ((state.transfers.set n changed).map FileTransfer.id).Nodup
      rw [ids_set there same]
      exact distinct
  | @controls _ id row change found stays cancels =>
    have steady : state.Steady := ⟨⟨exclusive, owned, held, honest⟩, distinct⟩
    rw [List.modify_eq_set_getElem?]
    cases there : state.transfers[row.2]? with
    | none => exact steady
    | some transfer =>
      refine steady.update there rfl Iff.rfl fun cancelled completed => ?_
      rcases cancels _ cancelled with before | rfl
      · exact honest transfer (List.mem_of_getElem? there) before completed
      · exact timely row found transfer there completed

theorem untimely (late : ¬Timely state event) (taken : state.step event = some next) : ¬next.Sound := by
  intro sound
  cases event with
  | complete n =>
    simp only [Timely, not_forall, not_not] at late
    obtain ⟨transfer, there, cancelled⟩ := late
    obtain ⟨found, same, stage, goes⟩ := advance_eq_some.mp taken
    obtain rfl : found = transfer := Option.some.inj (same.symm.trans there)
    cases goes
    have below := (List.getElem?_eq_some_iff.mp same).1
    refine sound.honest { found with status := .completed, stage := .ending } ?_ cancelled rfl
    exact List.mem_set below _
  | cancel id =>
    simp only [Timely, not_forall, not_not] at late
    obtain ⟨row, found, transfer, there, completed⟩ := late
    have found : state.manager.controls.find? id = some row := found
    have there : state.transfers[row.2]? = some transfer := there
    simp only [step, onControl, found, Option.some.injEq] at taken
    subst taken
    refine sound.honest { transfer with control := .cancelled } ?_ rfl completed
    refine List.mem_iff_getElem?.mpr ⟨row.2, ?_⟩
    simp [there]
  | _ => exact late trivial

theorem kept_of_step (taken : state.step event = some next) : Kept state event next := by
  have moved := step_moved taken
  refine ⟨fun n transfer there cancelled => ?_, ?_⟩
  · -- A transfer stays where it is, and its control is only changed by the controls.
    have unchanged : ∀ (m : Nat) (old changed : FileTransfer), state.transfers[m]? = some old →
        changed.id = old.id → changed.control = old.control →
        ∃ later : FileTransfer, (state.transfers.set m changed)[n]? = some later ∧
          later.id = transfer.id ∧ later.control = .cancelled := by
      intro m old changed held same control
      have below := (List.getElem?_eq_some_iff.mp held).1
      by_cases here : m = n
      · subst here
        obtain rfl : old = transfer := Option.some.inj (held.symm.trans there)
        exact ⟨changed, by simp [below], same, control.trans cancelled⟩
      · exact ⟨transfer, by rw [List.getElem?_set_ne here, there], rfl, cancelled⟩
    cases moved with
    | stays => exact ⟨transfer, there, rfl, cancelled⟩
    | starts new free live running =>
      have below := (List.getElem?_eq_some_iff.mp there).1
      exact ⟨transfer, by rw [List.getElem?_append_left below, there], rfl, cancelled⟩
    | goes held same live on control status => exact unchanged _ _ _ held same control
    | retargets held same free live on control status => exact unchanged _ _ _ held same control
    | frees held same gone control status => exact unchanged _ _ _ held same control
    | @controls _ id row change found stays cancels =>
      by_cases here : row.2 = n
      · refine ⟨{ transfer with control := .cancelled }, ?_, rfl, rfl⟩
        simp [here, there, cancelled, stays]
      · refine ⟨transfer, ?_, rfl, cancelled⟩
        simp [here, there]
  · rintro n transfer rfl there row
    obtain ⟨found, same, stage, goes⟩ := advance_eq_some.mp taken
    obtain rfl : found = transfer := Option.some.inj (same.symm.trans there)
    cases goes
    simp [TransferManager.finishTarget, Table.mem_delete]

/--
The transfers are sound all along a run exactly when every event of it is timely.

What the steps keep does not depend on that.
-/
theorem sound_iff {trace : List (FileTransfers × TransferEvent)}
    (run : transferSystem.Run trace state) :
    (∀ entry ∈ trace, ∀ later, entry.1.step entry.2 = some later → Kept entry.1 entry.2 later) ∧
      (((∀ entry ∈ trace, entry.1.Sound) ∧ state.Sound) ↔ ∀ entry ∈ trace, Timely entry.1 entry.2) := by
  refine ⟨fun entry _ later taken => kept_of_step taken, ?_⟩
  refine run.exactly Timely Steady Sound ?_ (fun _ steady => steady.sound)
    (fun _ _ _ steady timely taken => steady.move timely (step_moved taken))
    (fun _ _ _ _ late taken => untimely late taken)
  rintro start rfl
  exact ⟨⟨nofun, nofun, nofun, nofun⟩, List.nodup_nil⟩

end FileTransfers

namespace Demo

open FileTransfers

/-- A file is downloaded up to the last look at its control. -/
def downloading : List TransferEvent :=
  [.enqueue "transfer" .download "server" "/tmp/file", .control 0, .save 0 true, .acquireSlot 0,
    .connect 0 true, .pulse 0]

/-- A transfer that is cancelled after its last look at the control is reported as completed. -/
theorem cancelled_completed : ¬∀ trace state, transferSystem.Run trace state → state.Sound := by
  intro always
  have checked : ((System.trail step new (downloading ++ [.cancel "transfer", .complete 0])).elim
      false fun reached => reached.2.transfers.any fun transfer =>
        transfer.control = .cancelled && transfer.status = .completed) = true := by
    decide
  obtain ⟨reached, goes, checked⟩ := exists_of_checked checked
  simp only [List.any_eq_true, Bool.and_eq_true, decide_eq_true_eq] at checked
  obtain ⟨transfer, among, cancelled, completed⟩ := checked
  have run := System.Run.trail (.start rfl : transferSystem.Run [] _) goes
  exact (always _ _ run).honest transfer among cancelled completed

/-- A transfer that takes a free name completes, and gives its target back. -/
theorem sound_iff_renamed : ∃ trace state, transferSystem.Run trace state ∧ trace.length = 10 ∧
    (∀ entry ∈ trace, entry.1.Sound) ∧ state.Sound := by
  let events := downloading ++
    [.retarget 0 "/tmp/file (1)", .complete 0, .finish 0, .finishTarget 0]
  have checked : ((System.trail step new events).elim false fun reached =>
      decide (reached.1.length = 10 ∧ ∀ entry ∈ reached.1, Timely entry.1 entry.2)) = true := by
    decide
  obtain ⟨reached, goes, checked⟩ := exists_of_checked checked
  simp only [decide_eq_true_eq] at checked
  have run := System.Run.trail (.start rfl : transferSystem.Run [] _) goes
  obtain ⟨all, last⟩ := (sound_iff run).2.mpr (by simpa using checked.2)
  exact ⟨_, _, run, by simpa using checked.1, all, last⟩

end Demo

end Client

end CNShell
